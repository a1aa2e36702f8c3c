import Sift.Boundary.Host.Address
import Sift.Boundary.Host.Label
import Sift.Text.Bytes

/-!
# Hosts

A host is given by an address or a name. Names are sent in lower case; one with other characters
than ASCII is sent label by label in Punycode.
-/

namespace Sift

/-- A host as it is sent. -/
inductive Host
  /-- No host at all. -/
  | absent
  /-- An address of version 6, which stands in brackets. -/
  | bracketed (address : List Char)
  /-- Any other address, or a name. -/
  | plain (name : List Char)
  deriving DecidableEq, Repr

namespace Host

open Text

inductive Fault
  | version4 (text : String)
  | version6 (text : String)
  | name (text : String)
  deriving DecidableEq, Repr

def Fault.message : Fault → String
  | .version4 text => "Invalid IPv4 address: " ++ quoted text
  | .version6 text => "Invalid IPv6 address: " ++ quoted text
  | .name text => "Invalid IDNA hostname: " ++ quoted text

/-! ## Names -/

/-- The greatest length of a name that ends in a label. One that ends in a dot may be longer by that
dot. -/
def maxNameLength : Nat := 253

/-- The dots of all scripts, which separate labels. -/
def isDot (c : Char) : Bool := c == '.' || c == '\u3002' || c == '\uFF0E' || c == '\uFF61'

/-- The labels of a name, without the empty one behind a dot at its end, and whether it has one. -/
def labels (name : List Char) : List (List Char) × Bool :=
  let parts := fields '.' (name.map fun c => if isDot c then '.' else c)
  if parts.getLast? == some [] then (parts.dropLast, true) else (parts, false)

/-- A name as it is sent, when each of its labels can be. -/
def sentName? (name : List Char) : Option (List Char) := do
  let (parts, endsInDot) := labels name
  if maxNameLength + 1 < name.length then none
  let sent := joined '.' (← parts.mapM Label.sent?) ++ if endsInDot then ['.'] else []
  if sent.length ≤ maxNameLength + (if endsInDot then 1 else 0) then some sent else none

/-- Checks that a name that starts in Punycode can be read, in lower case. -/
def checkName (name : List Char) : Except Label.Fault Unit := do
  if Label.encodedStart.isPrefixOf name then
    if maxNameLength + 1 < name.length then throw .nameTooLong
    (labels name).1.forM fun label => Label.checkAscii (label.map Char.toLower)

/-! ## Hosts -/

/-- A character that stands for itself in a name. -/
def isPlain (c : Char) : Bool := isUnreserved c || "!$&'()*+,;=\"`\x7b\x7d%|\\".toList.contains c

def read (text : List Char) : Except Fault Host :=
  if text.isEmpty then .ok absent
  else if Address.resemblesVersion4 text then
    if Address.isVersion4 text then .ok (plain text)
    else .error (.version4 (String.ofList text))
  else if text.head? == some '[' && text.getLast? == some ']' then
    let address := (text.drop 1).dropLast
    if Address.isVersion6 address then .ok (bracketed address)
    else .error (.version6 (String.ofList text))
  else
    let name := (lower (String.ofList text)).toList
    if text.all Punycode.isBasic then .ok (plain (percentEncoded isPlain name))
    else match sentName? name with
      | some name => .ok (plain name)
      | none => .error (.name (String.ofList text))

def text : Host → List Char
  | absent => []
  | bracketed address => '[' :: address ++ [']']
  | plain name => name

/-- Characters that are not ASCII: the first of them, and where they stand from it on. -/
def foreign? (cs : List Char) : Option (Char × Nat × Nat) :=
  let basic := cs.takeWhile Punycode.isBasic
  match cs.drop basic.length with
  | [] => none
  | c :: rest =>
    some (c, basic.length, basic.length + (rest.takeWhile (! Punycode.isBasic ·)).length)

end Host

end Sift
