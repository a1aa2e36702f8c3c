import Sift.Text.Bytes
import Sift.Text.Character
import Sift.Text.Fields

/-!
# Addresses of hosts

An address of version 4 is four numbers below 256 with points between. One of version 6 is eight
groups of hexadecimal digits with colons between; the last two may be an address of version 4, and
two colons once stand for groups of zeros. A scope may follow behind a percent sign.
-/

namespace Sift.Host.Address

open Text

/-- A number below 256 in decimal digits without leading zeros. -/
def isOctet (cs : List Char) : Bool :=
  !cs.isEmpty && cs.all Char.isDigit && cs.length ≤ 3 && (cs.length = 1 || cs.head? != some '0') &&
    ofDigits cs < 256

def isVersion4 (cs : List Char) : Bool :=
  let parts := fields '.' cs
  parts.length = 4 && parts.all isOctet

/-- Four runs of digits with points between, which are an address or none at all. -/
def resemblesVersion4 (cs : List Char) : Bool :=
  let parts := fields '.' cs
  parts.length = 4 && parts.all fun part => !part.isEmpty && part.all Char.isDigit

def isGroup (cs : List Char) : Bool :=
  !cs.isEmpty && cs.length ≤ 4 && cs.all fun c => (hexValue? c).isSome

/-- What is before two colons and behind them. -/
def splitGap? : List Char → Option (List Char × List Char)
  | ':' :: ':' :: rest => some ([], rest)
  | c :: rest => (splitGap? rest).map fun (before, after) => (c :: before, after)
  | [] => none

/-- How many groups stand in a text, of which the last two may be an address of version 4. -/
def groups? (cs : List Char) (mayEndInVersion4 : Bool) : Option Nat :=
  if cs.isEmpty then some 0
  else match (fields ':' cs).reverse with
  | last :: before =>
    if !before.all isGroup then none
    else if isGroup last then some (before.length + 1)
    else if mayEndInVersion4 && isVersion4 last then some (before.length + 2)
    else none
  | [] => none

/-- An address of version 6, without a scope. -/
def isGroups (cs : List Char) : Bool :=
  match splitGap? cs with
  | some (before, after) =>
    match groups? before false, groups? after true with
    | some m, some n => m + n < 8
    | _, _ => false
  | none => groups? cs true == some 8

def isVersion6 (cs : List Char) : Bool :=
  isGroups (cs.takeWhile (· != '%')) &&
    match cs.dropWhile (· != '%') with
    | [] => true
    | _ :: scope => !scope.isEmpty && !scope.contains '%'

end Sift.Host.Address
