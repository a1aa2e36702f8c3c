import Sift.Boundary.Host
import Sift.Text.Integer

/-!
# Authorities

An authority tells who answers a request: a host and maybe a port, with a user before an at sign.
-/

namespace Sift

/-- An authority. The user is given as it is sent. -/
structure Authority where
  user : List Char
  host : Host
  port : Option Int
  deriving DecidableEq, Repr

namespace Authority

open Text

inductive Fault
  | host (fault : Host.Fault)
  | port (text : String)
  deriving DecidableEq, Repr

def Fault.message : Fault → String
  | .host fault => fault.message
  | .port text => "Invalid port: " ++ quoted text

/-! ## Parts -/

/-- Splits at the last character of a kind, which is left out. Nothing is before it when there is
none. -/
def splitLast (sep : Char) (cs : List Char) : List Char × List Char :=
  let after := (cs.reverse.takeWhile (· != sep)).reverse
  (cs.take (cs.length - after.length - 1), after)

/-- The text of a host and what is behind it. A host in brackets goes up to the last bracket. -/
def splitHost (cs : List Char) : List Char × List Char :=
  let (inside, after) := splitLast ']' cs
  if cs.head? == some '[' && cs.contains ']' then (inside ++ [']'], after)
  else (cs.takeWhile (· != ':'), cs.dropWhile (· != ':'))

/-- The port in the text behind a host, where a colon may stand before it. -/
def readPort (cs : List Char) : Except Fault (Option Int) :=
  let digits := if cs.head? == some ':' then cs.drop 1 else cs
  if digits.isEmpty then .ok none
  else match Integer.read (String.ofList digits) with
  | .ok port => .ok (some port)
  | .error _ => .error (.port (String.ofList digits))

/-- A character that stands for itself in the name of a user. -/
def isPlain (c : Char) : Bool :=
  0x20 < c.toNat && c.toNat < 0x7F && !("\"#<>?`\x7b\x7d/;=@[\\]^|".toList.contains c)

/-! ## Authorities -/

/-- The port that requests of a scheme go to. -/
def defaultPort? (scheme : String) : Option Int :=
  [("ftp", 21), ("http", 80), ("https", 443), ("ws", 80), ("wss", 443)].lookup scheme

/-- Reads an authority. A port that the scheme implies is left out. -/
def read (scheme : String) (cs : List Char) : Except Fault Authority := do
  let (user, rest) := splitLast '@' cs
  let (hostText, rest) := splitHost rest
  let host ← (Host.read hostText).mapError .host
  let port ← readPort rest
  return ⟨percentEncoded isPlain user, host, port.filter (defaultPort? scheme != some ·)⟩

/-- Nothing is told. -/
def isAbsent (a : Authority) : Bool := a.user.isEmpty && a.host == .absent && a.port.isNone

/-- The host and the port. -/
def location (a : Authority) : List Char :=
  a.host.text ++ match a.port with
    | some port => ':' :: (toString port).toList
    | none => []

/-- The user, the host and the port. -/
def text (a : Authority) : List Char :=
  (if a.user.isEmpty then [] else a.user ++ ['@']) ++ a.location

end Authority

end Sift
