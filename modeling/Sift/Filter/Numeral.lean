import Sift.Number.Binary64
import Sift.Text.Case
import Sift.Text.Integer

/-!
# Numerals and sizes

A numeral has an optional sign, digits of any script with an optional fraction, or a fraction alone,
and an optional exponent. Values of filters are numbers when they are numerals with nothing but
white space around, and sizes and stamps are read off the numeral that a value starts with.

A size is a number and a unit of one letter, `k`, `m` or `g`, each 1024 times the one before. Any
other last character is dropped. The number is taken in binary floating point and the size is
rounded to the nearest byte, a half going to the even one.
-/

namespace Sift

/-- A numeral in its parts. -/
structure Numeral where
  negative : Bool
  whole : List Char
  fraction : List Char
  exponentNegative : Bool
  exponent : List Char
  deriving DecidableEq, Repr

namespace Numeral

open Text

/-- Digits and what follows them. -/
def takeDigits (cs : List Char) : List Char × List Char := cs.span isDigit

/-- The digits before and behind a point, and what follows. At least one side has digits. -/
def takeMantissa? (cs : List Char) : Option (List Char × List Char × List Char) :=
  let (whole, rest) := takeDigits cs
  match rest with
  | '.' :: behind =>
    let (fraction, rest) := takeDigits behind
    if whole.isEmpty && fraction.isEmpty then none else some (whole, fraction, rest)
  | rest => if whole.isEmpty then none else some (whole, [], rest)

/-- The exponent that a text starts with, and what follows. Without digits there is none. -/
def takeExponent (cs : List Char) : Bool × List Char × List Char :=
  match cs with
  | e :: rest =>
    if e = 'e' || e = 'E' then
      let (negative, body) := Integer.splitSign rest
      let (digits, behind) := takeDigits body
      if digits.isEmpty then (false, [], cs) else (negative, digits, behind)
    else (false, [], cs)
  | [] => (false, [], cs)

/-- The numeral that a text starts with, and what follows. -/
def take? (cs : List Char) : Option (Numeral × List Char) :=
  let (negative, body) := Integer.splitSign cs
  (takeMantissa? body).map fun (whole, fraction, rest) =>
    let (exponentNegative, exponent, rest) := takeExponent rest
    (⟨negative, whole, fraction, exponentNegative, exponent⟩, rest)

/-- The number that a numeral denotes, as a binary one. -/
def toBinary (n : Numeral) : Binary64 :=
  let exponent : Int := ofDigits n.exponent
  .ofDecimal n.negative (ofDigits (n.whole ++ n.fraction))
    ((if n.exponentNegative then -exponent else exponent) - n.fraction.length)

end Numeral

/-- The value is a numeral with nothing but white space around. -/
def isNumeric (value : String) : Bool :=
  match Numeral.take? (value.toList.dropWhile Text.isBlank) with
  | some (_, rest) => rest.all Text.isBlank
  | none => false

/-- The integer that a value starts with, zero if there is none. -/
def leadingInteger (value : String) : Except Integer.Fault Int := do
  let (negative, body) := Integer.splitSign (value.toList.dropWhile Text.isBlank)
  let n ← Integer.ofRun (body.takeWhile Text.isDigit)
  return if negative then -(n : Int) else n

/-- The number that a text starts with, zero if there is none. -/
def leadingNumber (cs : List Char) : Binary64 :=
  match Numeral.take? (cs.dropWhile Text.isBlank) with
  | some (n, _) => n.toBinary
  | none => .zero false

/-! ## Sizes -/

namespace Size

/-- The size is beyond all binary numbers. -/
inductive Fault
  | infinite
  deriving DecidableEq, Repr

def Fault.message : Fault → String
  | .infinite => "cannot convert float infinity to integer"

/-- The number of bytes in a unit. -/
def unit (letters : List Char) : Nat :=
  match Text.lower (String.ofList letters) with
  | "k" => 1024
  | "m" => 1024 * 1024
  | "g" => 1024 * 1024 * 1024
  | _ => 1

/-- The number of bytes that a size denotes. -/
def bytes (value : String) : Except Fault Int :=
  let cs := value.toList
  let number := leadingNumber (Text.trim cs.dropLast)
  match (number.scale (unit (cs.drop (cs.length - 1)))).round? with
  | some n => .ok n
  | none => .error .infinite

end Size

end Sift
