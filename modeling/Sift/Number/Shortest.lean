import Sift.Number.Binary64

/-!
# Shortest decimal text

A binary number is written with the fewest decimal digits that read back as it, of several such
texts the nearest.
-/

namespace Sift.Binary64

/-- The exponent of the leading decimal digit of `num / den`. -/
def leadingExponent (num den : Nat) : Int :=
  if den ≤ num then ((Nat.toDigits 10 (num / den)).length : Int) - 1
  else match (List.range 400).find? fun j => den ≤ num * Nat.pow 10 j with
    | some j => -(j : Int)
    | none => -400

/-- The neighbours of the number on the grid of `10 ^ place`, the nearer first. -/
def neighbours (num den : Nat) (place : Int) : List Nat :=
  let (n, d) :=
    if 0 ≤ place then (num, den * Nat.pow 10 place.toNat)
    else (num * Nat.pow 10 (-place).toNat, den)
  let below := n / d
  if roundDiv n d = below then [below, below + 1] else [below + 1, below]

/-- The fewest digits that read back as the number, with the place of the last. -/
def shortest (mantissa : Nat) (exponent : Int) : Nat × Int :=
  let (num, den) := ratio mantissa exponent
  let lead := leadingExponent num den
  let attempt (count : Nat) : Option (Nat × Int) :=
    let place := lead - count
    ((neighbours num den place).find? fun digits =>
      ofDecimal false digits place == finite false mantissa exponent).map (·, place)
  ((List.range 17).findSome? attempt).getD (0, 0)

/-- Digits without their trailing zeros, and how many those were. -/
def withoutTrailingZeros (digits : List Char) : List Char × Nat :=
  let kept := (digits.reverse.dropWhile (· == '0')).reverse
  (kept, digits.length - kept.length)

/-- The text of a finite number other than zero. From 1e16 on, and below 1e-4, it has an exponent of
at least two digits. -/
def magnitudeText (mantissa : Nat) (exponent : Int) : String :=
  let (n, place) := shortest mantissa exponent
  let (digits, dropped) := withoutTrailingZeros (Nat.toDigits 10 n)
  let point : Int := place + dropped + digits.length
  let text : List Char :=
    if -4 < point && point ≤ 16 then
      if point ≤ 0 then ['0', '.'] ++ List.replicate (-point).toNat '0' ++ digits
      else if digits.length ≤ point.toNat then
        digits ++ List.replicate (point.toNat - digits.length) '0' ++ ['.', '0']
      else digits.take point.toNat ++ ['.'] ++ digits.drop point.toNat
    else
      let power := point - 1
      let powerDigits := Nat.toDigits 10 power.natAbs
      let fraction := digits.drop 1
      digits.take 1 ++ (if fraction.isEmpty then [] else '.' :: fraction) ++ ['e'] ++
        [if power < 0 then '-' else '+'] ++ List.replicate (2 - powerDigits.length) '0' ++
        powerDigits
  String.ofList text

def text : Binary64 → String
  | finite negative m e =>
    (if negative then "-" else "") ++ (if m = 0 then "0.0" else magnitudeText m e)
  | infinite negative => if negative then "-inf" else "inf"
  | nan => "nan"

end Sift.Binary64
