/-!
# Binary floating-point numbers

The numbers of 64-bit binary floating point as exact values: a finite one is an integer times a
power of two. A rational number goes to the nearest of them, of two to the one with the even
mantissa, and a number beyond the greatest goes to infinity.
-/

namespace Sift

/-- The natural number nearest to `num / den`, of two the even one. -/
def roundDiv (num den : Nat) : Nat :=
  let q := num / den
  let twice := 2 * (num % den)
  if twice < den then q
  else if den < twice then q + 1
  else if q % 2 = 0 then q else q + 1

/-- A binary floating-point number. A finite one is `± mantissa · 2 ^ exponent`, where the mantissa
has 53 bits or the exponent is the least. -/
inductive Binary64
  | finite (negative : Bool) (mantissa : Nat) (exponent : Int)
  | infinite (negative : Bool)
  | nan
  deriving DecidableEq, Repr, Inhabited

namespace Binary64

/-- The least exponent of two. -/
def minExponent : Int := -1074

/-- The least mantissa of 53 bits. -/
def leastMantissa : Nat := 1 <<< 52

/-- Zero with a sign. -/
def zero (negative : Bool) : Binary64 := finite negative 0 minExponent

/-- The ratio `num / den` over `2 ^ exponent`. -/
def scaledBy (num den : Nat) (exponent : Int) : Nat × Nat :=
  if 0 ≤ exponent then (num, den <<< exponent.toNat) else (num <<< (-exponent).toNat, den)

/-- The exponent at which the ratio has a mantissa of 53 bits, or the least one. -/
def exponentOf (num den : Nat) : Int :=
  let guess : Int := (num.log2 : Int) - den.log2 - 52
  let (n, d) := scaledBy num den guess
  max minExponent (if n / d < leastMantissa then guess - 1 else guess)

/-- The number nearest to `± num / den`. -/
def ofRatio (negative : Bool) (num den : Nat) : Binary64 :=
  if num = 0 then zero negative
  else
    let e := exponentOf num den
    let (n, d) := scaledBy num den e
    let m := roundDiv n d
    let (m, e) := if m = 2 * leastMantissa then (leastMantissa, e + 1) else (m, e)
    if 971 < e then infinite negative else finite negative m e

/-- The number nearest to `± digits · 10 ^ exponent`. -/
def ofDecimal (negative : Bool) (digits : Nat) (exponent : Int) : Binary64 :=
  if digits = 0 then zero negative
  else
    let magnitude := exponent + (Nat.toDigits 10 digits).length
    if 400 < magnitude then infinite negative
    else if magnitude < -400 then zero negative
    else if 0 ≤ exponent then ofRatio negative (digits * Nat.pow 10 exponent.toNat) 1
    else ofRatio negative digits (Nat.pow 10 (-exponent).toNat)

/-- The absolute value of a finite number as a ratio. -/
def ratio (mantissa : Nat) (exponent : Int) : Nat × Nat :=
  if 0 ≤ exponent then (mantissa <<< exponent.toNat, 1) else (mantissa, 1 <<< (-exponent).toNat)

/-- The product with a natural number, rounded. -/
def scale (x : Binary64) (factor : Nat) : Binary64 :=
  match x with
  | finite negative m e =>
    let (n, d) := ratio m e
    ofRatio negative (n * factor) d
  | x => x

/-- The integer nearest to the number, a half going to the even one. -/
def round? : Binary64 → Option Int
  | finite negative m e =>
    let (n, d) := ratio m e
    let q : Int := roundDiv n d
    some (if negative then -q else q)
  | _ => none

/-- The integer part of the number. -/
def truncate? : Binary64 → Option Int
  | finite negative m e =>
    let (n, d) := ratio m e
    let q : Int := (n / d : Nat)
    some (if negative then -q else q)
  | _ => none

def isWhole : Binary64 → Bool
  | finite _ m e =>
    let (n, d) := ratio m e
    n % d == 0
  | _ => false

def isZero : Binary64 → Bool
  | finite _ m _ => m == 0
  | _ => false

end Binary64

end Sift
