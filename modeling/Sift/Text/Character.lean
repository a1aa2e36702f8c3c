/-!
# Classes of characters

A Unicode property is kept as a list of closed ranges of code points. White space is what Unicode
calls so, together with the four separators U+001C to U+001F. Decimal digits are those of every
script: the property `Nd`, ten consecutive code points from each zero. Other digits stand for a
number in another way, as superscripts and circled digits do.
-/

namespace Sift.Text

/-! ## Sets of code points -/

/-- A set of code points, as closed ranges. -/
abbrev Ranges := List (Nat × Nat)

/-- A character is in the set when one of the ranges covers its code point. -/
def Ranges.has (ranges : Ranges) (c : Char) : Bool :=
  ranges.any fun r => r.1 ≤ c.toNat && c.toNat ≤ r.2

/-! ## White space -/

/-- The code points of white space. -/
def blanks : Ranges :=
  [(0x9, 0xD), (0x1C, 0x20), (0x85, 0x85), (0xA0, 0xA0), (0x1680, 0x1680), (0x2000, 0x200A),
   (0x2028, 0x2029), (0x202F, 0x202F), (0x205F, 0x205F), (0x3000, 0x3000)]

/-- A character of white space. -/
def isBlank (c : Char) : Bool := blanks.has c

/-- Drops the characters of a class from both ends. -/
def trimBy (margin : Char → Bool) (cs : List Char) : List Char :=
  ((cs.dropWhile margin).reverse.dropWhile margin).reverse

/-- Drops white space from both ends. -/
def trim (cs : List Char) : List Char := trimBy isBlank cs

/-! ## Digits -/

/-- The code points of the digits of value zero. -/
def zeros : List Nat :=
  [0x30, 0x660, 0x6F0, 0x7C0, 0x966, 0x9E6, 0xA66, 0xAE6, 0xB66, 0xBE6, 0xC66, 0xCE6, 0xD66,
   0xDE6, 0xE50, 0xED0, 0xF20, 0x1040, 0x1090, 0x17E0, 0x1810, 0x1946, 0x19D0, 0x1A80, 0x1A90,
   0x1B50, 0x1BB0, 0x1C40, 0x1C50, 0xA620, 0xA8D0, 0xA900, 0xA9D0, 0xA9F0, 0xAA50, 0xABF0, 0xFF10,
   0x104A0, 0x10D30, 0x11066, 0x110F0, 0x11136, 0x111D0, 0x112F0, 0x11450, 0x114D0, 0x11650,
   0x116C0, 0x11730, 0x118E0, 0x11950, 0x11C50, 0x11D50, 0x11DA0, 0x16A60, 0x16AC0, 0x16B50,
   0x1D7CE, 0x1D7D8, 0x1D7E2, 0x1D7EC, 0x1D7F6, 0x1E140, 0x1E2F0, 0x1E950, 0x1FBF0]

/-- The value of a decimal digit of any script. -/
def digitValue? (c : Char) : Option Nat :=
  (zeros.find? fun z => z ≤ c.toNat && c.toNat ≤ z + 9).map (c.toNat - ·)

/-- A decimal digit of any script. -/
def isDigit (c : Char) : Bool := (digitValue? c).isSome

/-- A non-empty run of decimal digits. -/
def isDigits : List Char → Bool
  | [] => false
  | cs => cs.all isDigit

/-- The number that a run of decimal digits denotes. -/
def ofDigits (cs : List Char) : Nat :=
  cs.foldl (fun n c => 10 * n + (digitValue? c).getD 0) 0

theorem isDigits_iff {cs : List Char} :
    isDigits cs = true ↔ cs ≠ [] ∧ ∀ c ∈ cs, isDigit c = true := by
  cases cs <;> simp [isDigits]

/-- The code points of the digits that are not decimal. -/
def ornamentedDigits : Ranges :=
  [(0xB2, 0xB3), (0xB9, 0xB9), (0x1369, 0x1371), (0x19DA, 0x19DA), (0x2070, 0x2070),
   (0x2074, 0x2079), (0x2080, 0x2089), (0x2460, 0x2468), (0x2474, 0x247C), (0x2488, 0x2490),
   (0x24EA, 0x24EA), (0x24F5, 0x24FD), (0x24FF, 0x24FF), (0x2776, 0x277E), (0x2780, 0x2788),
   (0x278A, 0x2792), (0x10A40, 0x10A43), (0x10E60, 0x10E68), (0x11052, 0x1105A),
   (0x1F100, 0x1F10A)]

/-- A digit of any kind. -/
def isFigure (c : Char) : Bool := isDigit c || ornamentedDigits.has c

/-- A non-empty run of digits of any kind. -/
def isFigures : List Char → Bool
  | [] => false
  | cs => cs.all isFigure

end Sift.Text
