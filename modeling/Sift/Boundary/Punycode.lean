/-!
# Punycode

A text of any characters is written in letters, digits and hyphens: its ASCII characters, and behind
a hyphen the others in the order of their code points. Each is given by a number, which tells how
far it is, in code points and places, from the one before. Numbers are written in places of changing
worth, the least first.
-/

namespace Sift.Text.Punycode

/-! ## Numbers -/

/-- The least digit that does not end a number, in a place. -/
def threshold (bias place : Nat) : Nat := max 1 (min 26 (36 * (place + 1) - bias))

theorem one_le_threshold (bias place : Nat) : 1 ≤ threshold bias place := by
  unfold threshold; omega

/-- The character of a digit. -/
def ofDigit (d : Nat) : Char :=
  if d < 26 then Char.ofNat ('a'.toNat + d) else Char.ofNat ('0'.toNat + (d - 26))

/-- The value of a digit in either case. -/
def digit? (c : Char) : Option Nat :=
  if 'a' ≤ c && c ≤ 'z' then some (c.toNat - 'a'.toNat)
  else if 'A' ≤ c && c ≤ 'Z' then some (c.toNat - 'A'.toNat)
  else if '0' ≤ c && c ≤ '9' then some (c.toNat - '0'.toNat + 26)
  else none

/-- The digits of a number from a place on. -/
def digits (bias place n : Nat) : List Char :=
  let t := threshold bias place
  if n < t then [ofDigit n]
  else ofDigit (t + (n - t) % (36 - t)) :: digits bias (place + 1) ((n - t) / (36 - t))
  termination_by n
  decreasing_by
    have ht := one_le_threshold bias place
    have hd := Nat.div_le_self (n - threshold bias place) (36 - threshold bias place)
    omega

/-- Divides by 35 until the number is small. Gives what is left and the bias for it. -/
def shrink (bias n : Nat) : Nat × Nat :=
  if 455 < n then shrink (bias + 36) (n / 35) else (n, bias)
  termination_by n
  decreasing_by omega

/-- The bias behind a number, which was the first or not, and `count` characters. -/
def adapted (n count : Nat) (isFirst : Bool) : Nat :=
  let n := if isFirst then n / 700 else n / 2
  let (n, bias) := shrink 0 (n + n / count)
  bias + 36 * n / (n + 38)

/-! ## Writing -/

/-- An ASCII character. -/
def isBasic (c : Char) : Bool := c.toNat < 0x80

/-- What is kept while a text is written: the digits, the last one first, the distance since the
last number, the bias, and how many characters are written, of which `basic` were ASCII. -/
structure Writing where
  written : List Char
  distance : Nat
  bias : Nat
  basic : Nat
  count : Nat

/-- Passes a character of the text, when the characters up to `n` are being written. -/
def Writing.pass (n : Nat) (w : Writing) (c : Char) : Writing :=
  if c.toNat < n then { w with distance := w.distance + 1 }
  else if c.toNat = n then
    { w with
      written := (digits w.bias 0 w.distance).reverse ++ w.written
      distance := 0
      bias := adapted w.distance (w.count + 1) (w.count == w.basic)
      count := w.count + 1 }
  else w

/-- Writes the characters with the code points `ns`, which are in order and no less than `start`. -/
def Writing.write (cs : List Char) (w : Writing) (start : Nat) : List Nat → List Char
  | [] => w.written.reverse
  | n :: ns =>
    let w := { w with distance := w.distance + (n - start) * (w.count + 1) }
    let w := cs.foldl (Writing.pass n) w
    Writing.write cs { w with distance := w.distance + 1 } (n + 1) ns

/-- Writes a text. -/
def encode (cs : List Char) : List Char :=
  let basic := cs.filter isBasic
  let others := ((cs.filter (! isBasic ·)).map Char.toNat).eraseDups.mergeSort
  basic ++ (if basic.isEmpty then [] else ['-']) ++
    Writing.write cs ⟨[], 0, 72, basic.length, basic.length⟩ 0x80 others

/-! ## Reading -/

/-- What is kept while a text is read: its characters so far, the last code point and the place
behind it, the bias, and of the number that is being read the sum, the worth of the next digit and
its place. -/
structure Reading where
  text : List Char
  point : Nat
  place : Nat
  bias : Nat
  sum : Nat
  worth : Nat
  digit : Nat

/-- Puts in the character that the number in full tells. -/
def Reading.insert? (r : Reading) (n : Nat) : Option Reading :=
  let count := r.text.length + 1
  let offset := r.place + n
  let point := r.point + offset / count
  if 0x10FFFF < point || 0xD800 ≤ point && point ≤ 0xDFFF then none
  else some {
    text := r.text.insertIdx (offset % count) (Char.ofNat point)
    point
    place := offset % count + 1
    bias := adapted n count (r.point == 0x80 && r.place == 0)
    sum := 0
    worth := 1
    digit := 0 }

/-- Reads a digit. -/
def Reading.step? (r : Reading) (c : Char) : Option Reading := do
  let d ← digit? c
  let t := threshold r.bias r.digit
  let n := r.sum + d * r.worth
  if d < t then r.insert? n
  else return { r with sum := n, worth := r.worth * (36 - t), digit := r.digit + 1 }

/-- Reads a text. -/
def decode? (cs : List Char) : Option (List Char) := do
  let tail := cs.reverse.takeWhile (· != '-')
  let basic := (cs.reverse.drop (tail.length + 1)).reverse
  let r ← tail.reverse.foldlM Reading.step? ⟨basic, 0x80, 0, 72, 0, 1, 0⟩
  if r.digit = 0 then some r.text else none

end Sift.Text.Punycode
