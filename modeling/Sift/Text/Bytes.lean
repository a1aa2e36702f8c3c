/-!
# Bytes

Bytes are read as UTF-8. Where they are not, the longest run that could have begun a character is
shown as U+FFFD, and reading goes on behind it. A byte is also written with a percent sign and two
hexadecimal digits; percent signs before anything else stand for themselves.
-/

namespace Sift.Text

/-! ## UTF-8 -/

/-- Bytes, each below 256. -/
abbrev Bytes := List Nat

/-- The bytes of a text in UTF-8. -/
def utf8 (text : String) : Bytes := text.toUTF8.toList.map (·.toNat)

/-- A byte that continues a character. -/
def isContinuation (b : Nat) : Bool := 0x80 ≤ b && b ≤ 0xBF

/-- The payload of a first byte, how many bytes follow it, and whether a byte may be the second. -/
def firstByte? (b : Nat) : Option (Nat × Nat × (Nat → Bool)) :=
  let between (low high : Nat) (c : Nat) : Bool := low ≤ c && c ≤ high
  if b ≤ 0x7F then some (b, 0, isContinuation)
  else if 0xC2 ≤ b && b ≤ 0xDF then some (b - 0xC0, 1, isContinuation)
  else if b = 0xE0 then some (0, 2, between 0xA0 0xBF)
  else if b = 0xED then some (0xD, 2, between 0x80 0x9F)
  else if 0xE1 ≤ b && b ≤ 0xEF then some (b - 0xE0, 2, isContinuation)
  else if b = 0xF0 then some (0, 3, between 0x90 0xBF)
  else if b = 0xF4 then some (4, 3, between 0x80 0x8F)
  else if 0xF1 ≤ b && b ≤ 0xF3 then some (b - 0xF0, 3, isContinuation)
  else none

/-- Reads the bytes that follow a first one. Gives the code point, unless bytes are missing, and how
many bytes were read. -/
def followers (payload : Nat) : Nat → (Nat → Bool) → Bytes → Option Nat × Nat
  | 0, _, _ => (some payload, 0)
  | _ + 1, _, [] => (none, 0)
  | n + 1, mayFollow, b :: rest =>
    if mayFollow b then
      let (point, read) := followers (payload * 64 + (b - 0x80)) n isContinuation rest
      (point, read + 1)
    else (none, 0)

/-- The text of bytes. -/
def ofUtf8 (bytes : Bytes) : List Char :=
  match bytes with
  | [] => []
  | b :: rest =>
    match firstByte? b with
    | none => '\uFFFD' :: ofUtf8 rest
    | some (payload, count, mayFollow) =>
      let (point, read) := followers payload count mayFollow rest
      (point.map Char.ofNat).getD '\uFFFD' :: ofUtf8 (rest.drop read)
  termination_by bytes.length
  decreasing_by
    · simp
    · simp only [List.length_cons, List.length_drop]; omega

/-! ## Hexadecimal digits -/

/-- The value of a hexadecimal digit. -/
def hexValue? (c : Char) : Option Nat :=
  if '0' ≤ c && c ≤ '9' then some (c.toNat - '0'.toNat)
  else if 'a' ≤ c && c ≤ 'f' then some (c.toNat - 'a'.toNat + 10)
  else if 'A' ≤ c && c ≤ 'F' then some (c.toNat - 'A'.toNat + 10)
  else none

/-- The number written by hexadecimal digits. -/
def hexNumber? (digits : List Char) : Option Nat :=
  digits.foldlM (fun n c => (hexValue? c).map (16 * n + ·)) 0

/-! ## Percent signs -/

/-- The bytes of a text in which a percent sign and two hexadecimal digits stand for a byte. -/
def percentBytes (cs : List Char) : Bytes :=
  match cs with
  | [] => []
  | '%' :: h₁ :: h₀ :: rest =>
    match hexNumber? [h₁, h₀] with
    | some byte => byte :: percentBytes rest
    | none => 0x25 :: percentBytes (h₁ :: h₀ :: rest)
  | c :: rest => utf8 (String.singleton c) ++ percentBytes rest

/-- A text without percent signs for bytes. -/
def percentDecoded (cs : List Char) : String := String.ofList (ofUtf8 (percentBytes cs))

/-- A byte with a percent sign. -/
def percentByte (byte : Nat) : List Char :=
  ['%', (Nat.digitChar (byte / 16)).toUpper, (Nat.digitChar (byte % 16)).toUpper]

/-- A text in which all characters but those of a class are written with percent signs. Percent
signs before two hexadecimal digits stay. -/
def percentEncoded (keep : Char → Bool) (cs : List Char) : List Char :=
  let written (c : Char) : List Char :=
    if keep c then [c] else (utf8 (String.singleton c)).flatMap percentByte
  match cs with
  | [] => []
  | '%' :: h₁ :: h₀ :: rest =>
    if (hexNumber? [h₁, h₀]).isSome then '%' :: h₁ :: h₀ :: percentEncoded keep rest
    else written '%' ++ percentEncoded keep (h₁ :: h₀ :: rest)
  | c :: rest => written c ++ percentEncoded keep rest

/-- A letter, a digit or one of the four signs that need no percent sign anywhere. -/
def isUnreserved (c : Char) : Bool :=
  c.isAlphanum || c == '-' || c == '.' || c == '_' || c == '~'

end Sift.Text
