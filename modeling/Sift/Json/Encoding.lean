import Sift.Json.Lexeme
import Sift.Text.Bytes

/-!
# Encodings of JSON

A JSON text starts with ASCII characters, so the zeros among its first bytes tell whether it is in
UTF-8, UTF-16 or UTF-32, and in which order the bytes of a unit are.
-/

namespace Sift.Json

open Text

/-- Which byte of a unit comes first. -/
inductive ByteOrder
  | bigFirst
  | littleFirst
  deriving DecidableEq, Repr

/-- How a text is written in bytes. -/
inductive Encoding
  | utf8
  | utf16 (order : ByteOrder)
  | utf32 (order : ByteOrder)
  deriving DecidableEq, Repr

namespace Encoding

/-- The encoding of a JSON text. -/
def ofBytes : Bytes → Encoding
  | [0, _] => utf16 .bigFirst
  | [_, 0] => utf16 .littleFirst
  | 0 :: 0 :: _ :: _ :: _ => utf32 .bigFirst
  | 0 :: _ :: _ :: _ :: _ => utf16 .bigFirst
  | _ :: 0 :: 0 :: 0 :: _ => utf32 .littleFirst
  | _ :: 0 :: _ :: _ :: _ => utf16 .littleFirst
  | _ => utf8

/-- The units of two bytes, unless a byte is left over. -/
def units16? (order : ByteOrder) : Bytes → Option (List Nat)
  | [] => some []
  | [_] => none
  | b₀ :: b₁ :: rest =>
    let unit := match order with
      | .bigFirst => b₀ * 256 + b₁
      | .littleFirst => b₁ * 256 + b₀
    (units16? order rest).map (unit :: ·)

/-- The units of four bytes, unless bytes are left over or a unit is no code point. -/
def units32? (order : ByteOrder) : Bytes → Option (List Nat)
  | [] => some []
  | b₀ :: b₁ :: b₂ :: b₃ :: rest =>
    let unit := match order with
      | .bigFirst => ((b₀ * 256 + b₁) * 256 + b₂) * 256 + b₃
      | .littleFirst => ((b₃ * 256 + b₂) * 256 + b₁) * 256 + b₀
    if unit ≤ 0x10FFFF then (units32? order rest).map (unit :: ·) else none
  | _ => none

/-- The text of bytes in the encoding of a JSON text. In UTF-8 a byte order mark may come first. -/
def decode? (bytes : Bytes) : Option (List Char) :=
  match ofBytes bytes with
  | utf8 => some (match ofUtf8 bytes with
    | '\uFEFF' :: rest => rest
    | cs => cs)
  | utf16 order => (units16? order bytes).map fun units =>
    charsOfUnits (units.foldl (fun before unit => pushUnit unit before) [])
  | utf32 order => (units32? order bytes).map fun units => charsOfUnits units.reverse

end Encoding

end Sift.Json
