import Sift.Json
import Sift.Text.Bytes
import Sift.Text.Integer

/-!
# Lexemes of JSON

A text is cut into punctuation, string literals, numbers and words, each with the offset at which it
starts. Where no lexeme can be read a lexeme stands that says so, and the text ends there.
-/

namespace Sift.Json

inductive Lexeme
  | mark (c : Char)
  | text (value : String)
  | scalar (value : Json)
  /-- A string literal with a flaw at the offset. -/
  | broken (offset : Nat)
  /-- A number with more digits than are read. -/
  | oversize
  /-- No lexeme starts here. -/
  | strange

/-- The four characters that may stand between lexemes. -/
def isSpace (c : Char) : Bool := c == ' ' || c == '\t' || c == '\n' || c == '\r'

/-- The character that a backslash and a letter stand for. -/
def escape? (c : Char) : Option Char :=
  match c with
  | '"' => some '"'
  | '\\' => some '\\'
  | '/' => some '/'
  | 'b' => some '\x08'
  | 'f' => some '\x0c'
  | 'n' => some '\n'
  | 'r' => some '\r'
  | 't' => some '\t'
  | _ => none

/-- Adds a code unit. A low surrogate after a high one completes a code point. -/
def pushUnit (unit : Nat) : List Nat → List Nat
  | high :: before =>
    if 0xD800 ≤ high && high < 0xDC00 && 0xDC00 ≤ unit && unit < 0xE000 then
      (0x10000 + (high - 0xD800) * 0x400 + (unit - 0xDC00)) :: before
    else unit :: high :: before
  | [] => [unit]

/-- The characters of code points, latest first. A surrogate without a partner is shown as
U+FFFD. -/
def charsOfUnits (units : List Nat) : List Char :=
  units.reverse.map fun n => if 0xD800 ≤ n && n < 0xE000 then '\uFFFD' else Char.ofNat n

/-- Reads a string literal after its opening quote, which stood at `start`. Gives the offset of the
flaw, or the text, the offset behind the literal and the rest. -/
def readText (start : Nat) (pos : Nat) (units : List Nat) :
    List Char → Except Nat (String × Nat × List Char)
  | [] => .error start
  | c :: rest =>
    if c = '"' then .ok (String.ofList (charsOfUnits units), pos + 1, rest)
    else if c.toNat ≤ 0x1F then .error pos
    else if c ≠ '\\' then readText start (pos + 1) (c.toNat :: units) rest
    else match rest with
      | [] => .error start
      | e :: rest =>
        if e = 'u' then
          match rest with
          | h₃ :: h₂ :: h₁ :: h₀ :: next :: rest =>
            match Text.hexNumber? [h₃, h₂, h₁, h₀] with
            | some unit => readText start (pos + 6) (pushUnit unit units) (next :: rest)
            | none => .error (pos + 1)
          | _ => .error (pos + 1)
        else match escape? e with
          | some x => readText start (pos + 2) (x.toNat :: units) rest
          | none => .error pos

/-- Reading a literal leaves no more than there was. -/
theorem length_readText {start pos : Nat} {units : List Nat} {cs : List Char}
    {value : String} {next : Nat} {behind : List Char}
    (h : readText start pos units cs = .ok (value, next, behind)) : behind.length ≤ cs.length := by
  fun_induction readText start pos units cs <;> simp_all <;> omega

def isAsciiDigit (c : Char) : Bool := '0' ≤ c && c ≤ '9'

/-- An exponent that a text starts with: its sign, its digits and the length of the whole. -/
def exponentPart? (cs : List Char) : Option (Bool × List Char × Nat) :=
  match cs with
  | e :: rest =>
    if e = 'e' || e = 'E' then
      let (negative, body) := Integer.splitSign rest
      let digits := body.takeWhile isAsciiDigit
      let signed := match rest with
        | '+' :: _ | '-' :: _ => 1
        | _ => 0
      if digits.isEmpty then none else some (negative, digits, 1 + signed + digits.length)
    else none
  | [] => none

/-- The digits behind a point, when `cs` starts with a point and a digit. -/
def fractionPart? (cs : List Char) : Option (List Char) :=
  match cs with
  | '.' :: rest =>
    let digits := rest.takeWhile isAsciiDigit
    if digits.isEmpty then none else some digits
  | _ => none

/-- The whole digits that `cs` starts with: a zero, or digits that start with another. -/
def wholePart (cs : List Char) : List Char :=
  match cs with
  | '0' :: _ => ['0']
  | cs => cs.takeWhile isAsciiDigit

/-- A number with its length, when `cs` starts with one. -/
def readNumber? (cs : List Char) : Option (Lexeme × Nat) :=
  let (negative, body) := match cs with
    | '-' :: rest => (true, rest)
    | cs => (false, cs)
  let whole := wholePart body
  if whole.isEmpty then none
  else
    let afterWhole := body.drop whole.length
    let fraction := fractionPart? afterWhole
    let fractionLength := match fraction with
      | some digits => digits.length + 1
      | none => 0
    let exponent := exponentPart? (afterWhole.drop fractionLength)
    let exponentLength := match exponent with
      | some (_, _, length) => length
      | none => 0
    let length := (if negative then 1 else 0) + whole.length + fractionLength + exponentLength
    let lexeme :=
      if fraction.isNone && exponent.isNone then
        match Integer.ofRun whole with
        | .ok n => .scalar (.int (if negative then -(n : Int) else n))
        | .error _ => .oversize
      else
        let digits := whole ++ fraction.getD []
        let power : Int := match exponent with
          | some (negative, digits, _) =>
            if negative then -(Text.ofDigits digits : Int) else Text.ofDigits digits
          | none => 0
        .scalar (.float (.ofDecimal negative (Text.ofDigits digits)
          (power - (fraction.getD []).length)))
    some (lexeme, length)

def words : List (List Char × Json) :=
  [("null".toList, .null), ("true".toList, .bool true), ("false".toList, .bool false),
    ("NaN".toList, .float .nan), ("Infinity".toList, .float (.infinite false)),
    ("-Infinity".toList, .float (.infinite true))]

/-- A word or number with its length, when `cs` starts with one. -/
def readScalar? (cs : List Char) : Option (Lexeme × Nat) :=
  match words.find? (·.1.isPrefixOf cs) with
  | some (word, value) => some (.scalar value, word.length)
  | none => readNumber? cs

/-- The lexemes of a text that starts at offset `pos`. The measure counts the characters left. -/
def lexemesFrom (pos : Nat) (cs : List Char) : List (Nat × Lexeme) :=
  match cs with
  | [] => []
  | c :: rest =>
    if isSpace c then lexemesFrom (pos + 1) rest
    else if "\x7b\x7d[],:".toList.contains c then (pos, .mark c) :: lexemesFrom (pos + 1) rest
    else if c = '"' then
      match _h : readText pos (pos + 1) [] rest with
      | .error flaw => [(pos, .broken flaw)]
      | .ok (value, next, behind) => (pos, .text value) :: lexemesFrom next behind
    else match readScalar? (c :: rest) with
      | some (lexeme, length) =>
        (pos, lexeme) :: lexemesFrom (pos + length) (rest.drop (length - 1))
      | none => [(pos, .strange)]
  termination_by cs.length
  decreasing_by
    · simp
    · simp
    · exact Nat.lt_succ_of_le (length_readText _h)
    · simp only [List.length_cons, List.length_drop]; omega

end Sift.Json
