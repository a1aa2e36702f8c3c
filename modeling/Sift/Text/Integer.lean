import Sift.Text.Character
import Sift.Text.Quoted

/-!
# Reading integers

An integer is written with an optional sign and decimal digits of any script, where single
underscores may stand between digits and white space around the whole. Numbers of more than
`maxDigits` digits are refused.
-/

namespace Sift

namespace Integer

/-- The longest run of digits that is read as a number. -/
def maxDigits : Nat := 4300

/-- Why a text is not read as an integer. -/
inductive Fault
  | malformed (text : String)
  | tooLong (digits : Nat)
  deriving DecidableEq, Repr

/-- The message of a fault. Of a malformed text it shows the first two hundred characters. -/
def Fault.message : Fault → String
  | .malformed text =>
    "invalid literal for int() with base 10: " ++
      String.ofList ((Text.quoted text).toList.take 200)
  | .tooLong digits =>
    "Exceeds the limit (" ++ toString maxDigits ++
      " digits) for integer string conversion: value has " ++ toString digits ++
      " digits; use sys.set_int_max_str_digits() to increase the limit"

/-- The number of a run of digits. -/
def ofRun (digits : List Char) : Except Fault Nat :=
  if maxDigits < digits.length then .error (.tooLong digits.length) else .ok (Text.ofDigits digits)

/-- White space that may stand around an integer: all but the separators U+001C to U+001F. -/
def isMargin (c : Char) : Bool :=
  Text.isBlank c && !(0x1C ≤ c.toNat && c.toNat ≤ 0x1F)

/-- Each underscore stands between two digits. -/
def wellSpaced : List Char → Bool
  | [] => false
  | [c] => Text.isDigit c
  | c :: d :: rest => (Text.isDigit c || Text.isDigit d) && wellSpaced (d :: rest)

/-- A sign and what follows it. -/
def splitSign : List Char → Bool × List Char
  | '-' :: rest => (true, rest)
  | '+' :: rest => (false, rest)
  | cs => (false, cs)

def read (text : String) : Except Fault Int := do
  let (negative, body) := splitSign (Text.trimBy isMargin text.toList)
  let inRun (c : Char) : Bool := Text.isDigit c || c == '_'
  let run := body.takeWhile inRun
  if run.head? == some '_' || !wellSpaced run then throw (.malformed text)
  let n ← ofRun (run.filter (· != '_'))
  if body.dropWhile inRun != [] then throw (.malformed text)
  return if negative then -(n : Int) else n

end Integer

end Sift
