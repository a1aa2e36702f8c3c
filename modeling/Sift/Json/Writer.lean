import Sift.Json
import Sift.Number.Shortest
import Sift.Text.Quoted

/-!
# Writing values

As JSON a value is written on one line of ASCII characters, without spaces. As plain text a string
is shown as it is, the words as `None`, `True` and `False`, and lists and objects in brackets with
their strings in quotes.
-/

namespace Sift.Json

/-! ## JSON -/

/-- Four hexadecimal digits. -/
def hex4 (n : Nat) : List Char :=
  [n / 4096 % 16, n / 256 % 16, n / 16 % 16, n % 16].map Nat.digitChar

/-- A character inside a string literal. Beyond ASCII it is given by its UTF-16 units. -/
def literalChar (c : Char) : List Char :=
  let n := c.toNat
  if c = '"' || c = '\\' then ['\\', c]
  else if c = '\n' then ['\\', 'n']
  else if c = '\r' then ['\\', 'r']
  else if c = '\t' then ['\\', 't']
  else if n = 8 then ['\\', 'b']
  else if n = 12 then ['\\', 'f']
  else if 0x20 ≤ n && n ≤ 0x7E then [c]
  else if n < 0x10000 then ['\\', 'u'] ++ hex4 n
  else ['\\', 'u'] ++ hex4 (0xD800 + (n - 0x10000) / 0x400) ++
    ['\\', 'u'] ++ hex4 (0xDC00 + (n - 0x10000) % 0x400)

/-- A string literal after `acc`. -/
def writeText (acc s : String) : String :=
  (s.toList.foldl (fun acc c => (literalChar c).foldl String.push acc) (acc.push '"')).push '"'

/-- A string literal. -/
def literal (s : String) : String := writeText "" s

/-- A number with a fraction or an exponent, or the word for one that is not finite. -/
def number (x : Binary64) : String :=
  match x with
  | .nan => "NaN"
  | .infinite negative => if negative then "-Infinity" else "Infinity"
  | x => x.text

mutual

/-- A value after `acc`. -/
def writeTo (acc : String) : Json → String
  | null => acc ++ "null"
  | bool b => acc ++ (if b then "true" else "false")
  | int n => acc ++ toString n
  | float x => acc ++ number x
  | str s => writeText acc s
  | arr items => (writeItems (acc.push '[') true items).push ']'
  | obj fields => (writeFields (acc.push '\x7b') true fields).push '\x7d'

/-- The items of an array after `acc`. -/
def writeItems (acc : String) (first : Bool) : List Json → String
  | [] => acc
  | item :: rest => writeItems (writeTo (if first then acc else acc.push ',') item) false rest

/-- The fields of an object after `acc`. -/
def writeFields (acc : String) (first : Bool) : List (String × Json) → String
  | [] => acc
  | (name, value) :: rest =>
    let acc := writeText (if first then acc else acc.push ',') name
    writeFields (writeTo (acc.push ':') value) false rest

end

def write (value : Json) : String := writeTo "" value

/-! ## Plain text -/

mutual

/-- The text of a value inside brackets. -/
def shown : Json → String
  | null => "None"
  | bool b => if b then "True" else "False"
  | int n => toString n
  | float x => x.text
  | str s => Text.quoted s
  | arr items => "[" ++ ", ".intercalate (shownAll items) ++ "]"
  | obj fields => "\x7b" ++ ", ".intercalate (shownFields fields) ++ "\x7d"

/-- The texts of the items of a list. -/
def shownAll : List Json → List String
  | [] => []
  | item :: rest => shown item :: shownAll rest

/-- The texts of the fields of an object. -/
def shownFields : List (String × Json) → List String
  | [] => []
  | (name, value) :: rest => (Text.quoted name ++ ": " ++ shown value) :: shownFields rest

end

/-- The text of a value on its own. -/
def display : Json → String
  | str s => s
  | value => shown value

end Sift.Json
