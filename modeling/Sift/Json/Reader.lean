import Sift.Json.Lexeme

/-!
# Reading JSON

The lexemes of a text are read one by one. A stack holds the arrays and objects that are still open,
so each lexeme is looked at once. A flaw is reported with the offset at which it shows.
-/

namespace Sift.Json

/-- Why a text is not read. -/
inductive Fault
  | malformed (offset : Nat)
  | numberTooLong
  /-- More arrays and objects stand inside each other than are read. -/
  | tooDeep
  deriving DecidableEq, Repr

/-- An open array with its items, latest first, or an open object with its fields and the name of
the field whose value comes next. -/
inductive Frame
  | array (items : List Json)
  | object (fields : List (String × Json)) (name : String)

/-- What may come next. -/
inductive Expect
  /-- A value, or the end of an array that is still empty. -/
  | value (orClose : Bool)
  /-- A field name, or the end of an object that is still empty. -/
  | name (fields : List (String × Json))
  /-- The colon behind a field name. -/
  | colon (fields : List (String × Json)) (name : String)
  /-- What follows a complete value. -/
  | behind (value : Json)

/-- Gives a field its value, in the place where the name stood first. -/
def setField (name : String) (value : Json) : List (String × Json) → List (String × Json)
  | [] => [(name, value)]
  | (n, v) :: rest => if n = name then (n, value) :: rest else (n, v) :: setField name value rest

/-- Reads one lexeme at offset `pos`, where no more than `depth` arrays and objects may be open. -/
def advance (depth pos : Nat) (lexeme : Lexeme) :
    Expect → List Frame → Except Fault (Expect × List Frame)
  | .value orClose, stack =>
    match lexeme with
    | .text s => .ok (.behind (.str s), stack)
    | .scalar v => .ok (.behind v, stack)
    | .oversize => .error .numberTooLong
    | .broken flaw => .error (.malformed flaw)
    | .mark c =>
      if (c = '[' || c = '\x7b') && depth ≤ stack.length then .error .tooDeep
      else if c = '[' then .ok (.value true, .array [] :: stack)
      else if c = '\x7b' then .ok (.name [], stack)
      else match stack with
        | .array _ :: below =>
          if c = ']' && orClose then .ok (.behind (.arr []), below) else .error (.malformed pos)
        | _ => .error (.malformed pos)
    | .strange => .error (.malformed pos)
  | .name fields, stack =>
    match lexeme with
    | .text s => .ok (.colon fields s, stack)
    | .broken flaw => .error (.malformed flaw)
    | .mark c =>
      if c = '\x7d' && fields.isEmpty then .ok (.behind (.obj []), stack)
      else .error (.malformed pos)
    | _ => .error (.malformed pos)
  | .colon fields name, stack =>
    match lexeme with
    | .mark ':' => .ok (.value false, .object fields name :: stack)
    | _ => .error (.malformed pos)
  | .behind value, stack =>
    match lexeme, stack with
    | .mark ',', .array items :: below => .ok (.value false, .array (value :: items) :: below)
    | .mark ']', .array items :: below => .ok (.behind (.arr (value :: items).reverse), below)
    | .mark ',', .object fields name :: below => .ok (.name (setField name value fields), below)
    | .mark c, .object fields name :: below =>
      if c = '\x7d' then .ok (.behind (.obj (setField name value fields)), below)
      else .error (.malformed pos)
    | _, _ => .error (.malformed pos)

/-- Reads lexemes up to the end of the text, which is at offset `finish`. -/
def consume (depth finish : Nat) : List (Nat × Lexeme) → Expect → List Frame → Except Fault Json
  | [], .behind value, [] => .ok value
  | [], _, _ => .error (.malformed finish)
  | (pos, lexeme) :: rest, expect, stack =>
    match advance depth pos lexeme expect stack with
    | .error e => .error e
    | .ok (expect, stack) => consume depth finish rest expect stack

/-- Reads a value in which no more than `depth` arrays and objects stand inside each other. -/
def parseWithin (depth : Nat) (cs : List Char) : Except Fault Json :=
  consume depth cs.length (lexemesFrom 0 cs) (.value false) []

/-- Reads a value. -/
def parse (text : String) : Except Fault Json :=
  let cs := text.toList
  parseWithin cs.length cs

end Sift.Json
