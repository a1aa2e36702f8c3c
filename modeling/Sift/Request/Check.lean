import Sift.Request.Violation
import Sift.Text.Integer

/-!
# Checks

The shapes that the parts of requests and rows may have. An integer may also be given as a string,
as a number with a fraction of zeros, or as a truth value.
-/

namespace Sift.Check

open Checked

/-- A string. -/
def text : Json → Checked String
  | .str s => valid s
  | _ => fail .stringType

/-! ## Integers in strings -/

/-- A digit that a number without leading zeros may start with. -/
def isLeading (c : Char) : Bool := '1' ≤ c && c ≤ '9'

/-- Reads a number in its plainest form: a minus or none, and digits without leading zeros. A number
that takes more than `Integer.maxDigits` characters is too long, whatever follows it. -/
def plainInteger (cs : List Char) : Except Violation.Kind Int :=
  let (negative, body) := match cs with
    | '-' :: rest => (true, rest)
    | cs => (false, cs)
  let digits := body.takeWhile Char.isDigit
  let length := digits.length + if negative then 1 else 0
  match digits with
  | [] => .error .intParsing
  | first :: _ =>
    if isLeading first && Integer.maxDigits < length then .error .intParsingSize
    else if digits.length = body.length && (isLeading first || digits.length = 1) then
      .ok (if negative then -(Text.ofDigits digits : Int) else Text.ofDigits digits)
    else .error .intParsing

/-- Drops zeros and underscores before the first other digit. A sign may stand behind them, and of
zeros before a point or at the end the last character is kept. -/
def withoutLeadingZeros? (cs : List Char) : Option (List Char) :=
  let start (c : Char) : Bool := c == '-' || isLeading c
  match cs with
  | '0' :: _ =>
    let zeros := cs.takeWhile fun c => c == '0' || c == '_'
    let last := zeros.drop (zeros.length - 1)
    match cs.drop zeros.length with
    | [] => some last
    | '.' :: rest => some (last ++ '.' :: rest)
    | c :: rest => if start c then some (c :: rest) else none
  | c :: _ => if start c then some cs else none
  | [] => none

/-- The characters before the point of a number whose fraction is zeros, or all of them. -/
def withoutZeroFraction (cs : List Char) : List Char :=
  match cs.dropWhile (· != '.') with
  | _ :: fraction =>
    if !fraction.isEmpty && fraction.all (· == '0') then cs.takeWhile (· != '.') else cs
  | [] => cs

/-- Two underscores stand side by side. -/
def hasDoubleUnderscore : List Char → Bool
  | '_' :: '_' :: _ => true
  | _ :: rest => hasDoubleUnderscore rest
  | [] => false

/-- Drops underscores, when all of them stand singly inside. -/
def withoutUnderscores (cs : List Char) : List Char :=
  if cs.head? == some '_' || cs.getLast? == some '_' || hasDoubleUnderscore cs then cs
  else cs.filter (· != '_')

/-- The plain form of a number with white space around it, a plus before it, leading zeros, zeros as
a fraction or underscores between digits. -/
def plainForm? (cs : List Char) : Option (List Char) :=
  let plain (cs : List Char) : Option (List Char) :=
    (withoutLeadingZeros? cs).map fun cs => withoutUnderscores (withoutZeroFraction cs)
  match Text.trimBy Integer.isMargin cs with
  | '+' :: '-' :: _ => none
  | '+' :: rest => plain rest
  | '-' :: rest => (plain rest).map ('-' :: ·)
  | cs => plain cs

/-- An integer that is written as a string. It is too long only when it has no other form than the
plainest. -/
def integerText (s : String) : Checked Int :=
  match plainInteger s.toList with
  | .ok n => valid n
  | .error .intParsingSize => fail .intParsingSize
  | .error _ =>
    match (plainForm? s.toList).map plainInteger with
    | some (.ok n) => valid n
    | _ => fail .intParsing

/-! ## Values -/

/-- A number with a fraction, which has to be zero. -/
def integerNumber (x : Binary64) : Checked Int :=
  match x.truncate? with
  | none => fail .finiteNumber
  | some n =>
    if !x.isWhole then fail .intFromFloat
    else if -0x8000000000000000 < n && n < 0x8000000000000000 then valid n
    else fail .intParsingSize

def integer : Json → Checked Int
  | .int n => valid n
  | .bool b => valid (if b then 1 else 0)
  | .float x => integerNumber x
  | .str s => integerText s
  | _ => fail .intType

/-- An integer that is no less than a bound. -/
def integerFrom (bound : Int) (value : Json) : Checked Int :=
  match integer value with
  | valid n => if bound ≤ n then valid n else fail .greaterThanEqual
  | invalid vs => invalid vs

/-- A value that may be null. -/
def nullable {α : Type} (check : Json → Checked α) : Json → Checked (Option α)
  | .null => valid none
  | value => some <$> check value

/-- The items of a list from an index on. -/
def itemsFrom {α : Type} (check : Json → Checked α) (i : Nat) : List Json → Checked (List α)
  | [] => valid []
  | item :: rest => List.cons <$> (check item).within (.index i) <*> itemsFrom check (i + 1) rest

def list {α : Type} (check : Json → Checked α) : Json → Checked (List α)
  | .arr items => itemsFrom check 0 items
  | _ => fail .listType

/-- The fields of an object. -/
def entries {α : Type} (check : Json → Checked α) : List (String × Json) →
    Checked (List (String × α))
  | [] => valid []
  | (name, value) :: rest =>
    (fun v vs => (name, v) :: vs) <$> (check value).within (.field name) <*> entries check rest

/-- An object with any fields. -/
def table {α : Type} (check : Json → Checked α) : Json → Checked (List (String × α))
  | .obj fields => entries check fields
  | _ => fail .tableType

/-- A field with a value to take when it is absent. -/
def fieldOr {α : Type} (fields : List (String × Json)) (name : String) (default : α)
    (check : Json → Checked α) : Checked α :=
  match fields.lookup name with
  | some value => (check value).within (.field name)
  | none => valid default

/-- No fields but the known ones. -/
def onlyFields (known : List String) : List (String × Json) → Checked Unit
  | [] => valid ()
  | (name, _) :: rest =>
    (fun _ _ => ()) <$> (if known.contains name then valid () else (fail .extraForbidden).within
      (.field name)) <*> onlyFields known rest

/-- An object with certain fields and no others. Anything else is a violation of the given kind. -/
def object {α : Type} (refusal : Violation.Kind) (known : List String)
    (check : List (String × Json) → Checked α) : Json → Checked α
  | .obj fields => (fun value _ => value) <$> check fields <*> onlyFields known fields
  | _ => fail refusal

end Sift.Check
