import Sift.Text.Case
import Sift.Text.Integer
import Sift.Time.Almanac

/-!
# Date expressions

A date in a filter is a keyword, a number of seconds, a distance from a reference moment, or a
free-form date. What cannot be read, or lies outside the years 1 to 9999, is the start of 1970. Only
a number that is too long to be split into a unit and its sixtieths is a fault.

* keywords: `now`, `today`, `midnight`, `yesterday`, `tomorrow`,
* seconds since the start of 1970: `@1300000000`, or a bare number of nine digits or more,
* distances: `-1 week`, `3 hours`, `2 days ago`, `last month`.
-/

namespace Sift.DateExpr

open Text

/-- The units that distances are given in. -/
inductive TimeUnit
  | second
  | minute
  | hour
  | day
  | week
  | fortnight
  | month
  | year
  deriving DecidableEq, Repr

/-- The unit of a name. -/
def unit? (name : String) : Option TimeUnit :=
  match name with
  | "sec" | "secs" | "second" | "seconds" => some .second
  | "min" | "mins" | "minute" | "minutes" => some .minute
  | "hour" | "hours" => some .hour
  | "day" | "days" => some .day
  | "week" | "weeks" => some .week
  | "fortnight" | "fortnights" => some .fortnight
  | "month" | "months" => some .month
  | "year" | "years" => some .year
  | _ => none

/-- The span of some units. A fortnight is two weeks. -/
def TimeUnit.span (unit : TimeUnit) (n : Int) : Span :=
  match unit with
  | second => { Span.none with seconds := n }
  | minute => { Span.none with minutes := n }
  | hour => { Span.none with hours := n }
  | day => { Span.none with days := n }
  | week => { Span.none with weeks := n }
  | fortnight => { Span.none with weeks := 2 * n }
  | month => { Span.none with months := n }
  | year => { Span.none with years := n }

/-- A form of expression: the text is not of that form, or it is and names a moment, or it is and
names none. -/
abbrev Reading := Option (Option Moment)

/-- Reads a keyword. -/
def keyword? (text : List Char) (reference : Moment) : Reading :=
  let midnight := reference.midnight
  match String.ofList text with
  | "now" => some (some reference)
  | "today" | "midnight" => some (some midnight)
  | "yesterday" => some (midnight.add? (.ofDays (-1)))
  | "tomorrow" => some (midnight.add? (.ofDays 1))
  | _ => none

/-- The moment of a number of seconds given by its digits. -/
def secondsMoment? (negative : Bool) (digits : List Char) : Option Moment :=
  match Integer.ofRun digits with
  | .ok n => (Moment.ofEpoch (if negative then -(n : Int) else n)).inRange?
  | .error _ => none

/-- Reads a number of seconds. A bare number of digits of any kind has this form, but only decimal
ones denote a number. -/
def epoch? (text : List Char) : Reading :=
  match text with
  | '@' :: '-' :: digits => if isDigits digits then some (secondsMoment? true digits) else none
  | '@' :: digits => if isDigits digits then some (secondsMoment? false digits) else none
  | digits =>
    if isFigures digits && 8 < digits.length then
      some (if isDigits digits then secondsMoment? false digits else none)
    else none

def isUnitLetter (c : Char) : Bool := 'a' ≤ c && c ≤ 'z'

/-- The moment some units away. -/
def awayFrom? (almanac : Almanac) (reference : Moment) (unit : TimeUnit)
    (negative : Bool) (digits : List Char) : Option Moment :=
  match Integer.ofRun digits with
  | .ok n => almanac.move? reference (unit.span (if negative then -(n : Int) else n))
  | .error _ => none

/-- Reads a distance: a sign, a number and a unit, or a number and a unit with `ago` behind. -/
def distance? (almanac : Almanac) (text : List Char) (reference : Moment) : Reading :=
  let (sign, body) := match text with
    | '+' :: rest => (some false, rest.dropWhile isBlank)
    | '-' :: rest => (some true, rest.dropWhile isBlank)
    | cs => (none, cs)
  let digits := body.takeWhile isDigit
  let named := (body.dropWhile isDigit).dropWhile isBlank
  let name := named.takeWhile isUnitLetter
  let behind := named.dropWhile isUnitLetter
  if digits.isEmpty then none
  else match unit? (String.ofList name) with
  | none => none
  | some unit =>
    if behind.isEmpty then some (awayFrom? almanac reference unit (sign == some true) digits)
    else if sign.isNone && behind.head?.any isBlank && behind.dropWhile isBlank == "ago".toList then
      some (awayFrom? almanac reference unit true digits)
    else none

/-- Reads `last` or `next` and a unit. -/
def neighbour? (almanac : Almanac) (text : List Char) (reference : Moment) : Reading :=
  let word := text.takeWhile isUnitLetter
  let behind := text.dropWhile isUnitLetter
  let unit := unit? (String.ofList (behind.dropWhile isBlank))
  let count : Option Int := match String.ofList word with
    | "last" => some (-1)
    | "next" => some 1
    | _ => none
  match count, unit with
  | some n, some unit =>
    if behind.head?.any isBlank then some (almanac.move? reference (unit.span n)) else none
  | _, _ => none

/-- The moment that an expression names. -/
def moment (almanac : Almanac) (expr : String) (reference : Moment) :
    Except FreeForm.Fault Moment :=
  let text := (lower (String.ofList (trim expr.toList))).toList
  let form := keyword? text reference <|> epoch? text <|> distance? almanac text reference <|>
    neighbour? almanac text reference
  if text.isEmpty then .error .unreadable
  else match form with
  | some moment => FreeForm.readable moment
  | none => almanac.read text reference.midnight

/-- A number that has too many digits before its point. -/
structure Overlong where
  digits : Nat
  deriving DecidableEq, Repr

/-- The message of a number that is too long. -/
def Overlong.message (fault : Overlong) : String :=
  "a number of " ++ toString fault.digits ++ " digits cannot be split"

/-- The seconds since the start of 1970 that an expression stands for. -/
def timestamp (almanac : Almanac) (expr : String) (reference : Moment) : Except Overlong Int :=
  match moment almanac expr reference with
  | .ok m => .ok m.toEpoch
  | .error .unreadable => .ok 0
  | .error (.overlong digits) => .error ⟨digits⟩

end Sift.DateExpr
