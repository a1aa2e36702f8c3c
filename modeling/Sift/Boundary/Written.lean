import Sift.Text.Bytes
import Sift.Text.Character
import Sift.Text.Quoted
import Sift.Time.Moment

/-!
# Written moments

A moment is written as a date, one character of any kind, and a time of day with the offset of the
clock behind it, as in `2011-03-13T14:00:00.5+01:00`. Hyphens and colons may be left out, and the
date may count weeks. Without a time it is the start of the day; without an offset the clock shows
universal time.

Reading goes by bytes. Behind the end of a text a zero byte is seen, and one stray byte is passed
over between a time of day and its offset.
-/

namespace Sift.Moment

open Text (Bytes)

/-! ## Faults -/

inductive Fault
  | malformed (text : String)
  | year (n : Int)
  | month
  | day
  | hour
  | minute
  | second
  /-- An offset in microseconds, of a day or more. -/
  | offset (micros : Int)
  deriving DecidableEq, Repr

/-- A length of time as days, seconds and microseconds, of which the days alone may be negative. -/
def lengthText (micros : Int) : String :=
  let parts := [("days", micros / 86400000000), ("seconds", micros % 86400000000 / 1000000),
    ("microseconds", micros % 1000000)].filter (·.2 ≠ 0)
  let texts := parts.map fun (name, n) => name ++ "=" ++ toString n
  "datetime.timedelta(" ++ (if texts.isEmpty then "0" else ", ".intercalate texts) ++ ")"

def Fault.message : Fault → String
  | .malformed text => "Invalid isoformat string: " ++ Text.quoted text
  | .year n => "year " ++ toString n ++ " is out of range"
  | .month => "month must be in 1..12"
  | .day => "day is out of range for month"
  | .hour => "hour must be in 0..23"
  | .minute => "minute must be in 0..59"
  | .second => "second must be in 0..59"
  | .offset micros =>
    "offset must be a timedelta strictly between -timedelta(hours=24) and timedelta(hours=24), " ++
      "not " ++ lengthText micros ++ "."

/-! ## Bytes -/

/-- The byte of a character. -/
def byte (c : Char) : Nat := c.toNat

def isDigitByte (b : Nat) : Bool := byte '0' ≤ b && b ≤ byte '9'

/-- The byte at a place. -/
def byteAt (bs : Bytes) (i : Nat) : Nat := (bs.drop i).headD 0

/-- A number of exactly `count` digits at the start, and what follows. -/
def takeNumber? (count : Nat) (bs : Bytes) : Option (Nat × Bytes) :=
  let digits := bs.take count
  if digits.length = count && digits.all isDigitByte then
    some (digits.foldl (fun n b => 10 * n + (b - byte '0')) 0, bs.drop count)
  else none

/-! ## Dates -/

/-- How many bytes the date takes at the start of a text. Where a week could be followed by a day or
by a time without a colon, an even number of digits belongs to the time. -/
def dateLength (bs : Bytes) : Nat :=
  if bs.length = 7 then 7
  else if byteAt bs 4 = byte '-' then
    if byteAt bs 5 != byte 'W' then 10
    else if byteAt bs 8 != byte '-' || isDigitByte (byteAt bs 10) then 8
    else 10
  else if byteAt bs 4 != byte 'W' then 8
  else
    let digits := ((bs.drop 7).takeWhile isDigitByte).length
    if digits < 2 then 7 + digits else if digits % 2 = 1 then 7 else 8

/-- The Monday of the first week of a year, which has the first Thursday. -/
def firstMonday (year : Int) : Int :=
  let newYear := Date.toDay ⟨year, 1, 1⟩
  let weekday := Date.weekday newYear
  newYear - weekday + if 3 < weekday then 7 else 0

/-- The date of a day of a week, if the year has that week. -/
def ofWeek? (year week day : Nat) : Option Date :=
  let newYear := Date.weekday (Date.toDay ⟨year, 1, 1⟩)
  let weeks := if newYear = 3 || newYear = 2 && Calendar.isLeap year then 53 else 52
  if 1 ≤ year && 1 ≤ week && week ≤ weeks && 1 ≤ day && day ≤ 7 then
    some (.ofDay (firstMonday year + (week - 1) * 7 + (day - 1)))
  else none

/-- Reads the date in the first `length` bytes of a text. -/
def takeDate? (bs : Bytes) (length : Nat) : Option Date := do
  let (year, rest) ← takeNumber? 4 bs
  let hyphens := byteAt rest 0 = byte '-'
  let behindHyphen (bs : Bytes) : Option Bytes :=
    if !hyphens then some bs else if byteAt bs 0 = byte '-' then some (bs.drop 1) else none
  let rest ← behindHyphen rest
  if byteAt rest 0 = byte 'W' then
    let (week, rest) ← takeNumber? 2 (rest.drop 1)
    if bs.length - rest.length < length then
      let (day, _) ← takeNumber? 1 (← behindHyphen rest)
      ofWeek? year week day
    else ofWeek? year week 1
  else
    let (month, rest) ← takeNumber? 2 rest
    let (day, _) ← takeNumber? 2 (← behindHyphen rest)
    return ⟨year, month, day⟩

/-! ## Times of day -/

/-- A time of day: hours, minutes and seconds as far as they are written, and microseconds. It is
whole when nothing is left over behind it. -/
structure Clock where
  parts : List Nat
  micros : Nat
  isWhole : Bool

def Clock.seconds (c : Clock) : Nat :=
  (c.parts.getD 0 0 * 60 + c.parts.getD 1 0) * 60 + c.parts.getD 2 0

/-- Reads a fraction of a second, of which six digits count. -/
def fraction? (parts : List Nat) (bs after : Bytes) : Option Clock := do
  let count := min 6 bs.length
  let (n, rest) ← takeNumber? count bs
  let rest := rest.dropWhile isDigitByte ++ after
  return ⟨parts, n * Nat.pow 10 (6 - count), rest.headD 0 == 0⟩

/-- Reads up to `more` parts of a clock, each with or without a colon behind it, and a fraction.
What is `after` the clock is seen and not read. -/
def clockFrom? (colons : Bool) (after : Bytes) (parts : List Nat) :
    Nat → Bytes → Option Clock
  | 0, bs => fraction? parts bs after
  | more + 1, bs => do
    let (n, rest) ← takeNumber? 2 bs
    let parts := parts ++ [n]
    let next := (rest ++ after).headD 0
    if rest.length ≤ 1 then return ⟨parts, 0, next == 0⟩
    if colons && next == byte ':' then clockFrom? colons after parts more (rest.drop 1)
    else if next == byte '.' || next == byte ',' then fraction? parts (rest.drop 1) after
    else if colons then failure
    else clockFrom? colons after parts more rest

/-- Reads a clock. Colons are behind all parts or behind none. -/
def clock? (bs after : Bytes) : Option Clock :=
  clockFrom? (byteAt bs 2 == byte ':') after [] 3 bs

/-- Reads a time of day and the offset of its clock in microseconds. -/
def timeOfDay? (bs : Bytes) : Option (Clock × Int) := do
  let isSign (b : Nat) : Bool := b == byte '+' || b == byte '-' || b == byte 'Z'
  let body := bs.takeWhile (! isSign ·)
  let after := bs.drop body.length
  let clock ← clock? body after
  match after with
  | [] => if clock.isWhole then return (clock, 0) else failure
  | sign :: rest =>
    if sign = byte 'Z' then
      if rest.headD 0 = 0 then return (clock, 0) else failure
    else
      let distance ← clock? rest []
      let micros : Nat := distance.seconds * 1000000 + distance.micros
      if !distance.isWhole then failure
      return (clock, if sign = byte '-' then -(micros : Int) else micros)

/-! ## Moments -/

/-- How many bytes a character takes whose first byte is given. -/
def bytesFrom (first : Nat) : Nat :=
  if first < 0x80 then 1 else if first < 0xE0 then 2 else if first < 0xF0 then 3 else 4

/-- The parts of a written moment: date, time of day and offset. -/
def parts? (bs : Bytes) : Option (Date × Clock × Int) := do
  if bs.length < 7 then failure
  let length := dateLength bs
  let date ← takeDate? bs length
  if bs.length ≤ length then return (date, ⟨[], 0, true⟩, 0)
  let (clock, offset) ← timeOfDay? (bs.drop (length + bytesFrom (byteAt bs length)))
  return (date, clock, offset)

/-- Checks that a date exists. -/
def checkDate (date : Date) : Except Fault Unit := do
  if date.year < 1 || 9999 < date.year then throw (.year date.year)
  if date.month < 1 || 12 < date.month then throw .month
  if !date.isValid then throw .day

/-- Checks that a day has a time. -/
def checkClock (clock : Clock) : Except Fault Unit := do
  if 24 ≤ clock.parts.getD 0 0 then throw .hour
  if 60 ≤ clock.parts.getD 1 0 then throw .minute
  if 60 ≤ clock.parts.getD 2 0 then throw .second

/-- Reads a written moment. -/
def ofText (text : String) : Except Fault Moment := do
  let some (date, clock, offset) := parts? (Text.utf8 text) | throw (.malformed text)
  if 86400000000 ≤ offset.natAbs then throw (.offset offset)
  checkDate date
  checkClock clock
  return ⟨date.toDay * 86400 + clock.seconds, clock.micros, offset⟩

end Sift.Moment
