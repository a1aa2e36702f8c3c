import Sift.Boundary.Almanac.Words
import Sift.Number.Binary64
import Sift.Text.Fields
import Sift.Text.Integer
import Sift.Time.Almanac

/-!
# The standard almanac

The almanac that the program runs with.

To move a clock, a span is first brought to its normal form, in which a unit that is full counts as
one of the next; then its years and months are added in the calendar, and what is left of it is added
as one duration.

A free-form date is a date and a time in words and numbers, in most of the orders in which people
write them. The words are read one after the other, and what a number means depends on its length, on
the words around it and on what was read before. Fields that the text leaves open come from a default
moment. Any word that is not understood makes the text unreadable. Apart from that there is one other
way to fail: a number that is split into a unit and its sixtieths has more digits than are calculated
with. Decimal fractions are calculated with to 28 significant digits; what goes beyond them is
rounded, a half going to the even neighbour. A year of two digits is the one nearest to a given year.
-/

namespace Sift

/-! ## Fixed-point numbers -/

/-- The number `digits / 10 ^ places`. -/
structure FixedPoint where
  digits : Nat
  places : Nat
  deriving DecidableEq, Repr

namespace FixedPoint

/-- The number of significant digits that are kept. -/
def precision : Nat := 28

/-- The nearest number of no more than `precision` significant digits. -/
def rounded (x : FixedPoint) : FixedPoint :=
  let excess := (Nat.toDigits 10 x.digits).length - precision
  if excess = 0 then x else ⟨roundDiv x.digits (Nat.pow 10 excess), x.places - excess⟩

/-- The product with a natural number, rounded. -/
def scale (x : FixedPoint) (factor : Nat) : FixedPoint := rounded ⟨factor * x.digits, x.places⟩

/-- The whole part. -/
def floor (x : FixedPoint) : Nat := x.digits / Nat.pow 10 x.places

end FixedPoint

namespace FreeForm

open Text

/-! ## Vocabulary -/

/-- Words that mean nothing. -/
def fillers : List String :=
  [" ", ".", ",", ";", "-", "/", "'", "at", "on", "and", "ad", "m", "t", "of", "st", "nd", "rd",
    "th"]

/-- The names of the days of the week from Monday. -/
def weekdays : List (List String) :=
  [["mon", "monday"], ["tue", "tuesday"], ["wed", "wednesday"], ["thu", "thursday"],
    ["fri", "friday"], ["sat", "saturday"], ["sun", "sunday"]]

/-- The names of the months from January. -/
def months : List (List String) :=
  [["jan", "january"], ["feb", "february"], ["mar", "march"], ["apr", "april"], ["may"],
    ["jun", "june"], ["jul", "july"], ["aug", "august"], ["sep", "sept", "september"],
    ["oct", "october"], ["nov", "november"], ["dec", "december"]]

/-- The names of hours, minutes and seconds. -/
def clockUnits : List (List String) :=
  [["h", "hour", "hours"], ["m", "minute", "minutes"], ["s", "second", "seconds"]]

/-- The names of the halves of the day. -/
def halves : List (List String) := [["am", "a"], ["pm", "p"]]

/-- The place of a word in a list of synonyms. -/
def placeIn? (table : List (List String)) (word : String) : Option Nat :=
  table.findIdx? (·.contains word)

def isFiller (word : String) : Bool := fillers.contains word

/-! ## Numbers -/

/-- A number with the digits of its fraction. -/
structure Decimal where
  whole : Nat
  fraction : List Char

/-- Reads digits, with a point and digits or without. -/
def decimal? (word : String) : Option Decimal :=
  match fields '.' word.toList with
  | [whole] => if isDigits whole then some ⟨ofDigits whole, []⟩ else none
  | [whole, fraction] =>
    if isDigits whole && isDigits fraction then some ⟨ofDigits whole, fraction⟩ else none
  | _ => none

def natural? (cs : List Char) : Option Nat :=
  if isDigits cs then (Integer.ofRun cs).toOption else none

namespace Decimal

def isWhole (d : Decimal) : Bool := ofDigits d.fraction == 0

/-- The fraction, as it is calculated with. -/
def remainder (d : Decimal) : FixedPoint :=
  FixedPoint.rounded ⟨ofDigits d.fraction, d.fraction.length⟩

/-- The whole sixtieths of the fraction, none when it is zero. -/
def sixtieths (d : Decimal) : Except Fault (Option Nat) :=
  let digits := (Nat.toDigits 10 d.whole).length
  if FixedPoint.precision < digits then .error (.overlong digits)
  else if d.isWhole then .ok none
  else .ok (some (d.remainder.scale 60).floor)

/-- The number is between 1 and a limit. -/
def isWithin (d : Decimal) (limit : Nat) : Bool :=
  1 ≤ d.whole && (d.whole < limit || d.whole = limit && d.isWhole)

end Decimal

/-- Whole seconds and microseconds. -/
def secondsOf? (cs : List Char) : Option (Nat × Nat) :=
  match fields '.' cs with
  | [whole] => (natural? whole).map (·, 0)
  | [whole, fraction] => do
    let seconds ← natural? whole
    let micros ← natural? ((fraction ++ List.replicate (6 - fraction.length) '0').take 6)
    return (seconds, micros)
  | _ => none

/-! ## What was read -/

/-- What has been read of a date and a time. -/
structure Parts where
  /-- The numbers that make up the date, in the order of the text. -/
  numbers : List Nat
  /-- Which of them is known to be the month. -/
  monthAt : Option Nat
  /-- Which of them is known to be the year. -/
  yearAt : Option Nat
  /-- The year was written with its century. -/
  fullYear : Bool
  weekday : Option Nat
  hour : Option Nat
  minute : Option Nat
  second : Option Nat
  micros : Option Nat
  /-- Universal time was named. -/
  universal : Bool
  /-- The seconds by which the clock is ahead of universal time. -/
  offset : Option Int

/-- Nothing was read. -/
def Parts.none : Parts :=
  ⟨[], .none, .none, false, .none, .none, .none, .none, .none, false, .none⟩

namespace Parts

/-- Adds a number of the date. -/
def addNumber (p : Parts) (n : Nat) : Parts := { p with numbers := p.numbers ++ [n] }

/-- Adds the year, which may be known once. -/
def addYear? (p : Parts) (n : Nat) : Option Parts :=
  if p.yearAt.isSome then .none
  else some { p.addNumber n with yearAt := some p.numbers.length, fullYear := true }

/-- Adds the month, which may be known once. -/
def addMonth? (p : Parts) (n : Nat) : Option Parts :=
  if p.monthAt.isSome then .none
  else some { p.addNumber n with monthAt := some p.numbers.length }

/-- Adds digits of the date. Three or more are a year. -/
def addDigits? (p : Parts) (cs : List Char) : Option Parts := do
  let n ← natural? cs
  if 2 < cs.length then p.addYear? n else some (p.addNumber n)

/-- Adds a number of the date. One above a hundred is a year. -/
def addDecimal? (p : Parts) (d : Decimal) : Option Parts :=
  if 100 < d.whole || d.whole = 100 && !d.isWhole then p.addYear? d.whole
  else some (p.addNumber d.whole)

def addYearDigits? (p : Parts) (cs : List Char) : Option Parts := do p.addYear? (← natural? cs)

def setHour (p : Parts) (hour : Nat) (half : Option Nat) : Parts :=
  let hour := match half with
    | some 1 => if hour < 12 then hour + 12 else hour
    | some 0 => if hour = 12 then 0 else hour
    | _ => hour
  { p with hour := some hour }

/-- Sets minutes and the seconds in their fraction. -/
def setMinutes (p : Parts) (d : Decimal) : Except Fault Parts := do
  return { p with minute := some d.whole, second := ← d.sixtieths }

/-- Sets seconds and microseconds. -/
def setSeconds? (p : Parts) (cs : List Char) : Option Parts := do
  let (second, micros) ← secondsOf? cs
  return { p with second := some second, micros := some micros }

/-- Sets the value of a unit of the clock. -/
def setUnit (p : Parts) (unit : Nat) (word : String) (d : Decimal) : Except Fault Parts :=
  match unit with
  | 0 => do
    let p := p.setHour d.whole .none
    match ← d.sixtieths with
    | some minute => return { p with minute := some minute }
    | .none => return p
  | 1 => p.setMinutes d
  | 2 => readable (p.setSeconds? word.toList)
  | _ => .ok p

/-- A number may be the day of the month as far as the month is known. -/
def couldBeDay (p : Parts) (d : Decimal) : Bool :=
  match p.monthAt with
  | .none => d.isWithin 31
  | some at_ =>
    let year : Int := match p.yearAt with
      | some y => p.numbers.getD y 0
      | .none => 2000
    d.isWithin (Calendar.monthLength year (p.numbers.getD at_ 0))

end Parts

/-! ## Reading numbers -/

/-- The unit that a number is in, from the words around it, and how many of the words behind it tell
the unit. A unit before the number makes it a number of the next smaller unit. -/
def unitAround? (before after : List String) : Option (Nat × Nat) :=
  let unit? := placeIn? clockUnits
  match after with
  | next :: behind =>
    match unit? next with
    | some unit => some (unit, 1)
    | none =>
      match (if next = " " then behind.head?.bind unit? else none) with
      | some unit => some (unit, 2)
      | none => (before.head?.bind unit?).map fun unit => (unit + 1, 0)
  | [] =>
    match before.head?.bind unit? with
    | some unit => some (unit + 1, 0)
    | none =>
      match before with
      | " " :: previous :: _ => (unit? previous).map fun unit => (unit + 1, 0)
      | _ => none

/-- Reads the month name or the digits of a part of the date. -/
def addMember? (p : Parts) (word : String) : Option Parts :=
  match placeIn? months word with
  | some month => p.addMonth? (month + 1)
  | none => p.addDigits? word.toList

/-- Reads a number that is followed by a separator of dates, with up to two more members. -/
def readSeparated? (p : Parts) (word separator : String) (behind : List String) :
    Option (Parts × Nat) := do
  let p ← p.addDigits? word.toList
  match behind with
  | [] => return (p, 1)
  | second :: behind =>
    if isFiller second then return (p, 1)
    let p ← if isFigures second.toList then p.addDigits? second.toList
      else (placeIn? months second).bind fun month => p.addMonth? (month + 1)
    match behind with
    | mark :: behind =>
      if mark = separator then
        match behind with
        | third :: _ => return (← addMember? p third, 4)
        | [] => none
      else return (p, 2)
    | [] => return (p, 2)

/-- Reads the minutes behind an hour and a colon, and the seconds if there are any. -/
def readClock (p : Parts) (hour : Nat) (behind : List String) : Except Fault (Parts × Nat) :=
  match behind with
  | minutes :: behind => do
    let p ← (p.setHour hour none).setMinutes (← readable (decimal? minutes))
    match behind with
    | ":" :: seconds :: _ => return (← readable (p.setSeconds? seconds.toList), 4)
    | _ => return (p, 2)
  | [] => .error .unreadable

/-- Reads a number of figures `cs` when its length tells what it means: the hour behind a full date,
a date without separators, or a time without separators. -/
def readByLength? (p : Parts) (cs : List Char) (beforeClock : Bool) : Option (Option Parts) :=
  let length := cs.length
  let pointAt := cs.findIdx? (· == '.')
  if p.numbers.length = 3 && (length = 2 || length = 4) && p.hour.isNone && !beforeClock then
    some do
      let p := p.setHour (← natural? (cs.take 2)) none
      if length = 4 then return { p with minute := some (← natural? (cs.drop 2)) } else return p
  else if length = 6 || (6 < length && pointAt = some 6) then
    some do
      if p.numbers.isEmpty && pointAt.isNone then
        let p ← p.addDigits? (cs.take 2)
        let p ← p.addDigits? ((cs.drop 2).take 2)
        p.addDigits? (cs.drop 4)
      else
        let p := p.setHour (← natural? (cs.take 2)) none
        let p := { p with minute := some (← natural? ((cs.drop 2).take 2)) }
        p.setSeconds? (cs.drop 4)
  else if length = 8 || length = 12 || length = 14 then
    some do
      let p ← p.addYearDigits? (cs.take 4)
      let p ← p.addDigits? ((cs.drop 4).take 2)
      let p ← p.addDigits? ((cs.drop 6).take 2)
      if length = 8 then return p
      let p := p.setHour (← natural? ((cs.drop 8).take 2)) none
      let p := { p with minute := some (← natural? ((cs.drop 10).take 2)) }
      if length = 12 then return p
      return { p with second := some (← natural? (cs.drop 12)) }
  else none

/-- Reads a number that is no part of a clock, from the words behind it. -/
def readBare? (p : Parts) (word : String) (d : Decimal) (after : List String) :
    Option (Parts × Nat) :=
  match after with
  | next :: behind =>
    if next = "-" || next = "/" || next = "." then readSeparated? p word next behind
    else if isFiller next then
      match behind.head?.bind (placeIn? halves) with
      | some half => some (p.setHour d.whole (some half), 2)
      | none => (p.addDecimal? d).map (·, 1)
    else match placeIn? halves next with
      | some half =>
        if d.whole < 24 then some (p.setHour d.whole (some half), 1)
        else if p.couldBeDay d then (p.addDecimal? d).map (·, 0)
        else none
      | none => if p.couldBeDay d then (p.addDecimal? d).map (·, 0) else none
  | [] => (p.addDecimal? d).map (·, 0)

/-- Reads a number. Gives how many of the words behind it were read with it. -/
def readNumber (p : Parts) (before : List String) (word : String) (d : Decimal)
    (after : List String) : Except Fault (Parts × Nat) :=
  let beforeClock := match after with
    | next :: _ => next = ":" || (placeIn? clockUnits next).isSome
    | [] => false
  match readByLength? p word.toList beforeClock with
  | some p => readable (p.map (·, 0))
  | none =>
    match unitAround? before after with
    | some (unit, read) => (p.setUnit unit word d).map (·, read)
    | none =>
      match after with
      | ":" :: minutes :: behind => readClock p d.whole (minutes :: behind)
      | after => readable (readBare? p word d after)

/-! ## Reading words -/

/-- The year of two digits that is nearest to a given year. -/
def nearestYear (near year : Int) : Int :=
  let year := year + near / 100 * 100
  if near + 50 ≤ year then year - 100 else if year < near - 50 then year + 100 else year

/-- Reads a month name, with the day or the year that is tied to it. -/
def readMonth? (p : Parts) (near : Int) (month : Nat) (after : List String) :
    Option (Parts × Nat) := do
  let p ← p.addMonth? month
  match after with
  | separator :: behind =>
    if separator = "-" || separator = "/" then
      match behind with
      | second :: behind =>
        let p ← p.addDigits? second.toList
        match behind with
        | mark :: behind =>
          if mark = separator then
            match behind with
            | third :: _ => return (← p.addDigits? third.toList, 4)
            | [] => none
          else return (p, 2)
        | [] => return (p, 2)
      | [] => none
    else match separator, behind with
      | " ", "of" :: " " :: year :: _ =>
        if isFigures year.toList then
          let n ← natural? year.toList
          let full : Int := if n < 100 then nearestYear near n else n
          return (← p.addYear? full.toNat, 4)
        else return (p, 4)
      | _, _ => return (p, 0)
  | [] => return (p, 0)

/-- Reads the offset of a clock behind its sign. -/
def readOffset? (p : Parts) (sign : Int) (after : List String) : Option (Parts × Nat) :=
  match after with
  | [] => none
  | word :: behind =>
    let cs := word.toList
    let set (hours minutes : Nat) (read : Nat) : Parts × Nat :=
      ({ p with offset := some (sign * (hours * 3600 + minutes * 60 : Nat)) }, read)
    if cs.length = 4 then do
      return set (← natural? (cs.take 2)) (← natural? (cs.drop 2)) 1
    else match behind with
      | ":" :: behind => do return set (← natural? cs) (← natural? (← behind.head?).toList) 3
      | _ => if cs.length ≤ 2 then do return set (← natural? cs) 0 1 else none

/-- Reads a word that is no number. Gives how many of the words behind it were read with it. -/
def readName? (p : Parts) (near : Int) (word : String) (after : List String) :
    Option (Parts × Nat) :=
  match placeIn? weekdays word with
  | some weekday => some ({ p with weekday := some weekday }, 0)
  | none => match placeIn? months word with
  | some month => readMonth? p near (month + 1) after
  | none => match placeIn? halves word with
  | some half => match p.hour with
    | some hour => if hour ≤ 12 then some (p.setHour hour (some half), 0) else none
    | none => none
  | none =>
    if p.hour.isSome && !p.universal && p.offset.isNone && word = "z" then
      some ({ p with universal := true, offset := some 0 }, 0)
    else if p.hour.isSome && (word = "+" || word = "-") then
      readOffset? p (if word = "+" then 1 else -1) after
    else if isFiller word then some (p, 0)
    else none

/-- Reads one word. Gives how many of the words behind it were read with it. -/
def readWord (p : Parts) (near : Int) (before : List String) (word : String)
    (after : List String) : Except Fault (Parts × Nat) :=
  match decimal? word with
  | some d => readNumber p before word d after
  | none => readable (readName? p near word after)

/-- An offset behind `z` is counted the other way, and then universal time was not meant. -/
def turned (p : Parts) (word : String) (after : List String) : Parts × List String :=
  if word = "z" && p.universal then
    match after with
    | "+" :: behind => ({ p with universal := false, offset := none }, "-" :: behind)
    | "-" :: behind => ({ p with universal := false, offset := none }, "+" :: behind)
    | _ => (p, after)
  else (p, after)

/-- Reads words up to the end. -/
def readWords (p : Parts) (near : Int) (before : List String) (after : List String) :
    Except Fault Parts :=
  match after with
  | [] => .ok p
  | word :: rest =>
    match readWord p near before word rest with
    | .error fault => .error fault
    | .ok (p, read) =>
      let turn := turned p word rest
      readWords turn.1 near ((turn.2.take read).reverse ++ word :: before) (turn.2.drop read)
  termination_by after.length
  decreasing_by
    have h : (turned p word rest).2.length = rest.length := by
      unfold turned
      split
      · split <;> simp
      · rfl
    simp only [List.length_drop, List.length_cons]
    omega

/-! ## The date and the time -/

/-- Year, month and day as far as they are known. -/
structure Ymd where
  year : Option Nat
  month : Option Nat
  day : Option Nat

/-- Two numbers, neither known to be the month. -/
def twoNumbers (a b : Nat) : Ymd :=
  if 31 < a then ⟨some a, some b, none⟩
  else if 31 < b then ⟨some b, some a, none⟩
  else ⟨none, some a, some b⟩

/-- Three numbers, of which at most one is known. -/
def threeNumbers (monthAt yearAt : Option Nat) (a b c : Nat) : Ymd :=
  match monthAt with
  | some 0 => if 31 < b then ⟨some b, some a, some c⟩ else ⟨some c, some a, some b⟩
  | some 1 => if 31 < a then ⟨some a, some b, some c⟩ else ⟨some c, some b, some a⟩
  | some 2 => if 31 < b then ⟨some b, some c, some a⟩ else ⟨some a, some c, some b⟩
  | _ =>
    if 31 < a || yearAt = some 0 then ⟨some a, some b, some c⟩
    else if 12 < a then ⟨some c, some b, some a⟩
    else ⟨some c, some a, some b⟩

/-- Tells which of the numbers of a date is which. -/
def ymd? (p : Parts) : Option Ymd :=
  match p.numbers, p.monthAt, p.yearAt with
  | [], _, _ => some ⟨none, none, none⟩
  | [y], none, some _ => some ⟨some y, none, none⟩
  | [m], some _, _ => some ⟨none, some m, none⟩
  | [n], none, none => some (if 31 < n then ⟨some n, none, none⟩ else ⟨none, none, some n⟩)
  | [a, b], some m, some _ =>
    some (if m = 0 then ⟨some b, some a, none⟩ else ⟨some a, some b, none⟩)
  | [a, b], some m, none =>
    let (month, other) := if m = 0 then (a, b) else (b, a)
    some (if 31 < other then ⟨some other, some month, none⟩ else ⟨none, some month, some other⟩)
  | [a, b], none, _ => some (twoNumbers a b)
  | [a, b, c], some m, some y =>
    let number (i : Nat) : Option Nat := [a, b, c][i]?
    some ⟨number y, number m, number (3 - m - y)⟩
  | [a, b, c], m, y => some (threeNumbers m y a b c)
  | _, _, _ => none

def Parts.isSome (p : Parts) : Bool :=
  !p.numbers.isEmpty || p.weekday.isSome || p.hour.isSome || p.minute.isSome || p.second.isSome

/-- The date, where open fields come from `default`. An open day is no later than the month allows,
and a day of the week alone moves the date forward. -/
def dateFrom? (p : Parts) (near : Int) (default : Date) : Option Int := do
  let ymd ← ymd? p
  let year : Int := match ymd.year with
    | some y => if y < 100 && !p.fullYear then nearestYear near y else y
    | none => default.year
  let month := ymd.month.getD default.month
  let day := ymd.day.getD (min default.day (Calendar.monthLength year month))
  let date : Date := ⟨year, month, day⟩
  if !date.isValid then failure
  let number := date.toDay
  match p.weekday, ymd.day with
  | some weekday, none => return number + ((7 + weekday - Date.weekday number) % 7 : Nat)
  | _, _ => return number

/-- The second of the day. -/
def secondFrom? (p : Parts) : Option Nat :=
  let hour := p.hour.getD 0
  let minute := p.minute.getD 0
  let second := p.second.getD 0
  if hour < 24 && minute < 60 && second < 60 then some ((hour * 60 + minute) * 60 + second)
  else none

/-- The offset of the clock, in microseconds. Clocks differ by less than a day. -/
def offsetFrom? (p : Parts) (default : Int) : Option Int :=
  if p.universal then some 0
  else match p.offset with
    | some n => if n.natAbs < 86400 then some (n * 1000000) else none
    | none => some default

/-- The moment that was read. Open fields come from the day of `default`, whose clock is used unless
the text names another. -/
def momentFrom? (p : Parts) (near : Int) (default : Moment) : Option Moment := do
  if !p.isSome then failure
  let day ← dateFrom? p near default.date
  let second ← secondFrom? p
  let offset ← offsetFrom? p default.offset
  Moment.inRange? ⟨day * 86400 + second, p.micros.getD 0, offset⟩

/-- Reads a free-form date in the year `near`. -/
def read (near : Int) (text : List Char) (default : Moment) : Except Fault Moment := do
  let p ← readWords .none near [] (words text)
  readable (momentFrom? p near default)

end FreeForm

/-! ## Moving clocks -/

/-- A span with months below a year, hours below a day, and minutes and seconds below an hour and a
minute. What is full of a unit goes to the next one with its sign. -/
def Span.normalized (span : Span) : Span :=
  let minutes := span.minutes + span.seconds.tdiv 60
  let hours := span.hours + minutes.tdiv 60
  { years := span.years + span.months.tdiv 12
    months := span.months.tmod 12
    weeks := 0
    days := 7 * span.weeks + span.days + hours.tdiv 24
    hours := hours.tmod 24
    minutes := minutes.tmod 60
    seconds := span.seconds.tmod 60 }

/-- Adds a span in its normal form. -/
def Moment.addNormalized? (m : Moment) (span : Span) : Option Moment := do
  let moved ← m.addMonths? (12 * span.years + span.months)
  let length ← Duration.ofSeconds?
    (86400 * span.days + 3600 * span.hours + 60 * span.minutes + span.seconds)
  moved.add? length

/-- The almanac of a year, to which years of two digits are near. -/
def Almanac.standard (year : Int) : Almanac where
  move? m span := m.addNormalized? span.normalized
  read := FreeForm.read year

end Sift
