/-!
# The calendar

Dates of the Gregorian calendar, which is taken to hold in all years. Day 0 is 1 January 1970.
-/

namespace Sift

structure Date where
  year : Int
  month : Nat
  day : Nat
  deriving DecidableEq, Repr, Inhabited

namespace Calendar

def isLeap (year : Int) : Bool := year % 4 == 0 && (year % 100 != 0 || year % 400 == 0)

def monthLength (year : Int) (month : Nat) : Nat :=
  if month = 2 then if isLeap year then 29 else 28
  else if month = 4 || month = 6 || month = 9 || month = 11 then 30
  else 31

/-- The number of days from 1 January of year 1 to 1 January of a year. -/
def daysBeforeYear (year : Int) : Int :=
  let y := year - 1
  y * 365 + y / 4 - y / 100 + y / 400

/-- The number of days of a year before a month. -/
def daysBeforeMonth (year : Int) (month : Nat) : Nat :=
  (List.range (month - 1)).foldl (fun days m => days + monthLength year (m + 1)) 0

/-- The day number of 1 January of year 1. -/
def firstDay : Int := -719162

end Calendar

namespace Date

open Calendar

/-- The date exists, in a year from 1 to 9999. -/
def isValid (d : Date) : Bool :=
  1 ≤ d.year && d.year ≤ 9999 && 1 ≤ d.month && d.month ≤ 12 && 1 ≤ d.day &&
    d.day ≤ monthLength d.year d.month

def toDay (d : Date) : Int :=
  firstDay + daysBeforeYear d.year + daysBeforeMonth d.year d.month + (d.day - 1 : Int)

/-- The year of a day that is `n` days after 1 January of year 1. The first guess may be one too
late. -/
def yearOf (n : Int) : Int :=
  let guess := n * 400 / 146097 + 1
  if n < daysBeforeYear guess then guess - 1
  else if daysBeforeYear (guess + 1) ≤ n then guess + 1
  else guess

/-- The month and the day of the month, counting from a month on with `n` days to go. -/
def monthAndDay (year : Int) (month : Nat) (n : Nat) : Nat → Nat × Nat
  | 0 => (month, n + 1)
  | more + 1 =>
    if n < monthLength year month then (month, n + 1)
    else monthAndDay year (month + 1) (n - monthLength year month) more

def ofDay (day : Int) : Date :=
  let n := day - firstDay
  let year := yearOf n
  let (month, day) := monthAndDay year 1 (n - daysBeforeYear year).toNat 11
  ⟨year, month, day⟩

/-- The day of the week of a day number, Monday being 0. -/
def weekday (day : Int) : Nat := ((day + 3) % 7).toNat

/-- The date some months later, its day no later than the month allows. -/
def addMonths (d : Date) (months : Int) : Date :=
  let index := d.year * 12 + (d.month - 1 : Int) + months
  let year := index / 12
  let month := (index % 12).toNat + 1
  ⟨year, month, min d.day (monthLength year month)⟩

end Date

end Sift
