import Sift.Calendar
import Sift.Number.Binary64

/-!
# Moments

A moment is read on a clock: the seconds that the clock shows, counted from the start of 1970, some
microseconds, and the microseconds by which the clock is ahead of universal time. Clocks show the
years 1 to 9999.

A duration is added to the date and to the time of the day that a clock shows, and months are added
to the date alone.
-/

namespace Sift

/-- A length of time in whole days and a part of a day. Only the days may be negative. -/
structure Duration where
  days : Int
  seconds : Nat
  seconds_lt : seconds < 86400
  deriving DecidableEq, Repr

namespace Duration

/-- The greatest number of days that is calculated with, forward and back. -/
def maxDays : Nat := 999999999

/-- Some whole days. -/
def ofDays (days : Int) : Duration := ⟨days, 0, by decide⟩

/-- The duration of some seconds, if it has no more days than are calculated with. -/
def ofSeconds? (seconds : Int) : Option Duration :=
  if (seconds / 86400).natAbs ≤ maxDays then
    some ⟨seconds / 86400, (seconds % 86400).toNat, by omega⟩
  else none

end Duration

/-- A moment on a clock. -/
structure Moment where
  seconds : Int
  micros : Nat
  offset : Int
  deriving DecidableEq, Repr, Inhabited

namespace Moment

/-- The first second of year 1. -/
def firstSecond : Int := -62135596800

/-- The last second of year 9999. -/
def lastSecond : Int := 253402300799

/-- The moment, if clocks show it. -/
def inRange? (m : Moment) : Option Moment :=
  if firstSecond ≤ m.seconds && m.seconds ≤ lastSecond then some m else none

/-- The moment of universal time at a number of seconds. -/
def ofEpoch (seconds : Int) : Moment := ⟨seconds, 0, 0⟩

/-- Seconds of universal time without their fraction. A moment with a fraction is rounded to binary
floating point before the fraction is dropped. -/
def toEpoch (m : Moment) : Int :=
  let micros := m.seconds * 1000000 + m.micros - m.offset
  if micros % 1000000 = 0 then micros / 1000000
  else ((Binary64.ofRatio (micros < 0) micros.natAbs 1000000).truncate?).getD 0

/-- The date that the clock shows. -/
def date (m : Moment) : Date := .ofDay (m.seconds / 86400)

/-- The second of the day that the clock shows. -/
def secondOfDay (m : Moment) : Int := m.seconds % 86400

def midnight (m : Moment) : Moment := { m with seconds := m.seconds - m.secondOfDay, micros := 0 }

/-- The moment some time later. What is past the end of the day carries over to the date. -/
def add? (m : Moment) (length : Duration) : Option Moment :=
  let second := m.secondOfDay + length.seconds
  let date := Date.ofDay (m.date.toDay + length.days + second / 86400)
  if date.isValid then some { m with seconds := date.toDay * 86400 + second % 86400 } else none

/-- The moment some months later, at the same time of the day. -/
def addMonths? (m : Moment) (n : Int) : Option Moment :=
  let date := m.date.addMonths n
  if date.isValid then some { m with seconds := date.toDay * 86400 + m.secondOfDay } else none

end Moment

end Sift
