import Sift.Boundary.Almanac
import Sift.Proofs.Time.Calendar

/-!
# Moving clocks

A duration is added to the date and to the time of the day, and what is past the end of the day carries
over. The clock then shows so many seconds more, as far as clocks go (`add?_eq`). Of an almanac it is
assumed that it adds the years and months of a span in the calendar and the rest as one duration
(`AddsInOrder`), and then a span without years and months is worth its seconds (`move?_of_fixed`). The
standard almanac, which carries what is full of a unit over to the next before it adds anything, does
so (`addsInOrder_standard`).
-/

namespace Sift

variable {m : Moment} {span : Span} {almanac : Almanac}

namespace Moment

/-- The clock some seconds later, be it in the calendar or not. -/
def later (m : Moment) (seconds : Int) : Moment := { m with seconds := m.seconds + seconds }

theorem isValid_date_iff : m.date.isValid = true ↔ m.InCalendar := Date.isValid_ofDay

theorem add?_eq (m : Moment) (length : Duration) :
    m.add? length = (m.later (length.days * 86400 + length.seconds)).inRange? := by
  have hsum : m.date.toDay + length.days + (m.secondOfDay + length.seconds) / 86400 =
      (m.seconds + (length.days * 86400 + length.seconds)) / 86400 := by
    rw [date, Date.toDay_ofDay, secondOfDay]
    omega
  have hclock : (m.seconds + (length.days * 86400 + length.seconds)) / 86400 * 86400 +
      (m.secondOfDay + length.seconds) % 86400 =
        m.seconds + (length.days * 86400 + length.seconds) := by
    rw [secondOfDay]
    omega
  rw [add?, inRange?_eq, hsum, Date.toDay_ofDay, hclock]
  simp only [← isValid_date_iff]
  rfl

theorem addMonths?_zero (hm : m.InCalendar) : m.addMonths? 0 = some m := by
  have hdate : m.date.addMonths 0 = m.date := by
    obtain ⟨hfirst, hlast, -, hlength, -⟩ : 1 ≤ m.date.month ∧ m.date.month ≤ 12 ∧ 1 ≤ m.date.day ∧
        m.date.day ≤ Calendar.monthLength m.date.year m.date.month ∧ m.date.toDay = m.seconds / 86400 :=
      Date.ofDay_spec _
    have hyear : (m.date.year * 12 + (m.date.month - 1 : Int) + 0) / 12 = m.date.year := by omega
    have hmonth : ((m.date.year * 12 + (m.date.month - 1 : Int) + 0) % 12).toNat + 1 =
        m.date.month := by omega
    rw [Date.addMonths, hyear, hmonth, Nat.min_eq_left hlength]
  rw [addMonths?, hdate, if_pos (isValid_date_iff.mpr hm), toDay_date]

end Moment

/-- What a span is worth in seconds without its years and months. -/
def Span.fixedSeconds (span : Span) : Int :=
  86400 * (7 * span.weeks + span.days) + 3600 * span.hours + 60 * span.minutes + span.seconds

/-- A span is added in two steps: first its years and months in the calendar, and then its weeks, days,
hours, minutes and seconds as one duration. -/
structure Almanac.AddsInOrder (almanac : Almanac) : Prop where
  move?_eq : ∀ (m : Moment) (span : Span), m.InCalendar →
    almanac.move? m span = (m.addMonths? (12 * span.years + span.months)).bind fun moved =>
      (Duration.ofSeconds? span.fixedSeconds).bind moved.add?

theorem Moment.ofSeconds?_bind_add? (hm : m.InCalendar) (n : Int) :
    (Duration.ofSeconds? n).bind m.add? = (m.later n).inRange? := by
  rw [Duration.ofSeconds?]
  split
  · have hparts : n / 86400 * 86400 + ((n % 86400).toNat : Int) = n := by omega
    rw [Option.bind_some, add?_eq, hparts]
  · rename_i hlong
    have hout : ¬(m.later n).InCalendar := by
      rw [inCalendar_iff, firstSecond, lastSecond] at hm ⊢
      rw [Duration.maxDays] at hlong
      simp only [later]
      omega
    rw [inRange?_eq, if_neg hout]
    rfl

/-- A span of fixed length moves the clock by its seconds. -/
theorem Almanac.AddsInOrder.move?_of_fixed (h : almanac.AddsInOrder) (hm : m.InCalendar)
    (hyears : span.years = 0) (hmonths : span.months = 0) :
    almanac.move? m span = (m.later span.fixedSeconds).inRange? := by
  rw [h.move?_eq m span hm, hyears, hmonths]
  show (m.addMonths? 0).bind _ = _
  rw [Moment.addMonths?_zero hm, Option.bind_some, Moment.ofSeconds?_bind_add? hm]

/-! ## The standard almanac -/

theorem Span.fixedSeconds_normalized (span : Span) :
    span.normalized.fixedSeconds = span.fixedSeconds := by
  have hseconds := Int.tmod_add_mul_tdiv span.seconds 60
  have hminutes := Int.tmod_add_mul_tdiv (span.minutes + span.seconds.tdiv 60) 60
  have hhours := Int.tmod_add_mul_tdiv
    (span.hours + (span.minutes + span.seconds.tdiv 60).tdiv 60) 24
  simp only [normalized, fixedSeconds]
  omega

theorem Span.months_normalized (span : Span) :
    12 * span.normalized.years + span.normalized.months = 12 * span.years + span.months := by
  have hmonths := Int.tmod_add_mul_tdiv span.months 12
  simp only [normalized]
  omega

theorem Almanac.addsInOrder_standard (year : Int) : (Almanac.standard year).AddsInOrder := by
  refine ⟨fun m span _ => ?_⟩
  have hrest : 86400 * span.normalized.days + 3600 * span.normalized.hours +
      60 * span.normalized.minutes + span.normalized.seconds = span.fixedSeconds := by
    have hweeks : span.normalized.weeks = 0 := rfl
    rw [← span.fixedSeconds_normalized, Span.fixedSeconds, hweeks]
    omega
  show m.addNormalized? span.normalized = _
  rw [Moment.addNormalized?, hrest, span.months_normalized]
  rfl

end Sift
