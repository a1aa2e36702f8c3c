import Sift.Time.Moment

/-!
# Days and dates

A year has 365 days or 366 (`daysBeforeYear_succ`), and every day falls into the year that is guessed
for it and then set right (`yearOf_spec`) and there into one month (`monthAndDay_spec`). So the date of a
day leads back to the day (`toDay_ofDay`). It is a date of clocks when its year is (`isValid_ofDay`),
and that is so for the seconds from `firstSecond` to `lastSecond` and for no others
(`inCalendar_iff`).
-/

namespace Sift

namespace Calendar

/-- The number of days of a year. -/
def yearLength (year : Int) : Nat := if isLeap year then 366 else 365

theorem isLeap_iff {year : Int} :
    isLeap year = true ↔ year % 4 = 0 ∧ (year % 100 ≠ 0 ∨ year % 400 = 0) := by
  simp [isLeap]

theorem daysBeforeYear_succ (year : Int) :
    daysBeforeYear (year + 1) = daysBeforeYear year + yearLength year := by
  rw [daysBeforeYear, daysBeforeYear, yearLength]
  by_cases hleap : isLeap year = true
  · rw [if_pos hleap]
    rw [isLeap_iff] at hleap
    omega
  · rw [if_neg hleap]
    rw [isLeap_iff] at hleap
    omega

theorem daysBeforeYear_mono {year year' : Int} (h : year ≤ year') :
    daysBeforeYear year ≤ daysBeforeYear year' := by
  rw [daysBeforeYear, daysBeforeYear]
  omega

theorem daysBeforeMonth_succ (year : Int) {month : Nat} (h : 1 ≤ month) :
    daysBeforeMonth year (month + 1) = daysBeforeMonth year month + monthLength year month := by
  obtain ⟨m, rfl⟩ := Nat.exists_eq_add_of_le' h
  rw [daysBeforeMonth, Nat.add_sub_cancel, List.range_succ, List.foldl_append]
  rfl

theorem daysBeforeMonth_thirteen (year : Int) : daysBeforeMonth year 13 = yearLength year := by
  have hrange : List.range 12 = [0, 1, 2, 3, 4, 5, 6, 7, 8, 9, 10, 11] := rfl
  rw [daysBeforeMonth, hrange, yearLength]
  by_cases hleap : isLeap year = true <;> simp [monthLength, hleap]

end Calendar

namespace Date

open Calendar

theorem guess_spec (n : Int) :
    daysBeforeYear (n * 400 / 146097) ≤ n ∧ n < daysBeforeYear (n * 400 / 146097 + 3) := by
  rw [daysBeforeYear, daysBeforeYear]
  omega

theorem yearOf_spec (n : Int) :
    daysBeforeYear (yearOf n) ≤ n ∧ n < daysBeforeYear (yearOf n + 1) := by
  obtain ⟨hlow, hhigh⟩ := guess_spec n
  generalize hguess : n * 400 / 146097 = q at hlow hhigh
  rw [yearOf, hguess]
  by_cases hlate : n < daysBeforeYear (q + 1)
  · rw [if_pos hlate, Int.add_sub_cancel]
    exact ⟨hlow, hlate⟩
  · rw [if_neg hlate]
    by_cases hearly : daysBeforeYear (q + 1 + 1) ≤ n
    · have hnext : q + 1 + 1 + 1 = q + 3 := by omega
      rw [if_pos hearly, hnext]
      exact ⟨hearly, hhigh⟩
    · rw [if_neg hearly]
      exact ⟨Int.not_lt.mp hlate, Int.not_le.mp hearly⟩

/-- A day of the months that are left is found in one of them. The induction is on their number. -/
theorem monthAndDay_spec {year : Int} {month n more : Nat} (hmonth : 1 ≤ month)
    (h : daysBeforeMonth year month + n < daysBeforeMonth year (month + more + 1)) :
    month ≤ (monthAndDay year month n more).1 ∧
      (monthAndDay year month n more).1 ≤ month + more ∧
      1 ≤ (monthAndDay year month n more).2 ∧
      (monthAndDay year month n more).2 ≤ monthLength year (monthAndDay year month n more).1 ∧
      daysBeforeMonth year (monthAndDay year month n more).1 + (monthAndDay year month n more).2 =
        daysBeforeMonth year month + n + 1 := by
  induction more generalizing month n with
  | zero =>
    have hlength : n < monthLength year month := by
      rw [Nat.add_zero, daysBeforeMonth_succ year hmonth] at h
      omega
    exact ⟨Nat.le_refl _, Nat.le_refl _, Nat.le_add_left _ _, hlength, rfl⟩
  | succ more ih =>
    rw [monthAndDay]
    by_cases hlength : n < monthLength year month
    · rw [if_pos hlength]
      exact ⟨Nat.le_refl _, Nat.le_add_right _ _, Nat.le_add_left _ _, hlength, rfl⟩
    · rw [if_neg hlength]
      have hsucc := daysBeforeMonth_succ year hmonth
      have hrest : daysBeforeMonth year (month + 1) + (n - monthLength year month) <
          daysBeforeMonth year (month + 1 + more + 1) := by
        have hindex : month + 1 + more + 1 = month + (more + 1) + 1 := by omega
        rw [hindex]
        omega
      obtain ⟨hfirst, hlast, hday, hdays, hsum⟩ := ih (Nat.le_add_left 1 month) hrest
      refine ⟨by omega, by omega, hday, hdays, ?_⟩
      rw [hsum]
      omega

theorem ofDay_spec (day : Int) :
    1 ≤ (ofDay day).month ∧ (ofDay day).month ≤ 12 ∧ 1 ≤ (ofDay day).day ∧
      (ofDay day).day ≤ monthLength (ofDay day).year (ofDay day).month ∧
      (ofDay day).toDay = day := by
  obtain ⟨hlow, hhigh⟩ := yearOf_spec (day - firstDay)
  generalize hyear : yearOf (day - firstDay) = year at hlow hhigh
  generalize hn : (day - firstDay - daysBeforeYear year).toNat = n
  have hdate : ofDay day = ⟨year, (monthAndDay year 1 n 11).1, (monthAndDay year 1 n 11).2⟩ := by
    rw [← hn, ← hyear]
    rfl
  have hlength : daysBeforeMonth year 1 + n < daysBeforeMonth year (1 + 11 + 1) := by
    rw [daysBeforeYear_succ] at hhigh
    have hstart : daysBeforeMonth year 1 = 0 := rfl
    rw [daysBeforeMonth_thirteen, hstart]
    omega
  obtain ⟨hfirst, hlast, hday, hdays, hsum⟩ := monthAndDay_spec (Nat.le_refl 1) hlength
  rw [hdate]
  refine ⟨hfirst, hlast, hday, hdays, ?_⟩
  have hstart : daysBeforeMonth year 1 = 0 := rfl
  rw [hstart] at hsum
  rw [toDay]
  simp only
  omega

/-- The date of a day is that day's date. -/
theorem toDay_ofDay (day : Int) : (ofDay day).toDay = day := (ofDay_spec day).2.2.2.2

theorem isValid_ofDay {day : Int} :
    (ofDay day).isValid = true ↔ 1 ≤ (ofDay day).year ∧ (ofDay day).year ≤ 9999 := by
  obtain ⟨hfirst, hlast, hday, hdays, -⟩ := ofDay_spec day
  simp [isValid, hfirst, hlast, hday, hdays]

theorem year_ofDay_iff {day : Int} :
    1 ≤ (ofDay day).year ∧ (ofDay day).year ≤ 9999 ↔ -719162 ≤ day ∧ day ≤ 2932896 := by
  have hfirst : daysBeforeYear 1 = 0 := by decide
  have hlast : daysBeforeYear 10000 = 3652059 := by decide
  have hday : firstDay = -719162 := rfl
  have hyear : (ofDay day).year = yearOf (day - firstDay) := rfl
  obtain ⟨hlow, hhigh⟩ := yearOf_spec (day - firstDay)
  rw [hyear]
  constructor
  · rintro ⟨hpos, hmax⟩
    have hstart : daysBeforeYear 1 ≤ daysBeforeYear (yearOf (day - firstDay)) :=
      daysBeforeYear_mono hpos
    have hend : daysBeforeYear (yearOf (day - firstDay) + 1) ≤ daysBeforeYear 10000 :=
      daysBeforeYear_mono (by omega)
    omega
  · rintro ⟨hpos, hmax⟩
    constructor
    · refine Int.not_lt.mp fun hneg => ?_
      have hmono : daysBeforeYear (yearOf (day - firstDay) + 1) ≤ daysBeforeYear 1 :=
        daysBeforeYear_mono (by omega)
      omega
    · refine Int.not_lt.mp fun hbig => ?_
      have hmono : daysBeforeYear 10000 ≤ daysBeforeYear (yearOf (day - firstDay)) :=
        daysBeforeYear_mono (by omega)
      omega

end Date

namespace Moment

theorem toDay_date (m : Moment) : m.date.toDay * 86400 + m.secondOfDay = m.seconds := by
  rw [date, Date.toDay_ofDay, secondOfDay]
  omega

/-- The clock shows a year from 1 to 9999. -/
def InCalendar (m : Moment) : Prop := 1 ≤ m.date.year ∧ m.date.year ≤ 9999

instance (m : Moment) : Decidable m.InCalendar := inferInstanceAs (Decidable (_ ∧ _))

theorem inCalendar_iff {m : Moment} :
    m.InCalendar ↔ firstSecond ≤ m.seconds ∧ m.seconds ≤ lastSecond := by
  rw [InCalendar, date, Date.year_ofDay_iff, firstSecond, lastSecond]
  omega

theorem inCalendar_ofEpoch {n : Int} :
    (ofEpoch n).InCalendar ↔ -62135596800 ≤ n ∧ n ≤ 253402300799 :=
  inCalendar_iff

theorem inRange?_eq (m : Moment) : m.inRange? = if m.InCalendar then some m else none := by
  rw [inRange?]
  simp only [inCalendar_iff, Bool.and_eq_true, decide_eq_true_eq]

@[simp] theorem toEpoch_ofEpoch (n : Int) : (ofEpoch n).toEpoch = n := by
  simp [ofEpoch, toEpoch]

end Moment

end Sift
