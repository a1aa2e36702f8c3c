import Sift.Boundary.Almanac
import Sift.Proofs.Time.Expression

/-!
# Numbers of seconds

A number of seconds behind an at sign is read as itself when it falls into the years 1 to 9999, and as
zero when it does not, however many digits it has (`timestamp_at`). From nine digits on a bare number is
read in the same way (`timestamp_digits`). Both come from reading a run of digits
(`secondsMoment?_of_ofRun`).
-/

namespace Sift.DateExpr

open Text Shorthand

variable {almanac : Almanac} {reference : Moment} {digits : List Char}

theorem toList_toString (z : Int) :
    (toString z).toList = if z < 0 then '-' :: decimal z.natAbs else decimal z.natAbs := by
  cases z with
  | ofNat n => exact toList_repr_natCast n
  | negSucc n =>
    have htext : toString (Int.negSucc n) = "-" ++ Nat.repr (n + 1) := rfl
    rw [htext, if_pos (Int.negSucc_lt_zero n)]
    simp [Nat.toList_repr, decimal]

/-! ## Runs of digits -/

theorem secondsMoment?_of_ofRun (negative : Bool) {n : Nat} (h : Integer.ofRun digits = .ok n) :
    (secondsMoment? negative digits).elim 0 Moment.toEpoch =
      within (if negative then -(n : Int) else n) := by
  rw [secondsMoment?, h]
  exact inRange?_ofEpoch _

theorem secondsMoment?_decimal (z : Int) :
    (secondsMoment? (decide (z < 0)) (decimal z.natAbs)).elim 0 Moment.toEpoch = within z := by
  by_cases hshort : Short z.natAbs
  · rw [secondsMoment?_of_ofRun _ (ofRun_decimal hshort)]
    congr 1
    split
    · rename_i hneg
      have hneg := of_decide_eq_true hneg
      omega
    · rename_i hpos
      have hpos := of_decide_eq_false (Bool.not_eq_true _ ▸ hpos)
      omega
  · -- A number that is too long to be read is out of the calendar anyway.
    have hbig := le_of_not_short hshort
    have hout : ¬(Moment.ofEpoch z).InCalendar := by
      rw [Moment.inCalendar_ofEpoch]
      omega
    rw [secondsMoment?, ofRun_decimal_of_not_short hshort, within, if_neg hout]
    rfl

/-! ## Behind an at sign and bare -/

theorem epoch?_at (z : Int) :
    epoch? ('@' :: (toString z).toList) =
      some (secondsMoment? (decide (z < 0)) (decimal z.natAbs)) := by
  have hdigits := isDigits_decimal z.natAbs
  rw [toList_toString]
  by_cases hneg : z < 0
  · rw [if_pos hneg, decide_eq_true hneg]
    simp only [epoch?, hdigits, if_true]
  · rw [if_neg hneg, decide_eq_false hneg]
    unfold epoch?
    split
    · rename_i rest heq
      -- The first digit is no minus sign.
      have hmem : '-' ∈ decimal z.natAbs := by
        rw [(List.cons.inj heq).2]
        exact List.mem_cons_self
      exact absurd hmem (not_mem_decimal (by decide))
    · rename_i rest _ heq
      obtain rfl := (List.cons.inj heq).2
      rw [if_pos hdigits]
    · rename_i hmark
      exact (hmark _ rfl).elim

/-- A bare number of nine digits or more. -/
theorem epoch?_digits (hdigits : isDigits digits = true) (hlong : 8 < digits.length) :
    epoch? digits = some (secondsMoment? false digits) := by
  have hmark : '@' ∉ digits := not_mem_of_isDigits hdigits (by decide)
  have hfigures : isFigures digits = true := by
    cases digits with
    | nil => cases hdigits
    | cons c cs =>
      exact List.all_eq_true.mpr fun d hd => by simp [isFigure, (isDigits_iff.mp hdigits).2 d hd]
  unfold epoch?
  split
  · exact absurd List.mem_cons_self hmark
  · exact absurd List.mem_cons_self hmark
  · simp [hfigures, hdigits, hlong]

theorem isDigit_of_mem_toString {z : Int} {c : Char} (h : c ∈ (toString z).toList) :
    c = '-' ∨ c.isDigit = true := by
  rw [toList_toString] at h
  split at h
  · exact (List.mem_cons.mp h).imp_right ascii_of_mem_decimal
  · exact .inr (ascii_of_mem_decimal h)

theorem timestamp_at (z : Int) :
    timestamp almanac ("@" ++ toString z) reference = .ok (within z) := by
  have hlist : ("@" ++ toString z).toList = '@' :: (toString z).toList := by
    rw [String.toList_append]
    rfl
  have hplain : ∀ c ∈ ("@" ++ toString z).toList, Case.IsLower c ∧ isBlank c = false := by
    intro c hc
    rw [hlist] at hc
    rcases List.mem_cons.mp hc with rfl | hc
    · decide
    · rcases isDigit_of_mem_toString hc with rfl | hdigit
      · decide
      · exact plain_of_isDigit hdigit
  have hform : form? almanac ('@' :: (toString z).toList) reference =
      some (secondsMoment? (decide (z < 0)) (decimal z.natAbs)) := by
    have hletter : ∀ c ∈ ('@' :: (toString z).toList).head?, isUnitLetter c = false := by
      rintro c ⟨⟩
      decide
    rw [form?, keyword?_eq_none hletter, epoch?_at]
    rfl
  rw [timestamp_of_form ((written_of_plain hplain).trans hlist) (List.cons_ne_nil _ _) hform,
    secondsMoment?_decimal]

theorem timestamp_digits {digits : String} (hascii : ∀ c ∈ digits.toList, c.isDigit = true)
    (hlong : 9 ≤ digits.length) (hshort : digits.length ≤ 4300) :
    timestamp almanac digits reference = .ok (within (Nat.ofDigitChars 10 digits.toList 0)) := by
  rw [← String.length_toList] at hlong hshort
  have hdigits : isDigits digits.toList = true :=
    isDigits_iff.mpr ⟨List.ne_nil_of_length_pos (by omega), fun c hc => isDigit_of_ascii (hascii c hc)⟩
  have hrun : Integer.ofRun digits.toList = .ok (Nat.ofDigitChars 10 digits.toList 0) := by
    rw [Integer.ofRun, if_neg (Nat.not_lt.mpr hshort : ¬Integer.maxDigits < _),
      ofDigits_eq_ofDigitChars hascii]
  have hform : form? almanac digits.toList reference = some (secondsMoment? false digits.toList) := by
    have hletter : ∀ c ∈ digits.toList.head?, isUnitLetter c = false := fun c hc =>
      not_isUnitLetter_of_isDigit ((isDigits_iff.mp hdigits).2 c (List.mem_of_mem_head? hc))
    rw [form?, keyword?_eq_none hletter, epoch?_digits hdigits (by omega)]
    rfl
  rw [timestamp_of_form (written_of_plain fun c hc => plain_of_isDigit (hascii c hc))
    (isDigits_iff.mp hdigits).1 hform, secondsMoment?_of_ofRun _ hrun]
  rfl

/-- Behind an at sign every integer is read exactly within the calendar, that is, from the first second
of the year 1 to the last one of the year 9999, and as zero elsewhere; the date and the time of the day
at a number of seconds lead back to it. A bare number of nine digits or more that is short enough to be
read is read as if it stood behind an at sign. -/
theorem timestamp_seconds (almanac : Almanac) (reference : Moment) :
    (∀ n : Int,
      timestamp almanac ("@" ++ toString n) reference =
        .ok (if -62135596800 ≤ n ∧ n ≤ 253402300799 then n else 0) ∧
      (-62135596800 ≤ n ∧ n ≤ 253402300799 ↔
        1 ≤ (Moment.ofEpoch n).date.year ∧ (Moment.ofEpoch n).date.year ≤ 9999) ∧
      (Moment.ofEpoch n).date.toDay * 86400 + (Moment.ofEpoch n).secondOfDay = n) ∧
    ∀ digits : String, (∀ c ∈ digits.toList, c.isDigit = true) → 9 ≤ digits.length →
      digits.length ≤ 4300 → timestamp almanac digits reference =
        timestamp almanac ("@" ++ toString (Nat.ofDigitChars 10 digits.toList 0 : Int))
          reference := by
  refine ⟨fun n => ⟨?_, Moment.inCalendar_ofEpoch.symm, Moment.toDay_date (.ofEpoch n)⟩,
    fun digits hascii hlong hshort => ?_⟩
  · rw [timestamp_at, within]
    simp only [Moment.inCalendar_ofEpoch]
  · rw [timestamp_digits hascii hlong hshort, timestamp_at]

/-- The last second of the year 9999 with zeros in front, and the one behind it. -/
theorem timestamp_seconds_last :
    (∀ c ∈ "000253402300799".toList, c.isDigit = true) ∧ 9 ≤ "000253402300799".length ∧
      "000253402300799".length ≤ 4300 ∧
      timestamp (.standard 2000) "000253402300799" default = .ok 253402300799 ∧
      timestamp (.standard 2000) ("@" ++ toString (253402300800 : Int)) default = .ok 0 := by
  obtain ⟨hmarked, hbare⟩ := timestamp_seconds (.standard 2000) default
  have hascii : ∀ c ∈ "000253402300799".toList, c.isDigit = true :=
    List.all_eq_true.mp (by decide : "000253402300799".toList.all Char.isDigit = true)
  have hnumber : Nat.ofDigitChars 10 "000253402300799".toList 0 = 253402300799 := by decide
  refine ⟨hascii, by decide, by decide, ?_, (hmarked 253402300800).1⟩
  rw [hbare "000253402300799" hascii (by decide) (by decide), hnumber]
  exact (hmarked 253402300799).1

end Sift.DateExpr
