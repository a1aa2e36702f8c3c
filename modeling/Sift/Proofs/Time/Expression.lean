import Sift.Proofs.Filter.Understood
import Sift.Proofs.Sql.Numbers
import Sift.Proofs.Text.Case
import Sift.Proofs.Time.Calendar

/-!
# Reading date expressions

A text in lower case with no white space at its ends is read as it stands (`written_of_lower`). Whether
it is a keyword, a number of seconds or a distance is told by its first characters and by what kind of
characters it has, so no form captures the texts of another (`keyword?_eq_none`, `epoch?_eq_none`). What
a form names is the answer (`timestamp_of_form`), as far as clocks show it (`within`).
-/

namespace Sift.DateExpr

open Text

variable {almanac : Almanac} {reference : Moment} {cs : List Char}

/-! ## Texts as they are read -/

theorem plain_of_isDigit {c : Char} (h : c.isDigit = true) : Case.IsLower c ∧ isBlank c = false := by
  have hall : ∀ c : Char, c.toNat ≤ 127 → c.isDigit = true → Case.IsLower c ∧ isBlank c = false :=
    Sql.of_ascii (by decide +kernel)
  exact hall c (Nat.le_trans (toNat_of_ascii h).2 (by decide)) h

theorem plain_of_isUnitLetter {c : Char} (h : isUnitLetter c = true) :
    Case.IsLower c ∧ isBlank c = false ∧ isDigit c = false := by
  have hall : ∀ c : Char, c.toNat ≤ 127 → isUnitLetter c = true →
      Case.IsLower c ∧ isBlank c = false ∧ isDigit c = false := Sql.of_ascii (by decide +kernel)
  refine hall c ?_ h
  rw [isUnitLetter, Bool.and_eq_true, decide_eq_true_eq, decide_eq_true_eq] at h
  exact Nat.le_trans (UInt32.le_iff_toNat_le.mp h.2) (by decide)

theorem not_isUnitLetter_of_isDigit {c : Char} (h : isDigit c = true) : isUnitLetter c = false :=
  Bool.eq_false_iff.mpr fun hletter =>
    absurd ((plain_of_isUnitLetter hletter).2.2.symm.trans h) Bool.false_ne_true

theorem dropWhile_eq_self {p : Char → Bool} (h : ∀ c ∈ cs.head?, p c = false) :
    cs.dropWhile p = cs := by
  cases cs with
  | nil => rfl
  | cons c cs => rw [List.dropWhile_cons_of_neg (by simp [h c rfl])]

theorem written_of_lower {expr : String} (hlower : ∀ c ∈ expr.toList, Case.IsLower c)
    (hfirst : ∀ c ∈ expr.toList.head?, isBlank c = false)
    (hlast : ∀ c ∈ expr.toList.getLast?, isBlank c = false) : written expr = expr.toList := by
  have htrim : trim expr.toList = expr.toList := by
    rw [trim, trimBy, dropWhile_eq_self hfirst, dropWhile_eq_self (by simpa using hlast),
      List.reverse_reverse]
  rw [written, htrim, lower, String.toList_ofList, String.toList_ofList,
    Case.lowerFrom_of_isLower hlower]

theorem written_of_plain {expr : String}
    (h : ∀ c ∈ expr.toList, Case.IsLower c ∧ isBlank c = false) : written expr = expr.toList :=
  written_of_lower (fun c hc => (h c hc).1) (fun c hc => (h c (List.mem_of_mem_head? hc)).2)
    fun c hc => (h c (List.mem_of_getLast? hc)).2

/-! ## Forms -/

/-- The number of seconds as an answer: itself in the years 1 to 9999, and zero elsewhere. -/
def within (n : Int) : Int := if (Moment.ofEpoch n).InCalendar then n else 0

theorem inRange?_ofEpoch (n : Int) : (Moment.ofEpoch n).inRange?.elim 0 Moment.toEpoch = within n := by
  rw [Moment.inRange?_eq, within]
  split
  · exact Moment.toEpoch_ofEpoch n
  · rfl

theorem timestamp_of_form {expr : String} {moment : Option Moment} (hwritten : written expr = cs)
    (hne : cs ≠ []) (h : form? almanac cs reference = some moment) :
    timestamp almanac expr reference = .ok (moment.elim 0 Moment.toEpoch) := by
  subst hwritten
  have hmoment : DateExpr.moment almanac expr reference = FreeForm.readable moment := by
    rw [DateExpr.moment]
    split
    · rename_i hempty
      exact absurd (List.isEmpty_iff.mp hempty) hne
    · split
      · rename_i named hform
        have hsome : form? almanac (written expr) reference = some named := hform
        rw [Option.some.inj (hsome.symm.trans h)]
      · rename_i hform
        have hnone : form? almanac (written expr) reference = none := hform
        cases hnone.symm.trans h
  rw [timestamp, hmoment]
  cases moment with
  | none => rfl
  | some m => rfl

theorem keyword?_eq_none (h : ∀ c ∈ cs.head?, isUnitLetter c = false) :
    keyword? cs reference = none := by
  have hkeyword : ∀ {keyword : String}, keyword.toList.head?.any isUnitLetter = true →
      String.ofList cs ≠ keyword := by
    rintro keyword hletter rfl
    rw [String.toList_ofList, Option.any_eq_true] at hletter
    obtain ⟨c, hc, hletter⟩ := hletter
    rw [h c hc] at hletter
    cases hletter
  unfold keyword?
  split
  iterate 5
    · rename_i heq
      exact absurd heq (hkeyword (by decide))
  rfl

theorem epoch?_eq_none (hmark : cs.head? ≠ some '@') (hother : ∃ c ∈ cs, isFigure c = false) :
    epoch? cs = none := by
  have hfigures : isFigures cs = false := by
    obtain ⟨c, hc, hother⟩ := hother
    cases cs with
    | nil => rfl
    | cons d cs => exact List.all_eq_false.mpr ⟨c, hc, by simp [hother]⟩
  unfold epoch?
  split
  · exact absurd rfl hmark
  · exact absurd rfl hmark
  · rw [hfigures]
    rfl

/-! ## Long numbers -/

theorem ofRun_decimal_of_not_short {n : Nat} (h : ¬Shorthand.Short n) :
    Integer.ofRun (decimal n) = .error (.tooLong (decimal n).length) :=
  if_pos (Nat.not_le.mp h)

theorem le_of_not_short {n : Nat} (h : ¬Shorthand.Short n) : 1000000000000 ≤ n := by
  refine Nat.not_lt.mp fun hlt => h ?_
  have hlength : (decimal n).length ≤ 12 :=
    (Nat.length_toDigits_le_iff (by omega) (by omega)).mpr (Nat.lt_of_lt_of_le hlt (by decide))
  exact Nat.le_trans hlength (by decide)

end Sift.DateExpr
