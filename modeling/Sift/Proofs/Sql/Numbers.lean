import Sift.Proofs.Sql.Qualifiers

/-!
# Numbers that name tables

A numeric value is written with digits of any script. SQL reads digits outside of ASCII as letters, so
a point between two of them makes a column of a table. Such a table is named by characters of the
number, which are no characters of the program's tables (`not_mem_of_mem_qualifiers`). A number that
is all ASCII names none (`qualifiers_eq_nil_of_isNumeric`).
-/

namespace Sift.Sql

open Text

theorem not_mem_of_mem_qualifiers {value q : String} (h : isNumeric value = true)
    (hq : q ∈ qualifiers value) {c : Char} (hblank : isBlank c = false) (hdigit : isDigit c = false)
    (hmark : c ∉ ['-', '+', '.', 'e', 'E']) : c ∉ q.toList := by
  intro hc
  obtain ⟨parts⟩ := Numeral.exists_parts h
  rcases parts.mem (mem_of_mem_qualifiers hq hc) with h | h | h
  · exact Bool.false_ne_true (hblank.symm.trans h)
  · exact Bool.false_ne_true (hdigit.symm.trans h)
  · exact hmark h

theorem of_ascii {p : Char → Prop} (h : ∀ n : Fin 128, p (Char.ofNat n)) :
    ∀ c : Char, c.toNat ≤ 127 → p c := by
  intro c hc
  have hchar := h ⟨c.toNat, Nat.lt_succ_of_le hc⟩
  rwa [Char.ofNat_toNat] at hchar

theorem isWordChar_of_isDigit : ∀ c : Char, c.toNat ≤ 127 →
    isDigit c = true → isWordChar c = true ∧ startsName c = false :=
  of_ascii (by decide)

theorem not_isWordChar_of_isBlank : ∀ c : Char, c.toNat ≤ 127 →
    isBlank c = true → isWordChar c = false ∧ c ≠ '\'' :=
  of_ascii (by decide)

theorem qualifiersFrom_skip {cs : List Char} (h : ∀ c ∈ cs, isWordChar c = false ∧ c ≠ '\'')
    (ds : List Char) : qualifiersFrom false (cs ++ ds) = qualifiersFrom false ds := by
  induction cs with
  | nil => rfl
  | cons c cs ih =>
    have hc := h c (by simp)
    have hafter : literalAfter false ([] ++ [c]) = false := by simp [literalAfter, hc.2]
    have hskip := qualifiersFrom_append_cons false [] (cs ++ ds) hc.1
    rw [hafter, qualifiersFrom_nil, List.nil_append, List.nil_append] at hskip
    rw [List.cons_append, hskip, ih fun d hd => h d (by simp [hd])]

theorem head?_of_fields {mark : Char} {cs field : List Char} {more : List (List Char)}
    (h : fields mark cs = field :: more) {c : Char} (hc : c ∈ field.head?) : c ∈ cs.head? := by
  cases cs with
  | nil =>
    obtain ⟨rfl, -⟩ := List.cons.inj h
    cases hc
  | cons d cs =>
    rw [fields] at h
    split at h
    · obtain ⟨rfl, -⟩ := List.cons.inj h
      cases hc
    · split at h
      · obtain ⟨rfl, -⟩ := List.cons.inj h
        exact hc
      · obtain ⟨rfl, -⟩ := List.cons.inj h
        exact hc

theorem qualifiersFrom_word {word : List Char} (hword : ∀ c ∈ word, isWordChar c = true)
    (hhead : ∀ c ∈ word.head?, startsName c = false) :
    literalAfter false word = false ∧ qualifiersFrom false word = [] := by
  have hmark : ∀ {c}, isWordChar c = false → c ∉ word := by
    intro c hc hmem
    exact absurd (hc.symm.trans (hword c hmem)) nofun
  have hplain : ∀ cs : List Char, (∀ c ∈ cs, c ∈ word) →
      literalAfter false cs = false ∧ blanked false cs = cs := by
    intro cs hcs
    induction cs with
    | nil => exact ⟨rfl, rfl⟩
    | cons c cs ih =>
      have hc := hcs c (by simp)
      obtain ⟨hlit, hblank⟩ := ih fun d hd => hcs d (by simp [hd])
      have hquote : (false != (c == '\'')) = false := by
        have hne : c ≠ '\'' := fun heq => hmark (by decide) (heq ▸ hc)
        simpa using hne
      constructor
      · show literalAfter (false != (c == '\'')) cs = false
        rw [hquote, hlit]
      · rw [blanked, hquote, hblank]
        simp [hword c hc]
  obtain ⟨hlit, hblank⟩ := hplain word fun c hc => hc
  refine ⟨hlit, ?_⟩
  rw [qualifiersFrom, hblank, fields_of_not_mem ' ' word (hmark (by decide))]
  refine List.filterMap_eq_nil_iff.mpr fun w hw => ?_
  obtain rfl := List.mem_singleton.mp hw
  rw [qualifier?]
  split
  · rename_i table column more hfields
    have hnone : table.head?.any startsName = false := by
      rw [Option.any_eq_false]
      intro c hc
      simpa using hhead c (head?_of_fields hfields hc)
    rw [hnone, Bool.false_and]
    rfl
  · rfl

theorem number_no_name {mantissa exponent : List Char} (hmantissa : Numeral.IsMantissa mantissa)
    (hascii : ∀ c ∈ mantissa, c.toNat ≤ 127) (hexponent : Numeral.IsExponent exponent)
    (hascii' : ∀ c ∈ exponent, c.toNat ≤ 127) :
    literalAfter false (mantissa ++ exponent) = false ∧
      qualifiersFrom false (mantissa ++ exponent) = [] := by
  have hchar : ∀ c ∈ mantissa, isWordChar c = true ∧ startsName c = false := by
    intro c hc
    rcases hmantissa.digits c hc with hdigit | rfl
    · exact isWordChar_of_isDigit _ (hascii c hc) hdigit
    · decide
  have hhead : ∀ rest, ∀ c ∈ (mantissa ++ rest).head?, startsName c = false := by
    intro rest c hc
    obtain ⟨d, ds, heq⟩ := List.exists_cons_of_ne_nil hmantissa.ne_nil
    rw [heq] at hc
    obtain rfl : d = c := Option.some.inj hc
    exact (hchar d (by simp [heq])).2
  rcases hexponent with rfl | ⟨e, sign, digits, rfl, he, hsign, hne, hdigits⟩
  · exact qualifiersFrom_word (by simpa using fun c hc => (hchar c hc).1) (hhead [])
  · have hletter : isWordChar e = true := by
      rcases he with rfl | rfl <;> decide
    have hdigit : ∀ c ∈ digits, isWordChar c = true ∧ startsName c = false := fun c hc =>
      isWordChar_of_isDigit _ (hascii' c (by simp [hc])) (hdigits c hc)
    have hword : ∀ c ∈ mantissa ++ [e], isWordChar c = true := by
      intro c hc
      rcases List.mem_append.mp hc with hc | hc
      · exact (hchar c hc).1
      · exact List.mem_singleton.mp hc ▸ hletter
    by_cases hnil : sign = []
    · subst hnil
      refine qualifiersFrom_word (fun c hc => ?_) (hhead _)
      rw [List.nil_append, ← List.singleton_append, ← List.append_assoc] at hc
      exact (List.mem_append.mp hc).elim (hword c) fun hc => (hdigit c hc).1
    · -- A sign ends the word before it, and behind it there are digits only.
      obtain ⟨mark, rfl, hmark, hquote⟩ :
          ∃ mark, sign = [mark] ∧ isWordChar mark = false ∧ mark ≠ '\'' := by
        rcases hsign with rfl | rfl | rfl
        · exact absurd rfl hnil
        · exact ⟨'-', rfl, by decide, by decide⟩
        · exact ⟨'+', rfl, by decide, by decide⟩
      have hfirst := qualifiersFrom_word hword (hhead [e])
      have hsecond := qualifiersFrom_word (fun c hc => (hdigit c hc).1)
        fun c hc => (hdigit c (List.mem_of_mem_head? hc)).2
      have hafter : literalAfter false (mantissa ++ [e] ++ [mark]) = false := by
        rw [literalAfter_append, hfirst.1]
        simp [literalAfter, hquote]
      have hlist : mantissa ++ e :: ([mark] ++ digits) = mantissa ++ [e] ++ mark :: digits := by
        simp
      constructor
      · rw [hlist, List.append_cons, literalAfter_append, hafter, hsecond.1]
      · rw [hlist, qualifiersFrom_append_cons _ _ _ hmark, hafter, hfirst.2, hsecond.2]
        rfl

/-- A number that is all ASCII names no table. -/
theorem qualifiers_eq_nil_of_isNumeric {value : String} (h : isNumeric value = true)
    (hascii : ∀ c ∈ value.toList, c.toNat ≤ 127) : qualifiers value = [] := by
  obtain ⟨parts⟩ := Numeral.exists_parts h
  rw [parts.eq] at hascii
  simp only [List.mem_append, or_imp, forall_and] at hascii
  obtain ⟨⟨⟨hlead, hsign⟩, hmantissa, hexponent⟩, htrail⟩ := hascii
  have hnumber := number_no_name parts.isMantissa hmantissa parts.isExponent hexponent
  have hfront : ∀ c ∈ parts.lead ++ parts.sign, isWordChar c = false ∧ c ≠ '\'' := by
    intro c hc
    rcases List.mem_append.mp hc with hc | hc
    · exact not_isWordChar_of_isBlank _ (hlead c hc) (parts.isBlank_lead c hc)
    · rcases parts.isSign.mem hc with rfl | rfl <;> decide
  have hback : ∀ c ∈ parts.trail, isWordChar c = false ∧ c ≠ '\'' := fun c hc =>
    not_isWordChar_of_isBlank _ (htrail c hc) (parts.isBlank_trail c hc)
  have hapart : Apart (parts.mantissa ++ parts.exponent) parts.trail :=
    .inr fun c hc => (hback c (List.mem_of_mem_head? hc)).1
  have hnone := qualifiersFrom_skip hback []
  rw [List.append_nil, qualifiersFrom_nil] at hnone
  rw [qualifiers, parts.eq, List.append_assoc, qualifiersFrom_skip hfront,
    qualifiersFrom_append hapart, hnumber.1, hnumber.2, hnone, List.append_nil]

end Sift.Sql
