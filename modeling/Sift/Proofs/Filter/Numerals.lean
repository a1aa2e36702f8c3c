import Mathlib.Data.List.TakeDrop
import Sift.Filter.Numeral

/-!
# The parts of numerals

A numeric value is a sign, digits with a point or none, and an exponent, with nothing but white space
around (`exists_parts_decimal`).
-/

namespace Sift.Numeral

open Text

/-- A sign, which may be missing. -/
def IsSign (sign : List Char) : Prop := sign = [] ∨ sign = ['-'] ∨ sign = ['+']

/-- An exponent, which may be missing. -/
def IsExponent (exponent : List Char) : Prop :=
  exponent = [] ∨ ∃ e sign digits, exponent = e :: (sign ++ digits) ∧ (e = 'e' ∨ e = 'E') ∧
    IsSign sign ∧ digits ≠ [] ∧ ∀ c ∈ digits, isDigit c = true

/-- Digits with at most a point among them. -/
structure IsMantissa (mantissa : List Char) : Prop where
  ne_nil : mantissa ≠ []
  digits : ∀ c ∈ mantissa, isDigit c = true ∨ c = '.'

/-- Digits of a class, with a point or none: the point stands before, between or behind them. -/
def IsDecimal (digit : Char → Bool) (cs : List Char) : Prop :=
  ∃ whole fraction, (∀ c ∈ whole ++ fraction, digit c = true) ∧ whole ++ fraction ≠ [] ∧
    (cs = whole ++ '.' :: fraction ∨ fraction = [] ∧ cs = whole)

/-- The parts of a numeric value. -/
structure Parts (value : List Char) where
  lead : List Char
  sign : List Char
  mantissa : List Char
  exponent : List Char
  trail : List Char
  eq : value = lead ++ sign ++ (mantissa ++ exponent) ++ trail
  isBlank_lead : ∀ c ∈ lead, isBlank c = true
  isSign : IsSign sign
  isMantissa : IsMantissa mantissa
  isExponent : IsExponent exponent
  isBlank_trail : ∀ c ∈ trail, isBlank c = true

theorem IsSign.mem {sign : List Char} (h : IsSign sign) {c : Char} (hc : c ∈ sign) :
    c = '-' ∨ c = '+' := by
  rcases h with rfl | rfl | rfl
  · cases hc
  · exact .inl (List.mem_singleton.mp hc)
  · exact .inr (List.mem_singleton.mp hc)

theorem Parts.mem {value : List Char} (parts : Parts value) {c : Char} (hc : c ∈ value) :
    isBlank c = true ∨ isDigit c = true ∨ c ∈ ['-', '+', '.', 'e', 'E'] := by
  have hsign : ∀ {sign}, IsSign sign → c ∈ sign → c ∈ ['-', '+', '.', 'e', 'E'] := by
    intro sign h hmem
    rcases h.mem hmem with rfl | rfl <;> simp
  rw [parts.eq] at hc
  simp only [List.mem_append] at hc
  rcases hc with ((hlead | hmem) | hmantissa | hexponent) | htrail
  · exact .inl (parts.isBlank_lead c hlead)
  · exact .inr (.inr (hsign parts.isSign hmem))
  · refine .inr ((parts.isMantissa.digits c hmantissa).imp_right ?_)
    rintro rfl
    simp
  · rcases parts.isExponent with hnil | ⟨e, sign, digits, heq, he, hsign', -, hdigits⟩
    · rw [hnil] at hexponent
      cases hexponent
    · rw [heq, List.mem_cons, List.mem_append] at hexponent
      rcases hexponent with rfl | hmem | hmem
      · rcases he with rfl | rfl <;> simp
      · exact .inr (.inr (hsign hsign' hmem))
      · exact .inr (.inl (hdigits c hmem))
  · exact .inl (parts.isBlank_trail c htrail)

theorem splitSign_eq (cs : List Char) :
    ∃ sign, IsSign sign ∧ cs = sign ++ (Integer.splitSign cs).2 := by
  unfold Integer.splitSign
  split
  · exact ⟨['-'], .inr (.inl rfl), rfl⟩
  · exact ⟨['+'], .inr (.inr rfl), rfl⟩
  · exact ⟨[], .inl rfl, rfl⟩

theorem takeDigits_eq (cs : List Char) :
    cs = (takeDigits cs).1 ++ (takeDigits cs).2 ∧ ∀ c ∈ (takeDigits cs).1, isDigit c = true := by
  rw [takeDigits, List.span_eq_takeWhile_dropWhile]
  exact ⟨List.takeWhile_append_dropWhile.symm,
    fun c hc => List.all_eq_true.mp List.all_takeWhile c hc⟩

section Decimal

variable {digit digit' : Char → Bool} {cs : List Char}

theorem IsDecimal.mem (h : IsDecimal digit cs) {c : Char} (hc : c ∈ cs) :
    digit c = true ∨ c = '.' := by
  obtain ⟨whole, fraction, hdigits, -, rfl | ⟨rfl, rfl⟩⟩ := h
  · simp only [List.mem_append, List.mem_cons] at hc
    rcases hc with hc | rfl | hc
    · exact .inl (hdigits c (List.mem_append_left _ hc))
    · exact .inr rfl
    · exact .inl (hdigits c (List.mem_append_right _ hc))
  · exact .inl (hdigits c (List.mem_append_left _ hc))

theorem IsDecimal.imp (h : IsDecimal digit cs)
    (himp : ∀ c ∈ cs, digit c = true → digit' c = true) : IsDecimal digit' cs := by
  obtain ⟨whole, fraction, hdigits, hne, hpoint⟩ := h
  have hsubset : whole ++ fraction ⊆ cs := by
    rcases hpoint with rfl | ⟨rfl, rfl⟩
    · exact (List.Sublist.append_left (List.sublist_cons_self '.' fraction) whole).subset
    · simp
  exact ⟨whole, fraction, fun c hc => himp c (hsubset hc) (hdigits c hc), hne, hpoint⟩

theorem IsDecimal.isMantissa (h : IsDecimal isDigit cs) : IsMantissa cs where
  ne_nil := by
    obtain ⟨whole, fraction, -, hne, rfl | ⟨rfl, rfl⟩⟩ := h
    · simp
    · simpa using hne
  digits _ hc := h.mem hc

end Decimal

theorem takeMantissa?_eq {cs whole fraction rest : List Char}
    (h : takeMantissa? cs = some (whole, fraction, rest)) :
    ∃ mantissa, IsDecimal isDigit mantissa ∧ cs = mantissa ++ rest := by
  obtain ⟨hsplit, hdigits⟩ := takeDigits_eq cs
  unfold takeMantissa? at h
  simp only at h
  split at h
  · rename_i behind hpoint
    obtain ⟨hsplit', hdigits'⟩ := takeDigits_eq behind
    split at h
    · cases h
    · rename_i hsome
      simp only [Option.some.injEq, Prod.mk.injEq] at h
      obtain ⟨rfl, rfl, rfl⟩ := h
      refine ⟨_, ⟨(takeDigits cs).1, (takeDigits behind).1, fun c hc => ?_, ?_, .inl rfl⟩, ?_⟩
      · exact (List.mem_append.mp hc).elim (hdigits c) (hdigits' c)
      · rw [Bool.and_eq_true, List.isEmpty_iff, List.isEmpty_iff] at hsome
        rwa [ne_eq, List.append_eq_nil_iff]
      · rw [List.append_assoc, List.cons_append, ← hsplit', ← hpoint, ← hsplit]
  · split at h
    · cases h
    · rename_i hne
      simp only [Option.some.injEq, Prod.mk.injEq] at h
      obtain ⟨rfl, rfl, rfl⟩ := h
      refine ⟨_, ⟨(takeDigits cs).1, [], fun c hc => ?_, by simpa using hne, .inr ⟨rfl, rfl⟩⟩, hsplit⟩
      rw [List.append_nil] at hc
      exact hdigits c hc

theorem takeExponent_eq (cs : List Char) :
    ∃ exponent, IsExponent exponent ∧ cs = exponent ++ (takeExponent cs).2.2 := by
  unfold takeExponent
  split
  · rename_i e rest
    split
    · rename_i he
      obtain ⟨sign, hsign, hrest⟩ := splitSign_eq rest
      obtain ⟨hsplit, hdigits⟩ := takeDigits_eq (Integer.splitSign rest).2
      simp only
      split
      · exact ⟨[], .inl rfl, rfl⟩
      · rename_i hne
        have hletter : e = 'e' ∨ e = 'E' := by simpa using he
        refine ⟨_, .inr ⟨e, sign, _, rfl, hletter, hsign, by simpa using hne, hdigits⟩, ?_⟩
        rw [List.cons_append, List.append_assoc, ← hsplit, ← hrest]
    · exact ⟨[], .inl rfl, rfl⟩
  · exact ⟨[], .inl rfl, rfl⟩

theorem exists_parts_decimal {value : String} (h : isNumeric value = true) :
    ∃ parts : Parts value.toList, IsDecimal isDigit parts.mantissa := by
  unfold isNumeric at h
  split at h
  · rename_i numeral rest hnumeral
    obtain ⟨sign, hsign, hbody⟩ := splitSign_eq (value.toList.dropWhile isBlank)
    rw [take?, Option.map_eq_some_iff] at hnumeral
    obtain ⟨⟨whole, fraction, behind⟩, htake, heq⟩ := hnumeral
    obtain ⟨-, rfl⟩ := Prod.mk.inj heq
    obtain ⟨mantissa, hmantissa, hsplit⟩ := takeMantissa?_eq htake
    obtain ⟨exponent, hexponent, hbehind⟩ := takeExponent_eq behind
    refine ⟨⟨value.toList.takeWhile isBlank, sign, mantissa, exponent, (takeExponent behind).2.2,
      ?_, List.all_eq_true.mp List.all_takeWhile, hsign, hmantissa.isMantissa, hexponent,
      List.all_eq_true.mp h⟩, hmantissa⟩
    rw [List.append_assoc, List.append_assoc, List.append_assoc, ← hbehind, ← hsplit, ← hbody,
      List.takeWhile_append_dropWhile]
  · cases h

theorem exists_parts {value : String} (h : isNumeric value = true) :
    Nonempty (Parts value.toList) := by
  obtain ⟨parts, -⟩ := exists_parts_decimal h
  exact ⟨parts⟩

end Sift.Numeral
