import Sift.Proofs.Sql.Numbers

/-!
# Literals

SQL has two kinds of literals here: a text between quotes, and a number in ASCII with nothing but white
space around. An escaped value between quotes is a literal, whatever it was (`isLiteral_quote`). A value
that counts as numeric has the shape of a number already, but its digits and white space may be of any
script: it is a literal exactly when its characters are those of SQL (`isLiteral_iff_of_isNumeric`).
-/

namespace Sift.Sql

open Numeral

/-- White space between the words of SQL. -/
def isSpace (c : Char) : Bool := [' ', '\t', '\n', '\r', '\x0b', '\x0c'].contains c

/-- A quote stands only twice. -/
def isPaired : List Char → Bool
  | '\'' :: '\'' :: rest => isPaired rest
  | '\'' :: _ => false
  | _ :: rest => isPaired rest
  | [] => true

/-- A text between quotes. -/
def IsText (cs : List Char) : Prop :=
  ∃ body, cs = '\'' :: (body ++ ['\'']) ∧ isPaired body = true ∧ '\x00' ∉ body

/-- A number: a sign or none, digits with a point or none, and an exponent or none. -/
def IsConstant (cs : List Char) : Prop :=
  ∃ sign mantissa exponent, cs = sign ++ (mantissa ++ exponent) ∧ IsSign sign ∧
    IsDecimal Char.isDigit mantissa ∧
    (exponent = [] ∨ ∃ e mark digits, exponent = e :: (mark ++ digits) ∧ (e = 'e' ∨ e = 'E') ∧
      IsSign mark ∧ digits ≠ [] ∧ ∀ c ∈ digits, c.isDigit = true)

/-- A text between quotes, or a number with white space around. -/
def IsLiteral (text : String) : Prop :=
  IsText text.toList ∨ ∃ lead constant trail, text.toList = lead ++ constant ++ trail ∧
    (∀ c ∈ lead ++ trail, isSpace c = true) ∧ IsConstant constant

/-! ## Texts -/

theorem isPaired_cons {c : Char} (h : c ≠ '\'') (cs : List Char) :
    isPaired (c :: cs) = isPaired cs := by
  rw [isPaired]
  · exact fun _ hc _ => h hc
  · exact h

theorem isPaired_doubled (cs : List Char) : isPaired (Dialect.doubled '\'' cs) = true := by
  induction cs with
  | nil => rfl
  | cons c cs ih =>
    rw [Dialect.doubled, List.flatMap_cons]
    by_cases hc : c = '\''
    · rw [if_pos hc, hc]
      exact ih
    · rw [if_neg hc, List.singleton_append, isPaired_cons hc]
      exact ih

theorem isText_quote (value : String) :
    IsText (Dialect.quote (Dialect.escape value)).toList := by
  refine ⟨Dialect.doubled '\'' (value.toList.filter (· != '\x00')), ?_, isPaired_doubled _, ?_⟩
  · simp [Dialect.quote, Dialect.escape]
  · intro hmem
    obtain ⟨c, hc, hmem⟩ := List.mem_flatMap.mp hmem
    have hne : c ≠ '\x00' := bne_iff_ne.mp (List.mem_filter.mp hc).2
    split at hmem
    · rename_i hquote
      simp [hquote] at hmem
    · exact hne (List.mem_singleton.mp hmem).symm

theorem isLiteral_quote (value : String) : IsLiteral (Dialect.quote (Dialect.escape value)) :=
  .inl (isText_quote value)

/-! ## Numbers -/

/-- A character of ASCII but the separators U+001C to U+001F, which are no white space of SQL. -/
def isBasic (c : Char) : Bool := c.toNat ≤ 127 && !(0x1C ≤ c.toNat && c.toNat ≤ 0x1F)

theorem ascii_of_isBasic {c : Char} (h : isBasic c = true) : c.toNat ≤ 127 := by
  rw [isBasic, Bool.and_eq_true, decide_eq_true_eq] at h
  exact h.1

theorem isSpace_of_isBlank : ∀ c : Char, c.toNat ≤ 127 → isBasic c = true →
    Text.isBlank c = true → isSpace c = true :=
  of_ascii (by decide)

theorem ascii_of_isDigit : ∀ c : Char, c.toNat ≤ 127 → Text.isDigit c = true → c.isDigit = true :=
  of_ascii (by decide)

theorem isBasic_of_isSpace {c : Char} (h : isSpace c = true) : isBasic c = true := by
  have hall : [' ', '\t', '\n', '\r', '\x0b', '\x0c'].all isBasic = true := by decide
  exact List.all_eq_true.mp hall c (List.contains_iff_mem.mp h)

theorem isBasic_of_ascii {c : Char} (h : c.isDigit = true) : isBasic c = true := by
  have hc := Text.toNat_of_ascii h
  simp only [isBasic, Bool.and_eq_true, Bool.not_eq_true', Bool.and_eq_false_iff, decide_eq_true_eq,
    decide_eq_false_iff_not]
  omega

theorem isBasic_of_isSign {sign : List Char} (h : IsSign sign) : ∀ c ∈ sign, isBasic c = true := by
  intro c hc
  rcases h.mem hc with rfl | rfl <;> decide

theorem IsConstant.isBasic {cs : List Char} (h : IsConstant cs) : ∀ c ∈ cs, isBasic c = true := by
  obtain ⟨sign, mantissa, exponent, rfl, hsign, hmantissa, hexponent⟩ := h
  intro c hc
  simp only [List.mem_append] at hc
  rcases hc with hc | hc | hc
  · exact isBasic_of_isSign hsign c hc
  · rcases hmantissa.mem hc with hdigit | rfl
    · exact isBasic_of_ascii hdigit
    · decide
  · rcases hexponent with rfl | ⟨e, mark, digits, rfl, he, hmark, -, hdigits⟩
    · cases hc
    · rcases List.mem_cons.mp hc with rfl | hc
      · rcases he with rfl | rfl <;> decide
      · exact (List.mem_append.mp hc).elim (isBasic_of_isSign hmark c)
          fun hc => isBasic_of_ascii (hdigits c hc)

theorem isLiteral_of_isNumeric {value : String} (h : isNumeric value = true)
    (hbasic : ∀ c ∈ value.toList, isBasic c = true) : IsLiteral value := by
  obtain ⟨parts, hdecimal⟩ := exists_parts_decimal h
  have heq := parts.eq
  rw [heq] at hbasic
  simp only [List.mem_append, or_imp, forall_and] at hbasic
  obtain ⟨⟨⟨hlead, -⟩, hmantissa, hexponent⟩, htrail⟩ := hbasic
  have hdigit : ∀ c, isBasic c = true → Text.isDigit c = true → c.isDigit = true :=
    fun c hbasic => ascii_of_isDigit c (ascii_of_isBasic hbasic)
  have hspace : ∀ c, isBasic c = true → Text.isBlank c = true → isSpace c = true :=
    fun c hbasic => isSpace_of_isBlank c (ascii_of_isBasic hbasic) hbasic
  refine .inr ⟨parts.lead, parts.sign ++ (parts.mantissa ++ parts.exponent), parts.trail, ?_, ?_,
    parts.sign, parts.mantissa, parts.exponent, rfl, parts.isSign,
    hdecimal.imp fun c hc => hdigit c (hmantissa c hc), ?_⟩
  · rw [← List.append_assoc]
    exact heq
  · intro c hc
    rcases List.mem_append.mp hc with hc | hc
    · exact hspace c (hlead c hc) (parts.isBlank_lead c hc)
    · exact hspace c (htrail c hc) (parts.isBlank_trail c hc)
  · rcases parts.isExponent with hnil | ⟨e, mark, digits, hdef, he, hmark, hsome, hrun⟩
    · exact .inl hnil
    · refine .inr ⟨e, mark, digits, hdef, he, hmark, hsome, fun c hc => ?_⟩
      refine hdigit c (hexponent c ?_) (hrun c hc)
      rw [hdef]
      exact List.mem_cons_of_mem _ (List.mem_append_right _ hc)

theorem isLiteral_iff_of_isNumeric {value : String} (h : isNumeric value = true) :
    IsLiteral value ↔ ∀ c ∈ value.toList, isBasic c = true := by
  refine ⟨?_, isLiteral_of_isNumeric h⟩
  rintro (⟨body, hbody, -⟩ | ⟨lead, constant, trail, heq, hspace, hconstant⟩)
  · -- A number has no quote.
    exact absurd rfl ((bare_of_isNumeric h).noMark '\'' (hbody ▸ List.mem_cons_self)).1
  · intro c hc
    rw [heq, List.mem_append, List.mem_append] at hc
    rcases hc with (hc | hc) | hc
    · exact isBasic_of_isSpace (hspace c (List.mem_append_left _ hc))
    · exact hconstant.isBasic c hc
    · exact isBasic_of_isSpace (hspace c (List.mem_append_right _ hc))

end Sift.Sql
