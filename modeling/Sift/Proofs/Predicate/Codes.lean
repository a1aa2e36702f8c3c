import Sift.Proofs.Predicate.Matching

/-!
# Columns of codes

The codes of a column stand one after the other, each with a bar behind it. A code is a letter and
digits, so searching for it with its bar finds that code and no other (`has_iff`), whether the column
holds one code and is compared or several and is searched.
-/

namespace Sift

open Predicate Category

/-- A code of the column of a letter: the letter and digits, or the type of heads without a type
split. -/
def IsCodeOf (letter : Char) (code : String) : Prop :=
  (code.toList.head? = some letter ∧ Text.isDigits code.toList.tail = true) ∨
    letter = 'z' ∧ code = untyped

instance (letter : Char) (code : String) : Decidable (IsCodeOf letter code) :=
  inferInstanceAs (Decidable (_ ∨ _))

/-- The text of a column with some codes. -/
def codesText (codes : List String) : String := String.join (codes.map (· ++ "|"))

/-- The column of a letter. -/
def codeColumn (letter : Char) : String := "s.subcat" ++ String.singleton letter

/-- The column of a letter holds some codes, at most one in the columns that are compared. -/
structure Row.HoldsCodes (row : Row) (letter : Char) (codes : List String) : Prop where
  cell : row.cell (codeColumn letter) = .str (codesText codes)
  isCode : ∀ code ∈ codes, IsCodeOf letter code
  single : letter ∈ singleLetters → codes.length ≤ 1

/-- The row is in a head, and each column of codes holds some. -/
structure Row.WellFormed (row : Row) : Prop where
  category : ∃ head, row.cell "s.category" = .int head
  codes : ∀ letter ∈ singleLetters ++ multiLetters, ∃ codes, row.HoldsCodes letter codes

/-! ## Patterns -/

theorem isLike_cons {p : Char} (hp : p ≠ '\\') (pattern cs : List Char) :
    isLike (p :: pattern) cs =
      if p = '%' then (List.range (cs.length + 1)).any fun i => isLike pattern (cs.drop i)
      else cs.head?.any (fun c => p == '_' || p == c) && isLike pattern cs.tail := by
  rw [isLike, likeFrom, if_neg hp]
  rfl

theorem isLike_percent {pattern cs : List Char} : isLike ('%' :: pattern) cs = true ↔
    ∃ post, post <:+ cs ∧ isLike pattern post = true := by
  rw [isLike_cons (by decide), if_pos rfl, List.any_eq_true]
  constructor
  · rintro ⟨i, -, h⟩
    exact ⟨_, List.drop_suffix i cs, h⟩
  · rintro ⟨post, ⟨pre, rfl⟩, h⟩
    refine ⟨pre.length, ?_, by rwa [List.drop_left]⟩
    rw [List.mem_range, List.length_append]
    omega

theorem isLike_literal {literal pattern cs : List Char}
    (h : ∀ c ∈ literal, c ≠ '%' ∧ c ≠ '_' ∧ c ≠ '\\') : isLike (literal ++ pattern) cs = true ↔
      ∃ post, cs = literal ++ post ∧ isLike pattern post = true := by
  induction literal generalizing cs with
  | nil => simp
  | cons l literal ih =>
    have hl := h l (by simp)
    have hrest := fun cs => @ih cs fun c hc => h c (by simp [hc])
    rw [List.cons_append, isLike_cons hl.2.2, if_neg hl.1]
    cases cs with
    | nil => simp
    | cons c cs => simp [hl.2.1, hrest, @eq_comm _ l, and_assoc]

theorem isLike_infix {literal cs : List Char}
    (h : ∀ c ∈ literal, c ≠ '%' ∧ c ≠ '_' ∧ c ≠ '\\') :
    isLike ('%' :: (literal ++ ['%'])) cs = true ↔ literal <:+: cs := by
  have hrest : ∀ cs, isLike ['%'] cs = true := fun cs =>
    isLike_percent.mpr ⟨[], List.nil_suffix, rfl⟩
  rw [isLike_percent]
  constructor
  · rintro ⟨post, ⟨pre, rfl⟩, hpost⟩
    obtain ⟨rest, rfl, -⟩ := (isLike_literal h).mp hpost
    exact ⟨pre, rest, by simp⟩
  · rintro ⟨pre, rest, rfl⟩
    refine ⟨literal ++ rest, ⟨pre, by simp⟩, ?_⟩
    exact (isLike_literal h).mpr ⟨rest, rfl, hrest rest⟩

theorem undoubled_of_not_mem {cs : List Char} (h : '\'' ∉ cs) : undoubled cs = cs := by
  induction cs with
  | nil => rfl
  | cons c cs ih =>
    rw [List.mem_cons, not_or] at h
    unfold undoubled
    split
    · rename_i heq
      exact absurd (List.cons.inj heq).1.symm h.1
    · rename_i heq
      obtain ⟨rfl, rfl⟩ := List.cons.inj heq
      rw [ih h.2]
    · rename_i heq
      cases heq

/-! ## One code among others -/

theorem not_mem_code {letter : Char} (hletter : Text.isDigit letter = false) (hbar : letter ≠ '|')
    {digits : List Char} (hdigits : Text.isDigits digits = true) :
    letter ∉ digits ++ ['|'] ∧ '|' ∉ letter :: digits := by
  have hall := (Text.isDigits_iff.mp hdigits).2
  constructor
  · intro hmem
    rcases List.mem_append.mp hmem with hmem | hmem
    · rw [hall letter hmem] at hletter
      cases hletter
    · exact hbar (List.mem_singleton.mp hmem)
  · intro hmem
    rcases List.mem_cons.mp hmem with hmem | hmem
    · exact hbar hmem.symm
    · exact absurd (hall '|' hmem) (by decide)

/-- With bars behind them, a code is found among others only where it stands. -/
theorem infix_iff_mem {letter : Char} (hletter : Text.isDigit letter = false) (hbar : letter ≠ '|')
    {digits : List Char} (hdigits : Text.isDigits digits = true) {codes : List (List Char)}
    (hcodes : ∀ code ∈ codes, ∃ ds, code = letter :: ds ∧ Text.isDigits ds = true) :
    (letter :: digits) ++ ['|'] <:+: codes.flatMap (· ++ ['|']) ↔ letter :: digits ∈ codes := by
  constructor
  · intro h
    induction codes with
    | nil =>
      obtain ⟨pre, post, heq⟩ := h
      simp at heq
    | cons code codes ih =>
      obtain ⟨ds, rfl, hds⟩ := hcodes code (by simp)
      have ih := ih fun c hc => hcodes c (by simp [hc])
      obtain ⟨pre, post, heq⟩ := h
      have hmem : letter :: digits ∈ codes → letter :: digits ∈ (letter :: ds) :: codes :=
        List.mem_cons_of_mem _
      rw [List.flatMap_cons, List.append_assoc, List.append_eq_append_iff] at heq
      -- Either the sought code starts in the first code, or all of it stands behind.
      rcases heq with ⟨mid, hcode, hrest⟩ | ⟨mid, -, hrest⟩
      · cases pre with
        | nil =>
          obtain rfl : letter :: ds ++ ['|'] = mid := hcode
          have hfields := congrArg (Text.fields '|') hrest
          rw [List.append_assoc, List.append_assoc, List.singleton_append, List.singleton_append,
            Text.fields_append_sep _ _ _ (not_mem_code hletter hbar hdigits).2,
            Text.fields_append_sep _ _ _ (not_mem_code hletter hbar hds).2] at hfields
          rw [(List.cons.inj hfields).1]
          exact List.mem_cons_self
        | cons p pre =>
          cases mid with
          | nil => exact hmem (ih ⟨[], post, hrest⟩)
          | cons m mid =>
            -- Behind its own letter the first code has digits only.
            obtain rfl : letter = m := (List.cons.inj hrest).1
            have htail : ds ++ ['|'] = pre ++ letter :: mid := (List.cons.inj hcode).2
            have hin : letter ∈ ds ++ ['|'] := by
              rw [htail]
              simp
            exact absurd hin (not_mem_code hletter hbar hds).1
      · exact hmem (ih ⟨mid, post, by rw [List.append_assoc, ← hrest]⟩)
  · intro hmem
    obtain ⟨pre, post, rfl⟩ := List.append_of_mem hmem
    exact ⟨pre.flatMap (· ++ ['|']), post.flatMap (· ++ ['|']), by simp⟩

/-! ## Codes of a row -/

theorem IsCodeOf.toList {letter : Char} {code : String} (h : IsCodeOf letter code) :
    ∃ rest, code.toList = letter :: rest ∧ '|' ∉ rest ∧ ∀ c ∈ rest, c = 'z' ∨ Text.isDigit c = true := by
  rcases h with ⟨hletter, hdigits⟩ | ⟨rfl, rfl⟩
  · obtain ⟨digits, hcode⟩ := List.head?_eq_some_iff.mp hletter
    rw [hcode, List.tail_cons] at hdigits
    have hall := (Text.isDigits_iff.mp hdigits).2
    refine ⟨digits, hcode, fun hbar => ?_, fun c hc => .inr (hall c hc)⟩
    exact absurd (hall '|' hbar) (by decide)
  · exact ⟨['z'], rfl, by decide, fun c hc => .inl (List.mem_singleton.mp hc)⟩

theorem IsCodeOf.plain {letter : Char} (hletter : letter ∈ singleLetters ++ multiLetters)
    {code : String} (h : IsCodeOf letter code) : ∀ c ∈ code.toList, Sql.isPlain c = true ∧
      c ≠ '%' ∧ c ≠ '_' ∧ c ≠ '\\' := by
  obtain ⟨rest, hcode, -, hrest⟩ := h.toList
  rw [hcode]
  intro c hc
  rcases List.mem_cons.mp hc with rfl | hc
  · have hall : (singleLetters ++ multiLetters).all
        (fun c => Sql.isPlain c && c != '%' && c != '_' && c != '\\') = true := by decide
    simpa [and_assoc] using List.all_eq_true.mp hall c hletter
  · rcases hrest c hc with rfl | hc
    · decide
    · refine ⟨Sql.isPlain_of_isDigit hc, ?_, ?_, ?_⟩
      · exact Text.ne_of_isDigit hc (by decide)
      · exact Text.ne_of_isDigit hc (by decide)
      · exact Text.ne_of_isDigit hc (by decide)

theorem isCodeOf_text {p : Shorthand.Part} (h : p.Valid) (hdim : ∀ d, p ≠ .dim d) :
    ∃ letter ∈ singleLetters ++ multiLetters, IsCodeOf letter (String.ofList p.text) := by
  obtain ⟨letter, hletter, rest, htext, hrest⟩ := text_eq_code h hdim
  refine ⟨letter, hletter, ?_⟩
  rw [IsCodeOf, ← String.toList_inj, String.toList_ofList, htext]
  exact hrest.imp (fun hdigits => ⟨rfl, hdigits⟩) fun hz => ⟨hz.1, by rw [hz.1, hz.2]; rfl⟩

theorem IsCodeOf.codeOf_eq {letter : Char} {code : String} (h : IsCodeOf letter code) :
    codeOf code = hasCode letter code := by
  obtain ⟨rest, hcode, -⟩ := h.toList
  rw [codeOf, hcode]
  rfl

theorem literal?_quote {s : String} (h : '\'' ∉ s.toList) :
    literal? (Dialect.quote s) = some (.str s) := by
  have hlist : (Dialect.quote s).toList = '\'' :: (s.toList ++ ['\'']) := by simp [Dialect.quote]
  rw [literal?, hlist]
  simp [undoubled_of_not_mem h]

theorem compared_text {s t literal : String} (h : literal? literal = some (.str t)) :
    compared "=" (.str s) literal = some (decide (s = t)) := by
  have heq : (Ord.compare s t).isEq = decide (s = t) := by
    rw [Bool.eq_iff_iff, decide_eq_true_iff, Ordering.isEq_iff_eq_eq, Std.compare_eq_iff_eq]
  simp only [compared, relation?, h, heq]

theorem toList_codesText (codes : List String) :
    (codesText codes).toList = (codes.map String.toList).flatMap (· ++ ['|']) := by
  rw [codesText, String.toList_join, List.flatMap_map, List.flatMap_map]
  simp

section Columns

variable {row : Row} {letter : Char} {codes : List String} {code : String}

theorem truth_compared (hletter : letter ∈ singleLetters) (h : row.HoldsCodes letter codes)
    (hcode : IsCodeOf letter code) :
    (compare (codeColumn letter) "=" (Dialect.quote (code ++ "|"))).value row.truth =
      some (decide (code ∈ codes)) := by
  have hquote : '\'' ∉ (code ++ "|").toList := by
    intro hmem
    rw [String.toList_append, List.mem_append] at hmem
    rcases hmem with hmem | hmem
    · exact absurd (hcode.plain (List.mem_append_left _ hletter) _ hmem).1 (by decide)
    · exact absurd hmem (by decide)
  have hone : codes.length ≤ 1 := h.single hletter
  rw [value_compare, Row.truth, h.cell, compared_text (literal?_quote hquote), Option.some.injEq,
    decide_eq_decide]
  cases codes with
  | nil =>
    refine iff_of_false (fun hnil => ?_) List.not_mem_nil
    have hlist := congrArg String.toList hnil
    simp [codesText] at hlist
  | cons c more =>
    obtain rfl : more = [] := List.length_eq_zero_iff.mp (by simpa using hone)
    have hjoined : codesText [c] = c ++ "|" := by simp [codesText]
    rw [hjoined, List.mem_singleton, @eq_comm _ code]
    simp [← String.toList_inj]

theorem truth_searched (hletter : letter ∈ multiLetters) (h : row.HoldsCodes letter codes)
    (hcode : IsCodeOf letter code) :
    (like (codeColumn letter) ("%" ++ code ++ "|%")).value row.truth = some (decide (code ∈ codes)) := by
  have hplain := hcode.plain (List.mem_append_right _ hletter)
  have hall : multiLetters.all
      (fun c => !Text.isDigit c && c != '|' && c != 'z') = true := by decide
  obtain ⟨⟨hdigit, hbar⟩, hz⟩ : (Text.isDigit letter = false ∧ letter ≠ '|') ∧ letter ≠ 'z' := by
    simpa using List.all_eq_true.mp hall letter hletter
  have hdigits : ∀ c, IsCodeOf letter c →
      ∃ digits, c.toList = letter :: digits ∧ Text.isDigits digits = true := by
    rintro c (⟨hc, hdigits⟩ | ⟨rfl, -⟩)
    · obtain ⟨digits, hlist⟩ := List.head?_eq_some_iff.mp hc
      rw [hlist, List.tail_cons] at hdigits
      exact ⟨digits, hlist, hdigits⟩
    · exact absurd rfl hz
  obtain ⟨digits, hlist, hrun⟩ := hdigits code hcode
  have hpattern : ("%" ++ code ++ "|%").toList = '%' :: (code.toList ++ ['|'] ++ ['%']) := by simp
  have hquote : '\'' ∉ ("%" ++ code ++ "|%").toList := by
    rw [hpattern]
    intro hmem
    simp only [List.mem_cons, List.mem_append, List.not_mem_nil, or_false] at hmem
    rcases hmem with hmem | (hmem | hmem) | hmem
    · exact absurd hmem (by decide)
    · exact absurd (hplain _ hmem).1 (by decide)
    · exact absurd hmem (by decide)
    · exact absurd hmem (by decide)
  rw [value_like, Row.truth, h.cell]
  show some (isLike _ _) = _
  rw [undoubled_of_not_mem hquote, hpattern, Option.some.injEq, Bool.eq_iff_iff, decide_eq_true_iff,
    isLike_infix ?_, toList_codesText, hlist, infix_iff_mem hdigit hbar hrun ?_, ← hlist]
  · constructor
    · intro hmem
      obtain ⟨c, hc, heq⟩ := List.mem_map.mp hmem
      exact String.toList_inj.mp heq ▸ hc
    · exact List.mem_map_of_mem
  · intro cs hcs
    obtain ⟨c, hc, rfl⟩ := List.mem_map.mp hcs
    exact hdigits c (h.isCode c hc)
  · intro c hc
    rcases List.mem_append.mp hc with hc | hc
    · exact (hplain c hc).2
    · rw [List.mem_singleton.mp hc]
      decide

theorem truth_codeOf (hletter : letter ∈ singleLetters ++ multiLetters)
    (h : row.HoldsCodes letter codes) (hcode : IsCodeOf letter code) :
    (codeOf code).value row.truth = some (decide (code ∈ codes)) := by
  have hescape : Dialect.escape code = code :=
    Sql.escape_of_bare (Sql.bare_of_plain fun c hc => (hcode.plain hletter c hc).1)
  rw [hcode.codeOf_eq, hasCode, hescape]
  split
  · rename_i hsingle
    exact truth_compared (List.contains_iff_mem.mp hsingle) h hcode
  · rename_i hmulti
    rw [List.contains_iff_mem] at hmulti
    exact truth_searched ((List.mem_append.mp hletter).resolve_left hmulti) h hcode

/-- A row has exactly the codes that its columns hold. -/
theorem has_iff (hletter : letter ∈ singleLetters ++ multiLetters) (h : row.HoldsCodes letter codes)
    (hcode : IsCodeOf letter code) : row.Has code ↔ code ∈ codes := by
  rw [Row.Has, Holds, truth_codeOf hletter h hcode, Option.some.injEq, decide_eq_true_iff]

end Columns

theorem literal?_natCast (n : Nat) : literal? (toString (n : Int)) = some (.int n) := by
  have hlist : (toString (n : Int)).toList = Text.decimal n := Text.toList_repr_natCast n
  have hdigits := Text.isDigits_decimal n
  have hmark : ∀ c ∈ Text.decimal n, c ≠ '\'' ∧ c ≠ '-' := fun c hc =>
    have hdigit := (Text.isDigits_iff.mp hdigits).2 c hc
    ⟨Text.ne_of_isDigit hdigit (by decide), Text.ne_of_isDigit hdigit (by decide)⟩
  unfold literal?
  rw [hlist]
  split
  · rename_i heq
    exact absurd rfl (hmark '\'' (heq ▸ List.mem_cons_self)).1
  · rename_i heq
    exact absurd rfl (hmark '-' (heq ▸ List.mem_cons_self)).2
  · rw [if_pos hdigits, Text.ofDigits_decimal]

theorem truth_headPredicate {row : Row} {head : Int} (h : row.cell "s.category" = .int head)
    (n : Nat) : (headPredicate n).value row.truth = some (decide (head = n)) := by
  have heq : (Ord.compare head (n : Int)).isEq = decide (head = n) := by
    rw [Bool.eq_iff_iff, decide_eq_true_iff, Ordering.isEq_iff_eq_eq, Std.compare_eq_iff_eq]
  rw [headPredicate, value_compare, Row.truth, h]
  simp only [compared, relation?, literal?_natCast, heq]

theorem Row.WellFormed.known_headPredicate {row : Row} (h : row.WellFormed) (n : Nat) :
    (headPredicate n).Known row.truth := by
  obtain ⟨head, hhead⟩ := h.category
  rw [Known, truth_headPredicate hhead]
  exact Option.some_ne_none _

theorem Row.WellFormed.known_codeOf {row : Row} (h : row.WellFormed) {letter : Char}
    (hletter : letter ∈ singleLetters ++ multiLetters) {code : String}
    (hcode : IsCodeOf letter code) : (codeOf code).Known row.truth := by
  obtain ⟨codes, hcodes⟩ := h.codes letter hletter
  rw [Known, truth_codeOf hletter hcodes hcode]
  exact Option.some_ne_none _

/-- The row of a head with some codes in each column. -/
def Row.ofCodes (head : Int) (codes : Char → List String) : Row :=
  ("category", .int head) :: (singleLetters ++ multiLetters).map fun letter =>
    ("subcat" ++ String.singleton letter, .str (codesText (codes letter)))

theorem wellFormed_ofCodes {head : Int} {codes : Char → List String}
    (hcodes : ((singleLetters ++ multiLetters).all fun letter =>
      (codes letter).all fun code => decide (IsCodeOf letter code)) = true)
    (hsingle : (singleLetters.all fun letter => decide ((codes letter).length ≤ 1)) = true) :
    (Row.ofCodes head codes).WellFormed where
  category := ⟨head, rfl⟩
  codes letter hletter := by
    have hall := List.all_eq_true.mp hcodes letter hletter
    refine ⟨codes letter, ?_, fun code hcode => ?_, fun h => ?_⟩
    · simp only [singleLetters, multiLetters, List.cons_append, List.nil_append, List.mem_cons,
        List.not_mem_nil, or_false] at hletter
      rcases hletter with rfl | rfl | rfl | rfl | rfl <;> rfl
    · exact of_decide_eq_true (List.all_eq_true.mp hall code hcode)
    · exact of_decide_eq_true (List.all_eq_true.mp hsingle letter h)

end Sift
