import Sift.Dialect
import Sift.Proofs.Filter.Numerals
import Sift.Proofs.Shorthand.Grammar
import Sift.Proofs.Sql.Lexing

/-!
# Texts that stay inside parentheses

A text is `Safe` when inside parentheses it is read through to its end at the depth at which it
began. Safe texts can be put behind each other and into parentheses. Escaped values between quotes
are safe whatever they were (`safe_quote`), and so is a value that counts as numeric and is written
bare (`bare_of_isNumeric`).
-/

namespace Sift.Sql

open Reader

/-- The text ends in a character that may begin a comment. -/
def EndsOpen (cs : List Char) : Prop := cs.getLast? = some '-' ∨ cs.getLast? = some '/'

/-- Inside parentheses the text is read through, back to the depth at which it began. -/
def Safe (s : String) : Prop :=
  ∀ depth current pieces, ¬ EndsOpen current →
    Reader.run ⟨false, depth + 1, current, pieces⟩ s.toList =
      some ⟨false, depth + 1, current ++ s.toList, pieces⟩ ∧ ¬ EndsOpen (current ++ s.toList)

/-- Inside a literal the text is read through without an end of the literal. -/
def Quoted (s : String) : Prop :=
  ∀ depth current pieces,
    Reader.run ⟨true, depth, current, pieces⟩ s.toList =
      some ⟨true, depth, current ++ s.toList, pieces⟩

/-- A character that means nothing in particular inside parentheses. -/
def isPlain (c : Char) : Bool :=
  c != '\'' && c != '(' && c != ')' && c != ';' && c != '-' && c != '/' && c != '\x00'

/-! ## Safe texts -/

theorem endsOpen_append_singleton (cs : List Char) (c : Char) :
    EndsOpen (cs ++ [c]) ↔ c = '-' ∨ c = '/' := by
  simp [EndsOpen]

theorem Safe.append {a b : String} (ha : Safe a) (hb : Safe b) : Safe (a ++ b) := by
  intro depth current pieces hopen
  obtain ⟨hrun, hopen'⟩ := ha depth current pieces hopen
  obtain ⟨hrun', hend⟩ := hb depth (current ++ a.toList) pieces hopen'
  rw [String.toList_append, ← List.append_assoc]
  exact ⟨by rw [run_append, hrun, Option.bind_some, hrun'], hend⟩

theorem step_plain {depth : Nat} {current : List Char} {pieces : List String} {c : Char}
    (hc : isPlain c = true) (hopen : current.getLast? ≠ some '/') :
    Reader.step ⟨false, depth + 1, current, pieces⟩ c =
      some ⟨false, depth + 1, current ++ [c], pieces⟩ := by
  simp only [isPlain, Bool.and_eq_true, bne_iff_ne, ne_eq] at hc
  obtain ⟨⟨⟨⟨⟨⟨hquote, hleft⟩, hright⟩, hsemi⟩, hminus⟩, -⟩, -⟩ := hc
  simp [step, stepCode, opensComment, plain, push, hquote, hleft, hright, hsemi, hminus, hopen]

theorem not_endsOpen_append {current cs : List Char} (hne : cs ≠ [])
    (h : ∀ c ∈ cs, isPlain c = true) : ¬ EndsOpen (current ++ cs) := by
  have hplain := h _ (List.getLast_mem hne)
  rw [← List.dropLast_concat_getLast hne, ← List.append_assoc, endsOpen_append_singleton]
  rintro (heq | heq)
  · rw [heq] at hplain
    exact absurd hplain (by decide)
  · rw [heq] at hplain
    exact absurd hplain (by decide)

theorem run_plain {depth : Nat} {current cs : List Char} {pieces : List String}
    (h : ∀ c ∈ cs, isPlain c = true) (hopen : ¬ EndsOpen current) :
    Reader.run ⟨false, depth + 1, current, pieces⟩ cs =
      some ⟨false, depth + 1, current ++ cs, pieces⟩ := by
  induction cs generalizing current with
  | nil => simp
  | cons c cs ih =>
    have hc := h c (by simp)
    have hnext : ¬ EndsOpen (current ++ [c]) :=
      not_endsOpen_append (List.cons_ne_nil _ _) (by simpa using hc)
    rw [run_cons, step_plain hc fun h => hopen (.inr h), Option.bind_some,
      ih (fun d hd => h d (by simp [hd])) hnext, List.append_assoc, List.singleton_append]

theorem safe_of_plain {s : String} (h : ∀ c ∈ s.toList, isPlain c = true) : Safe s := by
  intro depth current pieces hopen
  refine ⟨run_plain h hopen, ?_⟩
  by_cases hne : s.toList = []
  · rwa [hne, List.append_nil]
  · exact not_endsOpen_append hne h

theorem safe_of_all {cs : List Char} (h : cs.all isPlain = true) : Safe (String.ofList cs) := by
  refine safe_of_plain fun c hc => ?_
  rw [String.toList_ofList] at hc
  exact List.all_eq_true.mp h c hc

theorem Safe.parens {s : String} (h : Safe s) : Safe ("(" ++ s ++ ")") := by
  intro depth current pieces hopen
  have hparen : ¬ EndsOpen (current ++ ['(']) := by simp [endsOpen_append_singleton]
  obtain ⟨hrun, -⟩ := h (depth + 1) (current ++ ['(']) pieces hparen
  have hlist : ("(" ++ s ++ ")").toList = '(' :: (s.toList ++ [')']) := by simp
  have hopened : Reader.step ⟨false, depth + 1, current, pieces⟩ '(' =
      some ⟨false, depth + 2, current ++ ['('], pieces⟩ := by
    simp [step, stepCode, opensComment, openGroup, push]
  have hclosed : Reader.step ⟨false, depth + 2, current ++ ['('] ++ s.toList, pieces⟩ ')' =
      some ⟨false, depth + 1, current ++ ['('] ++ s.toList ++ [')'], pieces⟩ := by
    simp [step, stepCode, opensComment, closeGroup, push]
  rw [hlist]
  constructor
  · rw [run_cons, hopened, Option.bind_some, run_append, hrun, Option.bind_some, run_cons, hclosed]
    simp
  · rw [← List.cons_append, ← List.append_assoc, endsOpen_append_singleton]
    decide

/-- A safe text in parentheses. -/
def Enclosed (s : String) : Prop := ∃ inner, s = "(" ++ inner ++ ")" ∧ Safe inner

theorem Enclosed.safe {s : String} (h : Enclosed s) : Safe s := by
  obtain ⟨inner, rfl, hinner⟩ := h
  exact hinner.parens

theorem Enclosed.isGroup {s : String} (h : Enclosed s) : IsGroup s := by
  obtain ⟨inner, rfl, -⟩ := h
  simp [IsGroup]

theorem Safe.lex_group {s : String} (h : Safe s) : lex ("(" ++ s ++ ")") = some ["(" ++ s ++ ")"] := by
  have hparen : ¬ EndsOpen ['('] := by simp [EndsOpen]
  obtain ⟨hrun, -⟩ := h 0 ['('] [] hparen
  have hlist : ("(" ++ s ++ ")").toList = '(' :: (s.toList ++ [')']) := by simp
  have hopened : (Reader.after []).step '(' = some ⟨false, 1, ['('], []⟩ := by
    simp [step, stepCode, opensComment, openGroup, push, after, close]
  have hclosed : Reader.step ⟨false, 1, ['('] ++ s.toList, []⟩ ')' =
      some (after ["(" ++ s ++ ")"]) := by
    have htext : String.ofList ('(' :: (s.toList ++ [')'])) = "(" ++ s ++ ")" := by
      rw [← hlist, String.ofList_toList]
    simp [step, stepCode, opensComment, closeGroup, push, close, htext, after]
  refine lex_eq_some.mpr ⟨after ["(" ++ s ++ ")"], ?_, rfl, rfl, rfl⟩
  rw [hlist, run_cons, hopened, Option.bind_some, run_append, hrun, Option.bind_some, run_cons,
    hclosed]
  rfl

theorem Safe.intercalate {sep : String} (hsep : Safe sep) {items : List String}
    (h : ∀ item ∈ items, Safe item) : Safe (sep.intercalate items) := by
  induction items with
  | nil =>
    rw [String.intercalate_nil]
    exact safe_of_plain (by simp)
  | cons item items ih =>
    cases items with
    | nil =>
      rw [String.intercalate_singleton]
      exact h item (by simp)
    | cons next items =>
      rw [String.intercalate_cons_cons]
      exact ((h item (by simp)).append hsep).append (ih fun i hi => h i (by simp [hi]))

/-! ## Literals -/

theorem Quoted.append {a b : String} (ha : Quoted a) (hb : Quoted b) : Quoted (a ++ b) := by
  intro depth current pieces
  rw [String.toList_append, run_append, ha, Option.bind_some, hb, List.append_assoc]

theorem quoted_of_not_mem {s : String} (h : '\'' ∉ s.toList) : Quoted s := by
  intro depth current pieces
  generalize s.toList = cs at h
  induction cs generalizing current with
  | nil => simp
  | cons c cs ih =>
    rw [List.mem_cons, not_or] at h
    have hstep : Reader.step ⟨true, depth, current, pieces⟩ c =
        some ⟨true, depth, current ++ [c], pieces⟩ := by
      simp [step, push, Ne.symm h.1]
    rw [run_cons, hstep, Option.bind_some, ih _ h.2, List.append_assoc, List.singleton_append]

theorem quoted_escape (value : String) : Quoted (Dialect.escape value) := by
  intro depth current pieces
  rw [Dialect.escape, String.toList_ofList]
  generalize value.toList.filter (· != '\x00') = cs
  induction cs generalizing current with
  | nil => simp [Dialect.doubled]
  | cons c cs ih =>
    rw [Dialect.doubled, List.flatMap_cons, run_append]
    by_cases hc : c = '\''
    · have hclose : Reader.step ⟨true, depth, current, pieces⟩ '\'' =
          some ⟨false, depth, current ++ ['\''], pieces⟩ := by
        simp [step, push]
      have hopen : Reader.step ⟨false, depth, current ++ ['\''], pieces⟩ '\'' =
          some ⟨true, depth, current ++ ['\'', '\''], pieces⟩ := by
        simp [step, stepCode, opensComment, push]
      rw [if_pos hc, hc, run_cons, hclose, Option.bind_some, run_cons, hopen, Option.bind_some,
        run_nil, Option.bind_some]
      refine (ih _).trans ?_
      simp [Dialect.doubled]
    · have hstep : Reader.step ⟨true, depth, current, pieces⟩ c =
          some ⟨true, depth, current ++ [c], pieces⟩ := by
        simp [step, push, hc]
      rw [if_neg hc, run_cons, hstep, Option.bind_some, run_nil, Option.bind_some]
      refine (ih _).trans ?_
      simp [Dialect.doubled]

theorem Quoted.safe {s : String} (h : Quoted s) : Safe ("'" ++ s ++ "'") := by
  intro depth current pieces hopen
  have hlist : ("'" ++ s ++ "'").toList = '\'' :: (s.toList ++ ['\'']) := by simp
  have hopened : Reader.step ⟨false, depth + 1, current, pieces⟩ '\'' =
      some ⟨true, depth + 1, current ++ ['\''], pieces⟩ := by
    simp [step, stepCode, opensComment, push]
  have hclosed : Reader.step ⟨true, depth + 1, current ++ ['\''] ++ s.toList, pieces⟩ '\'' =
      some ⟨false, depth + 1, current ++ ['\''] ++ s.toList ++ ['\''], pieces⟩ := by
    simp [step, push]
  rw [hlist]
  constructor
  · rw [run_cons, hopened, Option.bind_some, run_append, h, Option.bind_some, run_cons, hclosed]
    simp
  · rw [← List.cons_append, ← List.append_assoc, endsOpen_append_singleton]
    decide

/-- An escaped value between quotes is safe, whatever the value is. -/
theorem safe_quote (value : String) : Safe (Dialect.quote (Dialect.escape value)) :=
  (quoted_escape value).safe

/-! ## Numbers -/

theorem isPlain_of_isDigit {c : Char} (h : Text.isDigit c = true) : isPlain c = true := by
  have hne : ∀ d, Text.isDigit d = false → c ≠ d := fun d hd => Text.ne_of_isDigit h hd
  simp [isPlain, hne '\'' (by decide), hne '(' (by decide), hne ')' (by decide),
    hne ';' (by decide), hne '-' (by decide), hne '/' (by decide), hne '\x00' (by decide)]

theorem isPlain_of_isBlank {c : Char} (h : Text.isBlank c = true) : isPlain c = true := by
  have hne : ∀ d, Text.isBlank d = false → c ≠ d := by
    rintro d hd rfl
    exact Bool.false_ne_true (hd.symm.trans h)
  simp [isPlain, hne '\'' (by decide), hne '(' (by decide), hne ')' (by decide),
    hne ';' (by decide), hne '-' (by decide), hne '/' (by decide), hne '\x00' (by decide)]

/-- A text that is written without change, and safely so. -/
structure Bare (s : String) : Prop where
  safe : Safe s
  noMark : ∀ c ∈ s.toList, c ≠ '\'' ∧ c ≠ '\x00'

theorem Bare.append {a b : String} (ha : Bare a) (hb : Bare b) : Bare (a ++ b) where
  safe := ha.safe.append hb.safe
  noMark c hc := by
    rw [String.toList_append, List.mem_append] at hc
    exact hc.elim (ha.noMark c) (hb.noMark c)

theorem noMark_of_isPlain {c : Char} (h : isPlain c = true) : c ≠ '\'' ∧ c ≠ '\x00' := by
  simp only [isPlain, Bool.and_eq_true, bne_iff_ne, ne_eq] at h
  exact ⟨h.1.1.1.1.1.1, h.2⟩

theorem bare_of_plain {s : String} (h : ∀ c ∈ s.toList, isPlain c = true) : Bare s :=
  ⟨safe_of_plain h, fun c hc => noMark_of_isPlain (h c hc)⟩

theorem escape_of_bare {s : String} (h : Bare s) : Dialect.escape s = s := by
  have hfilter : s.toList.filter (· != '\x00') = s.toList :=
    List.filter_eq_self.mpr fun c hc => by simpa using (h.noMark c hc).2
  have hdoubled : ∀ cs : List Char, (∀ c ∈ cs, c ≠ '\'') → Dialect.doubled '\'' cs = cs := by
    intro cs hcs
    induction cs with
    | nil => rfl
    | cons c cs ih =>
      rw [Dialect.doubled, List.flatMap_cons, if_neg (hcs c (by simp))]
      exact congrArg (c :: ·) (ih fun d hd => hcs d (by simp [hd]))
  rw [Dialect.escape, hfilter, hdoubled _ fun c hc => (h.noMark c hc).1, String.ofList_toList]

theorem safe_signed {sign body : List Char} (hsign : Numeral.IsSign sign) (hne : body ≠ [])
    (h : ∀ c ∈ body, isPlain c = true) : Safe (String.ofList (sign ++ body)) := by
  rcases hsign with rfl | rfl | rfl
  · exact safe_of_plain (by simpa using h)
  · intro depth current pieces hopen
    rw [String.toList_ofList]
    refine ⟨?_, ?_⟩
    · cases body with
      | nil => exact absurd rfl hne
      | cons c cs =>
        have hminus : Reader.step ⟨false, depth + 1, current, pieces⟩ '-' =
            some ⟨false, depth + 1, current ++ ['-'], pieces⟩ := by
          rw [EndsOpen, not_or] at hopen
          simp [step, stepCode, opensComment, plain, push, hopen.1]
        have hfirst : Reader.step ⟨false, depth + 1, current ++ ['-'], pieces⟩ c =
            some ⟨false, depth + 1, current ++ ['-'] ++ [c], pieces⟩ :=
          step_plain (h c (by simp)) (by simp)
        have hnext : ¬ EndsOpen (current ++ ['-'] ++ [c]) :=
          not_endsOpen_append (List.cons_ne_nil _ _) (by simpa using h c (by simp))
        rw [List.singleton_append, run_cons, hminus, Option.bind_some, run_cons, hfirst,
          Option.bind_some, run_plain (fun d hd => h d (by simp [hd])) hnext]
        simp
    · rw [← List.append_assoc]
      exact not_endsOpen_append hne h
  · refine safe_of_plain fun c hc => ?_
    rw [String.toList_ofList, List.singleton_append, List.mem_cons] at hc
    rcases hc with rfl | hc
    · decide
    · exact h c hc

theorem bare_signed {sign body : List Char} (hsign : Numeral.IsSign sign) (hne : body ≠ [])
    (h : ∀ c ∈ body, isPlain c = true) : Bare (String.ofList (sign ++ body)) := by
  refine ⟨safe_signed hsign hne h, fun c hc => ?_⟩
  rw [String.toList_ofList, List.mem_append] at hc
  rcases hc with hc | hc
  · rcases hsign with rfl | rfl | rfl
    · cases hc
    · obtain rfl := List.mem_singleton.mp hc
      decide
    · obtain rfl := List.mem_singleton.mp hc
      decide
  · exact noMark_of_isPlain (h c hc)

theorem toString_int_eq (z : Int) : ∃ sign n, Numeral.IsSign sign ∧
    toString z = String.ofList (sign ++ Text.decimal n) := by
  cases z with
  | ofNat n => exact ⟨[], n, .inl rfl, by rw [← String.toList_inj]; simp⟩
  | negSucc n =>
    refine ⟨['-'], n + 1, .inr (.inl rfl), ?_⟩
    show "-" ++ Nat.repr (n + 1) = _
    rw [← String.toList_inj]
    simp [Nat.toList_repr, Text.decimal]

theorem safe_int (z : Int) : Safe (toString z) := by
  obtain ⟨sign, n, hsign, htext⟩ := toString_int_eq z
  have hdigits := Text.isDigits_iff.mp (Text.isDigits_decimal n)
  rw [htext]
  exact safe_signed hsign hdigits.1 fun c hc => isPlain_of_isDigit (hdigits.2 c hc)

theorem isPlain_of_isMantissa {mantissa : List Char} (h : Numeral.IsMantissa mantissa) :
    ∀ c ∈ mantissa, isPlain c = true := by
  intro c hc
  rcases h.digits c hc with hdigit | rfl
  · exact isPlain_of_isDigit hdigit
  · decide

theorem bare_exponent {exponent : List Char} (h : Numeral.IsExponent exponent) :
    Bare (String.ofList exponent) := by
  rcases h with rfl | ⟨e, sign, digits, rfl, he, hsign, hne, hdigits⟩
  · exact bare_of_plain (by simp)
  · have hbare := bare_signed hsign hne fun c hc => isPlain_of_isDigit (hdigits c hc)
    have hletter : Bare (String.singleton e) := by
      refine bare_of_plain fun c hc => ?_
      obtain rfl : c = e := by simpa using hc
      rcases he with rfl | rfl <;> decide
    have htext : String.ofList (e :: (sign ++ digits)) =
        String.singleton e ++ String.ofList (sign ++ digits) := by
      rw [← String.toList_inj]
      simp
    rw [htext]
    exact hletter.append hbare

theorem bare_of_isNumeric {value : String} (h : isNumeric value = true) : Bare value := by
  obtain ⟨parts⟩ := Numeral.exists_parts h
  have hblank : ∀ cs : List Char, (∀ c ∈ cs, Text.isBlank c = true) → Bare (String.ofList cs) :=
    fun cs hcs => bare_of_plain (by simpa using fun c hc => isPlain_of_isBlank (hcs c hc))
  have hnumber := bare_signed parts.isSign parts.isMantissa.ne_nil
    (isPlain_of_isMantissa parts.isMantissa)
  have htext : value = String.ofList parts.lead ++ String.ofList (parts.sign ++ parts.mantissa) ++
      String.ofList parts.exponent ++ String.ofList parts.trail := by
    rw [← String.toList_inj]
    simpa using parts.eq
  rw [htext]
  exact (((hblank _ parts.isBlank_lead).append hnumber).append
    (bare_exponent parts.isExponent)).append (hblank _ parts.isBlank_trail)

end Sift.Sql
