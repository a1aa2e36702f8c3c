import Sift.Proofs.Predicate.Codes

/-!
# Clauses of a type

The predicate of a type is a conjunction, and the conditions that it joins look at different columns:
the head, the type, and one for each dimension that lists values (`clausesOn_typeOf`). A row whose only
code in the column of a dimension is a value of it fulfils the condition when the value is listed, or
something is listed that is read as the value (`has_iff_readsAs`): what is listed is searched for
without the characters that are dropped, and in the columns that are searched it is a pattern.
-/

namespace Sift

namespace Predicate

mutual

/-- The conditions that a predicate joins with `AND`. -/
def conjuncts : Predicate → List Predicate
  | all items => conjunctsOf items
  | p => [p]

def conjunctsOf : List Predicate → List Predicate
  | [] => []
  | item :: rest => conjuncts item ++ conjunctsOf rest

end

mutual

/-- The columns that a predicate looks at, those of finished fragments left out. -/
def columns : Predicate → List String
  | compare column _ _ | like column _ | isNull column _ => [column]
  | raw _ => []
  | all items | any items => columnsOf items
  | not item => columns item

def columnsOf : List Predicate → List String
  | [] => []
  | item :: rest => columns item ++ columnsOf rest

end

/-- The conditions on a column. -/
def clausesOn (column : String) (p : Predicate) : List Predicate :=
  p.conjuncts.filter fun q => column ∈ q.columns

theorem conjunctsOf_append (items items' : List Predicate) :
    conjunctsOf (items ++ items') = conjunctsOf items ++ conjunctsOf items' := by
  induction items with
  | nil => rfl
  | cons p items ih => rw [List.cons_append, conjunctsOf, conjunctsOf, ih, List.append_assoc]

theorem conjunctsOf_eq_self {items : List Predicate} (h : ∀ p ∈ items, p.conjuncts = [p]) :
    conjunctsOf items = items := by
  induction items with
  | nil => rfl
  | cons p items ih =>
    rw [conjunctsOf, h p (by simp), ih fun q hq => h q (by simp [hq]), List.singleton_append]

theorem mem_columnsOf {items : List Predicate} {column : String} :
    column ∈ columnsOf items ↔ ∃ p ∈ items, column ∈ p.columns := by
  induction items with
  | nil => simp [columnsOf]
  | cons p items ih => simp [columnsOf, ih]

end Predicate

namespace Category

open Predicate

variable {letter : Char} {code : String}

/-! ## Columns -/

theorem columns_hasCode (letter : Char) (code : String) :
    (hasCode letter code).columns = [codeColumn letter] := by
  unfold hasCode
  split <;> rfl

theorem conjuncts_hasCode (letter : Char) (code : String) :
    (hasCode letter code).conjuncts = [hasCode letter code] := by
  unfold hasCode
  split <;> rfl

theorem codeColumn_injective {letter letter' : Char} (h : codeColumn letter = codeColumn letter') :
    letter = letter' := by
  have hlist := congrArg String.toList h
  simpa [codeColumn] using hlist

theorem codeOf_singleton (letter : Char) (value : String) :
    codeOf (String.singleton letter ++ value) =
      hasCode letter (String.singleton letter ++ value) := by
  simp [codeOf]

theorem mem_columns_dimOf? {values : List String} {p : Predicate}
    (h : dimOf? (String.singleton letter) values = some p) {column : String} :
    column ∈ p.columns ↔ column = codeColumn letter := by
  rw [dimOf?, Option.ite_none_left_eq_some] at h
  obtain ⟨hvalues, h⟩ := h
  obtain rfl := Option.some.inj h
  obtain ⟨v, hv⟩ := List.exists_mem_of_ne_nil _ hvalues
  rw [columns, mem_columnsOf]
  constructor
  · rintro ⟨p, hp, hcolumn⟩
    obtain ⟨w, -, rfl⟩ := List.mem_map.mp hp
    rw [codeOf_singleton, columns_hasCode] at hcolumn
    exact List.mem_singleton.mp hcolumn
  · rintro rfl
    refine ⟨_, List.mem_map_of_mem hv, ?_⟩
    rw [codeOf_singleton, columns_hasCode]
    exact List.mem_singleton_self _

theorem conjuncts_dimOf? {dim : String} {values : List String} {p : Predicate}
    (h : dimOf? dim values = some p) : p.conjuncts = [p] := by
  rw [dimOf?, Option.ite_none_left_eq_some] at h
  obtain rfl := Option.some.inj h.2
  rfl

/-! ## The conditions of a type -/

/-- The conditions of the dimensions of a type. -/
def dimParts (dims : List (String × List String)) : List Predicate :=
  dims.filterMap fun e => dimOf? e.1 e.2

theorem conjuncts_typeOf (head : Int) (type : String) (dims : Dims) :
    (typeOf head type dims).conjuncts =
      headPredicate head :: ((if type = untyped then [] else [codeOf type]) ++
        dimParts dims.entries) := by
  have hparts : conjunctsOf (dimsOf dims) = dimParts dims.entries := by
    have hself : conjunctsOf (dimParts dims.entries) = dimParts dims.entries := by
      refine conjunctsOf_eq_self fun p hp => ?_
      obtain ⟨e, -, he⟩ := List.mem_filterMap.mp hp
      exact conjuncts_dimOf? he
    rw [dimsOf]
    split
    · rename_i hnil
      exact hnil.symm
    · rw [conjunctsOf, conjuncts, conjunctsOf, List.append_nil]
      exact hself
  have htype : conjunctsOf (if type = untyped then [] else [codeOf type]) =
      if type = untyped then [] else [codeOf type] := by
    split
    · rfl
    · exact conjunctsOf_eq_self fun p hp => by
        rw [List.mem_singleton.mp hp]
        exact conjuncts_hasCode _ _
  rw [typeOf, conjuncts, conjunctsOf, conjunctsOf_append, hparts, htype]
  rfl

theorem filter_dimParts {dims : List (String × List String)} (hnodup : (dims.map Prod.fst).Nodup)
    (hdims : ∀ e ∈ dims, e.1 ∈ dimensions) (letter : Char) :
    (dimParts dims).filter (fun p => codeColumn letter ∈ p.columns) =
      ((dims.lookup (String.singleton letter)).bind (dimOf? (String.singleton letter))).toList := by
  induction dims with
  | nil => rfl
  | cons e dims ih =>
    obtain ⟨dim, values⟩ := e
    rw [List.map_cons, List.nodup_cons] at hnodup
    have ih := ih hnodup.2 fun e he => hdims e (by simp [he])
    obtain ⟨l, -, rfl⟩ := Shorthand.mem_dimensions_iff.mp (hdims _ (List.mem_cons_self))
    have hcons : dimParts ((String.singleton l, values) :: dims) =
        (dimOf? (String.singleton l) values).toList ++ dimParts dims := by
      rw [dimParts, List.filterMap_cons]
      cases dimOf? (String.singleton l) values <;> rfl
    rw [hcons, List.filter_append, ih]
    by_cases hl : l = letter
    · subst hl
      have hrest : dims.lookup (String.singleton l) = none := by
        refine List.lookup_eq_none_iff.mpr fun e he => bne_iff_ne.mpr fun heq => hnodup.1 ?_
        exact List.mem_map.mpr ⟨e, he, heq.symm⟩
      rw [List.lookup_cons_self, hrest]
      show _ ++ [] = (dimOf? (String.singleton l) values).toList
      rw [List.append_nil, List.filter_eq_self]
      intro p hp
      exact decide_eq_true ((mem_columns_dimOf? (Option.mem_toList.mp hp)).mpr rfl)
    · have hne : String.singleton letter ≠ String.singleton l := fun heq => hl (by
        simpa using (congrArg String.toList heq).symm)
      have hdropped : (dimOf? (String.singleton l) values).toList.filter
          (fun p => codeColumn letter ∈ p.columns) = [] := by
        refine List.filter_eq_nil_iff.mpr fun p hp hcolumn => hl ?_
        have hcolumn := (mem_columns_dimOf? (Option.mem_toList.mp hp)).mp (of_decide_eq_true hcolumn)
        exact (codeColumn_injective hcolumn).symm
      rw [hdropped, List.nil_append, List.lookup_cons, beq_false_of_ne hne]

theorem clausesOn_typeOf {type : String} (htype : Shorthand.isTypeKey type.toList = true) {dims : Dims}
    (hdims : ∀ e ∈ dims.entries, e.1 ∈ dimensions) (head : Int)
    (hletter : Shorthand.isDim letter = true) :
    clausesOn (codeColumn letter) (typeOf head type dims) =
      ((dims.get? (String.singleton letter)).bind (dimOf? (String.singleton letter))).toList := by
  have hhead : codeColumn letter ∉ (headPredicate head).columns := by
    intro hmem
    have hlist := congrArg String.toList (List.mem_singleton.mp hmem)
    simp [codeColumn] at hlist
  have hcode : codeColumn letter ∉ (codeOf type).columns := by
    obtain ⟨rest, hrest⟩ : ∃ rest, type.toList = 'z' :: rest := by
      unfold Shorthand.isTypeKey at htype
      split at htype
      · rename_i rest heq
        exact ⟨rest, heq⟩
      · cases htype
    rw [codeOf, columns_hasCode, hrest]
    intro hmem
    obtain rfl : letter = 'z' := codeColumn_injective (List.mem_singleton.mp hmem)
    cases hletter
  rw [clausesOn, conjuncts_typeOf, List.filter_cons_of_neg (by simpa using hhead), List.filter_append,
    filter_dimParts dims.nodup hdims]
  refine congrArg (· ++ _) ?_ |>.trans (List.nil_append _)
  split
  · rfl
  · exact List.filter_cons_of_neg (by simpa using hcode)

/-! ## What a code finds -/

/-- The characters of a text without those that are dropped when it is escaped. -/
def kept (text : String) : List Char := text.toList.filter (· != '\x00')

/-- A column that holds one value only is found by what is listed: it is the value, or a pattern for
it in the columns that are searched. -/
def readsAs (letter : Char) (listed value : String) : Bool :=
  if singleLetters.contains letter then kept listed == value.toList
  else isLike ('%' :: letter :: (kept listed ++ ['|', '%'])) (letter :: (value.toList ++ ['|']))

theorem undoubled_cons {c : Char} (hc : c ≠ '\'') (cs : List Char) :
    undoubled (c :: cs) = c :: undoubled cs := by
  rw [undoubled]
  rintro rest rfl
  exact absurd rfl hc

theorem undoubled_doubled_append (cs rest : List Char) :
    undoubled (Dialect.doubled '\'' cs ++ rest) = cs ++ undoubled rest := by
  induction cs with
  | nil => rfl
  | cons c cs ih =>
    rw [Dialect.doubled, List.flatMap_cons, ← Dialect.doubled, List.append_assoc]
    by_cases hc : c = '\''
    · subst hc
      show '\'' :: undoubled (Dialect.doubled '\'' cs ++ rest) = _
      rw [ih]
      rfl
    · rw [if_neg hc, List.singleton_append, undoubled_cons hc, ih]
      rfl

theorem toList_escape (text : String) :
    (Dialect.escape text).toList = Dialect.doubled '\'' (kept text) := by
  rw [Dialect.escape, String.toList_ofList, kept]

theorem kept_append (a b : String) : kept (a ++ b) = kept a ++ kept b := by
  rw [kept, String.toList_append, List.filter_append]
  rfl

theorem literal?_quote_escape (text suffix : String) (hsuffix : '\'' ∉ suffix.toList) :
    literal? (Dialect.quote (Dialect.escape text ++ suffix)) =
      some (.str (String.ofList (kept text ++ suffix.toList))) := by
  have hlist : (Dialect.quote (Dialect.escape text ++ suffix)).toList =
      '\'' :: ((Dialect.doubled '\'' (kept text) ++ suffix.toList) ++ ['\'']) := by
    rw [Dialect.quote, String.toList_append, String.toList_append, String.toList_append, toList_escape]
    rfl
  rw [literal?, hlist]
  simp only [List.dropLast_concat]
  rw [undoubled_doubled_append, undoubled_of_not_mem hsuffix]

/-- A row whose only code in a column is a value has what is read as the value. -/
theorem has_iff_readsAs {row : Row} (hletter : Shorthand.isDim letter = true) {listed value : String}
    (h : row.HoldsCodes letter [String.singleton letter ++ value]) :
    row.Has (String.singleton letter ++ listed) ↔ readsAs letter listed value = true := by
  have hplain : letter ≠ '\x00' ∧ letter ≠ '\'' := by
    constructor
    · rintro rfl
      cases hletter
    · rintro rfl
      cases hletter
  have hkept : kept (String.singleton letter ++ listed) = letter :: kept listed := by
    rw [kept_append]
    have hone : kept (String.singleton letter) = [letter] := by
      rw [kept, String.toList_singleton, List.filter_cons_of_pos (by simpa using hplain.1),
        List.filter_nil]
    rw [hone, List.singleton_append]
  have hcell : row.cell (codeColumn letter) =
      .str (String.ofList (letter :: (value.toList ++ ['|']))) := by
    have htext : codesText [String.singleton letter ++ value] =
        String.ofList (letter :: (value.toList ++ ['|'])) := by
      rw [← String.toList_inj, toList_codesText]
      simp
    rw [h.cell, htext]
  rw [Row.Has, codeOf_singleton, Holds, hasCode, readsAs]
  split
  · rename_i hsingle
    show compared "=" (row.cell (codeColumn letter)) _ = _ ↔ _
    rw [hcell, compared_text (literal?_quote_escape _ "|" (by decide)), hkept, Option.some.injEq,
      decide_eq_true_iff, beq_iff_eq, ← String.toList_inj, String.toList_ofList, String.toList_ofList]
    simp [eq_comm]
  · rename_i hmulti
    have hpattern : ("%" ++ Dialect.escape (String.singleton letter ++ listed) ++ "|%").toList =
        '%' :: (Dialect.doubled '\'' (letter :: kept listed) ++ ['|', '%']) := by
      rw [String.toList_append, String.toList_append, toList_escape, hkept]
      rfl
    show (row.cell (codeColumn letter)).text?.map _ = _ ↔ _
    rw [hcell, hpattern, undoubled_cons (by decide), undoubled_doubled_append,
      undoubled_of_not_mem (by decide)]
    simp [Json.text?]

end Category

end Sift
