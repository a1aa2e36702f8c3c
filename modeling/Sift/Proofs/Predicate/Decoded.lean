import Sift.Proofs.Predicate.Codes
import Sift.Taxonomy.Default

/-!
# Category predicates and decoded codes

A listed spot shows the codes that its five columns hold, read as one text. In a row whose columns are
well formed these are the codes of the columns, one column after the other (`codesOfRow_eq`), and the
row has a code exactly when it is shown (`has_iff_mem_decoded`). So the rows that a selection finds
can be told from the codes of the listing (`holds_ofSelection_iff_decoded`).
-/

namespace Sift

open Predicate Category

/-! ## Decoding -/

theorem Text.fields_flatMap_sep {sep : Char} {parts : List (List Char)}
    (h : ∀ part ∈ parts, sep ∉ part) :
    fields sep (parts.flatMap (· ++ [sep])) = parts ++ [[]] := by
  induction parts with
  | nil => rfl
  | cons part parts ih =>
    rw [List.flatMap_cons, List.append_assoc, List.singleton_append,
      fields_append_sep _ _ _ (h part List.mem_cons_self),
      ih fun p hp => h p (List.mem_cons_of_mem _ hp), List.cons_append]

theorem join_codesText (columns : List (List String)) :
    String.join (columns.map codesText) = codesText columns.flatten := by
  rw [← String.toList_inj, String.toList_join, toList_codesText, List.flatMap_map]
  induction columns with
  | nil => rfl
  | cons codes columns ih =>
    rw [List.flatMap_cons, ih, toList_codesText, List.flatten_cons, List.map_append,
      List.flatMap_append]

theorem split_codesText {codes : List String} (h : ∀ code ∈ codes, '|' ∉ code.toList) :
    Text.split '|' (codesText codes) = codes ++ [""] := by
  have hbars : ∀ part ∈ codes.map String.toList, '|' ∉ part := by
    intro part hpart
    obtain ⟨code, hcode, rfl⟩ := List.mem_map.mp hpart
    exact h code hcode
  have hid : (String.ofList ∘ String.toList) = id := funext fun _ => String.ofList_toList
  rw [Text.split, toList_codesText, Text.fields_flatMap_sep hbars, List.map_append, List.map_map,
    hid, List.map_id]
  rfl

theorem codesOf_codesText {columns : List (List String)}
    (h : ∀ code ∈ columns.flatten, code ≠ "" ∧ '|' ∉ code.toList) :
    Spot.codesOf (columns.map codesText) = columns.flatten := by
  have hkept : columns.flatten.filter (· != "") = columns.flatten :=
    List.filter_eq_self.mpr fun code hcode => bne_iff_ne.mpr (h code hcode).1
  rw [Spot.codesOf, join_codesText, split_codesText fun code hcode => (h code hcode).2,
    List.filter_append, hkept]
  show columns.flatten ++ [] = _
  rw [List.append_nil]

/-! ## Rows -/

/-- The letters of the columns in the order in which the columns are read. -/
def columnLetters : List Char := ['a', 'b', 'c', 'd', 'z']

theorem mem_columnLetters {letter : Char} :
    letter ∈ columnLetters ↔ letter ∈ singleLetters ++ multiLetters := by
  have hperm : columnLetters.Perm (singleLetters ++ multiLetters) := by decide
  exact hperm.mem_iff

section Rows

variable {row : Row} {letter : Char} {code : String}

theorem IsCodeOf.readable (hletter : letter ∈ columnLetters) (h : IsCodeOf letter code) :
    code ≠ "" ∧ '|' ∉ code.toList := by
  obtain ⟨rest, hcode, hrest, -⟩ := h.toList
  constructor
  · rintro rfl
    cases hcode
  · have hbar : letter ≠ '|' := by
      rintro rfl
      exact absurd hletter (by decide)
    rw [hcode, List.mem_cons, not_or]
    exact ⟨Ne.symm hbar, hrest⟩

theorem codeText_eq {codes : List String} (h : row.HoldsCodes letter codes) {column : String}
    (hcolumn : Dialect.bareColumn (codeColumn letter) = column) (index : Nat) :
    Spot.codeText row index column = .ok (codesText codes) := by
  have hcell := h.cell
  rw [Row.cell, hcolumn] at hcell
  rw [Spot.codeText]
  cases hlookup : row.lookup column with
  | none =>
    rw [hlookup] at hcell
    cases hcell
  | some value =>
    rw [hlookup] at hcell
    obtain rfl : value = .str (codesText codes) := hcell
    rfl

theorem codesOfRow_of_texts {codes : Char → List String}
    (htext : ∀ letter column index, letter ∈ columnLetters →
      Dialect.bareColumn (codeColumn letter) = column →
      Spot.codeText row index column = .ok (codesText (codes letter)))
    (hcode : ∀ letter ∈ columnLetters, ∀ code ∈ codes letter, IsCodeOf letter code) :
    Spot.codesOfRow row = .ok (columnLetters.flatMap codes) := by
  have hread : Spot.codesOfRow row =
      .ok (Spot.codesOf ((columnLetters.map codes).map codesText)) := by
    simp only [Spot.codesOfRow, Spot.codeColumns, List.zipIdx, List.mapM_cons, List.mapM_nil,
      htext 'a' "subcata" _ (by decide) rfl, htext 'b' "subcatb" _ (by decide) rfl,
      htext 'c' "subcatc" _ (by decide) rfl, htext 'd' "subcatd" _ (by decide) rfl,
      htext 'z' "subcatz" _ (by decide) rfl]
    rfl
  rw [hread, codesOf_codesText ?_, ← List.flatMap_def]
  intro code hmem
  rw [← List.flatMap_def] at hmem
  obtain ⟨letter, hletter, hmem⟩ := List.mem_flatMap.mp hmem
  exact (hcode letter hletter code hmem).readable hletter

theorem codesOfRow_eq {codes : Char → List String}
    (h : ∀ letter ∈ columnLetters, row.HoldsCodes letter (codes letter)) :
    Spot.codesOfRow row = .ok (columnLetters.flatMap codes) :=
  codesOfRow_of_texts
    (fun letter _ index hletter hcolumn => codeText_eq (h letter hletter) hcolumn index)
    fun letter hletter => (h letter hletter).isCode

theorem mem_flatMap_codes {codes : Char → List String}
    (h : ∀ letter ∈ columnLetters, ∀ code ∈ codes letter, IsCodeOf letter code)
    (hletter : letter ∈ columnLetters) (hcode : IsCodeOf letter code) :
    code ∈ columnLetters.flatMap codes ↔ code ∈ codes letter := by
  rw [List.mem_flatMap]
  constructor
  · rintro ⟨letter', hletter', hmem⟩
    -- Both codes start with the letter of their column, so it is one column.
    obtain ⟨rest, hlist, -⟩ := hcode.toList
    obtain ⟨rest', hlist', -⟩ := (h letter' hletter' code hmem).toList
    rw [hlist] at hlist'
    rwa [(List.cons.inj hlist').1]
  · exact fun hmem => ⟨letter, hletter, hmem⟩

/-- A row has a code exactly when it is among those shown. -/
theorem has_iff_mem_decoded {codes : Char → List String}
    (h : ∀ letter ∈ columnLetters, row.HoldsCodes letter (codes letter))
    (hletter : letter ∈ columnLetters) (hcode : IsCodeOf letter code) :
    row.Has code ↔ code ∈ columnLetters.flatMap codes := by
  rw [has_iff (mem_columnLetters.mp hletter) (h letter hletter) hcode,
    mem_flatMap_codes (fun letter hletter => (h letter hletter).isCode) hletter hcode]

end Rows

/-! ## Selections -/

/-- Some codes show that a row of a head is of a selected type: they have the type, unless it is that
of heads without a type split, and a value of every dimension that lists any. -/
def Selection.Covers (sel : Selection) (head : Int) (codes : List String) : Prop :=
  ∃ type, sel.hasType head type = true ∧ (type = untyped ∨ type ∈ codes) ∧
    ∀ dim values, sel.values? head type dim = some values → values ≠ [] →
      ∃ v ∈ values, dim ++ v ∈ codes

section Selections

variable {sel : Selection} {row : Row} {codes : List String}

theorem isOf_iff {type : String} (htype : Shorthand.isTypeKey type.toList = true) {head : Int}
    (hhead : row.cell "s.category" = .int head) (n : Nat)
    (hcodes : ∀ letter ∈ columnLetters, ∀ code, IsCodeOf letter code →
      (row.Has code ↔ code ∈ codes)) :
    row.IsOf n type ↔ head = n ∧ (type = untyped ∨ type ∈ codes) := by
  obtain ⟨letter, hletter, hcode⟩ := isCodeOf_text (p := .type type) htype (by simp)
  rw [Shorthand.Part.text, String.ofList_toList] at hcode
  rw [Row.IsOf, Holds, truth_headPredicate hhead, Option.some.injEq, decide_eq_true_iff,
    hcodes letter (mem_columnLetters.mpr hletter) type hcode, or_iff_not_imp_left]

theorem exists_value_iff (hsel : sel.Writable)
    (hcodes : ∀ letter ∈ columnLetters, ∀ code, IsCodeOf letter code →
      (row.Has code ↔ code ∈ codes)) {head : Int} {type : String} :
    (∀ dim, sel.valuesOf head type dim ≠ [] →
      ∃ v ∈ sel.valuesOf head type dim, row.Has (dim ++ v)) ↔
    ∀ dim values, sel.values? head type dim = some values → values ≠ [] →
      ∃ v ∈ values, dim ++ v ∈ codes := by
  have hvalue : ∀ dim values, sel.values? head type dim = some values → ∀ v ∈ values,
      (row.Has (dim ++ v) ↔ dim ++ v ∈ codes) := by
    intro dim values hvalues v hv
    have hdim := hsel.dims head type dim (OrderedMap.mem_keys_iff.mpr ⟨values, hvalues⟩)
    have hdigits := hsel.values head type dim values hvalues v hv
    obtain ⟨letter, hletter, hcode⟩ :=
      isCodeOf_text (p := .value dim v) ⟨hdim, hdigits⟩ (by simp)
    rw [Shorthand.Part.text, ← String.toList_append, String.ofList_toList] at hcode
    exact hcodes letter (mem_columnLetters.mpr hletter) (dim ++ v) hcode
  constructor
  · intro h dim values hvalues hne
    have hlisted : sel.valuesOf head type dim = values := by
      rw [Selection.valuesOf, hvalues]
      rfl
    obtain ⟨v, hv, hhas⟩ := h dim (hlisted ▸ hne)
    rw [hlisted] at hv
    exact ⟨v, hv, (hvalue dim values hvalues v hv).mp hhas⟩
  · intro h dim hne
    cases hvalues : sel.values? head type dim with
    | none =>
      rw [Selection.valuesOf, hvalues] at hne
      exact absurd rfl hne
    | some values =>
      rw [Selection.valuesOf, hvalues] at hne ⊢
      obtain ⟨v, hv, hmem⟩ := h dim values hvalues hne
      exact ⟨v, hv, (hvalue dim values hvalues v hv).mpr hmem⟩

theorem isEmpty_iff_of_expandTree {tax : Taxonomy} {tree : String} {neg : Negations}
    (h : Shorthand.expandTree tax tree = .ok (sel, neg)) :
    sel.isEmpty = true ↔ ∀ head type, sel.hasType head type = false := by
  obtain ⟨entries, rfl⟩ := Shorthand.selected_of_expand h
  rw [Selection.isEmpty, OrderedMap.isEmpty, List.isEmpty_iff]
  constructor
  · intro hnil head type
    refine Bool.eq_false_iff.mpr fun htype => ?_
    obtain ⟨types, dims, hmem, -⟩ := Selection.hasType_iff.mp htype
    rw [hnil] at hmem
    cases hmem
  · intro hnone
    refine List.eq_nil_iff_forall_not_mem.mpr fun e he => ?_
    have hhead : (Shorthand.selected entries).hasHead e.1 = true :=
      OrderedMap.contains_eq_true.mpr (List.mem_map_of_mem he)
    obtain ⟨type, htype⟩ := Shorthand.exists_hasType_selected hhead
    rw [hnone] at htype
    cases htype

end Selections

/-- The predicates of what a tree selects find a row exactly when nothing is selected, or when the
codes shown for it are those of a selected type of its head. -/
theorem holds_ofSelection_iff_decoded {tax : Taxonomy} {tree : String} {sel : Selection}
    {neg : Negations} (h : Shorthand.expandTree tax tree = .ok (sel, neg)) {row : Row}
    (hrow : row.WellFormed) :
    ∃ predicates codes head, Category.ofSelection sel = .ok predicates ∧
      Spot.codesOfRow row = .ok codes ∧ row.cell "s.category" = .int head ∧
      ((any predicates).Holds row.truth ↔ sel.isEmpty = true ∨ sel.Covers head codes) := by
  have hsel := (Shorthand.writable_of_expand h).1
  obtain ⟨head, hhead⟩ := hrow.category
  have hcolumns : ∀ letter, ∃ codes, letter ∈ columnLetters → row.HoldsCodes letter codes := by
    intro letter
    by_cases hletter : letter ∈ columnLetters
    · obtain ⟨codes, hcodes⟩ := hrow.codes letter (mem_columnLetters.mp hletter)
      exact ⟨codes, fun _ => hcodes⟩
    · exact ⟨[], fun hmem => absurd hmem hletter⟩
  choose codes hcodes using hcolumns
  have hhas : ∀ letter ∈ columnLetters, ∀ code, IsCodeOf letter code →
      (row.Has code ↔ code ∈ columnLetters.flatMap codes) :=
    fun letter hletter code hcode => has_iff_mem_decoded hcodes hletter hcode
  refine ⟨_, _, head, ofSelection_eq hsel, codesOfRow_eq hcodes, hhead, ?_⟩
  rw [holds_ofSelection hsel (ofSelection_eq hsel), Selection.Matches]
  refine or_congr (isEmpty_iff_of_expandTree h).symm ⟨?_, ?_⟩
  · rintro ⟨head', type, htype, hof, hvalues⟩
    obtain ⟨n, rfl, -⟩ := hsel.heads head' (Selection.hasHead_of_hasType htype)
    obtain ⟨rfl, hshown⟩ := (isOf_iff (hsel.types _ _ htype) hhead n hhas).mp hof
    exact ⟨type, htype, hshown, (exists_value_iff hsel hhas).mp hvalues⟩
  · rintro ⟨type, htype, hshown, hvalues⟩
    obtain ⟨n, rfl, -⟩ := hsel.heads head (Selection.hasHead_of_hasType htype)
    refine ⟨n, type, htype, ?_, (exists_value_iff hsel hhas).mpr hvalues⟩
    exact (isOf_iff (hsel.types _ _ htype) hhead n hhas).mpr ⟨rfl, hshown⟩

/-- A filter for `b1` and a row of the same type whose codes are `b11` and `b4`. -/
theorem holds_ofSelection_iff_decoded_default :
    let sel := (Selection.empty.addValue 0 "z0" "b" "1").addType 2 "zz"
    let row : Row := .ofCodes 0 fun letter =>
      if letter = 'z' then ["z0"] else if letter = 'b' then ["b11", "b4"] else []
    row.WellFormed ∧ Shorthand.expandTree .default "cat0_z0_b1,cat2" = .ok (sel, .empty) ∧
      ∃ predicates codes head, Category.ofSelection sel = .ok predicates ∧
        Spot.codesOfRow row = .ok codes ∧ row.cell "s.category" = .int head ∧
        ((any predicates).Holds row.truth ↔ sel.isEmpty = true ∨ sel.Covers head codes) := by
  intro sel row
  have hrow : row.WellFormed := wellFormed_ofCodes (by decide) (by decide)
  have hexpand : Shorthand.expandTree .default "cat0_z0_b1,cat2" = .ok (sel, .empty) := by decide
  exact ⟨hrow, hexpand, holds_ofSelection_iff_decoded hexpand hrow⟩

end Sift
