import Sift.Boundary.Almanac
import Sift.Proofs.Predicate.Codes
import Sift.Proofs.Shorthand.RoundTrip

/-!
# Links to other pages

The link to another page carries the compressed selection of a filter. Heads outside of the taxonomy
are not written, and neither is a dimension that lists all that applies, so the other page does not
ask for its codes: the link finds every row of the taxonomy that the filter finds, and the same rows
among those that have a code wherever all are listed (`satisfies_pagingTree`). A type that a head does
not have is written only as far as it lists values (`linkDiffers_examples`), so a row of such a type
is only told about where all of them are written. Rows of other types are not concerned.
-/

namespace Sift

open Shorthand

/-- Nothing is selected, or a type of the taxonomy that leaves something in the link. -/
def Selection.Touches (sel : Selection) (tax : Taxonomy) : Prop :=
  (∀ id type, sel.hasType id type = false) ∨
    ∃ id type head, sel.hasType id type = true ∧ tax.head? id = some head ∧ Reaches sel head type

/-- Every selected head is outside of the taxonomy. -/
def Selection.Outside (sel : Selection) (tax : Taxonomy) : Prop :=
  ∀ id type, sel.hasType id type = true → tax.head? id = none

/-- The row is in no selected head outside of the taxonomy. -/
def Row.Inside (row : Row) (tax : Taxonomy) (sel : Selection) : Prop :=
  ∀ id type, sel.hasType id type = true → tax.head? id = none →
    ¬ (Category.headPredicate id).Holds row.truth

/-- The selected types that the row is of keep their meaning when they are written. -/
def Row.Kept (row : Row) (tax : Taxonomy) (sel : Selection) : Prop :=
  ∀ id type head, sel.hasType id type = true → tax.head? id = some head → row.IsOf id type →
    Keeps sel head type

/-- The row has a code in every dimension in which a type of it lists all that applies. -/
def Row.Covers (row : Row) (tax : Taxonomy) (sel : Selection) : Prop :=
  ∀ id type dim, sel.valuesOf id type dim ≠ [] →
    (∀ v, v ∈ sel.valuesOf id type dim ↔ v ∈ tax.applicable id type dim) →
      row.IsOf id type → ∃ v ∈ sel.valuesOf id type dim, row.Has (dim ++ v)

variable {tax : Taxonomy} {sel : Selection} {row : Row}

/-! ## The selection of the link -/

section Link

variable (htax : tax.WellFormed)

include htax

theorem hasType_of_hasType_link {id : Int} {type : String}
    (h : (selected (selectionEntries tax sel)).hasType id type = true) :
    sel.hasType id type = true ∧ ∃ head, tax.head? id = some head := by
  obtain ⟨entry, hentry, rfl, rfl⟩ := hasType_selected.mp h
  exact ⟨hasType_of_mem_selectionEntries htax hentry, head?_of_mem_selectionEntries htax hentry⟩

theorem hasType_link {id : Int} {type : String} {head : Head} (htype : sel.hasType id type = true)
    (hhead : tax.head? id = some head) (hreaches : Reaches sel head type) :
    (selected (selectionEntries tax sel)).hasType id type = true := by
  obtain ⟨n, hn⟩ := (htax.head hhead).2.exists_nat
  obtain rfl : id = n := (htax.head hhead).1.symm.trans hn
  exact (hasType_selectionEntries htax hhead hreaches).mpr htype

theorem valuesOf_link {id : Int} {type : String} {head : Head} (hhead : tax.head? id = some head)
    (hkeeps : Keeps sel head type) (dim : String) :
    (∀ v, v ∈ (selected (selectionEntries tax sel)).valuesOf id type dim ↔
      v ∈ sel.valuesOf id type dim) ∨
      (selected (selectionEntries tax sel)).valuesOf id type dim = [] ∧
        (sel.valuesOf id type dim ≠ [] →
          ∀ v, v ∈ sel.valuesOf id type dim ↔ v ∈ tax.applicable id type dim) := by
  have hid := (htax.head hhead).1
  obtain ⟨n, hn⟩ := (htax.head hhead).2.exists_nat
  obtain rfl : id = n := hid.symm.trans hn
  have hagain : ∀ v, v ∈ (selected (selectionEntries tax sel)).valuesOf n type dim ↔
      v ∈ sel.valuesOf n type dim ∧
        (missing sel head type dim ≠ [] ∨ foreign sel head type dim ≠ []) := by
    intro v
    rw [mem_values_selectionEntries htax hhead hkeeps, hid]
  by_cases hnarrowed : missing sel head type dim ≠ [] ∨ foreign sel head type dim ≠ []
  · exact .inl fun v => (hagain v).trans (and_iff_left hnarrowed)
  · refine .inr ⟨List.eq_nil_iff_forall_not_mem.mpr fun v hv => hnarrowed ((hagain v).mp hv).2, ?_⟩
    rw [not_or, Decidable.not_not, Decidable.not_not] at hnarrowed
    intro hne v
    rw [Taxonomy.applicable_of_found hhead, ← hid]
    exact mem_valuesOf_iff hnarrowed (hid ▸ hne)

/-- A row that the filter finds in the taxonomy is found by the link. -/
theorem matches_link (hinside : row.Inside tax sel) (hkept : row.Kept tax sel)
    (h : sel.Matches row) : (selected (selectionEntries tax sel)).Matches row := by
  rcases h with hnone | ⟨id, type, htype, hof, hdims⟩
  · refine .inl fun id type => Bool.eq_false_iff.mpr fun h => ?_
    obtain ⟨htype, -⟩ := hasType_of_hasType_link htax h
    rw [hnone] at htype
    cases htype
  · obtain ⟨head, hhead⟩ : ∃ head, tax.head? id = some head := by
      cases hhead : tax.head? id with
      | none => exact absurd hof.1 (hinside id type htype hhead)
      | some head => exact ⟨head, rfl⟩
    have hkeeps := hkept id type head htype hhead hof
    refine .inr ⟨id, type, hasType_link htax htype hhead hkeeps.reaches, hof, fun dim hne => ?_⟩
    rcases valuesOf_link htax hhead hkeeps dim with hsame | ⟨hnil, -⟩
    · obtain ⟨v, hv⟩ := List.exists_mem_of_ne_nil _ hne
      obtain ⟨w, hw, hhas⟩ := hdims dim (List.ne_nil_of_mem ((hsame v).mp hv))
      exact ⟨w, (hsame w).mpr hw, hhas⟩
    · exact absurd hnil hne

/-- A row that has a code wherever all are listed is found by the filter if it is by the link. -/
theorem matches_of_link (htouches : sel.Touches tax) (hkept : row.Kept tax sel)
    (hcovers : row.Covers tax sel) (h : (selected (selectionEntries tax sel)).Matches row) :
    sel.Matches row := by
  rcases h with hnone | ⟨id, type, hlink, hof, hdims⟩
  · rcases htouches with hempty | ⟨id, type, head, htype, hhead, hreaches⟩
    · exact .inl hempty
    · have hlink := hasType_link htax htype hhead hreaches
      rw [hnone] at hlink
      cases hlink
  · obtain ⟨htype, head, hhead⟩ := hasType_of_hasType_link htax hlink
    have hkeeps := hkept id type head htype hhead hof
    refine .inr ⟨id, type, htype, hof, fun dim hne => ?_⟩
    rcases valuesOf_link htax hhead hkeeps dim with hsame | ⟨-, hall⟩
    · obtain ⟨v, hv⟩ := List.exists_mem_of_ne_nil _ hne
      obtain ⟨w, hw, hhas⟩ := hdims dim (List.ne_nil_of_mem ((hsame v).mpr hv))
      exact ⟨w, (hsame w).mp hw, hhas⟩
    · exact hcovers id type dim hne (hall hne) hof

theorem matches_link_of_outside (houtside : sel.Outside tax) (row : Row) :
    (selected (selectionEntries tax sel)).Matches row := by
  refine .inl fun id type => Bool.eq_false_iff.mpr fun h => ?_
  obtain ⟨htype, head, hhead⟩ := hasType_of_hasType_link htax h
  rw [houtside id type htype] at hhead
  cases hhead

end Link

/-! ## Pages -/

variable {compiler : Compiler} {tree : String} {neg : Negations}

theorem satisfies_iff_of_expandTree (h : expandTree compiler.taxonomy tree = .ok (sel, neg)) :
    compiler.satisfies tree row = true ↔
      sel.Matches row ∧ ∀ p ∈ Category.ofNegations neg, p.Holds row.truth := by
  rw [Compiler.satisfies_iff]
  constructor
  · rintro ⟨sel', neg', h', hmatches, hspared⟩
    obtain ⟨rfl, rfl⟩ := Prod.mk.inj (Except.ok.inj (h.symm.trans h'))
    exact ⟨hmatches, hspared⟩
  · rintro ⟨hmatches, hspared⟩
    exact ⟨sel, neg, h, hmatches, hspared⟩

/-- Of the rows whose selected types keep their meaning, the link to another page finds all that the
filter finds in the taxonomy, and no other that has a code in every dimension in which a type of it
lists all that applies, as long as it carries anything. If all that is selected is outside of the
taxonomy, the link selects nothing and finds all that is not negated. -/
theorem satisfies_pagingTree (htax : compiler.taxonomy.WellFormed)
    (h : expandTree compiler.taxonomy tree = .ok (sel, neg)) (sort : Sorting.Request)
    (session : Session) (reference : Moment) :
    ∃ descriptor,
      compiler.compile (some (.ofTree tree)) sort session reference = .ok descriptor ∧
      ∀ row : Row,
        (row.Inside compiler.taxonomy sel → row.Kept compiler.taxonomy sel →
          compiler.satisfies tree row = true →
            compiler.satisfies (compiler.pagingTree descriptor) row = true) ∧
        (sel.Touches compiler.taxonomy → row.Kept compiler.taxonomy sel →
          row.Covers compiler.taxonomy sel →
            compiler.satisfies (compiler.pagingTree descriptor) row = true →
              compiler.satisfies tree row = true) ∧
        (sel.Outside compiler.taxonomy →
          (compiler.satisfies (compiler.pagingTree descriptor) row = true ↔
            ∀ p ∈ Category.ofNegations neg, p.Holds row.truth)) := by
  obtain ⟨descriptor, groups, hcompile, hsel, hneg, -, -⟩ :=
    Compiler.compile_ofTree h sort session reference
  obtain ⟨hwritable, hnegations⟩ := writable_of_expand h
  have hlink : expandTree compiler.taxonomy (compiler.pagingTree descriptor) =
      .ok (selected (selectionEntries compiler.taxonomy sel), neg) := by
    rw [Compiler.pagingTree, hsel, hneg]
    exact expandTree_compress htax hwritable hnegations
  refine ⟨descriptor, hcompile, fun row => ?_⟩
  rw [satisfies_iff_of_expandTree h, satisfies_iff_of_expandTree hlink]
  refine ⟨fun hinside hkept hrow => ?_, fun htouches hkept hcovers hrow => ?_, fun houtside => ?_⟩
  · exact ⟨matches_link htax hinside hkept hrow.1, hrow.2⟩
  · exact ⟨matches_of_link htax htouches hkept hcovers hrow.1, hrow.2⟩
  · exact and_iff_right (matches_link_of_outside htax houtside row)

/-- All formats of series but one, a type that images do not have, and without sound: a series in one
of these formats is found by the filter, so the link finds it as well. -/
theorem satisfies_pagingTree_default :
    let compiler : Compiler := ⟨.default, .postgres "simple", none, .standard 2000⟩
    let tree := "cat0_z1_a,!cat0_z1_a3,sub0_z9,~cat1"
    let row : Row := .ofCodes 0 fun letter =>
      if letter = 'z' then ["z1"] else if letter = 'a' then ["a1"] else []
    let sel := (["0", "1", "2", "4", "6", "7", "8", "9", "10"].foldl
      (fun (sel : Selection) v => sel.addValue 0 "z1" "a" v) .empty).addType 0 "z9"
    compiler.taxonomy.WellFormed ∧ expandTree .default tree = .ok (sel, Negations.empty.add 1 "") ∧
      row.Inside .default sel ∧ row.Kept .default sel ∧ sel.Touches .default ∧
      row.Covers .default sel ∧ ∃ descriptor,
        compiler.compile (some (.ofTree tree)) .none ⟨1, 0⟩ ⟨0, 0, 0⟩ = .ok descriptor ∧
        compiler.satisfies tree row = true ∧
        compiler.satisfies (compiler.pagingTree descriptor) row = true := by
  intro compiler tree row sel
  have htax : compiler.taxonomy.WellFormed := Taxonomy.wellFormed_default
  have hexpand : expandTree .default tree = .ok (sel, Negations.empty.add 1 "") := by decide +kernel
  have hplaces : ∀ id type, sel.hasType id type = true → id = 0 ∧ (type = "z1" ∨ type = "z9") := by
    intro id type htype
    obtain ⟨types, dims, he, ht⟩ := Selection.hasType_iff.mp htype
    have hall : ∀ e ∈ sel.heads.entries,
        e.1 = 0 ∧ ∀ t ∈ e.2.entries, t.1 = "z1" ∨ t.1 = "z9" := by decide
    exact ⟨(hall _ he).1, (hall _ he).2 _ ht⟩
  have hstranger : ¬ row.IsOf 0 "z9" := fun hof => absurd (hof.2 (by decide)) (by decide)
  obtain ⟨image, himage, hseries⟩ :
      ∃ image, Taxonomy.default.head? 0 = some image ∧ "z1" ∈ image.typeKeys := by
    have hhead : (Taxonomy.default.head? 0).any (fun head => decide ("z1" ∈ head.typeKeys)) = true := by
      decide
    obtain ⟨image, himage, hseries⟩ := (Option.any_eq_true ..).mp hhead
    exact ⟨image, himage, of_decide_eq_true hseries⟩
  have hinside : row.Inside .default sel := by
    intro id type htype hnone
    obtain ⟨rfl, -⟩ := hplaces id type htype
    rw [himage] at hnone
    cases hnone
  have hkept : row.Kept .default sel := by
    intro id type head htype hhead hof
    obtain ⟨rfl, rfl | rfl⟩ := hplaces id type htype
    · obtain rfl := Option.some.inj (himage.symm.trans hhead)
      exact .inl hseries
    · exact absurd hof hstranger
  have htouches : sel.Touches .default :=
    .inr ⟨0, "z1", image, by decide, himage, .inl hseries⟩
  have hcovers : row.Covers .default sel := by
    intro id type dim hne _ hof
    cases hvalues : sel.values? id type dim with
    | none =>
      rw [Selection.valuesOf, hvalues] at hne
      exact absurd rfl hne
    | some values =>
      obtain ⟨rfl, rfl | rfl⟩ := hplaces id type (Selection.hasType_of_values? hvalues)
      · have hdim : dim ∈ (sel.dims 0 "z1").keys := OrderedMap.mem_keys_iff.mpr ⟨values, hvalues⟩
        have hkeys : (sel.dims 0 "z1").keys = ["a"] := by decide
        rw [hkeys, List.mem_singleton] at hdim
        subst hdim
        exact ⟨"1", by decide, by decide⟩
      · exact absurd hof hstranger
  obtain ⟨descriptor, hcompile, hlink⟩ :=
    satisfies_pagingTree htax hexpand .none ⟨1, 0⟩ ⟨0, 0, 0⟩
  have hfound : compiler.satisfies tree row = true := by decide +kernel
  exact ⟨htax, hexpand, hinside, hkept, htouches, hcovers, descriptor, hcompile, hfound,
    (hlink row).1 hinside hkept hfound⟩

/-- The filter of a tree and its link do not find the same rows: one of them finds a row that the
other does not find. -/
def Compiler.LinkDiffers (compiler : Compiler) (tree : String) (row : Row) : Prop :=
  row.WellFormed ∧ ∃ descriptor,
    compiler.compile (some (.ofTree tree)) .none ⟨1, 0⟩ ⟨0, 0, 0⟩ = .ok descriptor ∧
    compiler.satisfies tree row ≠ compiler.satisfies (compiler.pagingTree descriptor) row

theorem linkDiffers_of {row : Row} (hrow : row.WellFormed)
    (h : (expandTree compiler.taxonomy tree).toOption.any (fun result =>
      compiler.satisfies tree row !=
        compiler.satisfies (compress compiler.taxonomy result.1 result.2) row) = true) :
    compiler.LinkDiffers tree row := by
  cases hexpand : expandTree compiler.taxonomy tree with
  | error fault =>
    rw [hexpand] at h
    cases h
  | ok result =>
    rw [hexpand] at h
    obtain ⟨descriptor, groups, hcompile, hsel, hneg, -, -⟩ :=
      Compiler.compile_ofTree hexpand .none ⟨1, 0⟩ ⟨0, 0, 0⟩
    refine ⟨hrow, descriptor, hcompile, ?_⟩
    rw [Compiler.pagingTree, hsel, hneg]
    exact bne_iff_ne.mp h

/-- Where links differ from their filters: a dimension that lists all that applies, a head outside of
the taxonomy, a type outside of it alone or beside the whole head, and leaves that apply to a type
outside of it. -/
theorem linkDiffers_examples :
    let formats := Taxonomy.dimensionOf "Format" [("1", "DivX", ["z0"]), ("2", "WMV", ["z0", "z9"]),
      ("3", "MPG", ["z1", "z9"]), ("4", "DVD5", ["z1", "z9"])]
    let tax : Taxonomy := ⟨.ofList
      [Taxonomy.headOf 0 "Image" [("z0", "Movie"), ("z1", "Series")] [("a", formats)]]⟩
    let compiler : Compiler := ⟨tax, .postgres "simple", none, .standard 2000⟩
    let movie : Row := .ofCodes 0 fun letter => if letter = 'z' then ["z0"] else []
    let stranger : Row := .ofCodes 0 fun letter =>
      if letter = 'z' then ["z9"] else if letter = 'a' then ["a1"] else []
    tax.WellFormed ∧ compiler.LinkDiffers "cat0_z0_a" movie ∧
      compiler.LinkDiffers "cat9_z0_a1" movie ∧ compiler.LinkDiffers "sub0_z9" movie ∧
      compiler.LinkDiffers "cat0,cat0_z9_a1" stranger ∧
      compiler.LinkDiffers "cat0_z9_a2,cat0_z9_a3" movie := by
  intro formats tax compiler movie stranger
  have hmovie : movie.WellFormed := wellFormed_ofCodes (by decide +kernel) (by decide)
  have hstranger : stranger.WellFormed := wellFormed_ofCodes (by decide +kernel) (by decide)
  refine ⟨by decide +kernel, linkDiffers_of hmovie ?_, linkDiffers_of hmovie ?_,
    linkDiffers_of hmovie ?_, linkDiffers_of hstranger ?_, linkDiffers_of hmovie ?_⟩
  · decide +kernel
  · decide +kernel
  · decide +kernel
  · decide +kernel
  · decide +kernel

end Sift
