import Sift.Descriptor
import Sift.Proofs.Predicate.Category
import Sift.Proofs.Predicate.Meaning
import Sift.Proofs.Shorthand.Recorded

/-!
# Rows that a tree finds

A row matches a selection when it is of one of its types and has, for every dimension of that type
that lists values, the code of one of them; a selection without types is matched by every row
(`holds_ofSelection`). So the rows that the tree of a search finds are those that match its selection
and fulfil its negations (`satisfies_iff`).
-/

namespace Sift

open Predicate

/-! ## Codes -/

/-- The row has a code. -/
def Row.Has (row : Row) (code : String) : Prop := (Category.codeOf code).Holds row.truth

instance (row : Row) (code : String) : Decidable (row.Has code) :=
  inferInstanceAs (Decidable (Predicate.Holds _ _))

/-- The row is of a type of a head. The type of heads without a type split is not looked for. -/
def Row.IsOf (row : Row) (head : Int) (type : String) : Prop :=
  (Category.headPredicate head).Holds row.truth ∧ (type ≠ untyped → row.Has type)

/-- The row matches a selection. -/
def Selection.Matches (sel : Selection) (row : Row) : Prop :=
  (∀ head type, sel.hasType head type = false) ∨
    ∃ head type, sel.hasType head type = true ∧ row.IsOf head type ∧
      ∀ dim, sel.valuesOf head type dim ≠ [] →
        ∃ v ∈ sel.valuesOf head type dim, row.Has (dim ++ v)

namespace Category

variable {row : Row}

theorem isEmpty_hasCode (letter : Char) (code : String) : (hasCode letter code).isEmpty = false := by
  unfold hasCode
  split
  · rfl
  · rfl

theorem isEmpty_all_head (head : Int) (items : List Predicate) :
    (all (headPredicate head :: items)).isEmpty = false := by
  rw [isEmpty, areEmpty]
  rfl

theorem holds_any_codes {dim : String} {vs : List String} (hvs : vs ≠ []) :
    (any (vs.map fun v => codeOf (dim ++ v))).Holds row.truth ↔ ∃ v ∈ vs, row.Has (dim ++ v) := by
  rw [holds_any]
  constructor
  · rintro (hempty | ⟨p, hp, -, hholds⟩)
    · obtain ⟨v, hv⟩ := List.exists_mem_of_ne_nil _ hvs
      have hcode := hempty _ (List.mem_map_of_mem hv)
      rw [codeOf, isEmpty_hasCode] at hcode
      cases hcode
    · obtain ⟨v, hv, rfl⟩ := List.mem_map.mp hp
      exact ⟨v, hv, hholds⟩
  · rintro ⟨v, hv, hhas⟩
    exact .inr ⟨_, List.mem_map_of_mem hv, isEmpty_hasCode _ _, hhas⟩

theorem isEmpty_any_codes {dim : String} {vs : List String} (hvs : vs ≠ []) :
    (any (vs.map fun v => codeOf (dim ++ v))).isEmpty = false := by
  cases vs with
  | nil => exact absurd rfl hvs
  | cons v vs =>
    rw [List.map_cons, isEmpty, areEmpty, codeOf, isEmpty_hasCode]
    rfl

theorem holds_dimsOf {dims : Dims} :
    (∀ p ∈ dimsOf dims, p.isEmpty = false → p.Holds row.truth) ↔
      ∀ e ∈ dims.entries, e.2 ≠ [] → ∃ v ∈ e.2, row.Has (e.1 ++ v) := by
  have hparts : (∀ p ∈ dims.entries.filterMap fun e => dimOf? e.1 e.2,
      p.isEmpty = false → p.Holds row.truth) ↔
      ∀ e ∈ dims.entries, e.2 ≠ [] → ∃ v ∈ e.2, row.Has (e.1 ++ v) := by
    constructor
    · intro h e he hvs
      refine (holds_any_codes hvs).mp (h _ (List.mem_filterMap.mpr ⟨e, he, ?_⟩) ?_)
      · rw [dimOf?, if_neg hvs]
      · exact isEmpty_any_codes hvs
    · intro h p hp _
      obtain ⟨e, he, hp⟩ := List.mem_filterMap.mp hp
      rw [dimOf?, Option.ite_none_left_eq_some] at hp
      obtain ⟨hvs, hp⟩ := hp
      obtain rfl := Option.some.inj hp
      exact (holds_any_codes hvs).mpr (h e he hvs)
  rw [← hparts, dimsOf]
  split
  · rename_i hnil
    rw [hnil]
  · rename_i hne
    simp only [List.mem_singleton, forall_eq]
    rw [holds_all]
    constructor
    · intro h
      refine h ?_
      obtain ⟨p, hp⟩ := List.exists_mem_of_ne_nil _ hne
      refine Bool.eq_false_iff.mpr fun hempty => ?_
      rw [isEmpty, areEmpty_iff] at hempty
      obtain ⟨e, he, hsome⟩ := List.mem_filterMap.mp hp
      rw [dimOf?, Option.ite_none_left_eq_some] at hsome
      obtain ⟨hvs, hsome⟩ := hsome
      obtain rfl := Option.some.inj hsome
      have hnot := hempty _ hp
      rw [isEmpty_any_codes hvs] at hnot
      cases hnot
    · exact fun h _ => h

theorem holds_typeOf {head : Int} {type : String} {dims : Dims} :
    (typeOf head type dims).Holds row.truth ↔ row.IsOf head type ∧
      ∀ e ∈ dims.entries, e.2 ≠ [] → ∃ v ∈ e.2, row.Has (e.1 ++ v) := by
  have htype : (∀ p ∈ if type = untyped then [] else [codeOf type],
      p.isEmpty = false → p.Holds row.truth) ↔ (type ≠ untyped → row.Has type) := by
    split
    · rename_i huntyped
      simp [huntyped]
    · rename_i hne
      have hempty : (codeOf type).isEmpty = false := isEmpty_hasCode _ _
      constructor
      · intro h _
        exact h _ (List.mem_singleton_self _) hempty
      · intro h p hp _
        obtain rfl := List.mem_singleton.mp hp
        exact h hne
  have hhead : (headPredicate head).isEmpty = false := rfl
  rw [typeOf, holds_all, Row.IsOf, and_assoc, ← htype, ← holds_dimsOf]
  constructor
  · intro h
    refine ⟨h _ (by simp) hhead, fun p hp => h p ?_, fun p hp => h p ?_⟩
    · exact List.mem_cons_of_mem _ (List.mem_append_left _ hp)
    · exact List.mem_cons_of_mem _ (List.mem_append_right _ hp)
  · rintro ⟨hholds, hcode, hdims⟩ p hp
    rcases List.mem_cons.mp hp with rfl | hp
    · exact fun _ => hholds
    · rcases List.mem_append.mp hp with hp | hp
      · exact hcode p hp
      · exact hdims p hp

theorem mem_typesOf {sel : Selection} {p : Predicate} :
    (p ∈ sel.heads.entries.flatMap fun e => e.2.entries.map fun t => typeOf e.1 t.1 t.2) ↔
      ∃ head type, sel.hasType head type = true ∧ p = typeOf head type (sel.dims head type) := by
  rw [List.mem_flatMap]
  constructor
  · rintro ⟨e, he, hp⟩
    obtain ⟨t, ht, rfl⟩ := List.mem_map.mp hp
    refine ⟨e.1, t.1, Selection.hasType_iff.mpr ⟨e.2, t.2, he, ht⟩, ?_⟩
    rw [Selection.dims_of_mem he ht]
  · rintro ⟨head, type, htype, rfl⟩
    obtain ⟨types, dims, he, ht⟩ := Selection.hasType_iff.mp htype
    refine ⟨_, he, List.mem_map.mpr ⟨_, ht, ?_⟩⟩
    rw [Selection.dims_of_mem he ht]

theorem forall_dims_iff {sel : Selection} {head : Int} {type : String} :
    (∀ e ∈ (sel.dims head type).entries, e.2 ≠ [] → ∃ v ∈ e.2, row.Has (e.1 ++ v)) ↔
      ∀ dim, sel.valuesOf head type dim ≠ [] →
        ∃ v ∈ sel.valuesOf head type dim, row.Has (dim ++ v) := by
  constructor
  · intro h dim hne
    rw [Selection.valuesOf] at hne ⊢
    cases hvs : sel.values? head type dim with
    | none =>
      rw [hvs] at hne
      exact absurd rfl hne
    | some vs =>
      rw [hvs] at hne
      exact h (dim, vs) (OrderedMap.get?_eq_some_iff.mp hvs) hne
  · intro h e he
    have hvs : sel.values? head type e.1 = some e.2 := OrderedMap.get?_eq_some_iff.mpr he
    have hdim := h e.1
    rw [Selection.valuesOf, hvs] at hdim
    exact hdim

/-- The predicates of a selection find the rows that match it. -/
theorem holds_ofSelection {sel : Selection} (h : sel.Writable) {predicates : List Predicate}
    (hsel : ofSelection sel = .ok predicates) : (any predicates).Holds row.truth ↔ sel.Matches row := by
  rw [ofSelection_eq h] at hsel
  obtain rfl := Except.ok.inj hsel
  rw [holds_any, Selection.Matches]
  refine or_congr ⟨fun hempty head type => ?_, fun hnone p hp => ?_⟩ ⟨?_, ?_⟩
  · refine Bool.eq_false_iff.mpr fun htype => ?_
    have htrue := hempty _ (mem_typesOf.mpr ⟨head, type, htype, rfl⟩)
    rw [typeOf, isEmpty_all_head] at htrue
    cases htrue
  · obtain ⟨head, type, htype, -⟩ := mem_typesOf.mp hp
    rw [hnone] at htype
    cases htype
  · rintro ⟨p, hp, -, hholds⟩
    obtain ⟨head, type, htype, rfl⟩ := mem_typesOf.mp hp
    obtain ⟨hof, hrest⟩ := holds_typeOf.mp hholds
    exact ⟨head, type, htype, hof, forall_dims_iff.mp hrest⟩
  · rintro ⟨head, type, htype, hof, hrest⟩
    refine ⟨_, mem_typesOf.mpr ⟨head, type, htype, rfl⟩, isEmpty_all_head _ _, ?_⟩
    exact holds_typeOf.mpr ⟨hof, forall_dims_iff.mpr hrest⟩

theorem isEmpty_of_mem_ofNegations {neg : Negations} {p : Predicate} (hp : p ∈ ofNegations neg) :
    p.isEmpty = false := by
  obtain ⟨e, -, hp⟩ := List.mem_flatMap.mp hp
  obtain ⟨selector, -, hp⟩ := List.mem_filterMap.mp hp
  unfold negationPredicate? at hp
  split at hp
  · obtain rfl := Option.some.inj hp
    rfl
  · simp only at hp
    split at hp
    · obtain rfl := Option.some.inj hp
      rw [isEmpty]
      exact isEmpty_all_head _ _
    · cases hp

theorem holds_ofNegations {neg : Negations} :
    (all (ofNegations neg)).Holds row.truth ↔ ∀ p ∈ ofNegations neg, p.Holds row.truth := by
  rw [holds_all]
  constructor
  · exact fun h p hp => h p hp (isEmpty_of_mem_ofNegations hp)
  · exact fun h p hp _ => h p hp

end Category

/-! ## Trees -/

/-- The search for the categories of a tree alone. -/
def Search.ofTree (tree : String) : Search := ⟨some tree, [], none, false⟩

namespace Compiler

variable {compiler : Compiler} {tree : String} {row : Row} {sel : Selection} {neg : Negations}

/-- The predicates of the categories and the negations of a tree. -/
def treeGroups (compiler : Compiler) (tree : String) : Except Fault (List Predicate) := do
  let (selection, negations) ← compiler.categories (.ofTree tree)
  let categories ← (Category.ofSelection selection).mapError Fault.code
  return [.any categories, .all (Category.ofNegations negations)]

/-- The row is found by the predicates of a tree. -/
def satisfies (compiler : Compiler) (tree : String) (row : Row) : Bool :=
  match compiler.treeGroups tree with
  | .ok groups => groups.all fun p => p.Holds row.truth
  | .error _ => false

theorem categories_ofTree (compiler : Compiler) (tree : String) :
    compiler.categories (.ofTree tree) =
      (Shorthand.expandTree compiler.taxonomy tree).mapError .category := by
  rw [categories]
  by_cases htree : tree = ""
  · subst htree
    rfl
  · have hsome : compiler.treeOf (.ofTree tree) = some tree := by
      simp [treeOf, Search.ofTree, htree]
    rw [hsome]

theorem treeGroups_of_expandTree
    (h : Shorthand.expandTree compiler.taxonomy tree = .ok (sel, neg)) :
    ∃ categories, Category.ofSelection sel = .ok categories ∧
      compiler.treeGroups tree = .ok [.any categories, .all (Category.ofNegations neg)] := by
  have hcategories := Category.ofSelection_eq (Shorthand.writable_of_expand h).1
  refine ⟨_, hcategories, ?_⟩
  rw [treeGroups, categories_ofTree, h]
  show ((Category.ofSelection sel).mapError Fault.code >>= _) = _
  rw [hcategories]
  rfl

theorem compile_ofTree (h : Shorthand.expandTree compiler.taxonomy tree = .ok (sel, neg))
    (sort : Sorting.Request) (session : Session) (reference : Moment) :
    ∃ descriptor groups,
      compiler.compile (some (.ofTree tree)) sort session reference = .ok descriptor ∧
      descriptor.selection = sel ∧ descriptor.negations = neg ∧
      compiler.treeGroups tree = .ok groups ∧ descriptor.predicate = joinGroups groups := by
  obtain ⟨categories, hcategories, hgroups⟩ := treeGroups_of_expandTree h
  have hfound : compiler.categories (.ofTree tree) = .ok (sel, neg) := by
    rw [categories_ofTree, h]
    rfl
  -- Without records the groups of comparisons are empty, and so are their texts.
  have hpredicate : joinGroups [.any categories, .all [], .any [], .all (Category.ofNegations neg)] =
      joinGroups [.any categories, .all (Category.ofNegations neg)] := rfl
  have hcompile : compiler.compile (some (.ofTree tree)) sort session reference = .ok
      ⟨joinGroups [.any categories, .all [], .any [], .all (Category.ofNegations neg)], sel, neg,
        [], [], [], [], Sorting.keys sort [], false⟩ := by
    unfold compile
    simp only [hfound]
    show ((Category.ofSelection sel).mapError Fault.code >>= _) = _
    rw [hcategories]
    rfl
  exact ⟨_, _, hcompile, rfl, rfl, hgroups, hpredicate⟩

/-- The rows that a tree finds match its selection and fulfil its negations. -/
theorem satisfies_iff : compiler.satisfies tree row = true ↔
    ∃ sel neg, Shorthand.expandTree compiler.taxonomy tree = .ok (sel, neg) ∧ sel.Matches row ∧
      ∀ p ∈ Category.ofNegations neg, p.Holds row.truth := by
  constructor
  · intro h
    cases hexpand : Shorthand.expandTree compiler.taxonomy tree with
    | error fault =>
      rw [satisfies, treeGroups, categories_ofTree, hexpand] at h
      cases h
    | ok result =>
      obtain ⟨sel, neg⟩ := result
      obtain ⟨categories, hcategories, hgroups⟩ := treeGroups_of_expandTree hexpand
      have hwritable := (Shorthand.writable_of_expand hexpand).1
      rw [satisfies, hgroups] at h
      simp only [List.all_cons, List.all_nil, Bool.and_true, Bool.and_eq_true,
        decide_eq_true_eq] at h
      exact ⟨sel, neg, rfl, (Category.holds_ofSelection hwritable hcategories).mp h.1,
        Category.holds_ofNegations.mp h.2⟩
  · rintro ⟨sel, neg, hexpand, hmatches, hneg⟩
    obtain ⟨categories, hcategories, hgroups⟩ := treeGroups_of_expandTree hexpand
    have hwritable := (Shorthand.writable_of_expand hexpand).1
    rw [satisfies, hgroups]
    simp only [List.all_cons, List.all_nil, Bool.and_true, Bool.and_eq_true, decide_eq_true_eq]
    exact ⟨(Category.holds_ofSelection hwritable hcategories).mpr hmatches,
      Category.holds_ofNegations.mpr hneg⟩

end Compiler

end Sift
