import Sift.Boundary.Almanac
import Sift.Proofs.Picker.Place
import Sift.Proofs.Predicate.Codes

/-!
# Strong negations

A negation behind other tokens takes away the rows that are in its head and have its codes, whatever
the other tokens select, and no other row (`satisfies_append_negationText`).

A node of the picker is found by its key alone, and the negation of the key takes the row away again.
Only the type of heads without a type split is looked for when it is negated and not when it is
selected, so below it the negation keeps the rows that do not have its code (`satisfies_negated_key`).
-/

namespace Sift

open Predicate Category Shorthand

/-! ## The rows of a selector -/

/-- The row is in the head and has the codes of a selector. -/
def Row.Fits (row : Row) (head : Int) (selector : String) : Prop :=
  (headPredicate head).Holds row.truth ∧
    ∀ field ∈ selectorFields selector, row.Has (String.ofList field)

theorem mem_selectors_add {neg : Negations} {head head' : Int} {s s' : String} :
    s' ∈ (neg.add head s).selectors head' ↔ head' = head ∧ s' = s ∨ s' ∈ neg.selectors head' := by
  rw [Negations.selectors, Negations.add, OrderedMap.get?_alter]
  split
  · rename_i hhead
    subst hhead
    rw [Option.getD_some, mem_insertNew, Negations.selectors]
    simp
  · rename_i hhead
    simp [hhead, Negations.selectors]

namespace Category

variable {row : Row} {neg : Negations}

theorem mem_ofNegations {p : Predicate} : p ∈ ofNegations neg ↔
    ∃ head s, s ∈ neg.selectors head ∧ negationPredicate? head s = some p := by
  constructor
  · intro hp
    obtain ⟨e, he, hp⟩ := List.mem_flatMap.mp hp
    obtain ⟨s, hs, hp⟩ := List.mem_filterMap.mp hp
    refine ⟨e.1, s, ?_, hp⟩
    rw [Negations.selectors, OrderedMap.get?_eq_some_iff.mpr he]
    exact hs
  · rintro ⟨head, s, hs, hp⟩
    rw [Negations.selectors] at hs
    cases hget : neg.heads.get? head with
    | none =>
      rw [hget] at hs
      cases hs
    | some selectors =>
      rw [hget] at hs
      have he := OrderedMap.get?_eq_some_iff.mp hget
      exact List.mem_flatMap.mpr ⟨_, he, List.mem_filterMap.mpr ⟨s, hs, hp⟩⟩

theorem holds_ofNegations_add {head : Int} {s : String} {p : Predicate}
    (hp : negationPredicate? head s = some p) :
    (∀ q ∈ ofNegations (neg.add head s), q.Holds row.truth) ↔
      (∀ q ∈ ofNegations neg, q.Holds row.truth) ∧ p.Holds row.truth := by
  constructor
  · intro hall
    refine ⟨fun q hq => hall q ?_, hall p ?_⟩
    · obtain ⟨head', s', hs, hpred⟩ := mem_ofNegations.mp hq
      exact mem_ofNegations.mpr ⟨head', s', mem_selectors_add.mpr (.inr hs), hpred⟩
    · exact mem_ofNegations.mpr ⟨head, s, mem_selectors_add.mpr (.inl ⟨rfl, rfl⟩), hp⟩
  · rintro ⟨hall, hholds⟩ q hq
    obtain ⟨head', s', hs, hpred⟩ := mem_ofNegations.mp hq
    rcases mem_selectors_add.mp hs with ⟨rfl, rfl⟩ | hs
    · obtain rfl := Option.some.inj (hp.symm.trans hpred)
      exact hholds
    · exact hall q (mem_ofNegations.mpr ⟨head', s', hs, hpred⟩)

theorem holds_negationPredicate (hrow : row.WellFormed) (n : Nat) {selector : String}
    (h : IsSelector selector) : ∃ p, negationPredicate? n selector = some p ∧
      (p.Holds row.truth ↔ ¬ row.Fits n selector) := by
  refine ⟨_, negationPredicate?_eq n h, ?_⟩
  have hhead := hrow.known_headPredicate n
  split
  · rename_i hempty
    rw [holds_not_iff hhead, Row.Fits, hempty]
    simp [selectorFields]
  · have hcodes : ∀ field ∈ selectorFields selector, (codeOf (String.ofList field)).Known row.truth := by
      obtain ⟨parts, hparts, -, hvalid⟩ := selectorFields_eq h
      intro field hfield
      rw [hparts] at hfield
      obtain ⟨p, hp, rfl⟩ := List.mem_map.mp hfield
      obtain ⟨letter, hletter, hcode⟩ := isCodeOf_text (hvalid p hp).1 (hvalid p hp).2
      exact hrow.known_codeOf hletter hcode
    have hall : ∀ p ∈ headPredicate n ::
        (selectorFields selector).map fun field => codeOf (String.ofList field), p.Known row.truth := by
      intro p hp
      rcases List.mem_cons.mp hp with rfl | hp
      · exact hhead
      · obtain ⟨field, hfield, rfl⟩ := List.mem_map.mp hp
        exact hcodes field hfield
    rw [holds_not_iff (known_all hall), holds_all, Row.Fits]
    refine not_congr ⟨fun hholds => ⟨hholds _ (by simp) rfl, fun field hfield => ?_⟩, ?_⟩
    · refine hholds _ (List.mem_cons_of_mem _ (List.mem_map_of_mem hfield)) ?_
      exact isEmpty_hasCode _ _
    · rintro ⟨hholds, hfields⟩ p hp -
      rcases List.mem_cons.mp hp with rfl | hp
      · exact hholds
      · obtain ⟨field, hfield, rfl⟩ := List.mem_map.mp hp
        exact hfields field hfield

end Category

variable {compiler : Compiler} {row : Row}

/-- A negation behind other tokens takes away the rows that it fits, and no other row. -/
theorem satisfies_append_negationText (hrow : row.WellFormed) {n : Nat} (hn : Short n)
    {selector : String} (h : IsSelector selector) (xs : List String) :
    compiler.satisfies (Text.join ',' (xs ++ [negationText n selector])) row = true ↔
      compiler.satisfies (Text.join ',' xs) row = true ∧ ¬ row.Fits n selector := by
  have hplain : ∀ raw ∈ [negationText n selector], ',' ∉ raw.toList := by
    intro raw hraw
    rw [List.mem_singleton.mp hraw]
    exact not_mem_negationText h (by decide) (by decide)
  obtain ⟨p, hp, hfits⟩ := holds_negationPredicate hrow n h
  rw [Compiler.satisfies_iff, Compiler.satisfies_iff, ← hfits, expandTree_join, expandTree_join,
    List.flatMap_append, Text.flatMap_split hplain, expand_append_negationText hn h]
  -- The negation is read whatever stands before it, so both trees fail or none does.
  cases expand compiler.taxonomy (xs.flatMap (Text.split ',')) with
  | error fault =>
    constructor
    · rintro ⟨sel, neg, hexpand, -⟩
      cases hexpand
    · rintro ⟨⟨sel, neg, hexpand, -⟩, -⟩
      cases hexpand
  | ok result =>
    obtain ⟨sel, neg⟩ := result
    constructor
    · rintro ⟨sel', neg', hexpand, hmatches, hall⟩
      obtain ⟨rfl, rfl⟩ := Prod.mk.inj (Except.ok.inj hexpand)
      exact ⟨⟨_, _, rfl, hmatches, ((holds_ofNegations_add hp).mp hall).1⟩,
        ((holds_ofNegations_add hp).mp hall).2⟩
    · rintro ⟨⟨sel', neg', hexpand, hmatches, hall⟩, hholds⟩
      obtain ⟨rfl, rfl⟩ := Prod.mk.inj (Except.ok.inj hexpand)
      exact ⟨_, _, rfl, hmatches, (holds_ofNegations_add hp).mpr ⟨hall, hholds⟩⟩

/-! ## Nodes of the picker -/

namespace Picker.Place

variable {compiler : Compiler} {row : Row} {head : Head} {place : Place} {n : Nat}

/-- The selector of the negation. -/
def selector (place : Place) : String :=
  String.ofList (Text.joined '_' (place.parts.map Part.text))

theorem isSelector_selector (hvalid : ∀ p ∈ place.parts, p.Valid) : IsSelector place.selector :=
  isSelector_text hvalid (by cases place <;> rfl)

theorem fits_selector_iff (hvalid : ∀ p ∈ place.parts, p.Valid) :
    row.Fits n place.selector ↔ (headPredicate n).Holds row.truth ∧
      ∀ p ∈ place.parts, row.Has (String.ofList p.text) := by
  rw [Row.Fits, selector, selectorFields_joined hvalid]
  simp

/-- The row is found at the place. -/
def Found (row : Row) (n : Nat) : Place → Prop
  | .head => (headPredicate n).Holds row.truth
  | type t => row.IsOf n t
  | leaf t d v => row.IsOf n t ∧ row.Has (d ++ v)

theorem fits_iff_of_found (hvalid : ∀ p ∈ place.parts, p.Valid) (h : place.Found row n) :
    row.Fits n place.selector ↔ (place.type? = some untyped → row.Has untyped) := by
  rw [fits_selector_iff hvalid]
  have htype : ∀ t, row.IsOf n t → (row.Has t ↔ (t = untyped → row.Has untyped)) := by
    intro t hof
    by_cases ht : t = untyped
    · simp [ht]
    · simp [ht, hof.2 ht]
  cases place with
  | head =>
    have hhead : (headPredicate n).Holds row.truth := h
    simp [parts, type?, hhead]
  | type t =>
    have hof : row.IsOf n t := h
    simp [parts, type?, Part.text, hof.1, htype t hof]
  | leaf t d v =>
    obtain ⟨hof, hvalue⟩ := h
    have htext : String.ofList (d.toList ++ v.toList) = d ++ v := by
      rw [← String.toList_append, String.ofList_toList]
    simp [parts, type?, Part.text, htext, hof.1, hvalue, htype t hof]

theorem found_of_satisfies (htax : compiler.taxonomy.WellFormed)
    (hhead : compiler.taxonomy.head? n = some head) (hplace : place.In head)
    (h : compiler.satisfies (place.key n) row = true) : Short n ∧ place.Found row n := by
  obtain ⟨hid, hwf⟩ := htax.head hhead
  obtain ⟨sel, neg, hexpand, hmatches, -⟩ := Compiler.satisfies_iff.mp h
  have hshort := short_of_expandTree_key (valid_parts hwf hplace) hexpand
  have hsel := hexpand.symm.trans (expandTree_key ⟨hid, hshort, hhead, hwf⟩ hplace)
  obtain ⟨rfl, -⟩ := Prod.mk.inj (Except.ok.inj hsel)
  refine ⟨hshort, ?_⟩
  rcases hmatches with hnone | ⟨id, type, htype, hof, hdims⟩
  · obtain ⟨entry, hentry⟩ := exists_mem_entries hwf n place
    have htype := hasType_selected.mpr ⟨entry, hentry, rfl, rfl⟩
    rw [hnone] at htype
    cases htype
  · obtain ⟨entry, hentry, rfl, rfl⟩ := hasType_selected.mp htype
    cases place with
    | head =>
      obtain ⟨t, -, rfl⟩ := List.mem_map.mp hentry
      exact hof.1
    | type t =>
      obtain rfl := List.mem_singleton.mp hentry
      exact hof
    | leaf t d v =>
      obtain rfl := List.mem_singleton.mp hentry
      -- The only entry is the leaf, so its dimension lists its value and no other.
      have hvalues : ∀ w, w ∈ (selected [Entry.leaf n t d v]).valuesOf n t d ↔ w = v := by
        intro w
        rw [mem_values_selected, mem_listed]
        simp
      obtain ⟨w, hw, hhas⟩ := hdims d (List.ne_nil_of_mem ((hvalues v).mpr rfl))
      obtain rfl := (hvalues w).mp hw
      exact ⟨hof, hhas⟩

end Picker.Place

/-- The negation of a key takes away the rows that the key finds, whatever other tokens select, but
for a type that is not looked for: of the rows found there it keeps those without its code. -/
theorem satisfies_negated_key (htax : compiler.taxonomy.WellFormed) {id : Int} {head : Head}
    (hhead : compiler.taxonomy.head? id = some head) {place : Picker.Place} (hplace : place.In head)
    (hrow : row.WellFormed) (hfound : compiler.satisfies (place.key id) row = true)
    (xs : List String) :
    compiler.satisfies (Text.join ',' (xs ++ ["~" ++ place.key id])) row = true ↔
      compiler.satisfies (Text.join ',' xs) row = true ∧
        place.type? = some untyped ∧ ¬ row.Has untyped := by
  obtain ⟨hid, hwf⟩ := htax.head hhead
  obtain ⟨n, hn⟩ := hwf.exists_nat
  obtain rfl : id = n := hid.symm.trans hn
  have hvalid := Picker.Place.valid_parts hwf hplace
  obtain ⟨hshort, hat⟩ := Picker.Place.found_of_satisfies htax hhead hplace hfound
  have hnegation : "~" ++ place.key n = negationText n place.selector := by
    rw [Picker.Place.key_eq, Picker.Place.selector, negationText_joined hvalid]
  rw [hnegation, satisfies_append_negationText hrow hshort (Picker.Place.isSelector_selector hvalid),
    Picker.Place.fits_iff_of_found hvalid hat, Classical.not_imp]

/-- A movie in one format, which is selected with its head and negated. -/
theorem satisfies_negated_key_default :
    let compiler : Compiler := ⟨.default, .postgres "simple", none, .standard 2000⟩
    let place : Picker.Place := .leaf "z0" "a" "9"
    let row : Row := .ofCodes 0 fun letter =>
      if letter = 'z' then ["z0"] else if letter = 'a' then ["a9"] else []
    row.WellFormed ∧ compiler.satisfies (place.key 0) row = true ∧
      (compiler.satisfies (Text.join ',' (["cat0", "~cat1"] ++ ["~" ++ place.key 0])) row = true ↔
        compiler.satisfies (Text.join ',' ["cat0", "~cat1"]) row = true ∧
          place.type? = some untyped ∧ ¬ row.Has untyped) := by
  intro compiler place row
  have htax : compiler.taxonomy.WellFormed := Taxonomy.wellFormed_default
  have hplace : (compiler.taxonomy.head? 0).any (fun head => decide (place.In head)) = true := by
    decide
  obtain ⟨head, hhead, hin⟩ := (Option.any_eq_true ..).mp hplace
  have hrow : row.WellFormed := wellFormed_ofCodes (by decide) (by decide)
  have hfound : compiler.satisfies (place.key 0) row = true := by decide
  exact ⟨hrow, hfound, satisfies_negated_key htax hhead (of_decide_eq_true hin) hrow hfound _⟩

/-- A game, which has no code of a type: it is found by its platform, and still found when that is
negated, and the same goes for the type of all games. -/
theorem satisfies_negated_untyped :
    let compiler : Compiler := ⟨.default, .postgres "simple", none, .standard 2000⟩
    let row : Row := .ofCodes 2 fun letter => if letter = 'a' then ["a1"] else []
    compiler.taxonomy.WellFormed ∧ row.WellFormed ∧
      ∀ place ∈ [Picker.Place.type untyped, .leaf untyped "a" "1"],
        (∃ head, compiler.taxonomy.head? 2 = some head ∧ place.In head) ∧
          compiler.satisfies (place.key 2) row = true ∧
          compiler.satisfies (Text.join ',' (["cat2"] ++ ["~" ++ place.key 2])) row = true := by
  intro compiler row
  refine ⟨Taxonomy.wellFormed_default, wellFormed_ofCodes (by decide) (by decide), ?_⟩
  have hall : ([Picker.Place.type untyped, .leaf untyped "a" "1"].all fun place =>
      (compiler.taxonomy.head? 2).any (fun head => decide (place.In head)) &&
        compiler.satisfies (place.key 2) row &&
        compiler.satisfies (Text.join ',' (["cat2"] ++ ["~" ++ place.key 2])) row) = true := by
    decide
  intro place hplace
  have hone := List.all_eq_true.mp hall place hplace
  rw [Bool.and_eq_true, Bool.and_eq_true] at hone
  obtain ⟨⟨hin, hfound⟩, hkept⟩ := hone
  obtain ⟨head, hhead, hin⟩ := (Option.any_eq_true ..).mp hin
  exact ⟨⟨head, hhead, of_decide_eq_true hin⟩, hfound, hkept⟩

end Sift
