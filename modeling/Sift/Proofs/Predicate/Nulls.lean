import Sift.Proofs.Negation
import Sift.Proofs.Predicate.Decoded

/-!
# Negations and columns that are null

A column of codes that is null is shown as one without codes, but a predicate that asks for a code there
is unknown, and so is its negation. A negation keeps the rows of its head that lack one of its codes in
a column that is not null (`holds_ofNegations_iff_decoded`). Where the missing code belongs to a column
that is null, the row is taken away, though none of its codes are named (`not_holds_of_null`).
-/

namespace Sift

open Predicate Category

/-! ## Falsehood -/

namespace Predicate

variable {row : Row}

theorem conjunction_eq_false {truths : List (Option Bool)} :
    conjunction truths = some false ↔ some false ∈ truths := by
  unfold conjunction
  split
  · rename_i hfalse
    exact iff_of_true rfl hfalse
  · rename_i hfalse
    refine iff_of_false ?_ hfalse
    split <;> simp

theorem truth_all_eq_false {items : List Predicate} :
    (all items).value row.truth = some false ↔
      ∃ p ∈ items, p.isEmpty = false ∧ p.value row.truth = some false := by
  rw [value, conjunction_eq_false, mem_values]

theorem holds_not {p : Predicate} : (not p).Holds row.truth ↔ p.value row.truth = some false := by
  rw [Holds, value]
  cases p.value row.truth with
  | none => simp
  | some b => cases b <;> simp

end Predicate

/-! ## Rows with columns that are null -/

/-- The column of a code is not null. -/
def Row.Fills (row : Row) (code : String) : Prop :=
  row.cell (codeColumn (code.toList.headD 'z')) ≠ .null

/-- The column of a letter holds some codes, or it is null and shown as one without codes. -/
def Row.ShowsCodes (row : Row) (letter : Char) (codes : List String) : Prop :=
  row.HoldsCodes letter codes ∨ row.cell (codeColumn letter) = .null ∧ codes = []

/-- The row is in a head, and each column of codes holds some or is null. -/
structure Row.Stored (row : Row) : Prop where
  category : ∃ head, row.cell "s.category" = .int head
  codes : ∀ letter ∈ columnLetters, ∃ codes, row.ShowsCodes letter codes

section Columns

variable {row : Row} {letter : Char} {code : String} {codes : List String}

theorem Row.ShowsCodes.isCode (h : row.ShowsCodes letter codes) :
    ∀ code ∈ codes, IsCodeOf letter code := by
  rcases h with hholds | ⟨-, rfl⟩
  · exact hholds.isCode
  · simp

theorem Row.ShowsCodes.codeText_eq (h : row.ShowsCodes letter codes) {column : String}
    (hcolumn : Dialect.bareColumn (codeColumn letter) = column) (index : Nat) :
    Spot.codeText row index column = .ok (codesText codes) := by
  rcases h with hholds | ⟨hnull, rfl⟩
  · exact Sift.codeText_eq hholds hcolumn index
  · rw [Row.cell, hcolumn] at hnull
    rw [Spot.codeText]
    cases hlookup : row.lookup column with
    | none => rfl
    | some value =>
      rw [hlookup] at hnull
      obtain rfl : value = .null := hnull
      rfl

theorem IsCodeOf.fills_iff (hcode : IsCodeOf letter code) :
    row.Fills code ↔ row.cell (codeColumn letter) ≠ .null := by
  obtain ⟨rest, hlist, -⟩ := hcode.toList
  rw [Row.Fills, hlist]
  rfl

theorem truth_codeOf_of_null (hnull : row.cell (codeColumn letter) = .null)
    (hcode : IsCodeOf letter code) : (codeOf code).value row.truth = none := by
  rw [codeColumn] at hnull
  rw [hcode.codeOf_eq, hasCode]
  split
  · rw [value_compare, Row.truth, hnull]
    rfl
  · rw [value_like, Row.truth, hnull]
    rfl

theorem truth_codeOf_eq_false (hletter : letter ∈ columnLetters) (h : row.ShowsCodes letter codes)
    (hcode : IsCodeOf letter code) :
    (codeOf code).value row.truth = some false ↔ code ∉ codes ∧ row.Fills code := by
  rw [hcode.fills_iff]
  rcases h with hholds | ⟨hnull, rfl⟩
  · have hfilled : row.cell (codeColumn letter) ≠ .null := by
      rw [hholds.cell]
      simp
    rw [truth_codeOf (mem_columnLetters.mp hletter) hholds hcode, and_iff_left hfilled]
    simp
  · rw [truth_codeOf_of_null hnull hcode]
    simp [hnull]

end Columns

theorem Row.Stored.exists_codes {row : Row} (h : row.Stored) :
    ∃ codes, Spot.codesOfRow row = .ok codes ∧
      ∀ letter ∈ columnLetters, ∀ code, IsCodeOf letter code →
        ((codeOf code).value row.truth = some false ↔ code ∉ codes ∧ row.Fills code) := by
  choose! codes hcodes using h.codes
  have hcode : ∀ letter ∈ columnLetters, ∀ code ∈ codes letter, IsCodeOf letter code :=
    fun letter hletter => (hcodes letter hletter).isCode
  refine ⟨_, codesOfRow_of_texts (fun letter _ index hletter hcolumn =>
    (hcodes letter hletter).codeText_eq hcolumn index) hcode, fun letter hletter code hof => ?_⟩
  rw [mem_flatMap_codes hcode hletter hof]
  exact truth_codeOf_eq_false hletter (hcodes letter hletter) hof

/-- The row of a head whose columns hold some codes or are null. -/
def Row.ofColumns (head : Int) (codes : Char → Option (List String)) : Row :=
  ("category", .int head) :: columnLetters.map fun letter =>
    ("subcat" ++ String.singleton letter, (codes letter).elim .null fun held => .str (codesText held))

theorem stored_ofColumns {head : Int} {codes : Char → Option (List String)}
    (hcodes : (columnLetters.all fun letter =>
      ((codes letter).getD []).all fun code => decide (IsCodeOf letter code)) = true)
    (hsingle : (singleLetters.all fun letter =>
      decide (((codes letter).getD []).length ≤ 1)) = true) :
    (Row.ofColumns head codes).Stored where
  category := ⟨head, rfl⟩
  codes letter hletter := by
    have hcell : (Row.ofColumns head codes).cell (codeColumn letter) =
        (codes letter).elim .null fun held => .str (codesText held) := by
      simp only [columnLetters, List.mem_cons, List.not_mem_nil, or_false] at hletter
      rcases hletter with rfl | rfl | rfl | rfl | rfl <;> rfl
    have hall := List.all_eq_true.mp hcodes letter hletter
    have hone : letter ∈ singleLetters → ((codes letter).getD []).length ≤ 1 := fun h =>
      of_decide_eq_true (List.all_eq_true.mp hsingle letter h)
    cases hcolumn : codes letter with
    | none =>
      rw [hcolumn] at hcell
      exact ⟨[], .inr ⟨hcell, rfl⟩⟩
    | some held =>
      rw [hcolumn] at hcell hall hone
      refine ⟨held, .inl ⟨hcell, fun code hcode => ?_, hone⟩⟩
      exact of_decide_eq_true (List.all_eq_true.mp hall code hcode)

/-! ## Negations -/

theorem Negations.Writable.of_mem_selectors {neg : Negations} (h : neg.Writable) {head : Int}
    {selector : String} (hselector : selector ∈ neg.selectors head) :
    ∃ n : Nat, head = n ∧ Shorthand.IsSelector selector := by
  rw [Negations.selectors] at hselector
  cases hget : neg.heads.get? head with
  | none =>
    rw [hget] at hselector
    cases hselector
  | some selectors =>
    rw [hget] at hselector
    obtain ⟨⟨n, hn, -⟩, -, -, hall⟩ := h head selectors hget
    exact ⟨n, hn, hall selector hselector⟩

namespace Category

variable {row : Row} {head : Int} {codes : List String}

/-- What a negation keeps: the rows of other heads, and those that are known to lack a code. -/
theorem holds_negationPredicate_iff (hhead : row.cell "s.category" = .int head)
    (hcodes : ∀ letter ∈ columnLetters, ∀ code, IsCodeOf letter code →
      ((codeOf code).value row.truth = some false ↔ code ∉ codes ∧ row.Fills code))
    (n : Nat) {selector : String} (h : Shorthand.IsSelector selector) {p : Predicate}
    (hp : negationPredicate? n selector = some p) :
    p.Holds row.truth ↔ (head = n → ∃ field ∈ Shorthand.selectorFields selector,
      String.ofList field ∉ codes ∧ row.Fills (String.ofList field)) := by
  rw [negationPredicate?_eq n h] at hp
  obtain rfl := Option.some.inj hp
  have hother : (headPredicate n).value row.truth = some false ↔ ¬ head = n := by
    rw [truth_headPredicate hhead]
    simp
  rw [holds_not]
  split
  · rename_i hempty
    rw [hother, hempty]
    simp [Shorthand.selectorFields]
  · have hlacks : ∀ field ∈ Shorthand.selectorFields selector,
        ((codeOf (String.ofList field)).value row.truth = some false ↔
          String.ofList field ∉ codes ∧ row.Fills (String.ofList field)) := by
      obtain ⟨parts, hparts, -, hvalid⟩ := Shorthand.selectorFields_eq h
      intro field hfield
      rw [hparts] at hfield
      obtain ⟨p, hp, rfl⟩ := List.mem_map.mp hfield
      obtain ⟨letter, hletter, hcode⟩ := isCodeOf_text (hvalid p hp).1 (hvalid p hp).2
      exact hcodes letter (mem_columnLetters.mpr hletter) _ hcode
    rw [truth_all_eq_false, imp_iff_not_or, ← hother]
    constructor
    · rintro ⟨p, hp, -, hfalse⟩
      rcases List.mem_cons.mp hp with rfl | hp
      · exact .inl hfalse
      · obtain ⟨field, hfield, rfl⟩ := List.mem_map.mp hp
        exact .inr ⟨field, hfield, (hlacks field hfield).mp hfalse⟩
    · rintro (hfalse | ⟨field, hfield, hfalse⟩)
      · exact ⟨_, List.mem_cons_self, rfl, hfalse⟩
      · exact ⟨_, List.mem_cons_of_mem _ (List.mem_map_of_mem hfield), isEmpty_hasCode _ _,
          (hlacks field hfield).mpr hfalse⟩

/-- The negations of a tree keep a row exactly when, of each selector of its head, a code is not shown
for it whose column is not null. -/
theorem holds_ofNegations_iff_decoded {tax : Taxonomy} {raws : List String} {sel : Selection}
    {neg : Negations} (h : Shorthand.expand tax raws = .ok (sel, neg)) (hrow : row.Stored) :
    ∃ codes head, Spot.codesOfRow row = .ok codes ∧ row.cell "s.category" = .int head ∧
      ((all (ofNegations neg)).Holds row.truth ↔ ∀ selector ∈ neg.selectors head,
        ∃ field ∈ Shorthand.selectorFields selector,
          String.ofList field ∉ codes ∧ row.Fills (String.ofList field)) := by
  have hneg := (Shorthand.writable_of_expand h).2
  obtain ⟨codes, hshown, hcodes⟩ := hrow.exists_codes
  obtain ⟨head, hhead⟩ := hrow.category
  refine ⟨codes, head, hshown, hhead, ?_⟩
  rw [holds_ofNegations]
  constructor
  · intro hall s hs
    obtain ⟨n, rfl, hselector⟩ := hneg.of_mem_selectors hs
    have hp := negationPredicate?_eq n hselector
    have hholds := hall _ (mem_ofNegations.mpr ⟨_, s, hs, hp⟩)
    exact (holds_negationPredicate_iff hhead hcodes n hselector hp).mp hholds rfl
  · intro hall p hp
    obtain ⟨head', s, hs, hp⟩ := mem_ofNegations.mp hp
    obtain ⟨n, rfl, hselector⟩ := hneg.of_mem_selectors hs
    refine (holds_negationPredicate_iff hhead hcodes n hselector hp).mpr ?_
    rintro rfl
    exact hall s hs

/-- A movie whose column of sources is null: another type is negated with a source of it. -/
theorem holds_ofNegations_iff_decoded_source :
    let row : Row := .ofColumns 0 fun letter =>
      if letter = 'b' then none else if letter = 'z' then some ["z0"] else some []
    ∃ sel neg, Shorthand.expand .default ["cat0", "~cat0_z1_b4", "~cat1"] = .ok (sel, neg) ∧
      row.Stored ∧ (all (ofNegations neg)).Holds row.truth ∧
      ∃ codes head, Spot.codesOfRow row = .ok codes ∧ row.cell "s.category" = .int head ∧
        ((all (ofNegations neg)).Holds row.truth ↔ ∀ selector ∈ neg.selectors head,
          ∃ field ∈ Shorthand.selectorFields selector,
            String.ofList field ∉ codes ∧ row.Fills (String.ofList field)) := by
  intro row
  have hrow : row.Stored := stored_ofColumns (by decide) (by decide)
  obtain ⟨⟨sel, neg⟩, h⟩ := exists_of_isOk
    (x := Shorthand.expand .default ["cat0", "~cat0_z1_b4", "~cat1"]) (by decide)
  have hkept : ∀ sel neg,
      Shorthand.expand .default ["cat0", "~cat0_z1_b4", "~cat1"] = .ok (sel, neg) →
      (all (ofNegations neg)).Holds row.truth := by
    rintro _ _ ⟨⟩
    decide
  exact ⟨sel, neg, h, hrow, hkept sel neg h, holds_ofNegations_iff_decoded h hrow⟩

/-- A movie without codes whose column of types is null, and a negation of the series: nothing that the
movie shows is named, and it is taken away. -/
theorem not_holds_of_null :
    let row : Row := .ofColumns 0 fun letter => if letter = 'z' then none else some []
    let neg := Negations.empty.add 0 "z1"
    row.Stored ∧ Shorthand.expand .default ["~cat0_z1"] = .ok (.empty, neg) ∧
      row.cell "s.category" = .int 0 ∧ Spot.codesOfRow row = .ok [] ∧
      (∀ selector ∈ neg.selectors 0, ∃ field ∈ Shorthand.selectorFields selector,
        String.ofList field ∉ ([] : List String)) ∧
      (all (ofNegations neg)).value row.truth = none := by
  intro row neg
  have hrow : row.Stored := stored_ofColumns (by decide) (by decide)
  exact ⟨hrow, by decide, rfl, rfl, by decide, by decide⟩

end Category

end Sift
