import Sift.Boundary.Almanac
import Sift.Proofs.Listing.Statement
import Sift.Proofs.Selection.Data
import Sift.Service

/-!
# Answers that are given back

A compiled filter is answered with its selection and its negations as objects. A request for the
shorthand that repeats these objects is valid, gives the selection and the negations again, and is
answered with the link of the filter (`shorthand_of_answer`).
-/

namespace Sift

/-! ## Objects that are read back -/

/-- An object of entries whose values are written. -/
def tabled {α : Type} (write : α → Json) (entries : List (String × α)) : Json :=
  .obj (entries.map fun e => (e.1, write e.2))

namespace Check

variable {α : Type} {check : Json → Checked α} {f : α → Json}

theorem itemsFrom_map (h : ∀ x, check (f x) = .valid x) (i : Nat) (items : List α) :
    itemsFrom check i (items.map f) = .valid items := by
  induction items generalizing i with
  | nil => rfl
  | cons item items ih =>
    rw [List.map_cons, itemsFrom, h, ih]
    rfl

theorem list_arr (h : ∀ x, check (f x) = .valid x) (items : List α) :
    list check (.arr (items.map f)) = .valid items :=
  itemsFrom_map h 0 items

theorem table_tabled (h : ∀ x, check (f x) = .valid x) (entries : List (String × α)) :
    table check (tabled f entries) = .valid entries := by
  show Check.entries check _ = _
  induction entries with
  | nil => rfl
  | cons e entries ih =>
    rw [List.map_cons, Check.entries, h, ih]
    rfl

theorem list_texts (items : List String) : list text (.texts items) = .valid items :=
  list_arr (f := .str) (fun _ => rfl) items

end Check

theorem ShorthandRequest.read_toJson (refusal : Violation.Kind) (sel : Selection)
    (neg : Negations) : ShorthandRequest.read refusal
      (.obj [("selection", sel.toJson), ("strong_negations", neg.toJson)]) =
      .valid ⟨sel.toData, neg.toData⟩ := by
  have hsel : Check.table (Check.table (Check.table (Check.list Check.text))) sel.toJson =
      .valid sel.toData :=
    Check.table_tabled (f := tabled (tabled .texts))
      (Check.table_tabled (Check.table_tabled Check.list_texts)) sel.toData
  have hneg : Check.table (Check.list Check.text) neg.toJson = .valid neg.toData :=
    Check.table_tabled Check.list_texts neg.toData
  have hfields : ∀ value other,
      [("selection", value), ("strong_negations", other)].lookup "selection" = some value ∧
        [("selection", value), ("strong_negations", other)].lookup "strong_negations" =
          some (other : Json) := fun _ _ => ⟨rfl, rfl⟩
  rw [ShorthandRequest.read, Check.object]
  simp only [Check.fieldOr, hfields, hsel, hneg]
  rfl

/-! ## Filters -/

namespace Compiler

variable {compiler : Compiler} {request : FilterRequest} {reference : Moment}
  {descriptor : Descriptor}

theorem ofData_toData_of_answer (h : compiler.answer request reference = .ok descriptor) :
    Selection.ofData descriptor.selection.toData = .ok descriptor.selection ∧
      Negations.ofData descriptor.negations.toData = .ok descriptor.negations := by
  rw [answer] at h
  cases hsearch : request.search.bind (·.toSearch) with
  | none =>
    rw [hsearch] at h
    obtain rfl := Except.ok.inj h
    exact ⟨rfl, rfl⟩
  | some search =>
    rw [hsearch] at h
    obtain ⟨conditions, selection, negations, categories, -, hfound, -, rfl⟩ := parts_of_compile h
    unfold Compiler.categories at hfound
    split at hfound
    · obtain ⟨rfl, rfl⟩ := Prod.mk.inj (Except.ok.inj hfound)
      exact ⟨rfl, rfl⟩
    · exact Shorthand.ofData_toData_of_expand (mapError_eq_ok hfound)

/-- A request that repeats the selection and the negations of an answer is given the link of that
answer, since what tokens select and negate is read back from its data, in the same order. -/
theorem shorthand_of_answer (compiler : Compiler) (refusal : Violation.Kind) :
    (∀ request reference descriptor, compiler.answer request reference = .ok descriptor →
      let response := descriptor.toJson (compiler.pagingTree descriptor)
      ∃ again tree, ShorthandRequest.read refusal
          (.obj [("selection", response.field "category_selection"),
            ("strong_negations", response.field "strong_negations")]) = .valid again ∧
        response.field "paging_tree" = .str tree ∧ compiler.shorthand again = .ok tree) ∧
    ∀ raws sel neg, Shorthand.expand compiler.taxonomy raws = .ok (sel, neg) →
      Selection.ofData sel.toData = .ok sel ∧ Negations.ofData neg.toData = .ok neg := by
  refine ⟨fun request reference descriptor h => ?_, fun raws sel neg =>
    Shorthand.ofData_toData_of_expand⟩
  obtain ⟨hsel, hneg⟩ := ofData_toData_of_answer h
  refine ⟨_, _, ShorthandRequest.read_toJson refusal _ _, rfl, ?_⟩
  rw [shorthand, hsel, hneg]
  rfl

/-- A filter with a head outside of the taxonomy, a type without dimensions and a negation. -/
theorem shorthand_of_answer_outside :
    let compiler : Compiler := ⟨.default, .postgres "simple", none, .standard 2000⟩
    let tree := "cat77_z5_d3,cat1_a2,cat0_z1,~cat0_z1_b4,~cat77"
    let request : FilterRequest := ⟨some ⟨some tree, [], none, none, none⟩, none, 1, 0⟩
    ∃ descriptor, compiler.answer request default = .ok descriptor ∧
      descriptor.selection.headIds = [77, 1, 0] ∧
      let response := descriptor.toJson (compiler.pagingTree descriptor)
      ∃ again tree, ShorthandRequest.read .bodyObjectType
          (.obj [("selection", response.field "category_selection"),
            ("strong_negations", response.field "strong_negations")]) = .valid again ∧
        response.field "paging_tree" = .str tree ∧ compiler.shorthand again = .ok tree := by
  intro compiler tree request
  have hread : (compiler.answer request default).map (·.selection.headIds) = .ok [77, 1, 0] := by
    decide
  obtain ⟨descriptor, h, hheads⟩ := map_eq_ok hread
  exact ⟨descriptor, h, hheads,
    (shorthand_of_answer compiler .bodyObjectType).1 request default descriptor h⟩

end Compiler

end Sift
