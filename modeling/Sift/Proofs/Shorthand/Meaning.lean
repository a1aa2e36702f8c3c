import Sift.Proofs.Selection.Order
import Sift.Proofs.Shorthand.Negated
import Sift.Proofs.Shorthand.Removal

/-!
# What tokens select

A run drops and adds entries as it goes along the tokens, and the selection is read off what is left.
Both have a closed form: what is left are the survivors, and a head, a type, a dimension or a value is
selected exactly when a survivor names it, values in the order in which the survivors first give them
(`expand_survivors`).
-/

namespace Sift

theorem eachOnce_eq_eraseDups (values : List String) : eachOnce values = values.eraseDups := by
  induction values using List.reverseRecOn with
  | nil => rfl
  | append_singleton values v ih =>
    rw [eachOnce] at ih ⊢
    rw [List.foldl_append, ih, List.foldl_cons, List.foldl_nil, insertNew,
      Shorthand.eraseDups_concat]
    simp only [List.mem_eraseDups]

namespace Shorthand

variable {tax : Taxonomy} {raws : List String} {entries : List Entry}

theorem valuesOf_selected (entries : List Entry) (head : Int) (t d : String) :
    (selected entries).valuesOf head t d = (listed entries head t d).eraseDups := by
  rw [Selection.valuesOf, values?_selected_eq]
  split
  · rename_i hnil
    rw [hnil]
    rfl
  · exact eachOnce_eq_eraseDups _

theorem mem_dims_selected {head : Int} {t d : String} :
    d ∈ ((selected entries).dims head t).keys ↔
      ∃ (n : Nat) (v : String), (n : Int) = head ∧ Entry.leaf n t d v ∈ entries := by
  have hlisted : d ∈ ((selected entries).dims head t).keys ↔ listed entries head t d ≠ [] := by
    rw [OrderedMap.mem_keys_iff]
    show (∃ vs, (selected entries).values? head t d = some vs) ↔ _
    rw [values?_selected_eq]
    split
    · rename_i hnil
      exact iff_of_false nofun fun hne => hne hnil
    · rename_i hne
      exact iff_of_true ⟨_, rfl⟩ hne
  rw [hlisted]
  constructor
  · intro hne
    obtain ⟨v, hv⟩ := List.exists_mem_of_ne_nil _ hne
    obtain ⟨n, hn, hmem⟩ := mem_listed.mp hv
    exact ⟨n, v, hn, hmem⟩
  · rintro ⟨n, v, hn, hmem⟩
    exact List.ne_nil_of_mem (mem_listed.mpr ⟨n, hn, hmem⟩)

/-- Tokens leave their survivors, and select the types, dimensions and values that those name. -/
theorem expand_survivors {sel : Selection} {neg : Negations}
    (h : expand tax raws = .ok (sel, neg)) :
    ∃ state, expandTokens tax raws = .ok state ∧ state.accumulator = survivors tax raws ∧
      ∀ head t,
        (sel.hasType head t = true ↔
          ∃ entry ∈ entriesOf (survivors tax raws), (entry.head : Int) = head ∧ entry.type = t) ∧
        ∀ d,
          (d ∈ (sel.dims head t).keys ↔ ∃ (n : Nat) (v : String), (n : Int) = head ∧
            Entry.leaf n t d v ∈ entriesOf (survivors tax raws)) ∧
          sel.valuesOf head t d = (listed (entriesOf (survivors tax raws)) head t d).eraseDups := by
  obtain ⟨state, hrun, -, rfl, -⟩ := selected_of_expand_eq h
  have hleft := accumulator_eq_survivors hrun
  rw [hleft]
  exact ⟨state, hrun, hleft, fun head t => ⟨hasType_selected, fun d =>
    ⟨mem_dims_selected, valuesOf_selected _ head t d⟩⟩⟩

/-- A format of every type of images, removed for one of them; another one of movies typed in two ways
and removed in one, before it is added as well as behind it; and the first one again. -/
theorem expand_survivors_default :
    let raws := ["!cat0_z0_a7", "cat0_a2", "cat0_z0_a7", "cat00_z0_a7", "cat0_z0_a2", "cat0_z1",
      "!cat0_z2_a2", "!cat0_z0_a7"]
    let left := ["cat0_z0_a2", "cat0_z1_a2", "cat0_z3_a2", "cat00_z0_a7", "cat0_z0_a2", "sub0_z1"]
    survivors .default raws = left ∧ ∃ sel neg state, expand .default raws = .ok (sel, neg) ∧
      expandTokens .default raws = .ok state ∧ state.accumulator = left ∧
      sel.hasType 0 "z2" = false ∧ sel.valuesOf 0 "z0" "a" = ["2", "7"] := by
  intro raws left
  have hsurvivors : survivors .default raws = left := by decide
  obtain ⟨⟨sel, neg⟩, hexpand⟩ := exists_of_isOk (x := expand .default raws) (by decide)
  obtain ⟨state, hrun, hleft, hselected⟩ := expand_survivors hexpand
  rw [hsurvivors] at hleft hselected
  have hlisted : (listed (entriesOf left) 0 "z0" "a").eraseDups = ["2", "7"] := by decide
  have hnone : ¬ ∃ entry ∈ entriesOf left, (entry.head : Int) = 0 ∧ entry.type = "z2" := by decide
  refine ⟨hsurvivors, sel, neg, state, hexpand, hrun, hleft, ?_, ?_⟩
  · exact Bool.eq_false_iff.mpr fun htype => hnone ((hselected 0 "z2").1.mp htype)
  · exact (((hselected 0 "z0").2 "a").2).trans hlisted

end Shorthand

end Sift
