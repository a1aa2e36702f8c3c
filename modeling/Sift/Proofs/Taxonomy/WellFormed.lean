import Sift.Proofs.OrderedMap
import Sift.Proofs.Outcome
import Sift.Shorthand.Token
import Sift.Taxonomy.Default
import Sift.Taxonomy.Load

/-!
# Well-formed taxonomies

A taxonomy is well formed when each of its names can be written in the shorthand: heads are natural
numbers with at least one type, types have keys of the grammar, and leaves have digits for values.
Loading already keeps each head under its own number and its dimensions among the four letters
(`wellFormed_of_load`).
-/

namespace Sift

/-- The names of a head can be written. -/
structure Head.WellFormed (head : Head) : Prop where
  nonneg : 0 ≤ head.id
  typeKeys_ne_nil : head.typeKeys ≠ []
  typeKeys : ∀ t ∈ head.typeKeys, Shorthand.isTypeKey t.toList = true
  dims : ∀ d ∈ head.dims, d ∈ Sift.dimensions
  values : ∀ e ∈ head.dimensions.entries, ∀ v ∈ e.2.leaves.keys, Text.isDigits v.toList = true

instance (head : Head) : Decidable head.WellFormed :=
  decidable_of_iff
    (0 ≤ head.id ∧ head.typeKeys ≠ [] ∧
      (∀ t ∈ head.typeKeys, Shorthand.isTypeKey t.toList = true) ∧
      (∀ d ∈ head.dims, d ∈ Sift.dimensions) ∧
      ∀ e ∈ head.dimensions.entries, ∀ v ∈ e.2.leaves.keys, Text.isDigits v.toList = true)
    ⟨fun ⟨h₁, h₂, h₃, h₄, h₅⟩ => ⟨h₁, h₂, h₃, h₄, h₅⟩,
      fun ⟨h₁, h₂, h₃, h₄, h₅⟩ => ⟨h₁, h₂, h₃, h₄, h₅⟩⟩

/-- Every head stands under its number. -/
def Taxonomy.Keyed (tax : Taxonomy) : Prop := ∀ e ∈ tax.heads.entries, e.2.id = e.1

/-- Every head stands under its number, and its names can be written. -/
def Taxonomy.WellFormed (tax : Taxonomy) : Prop :=
  ∀ e ∈ tax.heads.entries, e.2.id = e.1 ∧ e.2.WellFormed

instance (tax : Taxonomy) : Decidable tax.WellFormed :=
  inferInstanceAs (Decidable (∀ e ∈ tax.heads.entries, e.2.id = e.1 ∧ e.2.WellFormed))

namespace Head

variable {head : Head}

theorem mem_applicable_iff {t d v : String} :
    v ∈ head.applicable t d ↔ ∃ dimension leaf, head.dimensions.get? d = some dimension ∧
      (v, leaf) ∈ dimension.leaves.entries ∧ t ∈ leaf.types := by
  unfold applicable
  cases hd : head.dimensions.get? d with
  | none => simp
  | some dimension => simp

theorem applicable_eq_nil {t d : String} (h : d ∉ head.dims) : head.applicable t d = [] := by
  rw [applicable, OrderedMap.get?_eq_none_iff.mpr h]

theorem nodup_applicable (t d : String) : (head.applicable t d).Nodup := by
  rw [applicable]
  cases head.dimensions.get? d with
  | none => exact List.nodup_nil
  | some dimension => exact dimension.leaves.nodup.sublist (List.filter_sublist.map _)

theorem WellFormed.digits_of_mem_applicable (h : head.WellFormed) {t d v : String}
    (hv : v ∈ head.applicable t d) : Text.isDigits v.toList = true := by
  obtain ⟨dimension, leaf, hd, hmem, -⟩ := mem_applicable_iff.mp hv
  exact h.values _ (OrderedMap.get?_eq_some_iff.mp hd) v (List.mem_map.mpr ⟨_, hmem, rfl⟩)

theorem WellFormed.exists_nat (h : head.WellFormed) : ∃ n : Nat, head.id = n :=
  ⟨head.id.toNat, (Int.toNat_of_nonneg h.nonneg).symm⟩

end Head

namespace Taxonomy

variable {tax : Taxonomy}

theorem head?_eq_some_iff {id : Int} {head : Head} :
    tax.head? id = some head ↔ (id, head) ∈ tax.heads.entries :=
  OrderedMap.get?_eq_some_iff

theorem applicable_of_found {id : Int} {head : Head} (hfound : tax.head? id = some head)
    (t d : String) : tax.applicable id t d = head.applicable t d := by
  rw [applicable, hfound]

theorem nodup_applicable (id : Int) (t d : String) : (tax.applicable id t d).Nodup := by
  rw [applicable]
  split
  · exact Head.nodup_applicable t d
  · exact List.nodup_nil

theorem Keyed.id (h : tax.Keyed) {id : Int} {head : Head} (hhead : tax.head? id = some head) :
    head.id = id :=
  h _ (head?_eq_some_iff.mp hhead)

theorem WellFormed.keyed (h : tax.WellFormed) : tax.Keyed := fun e he => (h e he).1

theorem WellFormed.head (h : tax.WellFormed) {id : Int} {head : Head}
    (hhead : tax.head? id = some head) : head.id = id ∧ head.WellFormed :=
  h _ (head?_eq_some_iff.mp hhead)

/-! ## Loading -/

theorem mem_dimensions_of_loadDimension {id : Int} {key : Json} {source : Source} {d : String}
    {dimension : Dimension} (h : loadDimension id key source = .ok (d, dimension)) :
    d ∈ dimensions := by
  unfold loadDimension at h
  split at h
  · cases h
  · rename_i name _
    by_cases hname : dimensions.contains name = true
    · simp only [hname, Bool.not_true, Bool.false_eq_true, if_false] at h
      obtain ⟨data, -, h⟩ := bind_eq_ok h
      have hd : name = d := by
        split at h
        all_goals
          obtain ⟨values, -, h⟩ := bind_eq_ok h
          obtain ⟨leaves, -, h⟩ := bind_eq_ok h
          exact (Prod.mk.inj (Except.ok.inj h)).1
      exact hd ▸ List.contains_iff_mem.mp hname
    · simp only [Bool.not_eq_true] at hname
      simp only [hname, Bool.not_false, if_true] at h
      cases h

theorem dims_of_loadHead {key : Json} {source : Source} {head : Head}
    (h : loadHead key source = .ok head) : ∀ d ∈ head.dims, d ∈ dimensions := by
  unfold loadHead at h
  obtain ⟨id, -, h⟩ := bind_eq_ok h
  obtain ⟨data, -, h⟩ := bind_eq_ok h
  split at h
  · cases h
  · obtain ⟨types, -, h⟩ := bind_eq_ok h
    have hdims : ∃ (given : List (Json × Source)) (dims : List (String × Dimension)),
        (given.mapM fun e => loadDimension id e.1 e.2) = .ok dims ∧
          head.dimensions = OrderedMap.ofList dims := by
      split at h
      all_goals
        obtain ⟨given, -, h⟩ := bind_eq_ok h
        obtain ⟨dims, hdims, h⟩ := bind_eq_ok h
        obtain rfl := Except.ok.inj h
        exact ⟨given, dims, hdims, rfl⟩
    obtain ⟨given, dims, hdims, hhead⟩ := hdims
    intro d hd
    rw [Head.dims, hhead] at hd
    obtain ⟨⟨d', dimension⟩, hmem, rfl⟩ := List.mem_map.mp hd
    obtain ⟨e, -, he⟩ := exists_mem_of_mapM hdims (OrderedMap.mem_of_mem_ofList hmem)
    exact mem_dimensions_of_loadDimension he

theorem id_and_dims_of_load {source : Source} (h : load source = .ok tax) :
    ∀ e ∈ tax.heads.entries, e.2.id = e.1 ∧ ∀ d ∈ e.2.dims, d ∈ dimensions := by
  intro e he
  unfold load at h
  obtain ⟨entries, -, h⟩ := bind_eq_ok h
  obtain ⟨heads, hloaded, h⟩ := bind_eq_ok h
  obtain rfl := Except.ok.inj h
  obtain ⟨head, hhead, rfl⟩ := List.mem_map.mp (OrderedMap.mem_of_mem_ofList he)
  obtain ⟨x, -, hx⟩ := exists_mem_of_mapM hloaded hhead
  exact ⟨rfl, dims_of_loadHead hx⟩

theorem keyed_of_load {source : Source} (h : load source = .ok tax) : tax.Keyed :=
  fun e he => (id_and_dims_of_load h e he).1

/-- A loaded taxonomy is well formed as soon as its heads, types and leaves can be written. -/
theorem wellFormed_of_load {source : Source} (h : load source = .ok tax)
    (hheads : ∀ e ∈ tax.heads.entries, 0 ≤ e.1 ∧ e.2.typeKeys ≠ [] ∧
      (∀ t ∈ e.2.typeKeys, Shorthand.isTypeKey t.toList = true) ∧
      ∀ d ∈ e.2.dimensions.entries, ∀ v ∈ d.2.leaves.keys, Text.isDigits v.toList = true) :
    tax.WellFormed := by
  intro e he
  obtain ⟨hnonneg, hne, hkeys, hvalues⟩ := hheads e he
  obtain ⟨hid, hdims⟩ := id_and_dims_of_load h e he
  exact ⟨hid, hid ▸ hnonneg, hne, hkeys, hdims, hvalues⟩

theorem wellFormed_default : default.WellFormed := by decide

end Taxonomy

end Sift
