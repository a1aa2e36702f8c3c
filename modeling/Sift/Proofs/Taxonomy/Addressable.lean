import Sift.Proofs.Shorthand.Shape
import Sift.Proofs.Taxonomy.Loading
import Sift.Proofs.Taxonomy.WellFormed

/-!
# Addressable taxonomies

A taxonomy can be addressed when the shorthand has a text for each of its types and leaves, that is, a
text that is read back as the token of just that, and when its leaves apply to types that there are.
The names decide this: a head is addressable when its number has no sign and is not too long, its types
have keys of the grammar and its values are digits (`Head.addressable_iff`). Loading checks less than
this, and only some of the shapes of its data. So it refuses the data or makes an addressable taxonomy
of it just when no other shape comes first and the names are as the grammar has them
(`refused_or_addressable_iff`).
-/

namespace Sift

open Shorthand Text

/-! ## Heads -/

/-- All leaves of a head with their values have a property, which may depend on the dimension. -/
def Head.ForLeaves (head : Head) (p : String → String → Leaf → Prop) : Prop :=
  ∀ dim ∈ head.dimensions.entries, ∀ value ∈ dim.2.leaves.entries, p dim.1 value.1 value.2

/-- The texts of its types and of its leaves, for each type that these apply to, are read back, and the
leaves apply to types of the head only. -/
structure Head.Addressable (head : Head) : Prop where
  nonneg : 0 ≤ head.id
  types : ∀ t ∈ head.typeKeys, Token.read (typeText head.id t) = .ok (.type head.id.toNat t)
  leaves : head.ForLeaves fun d v leaf => ∀ t ∈ leaf.types,
    Token.read (leafText head.id t d v) = .ok (.leaf head.id.toNat t d v)
  applicable : head.ForLeaves fun _ _ leaf => leaf.types ⊆ head.typeKeys ∧ leaf.others = []

/-- The names are those of the grammar. A number may be too long when there is no type to read. -/
structure Head.Written (head : Head) : Prop where
  nonneg : 0 ≤ head.id
  short : head.typeKeys ≠ [] → Short head.id.toNat
  types : ∀ t ∈ head.typeKeys, isTypeKey t.toList = true
  leaves : head.ForLeaves fun _ v leaf => leaf.types ≠ [] → isDigits v.toList = true
  applicable : head.ForLeaves fun _ _ leaf => leaf.types ⊆ head.typeKeys ∧ leaf.others = []

/-- The names of a head with dimensions among the four letters decide whether it can be addressed. -/
theorem Head.addressable_iff {head : Head} (hdims : ∀ d ∈ head.dims, d ∈ Sift.dimensions) :
    head.Addressable ↔ head.Written := by
  constructor
  · intro h
    have htype : ∀ t ∈ head.typeKeys, Short head.id.toNat ∧ isTypeKey t.toList = true := by
      intro t ht
      have hvalid := ((Shape.read_iff (s := .type t) rfl).mp (h.types t ht)).valid
      exact ⟨hvalid.1, hvalid.2 (.type t) List.mem_cons_self⟩
    refine ⟨h.nonneg, fun hne => ?_, fun t ht => (htype t ht).2, ?_, h.applicable⟩
    · obtain ⟨t, ht⟩ := List.exists_mem_of_ne_nil _ hne
      exact (htype t ht).1
    · intro dim hdim value hvalue hne
      obtain ⟨t, ht⟩ := List.exists_mem_of_ne_nil _ hne
      have hread := h.leaves dim hdim value hvalue t ht
      have hvalid := ((Shape.read_iff (s := .leaf t dim.1 value.1) rfl).mp hread).valid.2
      have hpart : (Part.value dim.1 value.1).Valid := hvalid _ (by simp [Shape.parts])
      exact hpart.2
  · intro h
    obtain ⟨n, hn⟩ : ∃ n : Nat, head.id = n := ⟨_, (Int.toNat_of_nonneg h.nonneg).symm⟩
    have hshort : head.typeKeys ≠ [] → Short n := by
      have := h.short
      rwa [hn, Int.toNat_natCast] at this
    refine ⟨h.nonneg, fun t ht => ?_, fun dim hdim value hvalue t ht => ?_, h.applicable⟩
    · rw [hn, Int.toNat_natCast]
      exact read_typeText (hshort (List.ne_nil_of_mem ht)) (h.types t ht)
    · have hkey := (h.applicable dim hdim value hvalue).1 ht
      rw [hn, Int.toNat_natCast]
      exact read_leafText (hshort (List.ne_nil_of_mem hkey)) (h.types t hkey)
        (hdims _ (List.mem_map.mpr ⟨dim, hdim, rfl⟩))
        (h.leaves dim hdim value hvalue (List.ne_nil_of_mem ht))

instance (head : Head) (p : String → String → Leaf → Prop) [∀ d v leaf, Decidable (p d v leaf)] :
    Decidable (head.ForLeaves p) :=
  inferInstanceAs (Decidable (∀ dim ∈ head.dimensions.entries, ∀ value ∈ dim.2.leaves.entries,
    p dim.1 value.1 value.2))

instance (head : Head) : Decidable head.Written :=
  decidable_of_iff
    (0 ≤ head.id ∧ (head.typeKeys ≠ [] → Short head.id.toNat) ∧
      (∀ t ∈ head.typeKeys, isTypeKey t.toList = true) ∧
      head.ForLeaves (fun _ v leaf => leaf.types ≠ [] → isDigits v.toList = true) ∧
      head.ForLeaves fun _ _ leaf => leaf.types ⊆ head.typeKeys ∧ leaf.others = [])
    ⟨fun ⟨h₁, h₂, h₃, h₄, h₅⟩ => ⟨h₁, h₂, h₃, h₄, h₅⟩,
      fun ⟨h₁, h₂, h₃, h₄, h₅⟩ => ⟨h₁, h₂, h₃, h₄, h₅⟩⟩

/-! ## Taxonomies -/

namespace Taxonomy

variable {tax : Taxonomy}

def Addressable (tax : Taxonomy) : Prop := ∀ e ∈ tax.heads.entries, e.2.Addressable

def Written (tax : Taxonomy) : Prop := ∀ e ∈ tax.heads.entries, e.2.Written

theorem addressable_iff_of_load {source : Source} (h : load source = .ok tax) :
    tax.Addressable ↔ tax.Written :=
  forall₂_congr fun e he => Head.addressable_iff (id_and_dims_of_load h e he).2

/-- Data is refused by a check, or an addressable taxonomy is made of it, exactly when no part of another
shape comes first and the names are as the grammar has them. -/
theorem refused_or_addressable_iff (source : Source) :
    ((∃ fault, load source = .error fault ∧ fault.isRefusal = true) ∨
      ∃ tax, load source = .ok tax ∧ tax.Addressable) ↔
    ¬source.Misshapen ∧ ∀ tax, load source = .ok tax → tax.Written := by
  rw [← breaks_load_iff]
  cases hload : load source with
  | error fault =>
    rw [breaks_error_iff]
    simp
  | ok tax =>
    simp [not_breaks_ok, addressable_iff_of_load hload]

/-! ## Data that is neither -/

instance (tax : Taxonomy) : Decidable tax.Written :=
  inferInstanceAs (Decidable (∀ e ∈ tax.heads.entries, e.2.Written))

/-- The data of one head with one type, one dimension and one leaf. -/
def single (id type value : String) (leaf : Source) : Source :=
  .table [(.str id, .table [
    (.str "types", .table [(.str type, .value (.str "Movie"))]),
    (.str "dimensions", .table [(.str "a", .table [
      (.str "values", .table [(.str value, leaf)])])])])]

/-- A leaf that applies to one type. -/
def leafOf (type : String) : Source := .list [.value (.str "DivX"), .list [.value (.str type)]]

/-- A leaf without types, a head with a sign, a type and a value with a letter, and a leaf of a type
that there is not. -/
def oversights : List Source :=
  [single "0" "z0" "1" (.list [.value (.str "DivX")]),
   single "-1" "z0" "1" (leafOf "z0"),
   single "0" "zx" "1" (leafOf "zx"),
   single "0" "z0" "x" (leafOf "z0"),
   single "0" "z0" "1" (leafOf "z1")]

/-- None of this data is refused, and no addressable taxonomy is made of any of it. -/
theorem not_refused_not_addressable : ¬∃ source ∈ oversights,
    (∃ fault, load source = .error fault ∧ fault.isRefusal = true) ∨
      ∃ tax, load source = .ok tax ∧ tax.Addressable := by
  have hall : ∀ source ∈ oversights, (match load source with
      | .error fault => fault.isRefusal
      | .ok tax => decide tax.Written) = false := by decide +kernel
  rintro ⟨source, hsource, h⟩
  have hno := hall source hsource
  rcases h with ⟨fault, hload, hrefusal⟩ | ⟨tax, hload, haddressable⟩
  · rw [hload] at hno
    exact absurd (hrefusal.symm.trans hno) Bool.noConfusion
  · rw [hload] at hno
    exact of_decide_eq_false hno ((addressable_iff_of_load hload).mp haddressable)

end Taxonomy

end Sift
