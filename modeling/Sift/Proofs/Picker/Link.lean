import Mathlib.Data.List.Basic
import Sift.Picker
import Sift.Proofs.Shorthand.RoundTrip

/-!
# The picker behind a link

The nodes of a type read from a selection whether the type is selected and which of the leaves that
apply to it are listed, and nothing else (`typeNode_congr`). A link keeps both for the types of the
taxonomy, whatever else the filter selects, so the picker looks the same behind it
(`tree_expandTree_compress`).
-/

namespace Sift.Picker

open Shorthand

/-- A value of a type is listed, or its dimension is absent. -/
def lists (sel : Selection) (id : Int) (type dim value : String) : Bool :=
  match sel.values? id type dim with
  | none => true
  | some values => values.contains value

/-- Two selections show a type and the leaves that apply to it alike. -/
structure AlikeIn (a b : Selection) (head : Head) (type : String) : Prop where
  hasType : a.hasType head.id type = b.hasType head.id type
  lists : ∀ dim, ∀ v ∈ head.applicable type dim,
    lists a head.id type dim v = lists b head.id type dim v

section Levels

variable {a b : Selection} {head : Head} {type : String} (denied : List String)

theorem leafNode_congr (h : AlikeIn a b head type) {dim value : String}
    (hvalue : value ∈ head.applicable type dim) (leaf : Leaf) :
    leafNode a denied head type dim value leaf = leafNode b denied head type dim value leaf := by
  have hselected : (a.hasType head.id type && lists a head.id type dim value) =
      (b.hasType head.id type && lists b head.id type dim value) := by
    rw [h.hasType, h.lists dim value hvalue]
  exact congrArg (fun selected => Node.mk (leafText head.id type dim value) leaf.label selected
    (denied.contains (dim ++ value) || denied.contains (type ++ "_" ++ dim ++ value)) []) hselected

theorem dimNode?_congr (h : AlikeIn a b head type) {dim : String} {dimension : Dimension}
    (hdim : head.dimensions.get? dim = some dimension) :
    dimNode? a denied head type dim dimension = dimNode? b denied head type dim dimension := by
  have hleaves : ((dimension.leaves.entries.filter fun e => e.2.types.contains type).map
      fun e => leafNode a denied head type dim e.1 e.2) =
      (dimension.leaves.entries.filter fun e => e.2.types.contains type).map
        fun e => leafNode b denied head type dim e.1 e.2 := by
    refine List.map_congr_left fun e he => leafNode_congr denied h ?_ e.2
    obtain ⟨hmem, htype⟩ := List.mem_filter.mp he
    exact Head.mem_applicable_iff.mpr
      ⟨dimension, e.2, hdim, hmem, List.contains_iff_mem.mp htype⟩
  simp only [dimNode?, hleaves]

theorem typeNode_congr (h : AlikeIn a b head type) (label : String) :
    typeNode a denied head type label = typeNode b denied head type label := by
  have hdims : (head.dimensions.entries.filterMap fun e => dimNode? a denied head type e.1 e.2) =
      head.dimensions.entries.filterMap fun e => dimNode? b denied head type e.1 e.2 :=
    List.filterMap_congr fun e he =>
      dimNode?_congr denied h (OrderedMap.get?_eq_some_iff.mpr he)
  simp only [typeNode, hdims, h.hasType]

end Levels

theorem headNode_congr {a b : Selection} {head : Head} (h : ∀ t ∈ head.typeKeys, AlikeIn a b head t)
    (neg : Negations) : headNode a neg head = headNode b neg head := by
  have htypes : (head.types.entries.map fun e =>
      typeNode a (neg.selectors head.id) head e.1 e.2) =
      head.types.entries.map fun e => typeNode b (neg.selectors head.id) head e.1 e.2 :=
    List.map_congr_left fun e he => typeNode_congr _ (h e.1 (List.mem_map_of_mem he)) e.2
  simp only [headNode, htypes]

theorem tree_congr {tax : Taxonomy} {a b : Selection}
    (h : ∀ id head, tax.head? id = some head → ∀ t ∈ head.typeKeys, AlikeIn a b head t)
    (neg : Negations) : tree tax a neg = tree tax b neg :=
  List.map_congr_left fun e he =>
    headNode_congr (h e.1 e.2 (Taxonomy.head?_eq_some_iff.mpr he)) neg

/-! ## The link -/

variable {tax : Taxonomy} {sel : Selection} {head : Head} {n : Nat} {t : String}

theorem lists_iff (hvalues : ∀ d, sel.values? n t d ≠ some []) (hfound : tax.head? n = some head)
    {d v : String} (hv : v ∈ head.applicable t d) :
    lists sel n t d v = true ↔ v ∈ sel.letThrough tax n t d := by
  have happlicable := Taxonomy.applicable_of_found hfound t d
  have hne := hvalues d
  rw [lists, Selection.letThrough]
  cases hvs : sel.values? n t d with
  | none =>
    rw [happlicable]
    exact iff_of_true rfl hv
  | some values =>
    cases values with
    | nil => exact absurd hvs hne
    | cons w values => exact List.contains_iff_mem

theorem alikeIn_selectionEntries (htax : tax.WellFormed) (hfound : tax.head? n = some head)
    (ht : t ∈ head.typeKeys) (hvalues : ∀ d, sel.values? n t d ≠ some []) :
    AlikeIn (selected (selectionEntries tax sel)) sel head t := by
  have hid := (htax.head hfound).1
  have hagain : ∀ d, (selected (selectionEntries tax sel)).values? n t d ≠ some [] :=
    fun d => values?_selected_ne_nil
  refine ⟨?_, fun d v hv => ?_⟩
  · rw [hid, Bool.eq_iff_iff]
    exact hasType_selectionEntries htax hfound (.inl ht)
  · rw [hid, Bool.eq_iff_iff, lists_iff hagain hfound hv, lists_iff hvalues hfound hv]
    exact letThrough_selectionEntries htax hfound ht

/-- The picker looks the same behind the link of a filter as on the filter's own page. -/
theorem tree_expandTree_compress (htax : tax.WellFormed) {text : String} {neg : Negations}
    (h : expandTree tax text = .ok (sel, neg)) :
    ∃ again, expandTree tax (compress tax sel neg) = .ok (again, neg) ∧
      tree tax again neg = tree tax sel neg := by
  obtain ⟨hsel, hneg⟩ := writable_of_expand h
  obtain ⟨entries, rfl⟩ := selected_of_expand h
  refine ⟨_, expandTree_compress htax hsel hneg, tree_congr (fun id head hfound t ht => ?_) neg⟩
  obtain ⟨hid, hhead⟩ := htax.head hfound
  obtain ⟨n, hn⟩ := hhead.exists_nat
  obtain rfl : id = n := hid.symm.trans hn
  exact alikeIn_selectionEntries htax hfound ht fun d => values?_selected_ne_nil

/-- A filter with a removal, a type and a head outside of the taxonomy, a negation and a literal. -/
theorem tree_expandTree_compress_default :
    let text := "cat0_z1_a0,cat0_z1_a1,!cat0_z1_a0,sub0_z9,cat9_z0_a1,~cat1_z0_a1,x"
    let sel := ((Selection.empty.addValue 0 "z1" "a" "1").addType 0 "z9").addValue 9 "z0" "a" "1"
    let neg := Negations.empty.add 1 "z0_a1"
    Taxonomy.default.WellFormed ∧ expandTree .default text = .ok (sel, neg) ∧
      ∃ again, expandTree .default (compress .default sel neg) = .ok (again, neg) ∧
        tree .default again neg = tree .default sel neg := by
  intro text sel neg
  have hexpand : expandTree .default text = .ok (sel, neg) := by decide
  exact ⟨Taxonomy.wellFormed_default, hexpand,
    tree_expandTree_compress Taxonomy.wellFormed_default hexpand⟩

end Sift.Picker
