import Sift.Proofs.Picker.Link
import Sift.Proofs.Picker.Place
import Sift.Proofs.Predicate.Clauses
import Sift.Proofs.Shorthand.Recorded

/-!
# Leaves of the picker and the rows they stand for

A leaf is shown as selected when its type is selected and its dimension is absent or lists its value
(`selected_of_mem_tree`). The predicate of the type lets a row with that value pass in that dimension
when it has no condition on it or the row fulfils the condition (`admits_typeOf`). The two agree on a
leaf exactly when its value is listed, or its dimension is absent, or something is listed and nothing
that is listed is read as the value (`leaf_selected_iff`). So they agree on the selection of every tree
that is expanded (`leaf_selected_iff_of_expandTree`). A dimension that is present and lists nothing
narrows nothing as a condition, while its leaves are shown as not selected
(`not_selected_of_empty_dim`).
-/

namespace Sift

/-- Every type of a selection is a type of its head in the taxonomy, with dimensions of the grammar. -/
def Selection.Over (sel : Selection) (tax : Taxonomy) : Prop :=
  ∀ e ∈ sel.heads.entries, ∀ t ∈ e.2.entries,
    (∃ head ∈ tax.head? e.1, t.1 ∈ head.typeKeys) ∧ ∀ d ∈ t.2.keys, d ∈ dimensions

instance (sel : Selection) (tax : Taxonomy) : Decidable (sel.Over tax) :=
  inferInstanceAs (Decidable (∀ e ∈ sel.heads.entries, ∀ t ∈ e.2.entries,
    (∃ head ∈ tax.head? e.1, t.1 ∈ head.typeKeys) ∧ ∀ d ∈ t.2.keys, d ∈ dimensions))

/-- The conditions of a predicate on a column let a row pass: there is none, or one holds. -/
def Predicate.Admits (p : Predicate) (column : String) (row : Row) : Prop :=
  p.clausesOn column = [] ∨ ∃ q ∈ p.clausesOn column, q.Holds row.truth

/-- A dimension leaves no doubt about a value: it is absent or lists the value, or it lists something and
nothing that is read as the value. -/
def Selection.Discerns (sel : Selection) (id : Int) (type : String) (letter : Char)
    (value : String) : Prop :=
  ∀ listed ∈ sel.values? id type (String.singleton letter), value ∉ listed →
    listed ≠ [] ∧ ∀ v ∈ listed, Category.readsAs letter v value = false

instance (sel : Selection) (id : Int) (type : String) (letter : Char) (value : String) :
    Decidable (sel.Discerns id type letter value) :=
  inferInstanceAs (Decidable (∀ listed ∈ sel.values? id type (String.singleton letter),
    value ∉ listed → listed ≠ [] ∧ ∀ v ∈ listed, Category.readsAs letter v value = false))

variable {tax : Taxonomy} {sel : Selection}

theorem Selection.Over.types (htax : tax.WellFormed) (h : sel.Over tax) (id : Int) (type : String)
    (htype : sel.hasType id type = true) : Shorthand.isTypeKey type.toList = true := by
  obtain ⟨types, dims, he, ht⟩ := Selection.hasType_iff.mp htype
  obtain ⟨⟨head, hfound, hkey⟩, -⟩ := h _ he _ ht
  exact (htax.head hfound).2.typeKeys type hkey

theorem Selection.Over.dims (h : sel.Over tax) (id : Int) (type : String) :
    ∀ d ∈ (sel.dims id type).keys, d ∈ dimensions := by
  intro d hd
  obtain ⟨types, dims, he, ht⟩ := Selection.hasType_iff.mp (Selection.hasType_of_mem_dims hd)
  rw [Selection.dims_of_mem he ht] at hd
  exact (h _ he _ ht).2 d hd

namespace Category

variable {letter : Char} {value : String} {row : Row}

theorem readsAs_iff_eq (hletter : Shorthand.isDim letter = true)
    (hrow : row.HoldsCodes letter [String.singleton letter ++ value]) {listed : String}
    (hlisted : Text.isDigits listed.toList = true) :
    readsAs letter listed value = true ↔ listed = value := by
  have hcode : IsCodeOf letter (String.singleton letter ++ listed) := .inl (by simpa using hlisted)
  rw [← has_iff_readsAs hletter hrow, has_iff (mem_letters_of_isDim hletter) hrow hcode,
    List.mem_singleton]
  simp [← String.toList_inj]

theorem admits_typeOf {type : String} (htype : Shorthand.isTypeKey type.toList = true) {dims : Dims}
    (hdims : ∀ d ∈ dims.keys, d ∈ dimensions) (id : Int) (hletter : Shorthand.isDim letter = true)
    (hrow : row.HoldsCodes letter [String.singleton letter ++ value]) :
    (typeOf id type dims).Admits (codeColumn letter) row ↔
      ∀ listed ∈ dims.get? (String.singleton letter), listed ≠ [] →
        ∃ v ∈ listed, readsAs letter v value = true := by
  have hkeys : ∀ e ∈ dims.entries, e.1 ∈ dimensions := fun e he =>
    hdims e.1 (List.mem_map_of_mem he)
  rw [Predicate.Admits, clausesOn_typeOf htype hkeys id hletter]
  cases hget : dims.get? (String.singleton letter) with
  | none => simp
  | some listed =>
    by_cases hlisted : listed = []
    · simp [hlisted, dimOf?]
    · have hclause : (dimOf? (String.singleton letter) listed).toList =
          [.any (listed.map fun v => codeOf (String.singleton letter ++ v))] := by
        rw [dimOf?, if_neg hlisted]
        rfl
      have hany : (Predicate.any
          (listed.map fun v => codeOf (String.singleton letter ++ v))).Holds row.truth ↔
          ∃ v ∈ listed, row.Has (String.singleton letter ++ v) := holds_any_codes hlisted
      simp only [Option.bind_some, hclause, List.mem_singleton, exists_eq_left, hany,
        has_iff_readsAs hletter hrow, Option.mem_some_iff, forall_eq', hlisted, ne_eq,
        not_false_eq_true, forall_const, List.cons_ne_nil, false_or]

end Category

namespace Picker

open Shorthand Category

variable {neg : Negations} {head : Head} {id : Int} {t : String} {letter : Char} {v : String}

/-! ## Nodes with the key of a leaf -/

theorem Shows.selected_of_key {d : String} {n : Nat} (hhead : head.WellFormed)
    (hvalid : ∀ p ∈ [Part.type t, .value d v], p.Valid) {node : Node} (h : Shows sel neg head node)
    (hkey : node.key = leafText n t d v) :
    node.selected = (sel.hasType n t && lists sel n t d v) := by
  obtain ⟨m, hm⟩ := hhead.exists_nat
  have hparts : ∀ parts, (∀ p ∈ parts, p.Valid) → node.key = nameText m parts →
      m = n ∧ parts = [Part.type t, .value d v] := fun parts hparts heq =>
    nameText_injective hparts hvalid (heq.symm.trans (hkey.trans (leafText_eq n t d v)))
  have hplace : ∀ place : Place, place.In head → node.key = place.key head.id →
      m = n ∧ place.parts = [Part.type t, .value d v] := fun place hin heq =>
    hparts _ (Place.valid_parts hhead hin) (by rw [heq, hm, Place.key_eq])
  cases h with
  | head => cases (hplace .head trivial rfl).2
  | type ht => cases (hplace (.type _) (List.mem_map_of_mem ht) rfl).2
  | @dim t' d' dimension node ht hd hnode =>
    have hdim : d' ∈ head.dims := OrderedMap.mem_keys_iff.mpr ⟨_, hd⟩
    have heq : node.key = nameText m [.type t', .dim d'] := by
      rw [key_of_dimNode? hnode, hm, dimText_eq]
    have hvalid' : ∀ p ∈ [Part.type t', .dim d'], p.Valid := by
      simpa [Part.Valid] using ⟨hhead.typeKeys t' ht, hhead.dims d' hdim⟩
    cases (hparts _ hvalid' heq).2
  | @leaf t' d' v' dimension leaf ht hd hleaf happlies =>
    have happlicable := Head.mem_applicable_iff.mpr ⟨_, _, hd, hleaf, happlies⟩
    obtain ⟨rfl, heq⟩ := hplace (.leaf t' d' v') ⟨ht, happlicable⟩ rfl
    cases heq
    rw [← hm]
    rfl

theorem selected_of_mem_tree (htax : tax.WellFormed) (hfound : tax.head? id = some head) {d : String}
    (hplace : (Place.leaf t d v).In head) {node : Node} (h : node ∈ nodesOf (tree tax sel neg))
    (hkey : node.key = leafText id t d v) :
    node.selected = (sel.hasType id t && lists sel id t d v) := by
  obtain ⟨hid, hhead⟩ := htax.head hfound
  obtain ⟨n, hn⟩ := hhead.exists_nat
  obtain rfl : id = n := hid.symm.trans hn
  obtain ⟨id', head', hfound', hshows⟩ := shows_of_mem_tree h
  exact hshows.selected_of_key (htax.head hfound').2 (Place.valid_parts hhead hplace) hkey

theorem exists_mem_tree (htax : tax.WellFormed) (hfound : tax.head? id = some head) {d : String}
    (hplace : (Place.leaf t d v).In head) :
    ∃ node ∈ nodesOf (tree tax sel neg), node.key = leafText id t d v := by
  obtain ⟨ht, hvalue⟩ := hplace
  obtain ⟨dimension, leaf, hd, hleaf, happlies⟩ := Head.mem_applicable_iff.mp hvalue
  refine ⟨_, leafNode_mem_tree hfound ht hd hleaf happlies, ?_⟩
  rw [← (htax.head hfound).1]
  rfl

/-! ## Leaves and conditions -/

theorem isDim_of_applicable (hhead : head.WellFormed)
    (hv : v ∈ head.applicable t (String.singleton letter)) : isDim letter = true := by
  obtain ⟨dimension, leaf, hd, -⟩ := Head.mem_applicable_iff.mp hv
  have hdim := hhead.dims _ (OrderedMap.mem_keys_iff.mpr ⟨dimension, hd⟩)
  obtain ⟨c, hc, heq⟩ := mem_dimensions_iff.mp hdim
  obtain rfl : letter = c := by simpa using congrArg String.toList heq
  exact hc

/-- A leaf is let through exactly when the conditions of its type let its value pass, provided that
what its dimension lists leaves no doubt about it. -/
theorem lists_iff_admits_iff (htype : isTypeKey t.toList = true)
    (hdims : ∀ d ∈ (sel.dims id t).keys, d ∈ dimensions) (hletter : isDim letter = true)
    (hv : Text.isDigits v.toList = true) {row : Row}
    (hrow : row.HoldsCodes letter [String.singleton letter ++ v]) :
    (((sel.hasType id t && lists sel id t (String.singleton letter) v) = true) ↔
      sel.hasType id t = true ∧ (typeOf id t (sel.dims id t)).Admits (codeColumn letter) row) ↔
      sel.Discerns id t letter v := by
  have hself : readsAs letter v v = true := (readsAs_iff_eq hletter hrow hv).mpr rfl
  rw [admits_typeOf htype hdims id hletter hrow, Bool.and_eq_true, and_congr_right_iff, lists,
    Selection.Discerns]
  change _ → (_ ↔ ∀ listed ∈ sel.values? id t _, _) ↔ _
  cases hvalues : sel.values? id t (String.singleton letter) with
  | none => simp
  | some listed =>
    have htrue : sel.hasType id t = true := Selection.hasType_of_values? hvalues
    simp only [htrue, forall_const, Option.mem_some_iff, forall_eq', List.contains_iff_mem]
    by_cases hmem : v ∈ listed
    · exact iff_of_true (iff_of_true hmem fun _ => ⟨v, hmem, hself⟩) fun hnot => absurd hmem hnot
    · simp [hmem]

/-- The picker and the predicates agree on a leaf exactly when what its dimension lists leaves no doubt
about its value. -/
theorem leaf_selected_iff (htax : tax.WellFormed) (hsel : sel.Over tax) (neg : Negations)
    (hfound : tax.head? id = some head) (ht : t ∈ head.typeKeys)
    (hv : v ∈ head.applicable t (String.singleton letter)) :
    ∃ predicates p, ofSelection sel = .ok predicates ∧
      typePredicate id t (sel.dims id t) = .ok p ∧ (sel.hasType id t = true → p ∈ predicates) ∧
      (∃ node ∈ nodesOf (tree tax sel neg),
        node.key = leafText id t (String.singleton letter) v) ∧
      ∀ node ∈ nodesOf (tree tax sel neg), node.key = leafText id t (String.singleton letter) v →
        ∀ row : Row, row.HoldsCodes letter [String.singleton letter ++ v] →
          ((node.selected = true ↔ sel.hasType id t = true ∧ p.Admits (codeColumn letter) row) ↔
            sel.Discerns id t letter v) := by
  have hplace : (Place.leaf t (String.singleton letter) v).In head := ⟨ht, hv⟩
  have hhead := (htax.head hfound).2
  have hletter : isDim letter = true := isDim_of_applicable hhead hv
  have htype := hhead.typeKeys t ht
  have hdims := hsel.dims id t
  refine ⟨_, _, ofSelection_eq_of_keys (hsel.types htax) hsel.dims, typePredicate_eq htype ?_, ?_,
    exists_mem_tree htax hfound hplace, ?_⟩
  · exact fun e he => hdims e.1 (List.mem_map_of_mem he)
  · exact fun hhas => mem_typesOf.mpr ⟨id, t, hhas, rfl⟩
  · intro node hnode hkey row hrow
    rw [selected_of_mem_tree htax hfound hplace hnode hkey]
    exact lists_iff_admits_iff htype hdims hletter (hhead.digits_of_mem_applicable hv) hrow

/-- Movies narrowed to the format `a9`, which leaves no doubt about `a0`. -/
theorem leaf_selected_iff_default :
    let sel := Selection.empty.addValue 0 "z0" "a" "9"
    let dim := String.singleton 'a'
    sel.Over .default ∧ sel.Discerns 0 "z0" 'a' "0" ∧
      (∃ head, Taxonomy.default.head? 0 = some head ∧ "z0" ∈ head.typeKeys ∧
        "0" ∈ head.applicable "z0" dim) ∧
      ∃ predicates p, ofSelection sel = .ok predicates ∧
        typePredicate 0 "z0" (sel.dims 0 "z0") = .ok p ∧
        (sel.hasType 0 "z0" = true → p ∈ predicates) ∧
        (∃ node ∈ nodesOf (tree .default sel .empty), node.key = leafText 0 "z0" dim "0") ∧
        ∀ node ∈ nodesOf (tree .default sel .empty), node.key = leafText 0 "z0" dim "0" →
          ∀ row : Row, row.HoldsCodes 'a' [dim ++ "0"] →
            ((node.selected = true ↔ sel.hasType 0 "z0" = true ∧ p.Admits (codeColumn 'a') row) ↔
              sel.Discerns 0 "z0" 'a' "0") := by
  intro sel dim
  have hsel : sel.Over .default := by decide
  have hplace : (Taxonomy.default.head? 0).any
      (fun head => decide ("z0" ∈ head.typeKeys ∧ "0" ∈ head.applicable "z0" dim)) = true := by
    decide
  obtain ⟨head, hfound, hin⟩ := (Option.any_eq_true ..).mp hplace
  obtain ⟨ht, hv⟩ := of_decide_eq_true hin
  exact ⟨hsel, by decide, ⟨head, hfound, ht, hv⟩,
    leaf_selected_iff Taxonomy.wellFormed_default hsel .empty hfound ht hv⟩

/-- Movies with a format that lists nothing: no condition looks at the format, but `a0` is shown as not
selected. -/
theorem not_selected_of_empty_dim :
    let sel := Selection.empty.addDim 0 "z0" "a"
    Selection.ofData [("0", [("z0", [("a", [])])])] = .ok sel ∧ sel.Over .default ∧
      (∃ head ∈ Taxonomy.default.head? 0, "z0" ∈ head.typeKeys ∧ "0" ∈ head.applicable "z0" "a") ∧
      sel.hasType 0 "z0" = true ∧
      (∃ p, ofSelection sel = .ok [p] ∧ p.clausesOn (codeColumn 'a') = []) ∧
      ∃ node ∈ nodesOf (tree .default sel .empty), node.key = "cat0_z0_a0" ∧
        node.selected = false := by
  intro sel
  have hplace : (Taxonomy.default.head? 0).any
      (fun head => decide ((Place.leaf "z0" "a" "0").In head)) = true := by decide
  obtain ⟨head, hfound, hin⟩ := (Option.any_eq_true ..).mp hplace
  have hin := of_decide_eq_true hin
  have hkey : leafText 0 "z0" "a" "0" = "cat0_z0_a0" := by decide
  have htax := Taxonomy.wellFormed_default
  obtain ⟨node, hnode, heq⟩ : ∃ node ∈ nodesOf (tree .default sel .empty),
      node.key = leafText 0 "z0" "a" "0" := exists_mem_tree htax hfound hin
  refine ⟨by decide, by decide, ⟨head, hfound, hin⟩, by decide, ?_, node, hnode, ?_, ?_⟩
  · exact ⟨typeOf 0 "z0" (sel.dims 0 "z0"), rfl, rfl⟩
  · rw [heq, hkey]
  · rw [selected_of_mem_tree htax hfound hin hnode heq]
    decide

theorem discerns_of_expandTree {text : String} {negated : Negations}
    (h : expandTree tax text = .ok (sel, negated)) (id : Int) (t : String)
    (hletter : isDim letter = true) {row : Row}
    (hrow : row.HoldsCodes letter [String.singleton letter ++ v]) : sel.Discerns id t letter v := by
  intro listed hlisted hnot
  have hwritable := (writable_of_expand h).1
  obtain ⟨entries, rfl⟩ := selected_of_expand h
  refine ⟨?_, fun w hw => ?_⟩
  · rintro rfl
    exact values?_selected_ne_nil hlisted
  · have hdigits := hwritable.values id t _ listed hlisted w hw
    rw [Bool.eq_false_iff, ne_eq, readsAs_iff_eq hletter hrow hdigits]
    rintro rfl
    exact hnot hw

/-- A leaf of the picker is selected behind a tree exactly when the type is selected and its
conditions let a row with the value of the leaf pass. -/
theorem leaf_selected_iff_of_expandTree (htax : tax.WellFormed) {text : String}
    (h : expandTree tax text = .ok (sel, neg)) (hfound : tax.head? id = some head)
    (ht : t ∈ head.typeKeys) (hv : v ∈ head.applicable t (String.singleton letter)) {node : Node}
    (hnode : node ∈ nodesOf (tree tax sel neg))
    (hkey : node.key = leafText id t (String.singleton letter) v) {row : Row}
    (hrow : row.HoldsCodes letter [String.singleton letter ++ v]) :
    node.selected = true ↔ sel.hasType id t = true ∧
      (typeOf id t (sel.dims id t)).Admits (codeColumn letter) row := by
  have hplace : (Place.leaf t (String.singleton letter) v).In head := ⟨ht, hv⟩
  have hhead := (htax.head hfound).2
  have hletter : isDim letter = true := isDim_of_applicable hhead hv
  rw [selected_of_mem_tree htax hfound hplace hnode hkey]
  refine (lists_iff_admits_iff (hhead.typeKeys t ht) ((writable_of_expand h).1.dims id t) hletter
    (hhead.digits_of_mem_applicable hv) hrow).mpr ?_
  exact discerns_of_expandTree h id t hletter hrow

end Picker

end Sift
