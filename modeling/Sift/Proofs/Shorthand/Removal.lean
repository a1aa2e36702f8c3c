import Mathlib.Data.List.Basic
import Sift.Proofs.Shorthand.Recorded
import Sift.Proofs.Shorthand.Settled
import Sift.Proofs.Shorthand.Shape

/-!
# Removals at the end

A selection is that of the entries that the accumulator reads as (`selected_of_expand_eq`). A removal
behind tokens that can be expanded drops the entries equal to its target and can be expanded as well;
it negates nothing (`expand_removal`).

Targets are compared as texts. What names stand for is written in one form only, but a leaf stands in
the accumulator as it was typed. So the written form of a leaf removes it unless it was typed in
another one (`mem_valuesOf_removal_iff`), with zeros in front of its head, with digits of another
script, or with a line feed behind (`Shape.fits_iff`).
-/

namespace Sift.Shorthand

open Text

variable {tax : Taxonomy} {raw target : String} {raws acc : List String} {state : Expansion}
variable {sel : Selection} {neg : Negations} {n : Nat} {id : Int} {t d v : String}

/-! ## The selection of an accumulator -/

/-- The entry that a text is read as, if it is read as one. -/
def entryOf? (raw : String) : Option Entry :=
  match Entry.read raw with
  | .ok entry => entry
  | .error _ => none

theorem entryOf?_eq_some_iff {entry : Entry} :
    entryOf? raw = some entry ↔ Entry.read raw = .ok (some entry) := by
  rw [entryOf?]
  cases Entry.read raw with
  | ok found => simp
  | error fault => simp

/-- The entries that an accumulator reads as. -/
def entriesOf (acc : List String) : List Entry := acc.filterMap entryOf?

theorem mem_entriesOf {entry : Entry} :
    entry ∈ entriesOf acc ↔ ∃ raw ∈ acc, Entry.read raw = .ok (some entry) := by
  simp only [entriesOf, List.mem_filterMap, entryOf?_eq_some_iff]

theorem selectionOf_eq (h : ∀ raw ∈ acc, ∃ entry, Entry.read raw = .ok entry) :
    selectionOf acc = .ok (selected (entriesOf acc)) := by
  have key : ∀ sel : Selection,
      acc.foldlM (fun sel raw => do return select sel (← Entry.read raw)) sel =
        .ok ((entriesOf acc).foldl (fun sel entry => select sel (some entry)) sel) := by
    induction acc with
    | nil => exact fun sel => rfl
    | cons raw acc ih =>
      intro sel
      obtain ⟨entry, hread⟩ := h raw (by simp)
      have hrest := ih fun raw' hraw' => h raw' (by simp [hraw'])
      have hentry : entryOf? raw = entry := by rw [entryOf?, hread]
      rw [List.foldlM_cons, hread, entriesOf, List.filterMap_cons, hentry]
      cases entry with
      | none => exact hrest sel
      | some entry => exact hrest (select sel (some entry))
  exact key .empty

theorem selected_of_expand_eq (h : expand tax raws = .ok (sel, neg)) :
    ∃ state, expandTokens tax raws = .ok state ∧
      (∀ raw ∈ state.accumulator, ∃ entry, Entry.read raw = .ok entry) ∧
      sel = selected (entriesOf state.accumulator) ∧ neg = state.negations := by
  obtain ⟨state, hrun, h⟩ := bind_eq_ok h
  obtain ⟨sel', hsel, h⟩ := bind_eq_ok h
  obtain ⟨rfl, rfl⟩ := Prod.mk.inj (Except.ok.inj h)
  have hread := exists_selectionOf_iff.mp ⟨sel', hsel⟩
  refine ⟨state, hrun, hread, ?_, rfl⟩
  exact Except.ok.inj (hsel.symm.trans (selectionOf_eq hread))

/-! ## One more removal -/

theorem step_removal (state : Expansion) (target : String) :
    Expansion.step tax state (removalText target) =
      .ok ⟨state.accumulator.filter (· != target), state.negations⟩ := by
  rw [Expansion.step, if_neg (removalText_ne_empty target), read_removalText]
  show Except.ok (state.apply tax _ (.removal target)) = _
  simp only [Expansion.apply, emitted, List.append_nil]

theorem expandTokens_removal (h : expandTokens tax raws = .ok state) (target : String) :
    expandTokens tax (raws ++ [removalText target]) =
      .ok ⟨state.accumulator.filter (· != target), state.negations⟩ := by
  rw [expandTokens] at h ⊢
  rw [List.foldlM_append, h]
  show [removalText target].foldlM (Expansion.step tax) state = _
  rw [List.foldlM_cons, step_removal]
  rfl

/-- A removal leaves the entries that are not equal to its target, and negates nothing. -/
theorem expand_removal (h : expand tax raws = .ok (sel, neg)) (target : String) :
    ∃ state, expandTokens tax raws = .ok state ∧ sel = selected (entriesOf state.accumulator) ∧
      expand tax (raws ++ [removalText target]) =
        .ok (selected (entriesOf (state.accumulator.filter (· != target))), neg) := by
  obtain ⟨state, hrun, hread, hsel, rfl⟩ := selected_of_expand_eq h
  refine ⟨state, hrun, hsel, ?_⟩
  have hleft : ∀ raw ∈ state.accumulator.filter (· != target),
      ∃ entry, Entry.read raw = .ok entry := fun raw hraw => hread raw (List.mem_filter.mp hraw).1
  rw [expand, expandTokens_removal hrun target]
  show (selectionOf (state.accumulator.filter (· != target)) >>= _) = _
  rw [selectionOf_eq hleft]
  rfl

theorem mem_entriesOf_filter {entry : Entry} : entry ∈ entriesOf (acc.filter (· != target)) ↔
    ∃ raw ∈ acc, raw ≠ target ∧ Entry.read raw = .ok (some entry) := by
  simp only [mem_entriesOf, List.mem_filter, bne_iff_ne, and_assoc]

/-! ## Removing a leaf -/

/-- The text has a head of number `n` and behind it the type and the value of a leaf. -/
def HasLeaf (raw : String) (n : Nat) (t d v : String) : Prop :=
  ∃ digits more, headAndFields? "cat".toList raw.toList = some (digits, more) ∧
    more.mapM part? = some [.type t, .value d v] ∧ Integer.ofRun digits = .ok n

theorem read_leaf_iff : Token.read raw = .ok (.leaf n t d v) ↔ HasLeaf raw n t d v :=
  Shape.read_iff (s := .leaf t d v) rfl

theorem read_leafEntry_iff :
    Entry.read raw = .ok (some (.leaf n t d v)) ↔ HasLeaf raw n t d v :=
  Shape.readEntry_iff (s := .leaf t d v) rfl

theorem adds_leaf (htax : tax.WellFormed) {token : String} (hadds : Adds tax token raw)
    (hread : Entry.read raw = .ok (some (.leaf n t d v))) :
    raw = leafText n t d v ∨ token = raw := by
  obtain ⟨-, found, hfound, hmem⟩ := hadds
  have hsought : ∀ m, found.headSought? = some m → raw = leafText n t d v := by
    intro m hm
    obtain ⟨head, hhead, hmem⟩ := mem_expandIn_of_mem_emitted hm hmem
    obtain ⟨hid, hwell⟩ := htax.head hhead
    rcases token_of_read hfound with rfl | ⟨target, -, rfl⟩ | ⟨k, selector, rfl⟩ |
      ⟨digits, more, parts, k, -, hparts, -, hnamed⟩
    · cases hm
    · cases hm
    · cases hm
    · obtain ⟨entry, hvalid, rfl⟩ := exists_entry_of_mem_expandIn hwell hid
        (short_of_headSought? hfound hm) (mapM_part?_eq_some hparts).2 hnamed hmem
      rw [Entry.read_text hvalid] at hread
      cases Except.ok.inj hread
      rfl
  cases found with
  | head => exact .inl (hsought _ rfl)
  | type => exact .inl (hsought _ rfl)
  | dim => exact .inl (hsought _ rfl)
  | typeDim => exact .inl (hsought _ rfl)
  | value => exact .inl (hsought _ rfl)
  | removal => cases hmem
  | leaf => exact .inr (List.mem_singleton.mp hmem).symm
  | literal => exact .inr (List.mem_singleton.mp hmem).symm
  | negation raw' k selector =>
    obtain ⟨rfl, -⟩ := negation_of_read hfound
    exact .inr (List.mem_singleton.mp hmem).symm

/-- A leaf that is removed stays listed exactly when it has been typed in another form, and no later
token removes that. -/
theorem mem_valuesOf_removal_iff (htax : tax.WellFormed) (h : expand tax raws = .ok (sel, neg))
    (id : Int) (t d v : String) :
    ∃ left, expand tax (raws ++ [removalText (leafText id t d v)]) = .ok (left, neg) ∧
      (v ∈ left.valuesOf id t d ↔
        ∃ n : Nat, id = n ∧ ∃ pre raw post, raws = pre ++ raw :: post ∧
          Token.read raw = .ok (.leaf n t d v) ∧ raw ≠ leafText id t d v ∧
          removalText raw ∉ post) := by
  obtain ⟨state, hrun, -, hexpand⟩ := expand_removal h (leafText id t d v)
  refine ⟨_, hexpand, ?_⟩
  rw [mem_values_selected, mem_listed]
  simp only [mem_entriesOf_filter]
  constructor
  · rintro ⟨n, rfl, raw, hraw, hne, hread⟩
    obtain ⟨pre, token, post, rfl, hadds, hkept⟩ := (mem_accumulator hrun).mp hraw
    obtain rfl := (adds_leaf htax hadds hread).resolve_left hne
    exact ⟨n, rfl, pre, token, post, rfl, read_leaf_iff.mpr (read_leafEntry_iff.mp hread), hne, hkept⟩
  · rintro ⟨n, rfl, pre, raw, post, rfl, hread, hne, hkept⟩
    refine ⟨n, rfl, raw, (mem_accumulator hrun).mpr ?_, hne,
      read_leafEntry_iff.mpr (read_leaf_iff.mp hread)⟩
    refine ⟨pre, raw, post, rfl, ⟨?_, _, hread, List.mem_singleton_self raw⟩, hkept⟩
    rintro rfl
    cases hread

/-- Of two ways to type a format, its removal drops the written form. -/
theorem mem_valuesOf_removal_default :
    let raws := ["cat0_z0_a1", "cat00_z0_a1", "!cat00_z0_a1"]
    let sel := Selection.empty.addValue 0 "z0" "a" "1"
    Taxonomy.default.WellFormed ∧ expand .default raws = .ok (sel, .empty) ∧
      ∃ left, expand .default (raws ++ [removalText (leafText 0 "z0" "a" "1")]) = .ok (left, .empty) ∧
        ("1" ∈ left.valuesOf 0 "z0" "a" ↔
          ∃ n : Nat, (0 : Int) = n ∧ ∃ pre raw post, raws = pre ++ raw :: post ∧
            Token.read raw = .ok (.leaf n "z0" "a" "1") ∧ raw ≠ leafText 0 "z0" "a" "1" ∧
            removalText raw ∉ post) := by
  intro raws sel
  have hexpand : expand .default raws = .ok (sel, .empty) := by decide
  exact ⟨Taxonomy.wellFormed_default, hexpand,
    mem_valuesOf_removal_iff Taxonomy.wellFormed_default hexpand 0 "z0" "a" "1"⟩

/-- Typed with a zero in front of its head, a format stays listed when its leaf is removed. -/
theorem mem_valuesOf_removed :
    let raws := ["cat00_z0_a1"]
    let sel := Selection.empty.addValue 0 "z0" "a" "1"
    Taxonomy.default.WellFormed ∧ expand .default raws = .ok (sel, .empty) ∧
      isTypeKey "z0".toList = true ∧ "a" ∈ dimensions ∧ isDigits "1".toList = true ∧
      leafText 0 "z0" "a" "1" = "cat0_z0_a1" ∧
      ∃ left neg, expand .default (raws ++ ["!" ++ leafText 0 "z0" "a" "1"]) = .ok (left, neg) ∧
        "1" ∈ left.valuesOf 0 "z0" "a" := by
  refine ⟨Taxonomy.wellFormed_default, by decide, by decide, by decide, by decide, by decide, ?_⟩
  exact ⟨Selection.empty.addValue 0 "z0" "a" "1", .empty, by decide, by decide⟩

end Sift.Shorthand
