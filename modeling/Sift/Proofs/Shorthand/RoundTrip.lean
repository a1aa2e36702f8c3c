import Sift.Proofs.Shorthand.Compression
import Sift.Proofs.Shorthand.Recorded

/-!
# Compressed selections expand to the same effect

Expanding a compressed selection reads off the entries that its tokens leave
(`expandTree_compress`). Under a type of its head, a dimension is listed there only if something of
it is missing or does not apply, and then with the values that were selected
(`mem_values_selectionEntries`). So nothing that a type lets through changes.
-/

namespace Sift

/-- The values of a dimension that a selection lets through: those listed, or all that apply to the
type when none is. -/
def Selection.letThrough (tax : Taxonomy) (sel : Selection) (head : Int) (type dim : String) :
    List String :=
  match sel.values? head type dim with
  | none | some [] => tax.applicable head type dim
  | some values => values

theorem Selection.mem_letThrough {tax : Taxonomy} {sel : Selection} {head : Int}
    {type dim v : String} : v ∈ sel.letThrough tax head type dim ↔
      if sel.valuesOf head type dim = [] then v ∈ tax.applicable head type dim
      else v ∈ sel.valuesOf head type dim := by
  rw [letThrough, valuesOf]
  cases sel.values? head type dim with
  | none => rfl
  | some values =>
    cases values with
    | nil => rfl
    | cons w values => rfl

theorem Selection.letThrough_of_none {tax : Taxonomy} {sel : Selection} {head : Int}
    {type dim : String} (h : sel.values? head type dim = none) :
    sel.letThrough tax head type dim = tax.applicable head type dim := by
  rw [letThrough, h]

theorem Selection.letThrough_of_not_hasType {tax : Taxonomy} {sel : Selection} {head : Int}
    {type : String} (h : ¬ sel.hasType head type = true) (dim : String) :
    sel.letThrough tax head type dim = tax.applicable head type dim := by
  cases hvs : sel.values? head type dim with
  | none => exact letThrough_of_none hvs
  | some values => exact absurd (hasType_of_values? hvs) h

/-- Two selections have the same types, and these let the same values through. -/
def Selection.SameEffect (tax : Taxonomy) (a b : Selection) : Prop :=
  ∀ head type, a.hasType head type = b.hasType head type ∧
    ∀ dim v, v ∈ a.letThrough tax head type dim ↔ v ∈ b.letThrough tax head type dim

/-- The selection has heads and types of the taxonomy, dimensions of the grammar and digits for
values. -/
def Selection.Within (sel : Selection) (tax : Taxonomy) : Prop :=
  ∀ e ∈ sel.heads.entries, e.1 ∈ tax.heads.keys ∧
    ∀ t ∈ e.2.entries, (∃ head ∈ tax.head? e.1, t.1 ∈ head.typeKeys) ∧
      ∀ d ∈ t.2.entries, d.1 ∈ dimensions ∧ ∀ v ∈ d.2, Text.isDigits v.toList = true

instance (sel : Selection) (tax : Taxonomy) : Decidable (sel.Within tax) :=
  inferInstanceAs (Decidable (∀ e ∈ sel.heads.entries, e.1 ∈ tax.heads.keys ∧
    ∀ t ∈ e.2.entries, (∃ head ∈ tax.head? e.1, t.1 ∈ head.typeKeys) ∧
      ∀ d ∈ t.2.entries, d.1 ∈ dimensions ∧ ∀ v ∈ d.2, Text.isDigits v.toList = true))

namespace Shorthand

variable {tax : Taxonomy} {sel : Selection} {head : Head} {n : Nat} {t d : String}

/-! ## Running written tokens -/

theorem not_mem_selectionTokens (htax : tax.WellFormed) (hsel : sel.Lettered) {raw : String}
    (h : raw ∈ selectionTokens tax sel) : ',' ∉ raw.toList := by
  obtain ⟨n, parts, hspells⟩ := spells_of_mem_selectionTokens htax hsel h
  exact hspells.not_mem

theorem not_mem_negationTokens {neg : Negations} (hneg : neg.Writable) {raw : String}
    (h : raw ∈ negationTokens neg) : ',' ∉ raw.toList := by
  obtain ⟨⟨head, selectors⟩, he, h⟩ := List.mem_flatMap.mp h
  obtain ⟨s, hs, rfl⟩ := List.mem_map.mp h
  obtain ⟨⟨n, rfl, -⟩, -, -, hselectors⟩ := hneg _ _ (OrderedMap.get?_eq_some_iff.mpr he)
  exact not_mem_negationText (hselectors s hs) (by decide) (by decide)

/-- Expanding a compressed selection reads off the entries that its tokens leave, and records the
negations as they were. -/
theorem expandTree_compress (htax : tax.WellFormed) (hsel : sel.Writable) {neg : Negations}
    (hneg : neg.Writable) :
    expandTree tax (compress tax sel neg) = .ok (selected (selectionEntries tax sel), neg) := by
  have hrun : (selectionTokens tax sel ++ negationTokens neg).foldlM (Expansion.step tax) .start =
      .ok ⟨(selectionEntries tax sel).map Entry.text ++ negationTokens neg, neg⟩ := by
    rw [List.foldlM_append]
    show (selectionTokens tax sel).foldlM (Expansion.step tax) (holding [] .empty) >>= _ = _
    rw [turns_selectionTokens htax hsel .empty]
    exact foldlM_negationTokens hneg _
  have hplain : ∀ raw ∈ selectionTokens tax sel ++ negationTokens neg, ',' ∉ raw.toList := by
    intro raw hraw
    rcases List.mem_append.mp hraw with hraw | hraw
    · exact not_mem_selectionTokens htax hsel.lettered hraw
    · exact not_mem_negationTokens hneg hraw
  have hread := selectionOf_append (selectionEntries tax sel)
    (fun e he => valid_of_mem_selectionEntries htax hsel he) (negationTokens neg)
    fun raw hraw => read_of_mem_negationTokens hneg hraw
  rw [compress, expandTree_join, Text.flatMap_split hplain, expand, expandTokens, hrun]
  show (selectionOf _ >>= fun sel' => Except.ok (sel', neg)) = _
  rw [hread]
  rfl

/-! ## The entries of one dimension -/

theorem mem_missing_iff {v : String} (hv : v ∈ head.applicable t d) {vs : List String}
    (hvs : sel.values? head.id t d = some vs) : v ∈ missing sel head t d ↔ v ∉ vs := by
  have hd : head.dims.contains d = true := by
    rw [List.contains_iff_mem]
    by_cases hd : d ∈ head.dims
    · exact hd
    · rw [Head.applicable_eq_nil hd] at hv
      cases hv
  rw [missing, if_pos hd, hvs]
  simp [hv]

theorem mem_applicable_of_mem_missing {v : String} (h : v ∈ missing sel head t d) :
    v ∈ head.applicable t d := by
  rw [missing] at h
  split at h
  · split at h
    · cases h
    · exact (List.mem_filter.mp h).1
  · cases h

theorem missing_of_none (h : sel.values? head.id t d = none) :
    missing sel head t d = [] ∧ foreign sel head t d = [] := by
  simp [missing, foreign, h]

theorem exists_values_of_narrowed (h : missing sel head t d ≠ [] ∨ foreign sel head t d ≠ []) :
    ∃ vs, sel.values? head.id t d = some vs := by
  cases hvs : sel.values? head.id t d with
  | none =>
    obtain ⟨hmissing, hforeign⟩ := missing_of_none hvs
    rcases h with h | h
    · exact absurd hmissing h
    · exact absurd hforeign h
  | some vs => exact ⟨vs, rfl⟩

theorem exists_values_of_listed (h : sel.valuesOf head.id t d ≠ []) :
    ∃ vs, sel.values? head.id t d = some vs ∧ sel.valuesOf head.id t d = vs := by
  cases hvs : sel.values? head.id t d with
  | none =>
    rw [Selection.valuesOf, hvs] at h
    exact absurd rfl h
  | some vs => exact ⟨vs, rfl, by rw [Selection.valuesOf, hvs]; rfl⟩

theorem mem_valuesOf_iff (h : missing sel head t d = [] ∧ foreign sel head t d = [])
    (hne : sel.valuesOf head.id t d ≠ []) {v : String} :
    v ∈ sel.valuesOf head.id t d ↔ v ∈ head.applicable t d := by
  obtain ⟨vs, hvs, hlisted⟩ := exists_values_of_listed hne
  constructor
  · intro hv
    by_cases happlies : v ∈ head.applicable t d
    · exact happlies
    · have hforeign := mem_foreign.mpr ⟨hv, happlies⟩
      rw [h.2] at hforeign
      cases hforeign
  · intro hv
    have hkept : v ∉ missing sel head t d := by
      rw [h.1]
      exact List.not_mem_nil
    rw [hlisted]
    rwa [mem_missing_iff hv hvs, Decidable.not_not] at hkept

theorem mem_dimsOf_of_values {vs : List String} (h : sel.values? head.id t d = some vs) :
    d ∈ dimsOf sel head t := by
  have hkey : d ∈ (sel.dims head.id t).keys := OrderedMap.mem_keys_iff.mpr ⟨vs, h⟩
  rw [dimsOf, List.mem_append, List.mem_filter]
  by_cases hd : d ∈ head.dims
  · exact .inl hd
  · exact .inr ⟨hkey, by simpa using hd⟩

theorem mem_dimsOf_of_narrowed (h : missing sel head t d ≠ [] ∨ foreign sel head t d ≠ []) :
    d ∈ dimsOf sel head t := by
  obtain ⟨vs, hvs⟩ := exists_values_of_narrowed h
  exact mem_dimsOf_of_values hvs

theorem narrowed_of_dimTokens {before : List String} (h : dimTokens sel head t d before ≠ []) :
    missing sel head t d ≠ [] ∨ foreign sel head t d ≠ [] := by
  refine Decidable.of_not_not fun hnot => h ?_
  rw [not_or, Decidable.not_not, Decidable.not_not] at hnot
  exact dimTokens_eq_nil hnot.1 hnot.2 before

theorem isWhole_iff : isWhole sel head t = true ↔
    ∀ d, missing sel head t d = [] ∧ foreign sel head t d = [] := by
  simp only [isWhole, List.all_eq_true, Bool.and_eq_true, List.isEmpty_iff]
  refine ⟨fun h d => ?_, fun h d _ => h d⟩
  by_cases hnarrowed : missing sel head t d ≠ [] ∨ foreign sel head t d ≠ []
  · exact h d (mem_dimsOf_of_narrowed hnarrowed)
  · rwa [not_or, Decidable.not_not, Decidable.not_not] at hnarrowed

theorem narrowed_of_majority
    (h : (head.applicable t d).length < 2 * (missing sel head t d).length) :
    missing sel head t d ≠ [] := by
  intro hnil
  rw [hnil] at h
  simp at h

theorem narrowed_of_mem_writtenValues {v : String} (h : v ∈ writtenValues sel head t d) :
    missing sel head t d ≠ [] ∨ foreign sel head t d ≠ [] := by
  rcases List.mem_append.mp h with h | h
  · split at h
    · rename_i hcond
      rcases hcond with hcond | ⟨-, hcond | hcond⟩
      · exact .inl (narrowed_of_majority hcond)
      · exact .inl hcond
      · exact .inr hcond.1
    · cases h
  · exact .inr (List.ne_nil_of_mem h)

theorem listed_of_mem_writtenValues {v : String} (h : v ∈ writtenValues sel head t d) :
    v ∈ sel.valuesOf head.id t d := by
  obtain ⟨vs, hvs⟩ := exists_values_of_narrowed (narrowed_of_mem_writtenValues h)
  rcases List.mem_append.mp h with h | h
  · split at h
    · obtain ⟨happlies, hkept⟩ := List.mem_filter.mp h
      rw [decide_eq_true_eq, mem_missing_iff happlies hvs, Decidable.not_not] at hkept
      rw [Selection.valuesOf, hvs]
      exact hkept
    · cases h
  · exact (mem_foreign.mp h).1

/-- A selected value is written under any type: it does not apply to the type, or more than half of
what applies is missing, so that the rest is listed. -/
def Lists (sel : Selection) (head : Head) (t d v : String) : Prop :=
  v ∈ head.applicable t d → (head.applicable t d).length < 2 * (missing sel head t d).length

theorem Lists.narrowed {v : String} (h : Lists sel head t d v) (hv : v ∈ sel.valuesOf head.id t d) :
    missing sel head t d ≠ [] ∨ foreign sel head t d ≠ [] := by
  by_cases happlies : v ∈ head.applicable t d
  · exact .inl (narrowed_of_majority (h happlies))
  · exact .inr (List.ne_nil_of_mem (mem_foreign.mpr ⟨hv, happlies⟩))

theorem mem_writtenValues_of_listed {v : String} (h : t ∈ head.typeKeys ∨ Lists sel head t d v)
    (hlisted : v ∈ sel.valuesOf head.id t d)
    (hnarrowed : missing sel head t d ≠ [] ∨ foreign sel head t d ≠ []) :
    v ∈ writtenValues sel head t d := by
  rw [writtenValues, List.mem_append, mem_foreign]
  by_cases happlies : v ∈ head.applicable t d
  · -- Under a type of the head the dimension may be named instead, which adds its leaves again.
    have hleft : (head.applicable t d).length < 2 * (missing sel head t d).length ∨
        (t ∈ head.typeKeys ∧ (missing sel head t d ≠ [] ∨
          (foreign sel head t d ≠ [] ∧ head.applicable t d ≠ []))) := by
      rcases h with ht | hlists
      · exact .inr ⟨ht, hnarrowed.imp_right fun h => ⟨h, List.ne_nil_of_mem happlies⟩⟩
      · exact .inl (hlists happlies)
    obtain ⟨vs, hvs⟩ := exists_values_of_narrowed hnarrowed
    have hv : v ∈ vs := by rwa [Selection.valuesOf, hvs] at hlisted
    left
    rw [if_pos hleft, List.mem_filter, decide_eq_true_eq, mem_missing_iff happlies hvs,
      Decidable.not_not]
    exact ⟨happlies, hv⟩
  · exact .inr ⟨hlisted, happlies⟩

theorem mem_writtenValues
    (h : t ∈ head.typeKeys ∨ ∀ v ∈ sel.valuesOf head.id t d, Lists sel head t d v) {v : String} :
    v ∈ writtenValues sel head t d ↔ v ∈ sel.valuesOf head.id t d ∧
      (missing sel head t d ≠ [] ∨ foreign sel head t d ≠ []) := by
  constructor
  · exact fun h => ⟨listed_of_mem_writtenValues h, narrowed_of_mem_writtenValues h⟩
  · rintro ⟨hlisted, hnarrowed⟩
    exact mem_writtenValues_of_listed (h.imp_right fun h => h v hlisted) hlisted hnarrowed

theorem writtenValues_of_dimTokens_eq_nil (h : dimTokens sel head t d [] = []) :
    writtenValues sel head t d = [] := by
  simp only [dimTokens, mentions_nil, List.append_eq_nil_iff, List.map_eq_nil_iff] at h
  obtain ⟨hlisted, hforeign⟩ := h
  rw [writtenValues, hforeign, List.append_nil]
  split
  · rename_i hcond
    split at hlisted
    · rw [← List.map_eq_nil_iff (f := leafText head.id t d)]
      refine Eq.trans (congrArg _ (List.filter_congr fun v _ => ?_)) hlisted
      simp
    · rename_i hmajority
      have hmissing : missing sel head t d ≠ [] := by
        rcases hcond with hcond | ⟨-, hcond | hcond⟩
        · exact absurd hcond hmajority
        · exact hcond
        · exact absurd rfl hcond.1
      rw [if_pos (by simp [hmissing])] at hlisted
      simp at hlisted
  · rfl

theorem dimTokens_eq_nil_iff (ht : t ∈ head.typeKeys) :
    dimTokens sel head t d [] = [] ↔ writtenValues sel head t d = [] := by
  refine ⟨writtenValues_of_dimTokens_eq_nil, fun h => ?_⟩
  obtain ⟨hlisted, hforeign⟩ := List.append_eq_nil_iff.mp h
  -- Fewer than half of the leaves are missing where the dimension is named, so one is left.
  have hmissing : missing sel head t d = [] ∨
      (head.applicable t d).length < 2 * (missing sel head t d).length := by
    by_cases hnil : missing sel head t d = []
    · exact .inl hnil
    · right
      have hne : head.applicable t d ≠ [] := by
        obtain ⟨v, hv⟩ := List.exists_mem_of_ne_nil _ hnil
        exact List.ne_nil_of_mem (mem_applicable_of_mem_missing hv)
      rw [if_pos (.inr ⟨ht, .inl hnil⟩)] at hlisted
      obtain ⟨vs, hvs⟩ := exists_values_of_narrowed (.inl hnil)
      have hall : missing sel head t d = head.applicable t d := by
        have hnone : ∀ v ∈ head.applicable t d, v ∉ vs := by
          intro v hv
          have := List.filter_eq_nil_iff.mp hlisted v hv
          rw [decide_eq_true_eq, Decidable.not_not, mem_missing_iff hv hvs] at this
          exact this
        obtain ⟨v, hv⟩ := List.exists_mem_of_ne_nil _ hnil
        rw [missing] at hv ⊢
        split at hv
        · rename_i hdim
          rw [if_pos hdim, hvs]
          exact List.filter_eq_self.mpr fun w hw => by simpa using hnone w hw
        · cases hv
      have hpos : 0 < (head.applicable t d).length := List.length_pos_iff.mpr hne
      rw [hall]
      omega
  simp only [dimTokens, mentions_nil, hforeign, List.map_nil, List.append_nil]
  rcases hmissing with hmissing | hmajority
  · simp [hmissing]
  · rw [if_pos (.inl hmajority)] at hlisted
    rw [if_pos hmajority, List.map_eq_nil_iff]
    refine Eq.trans (List.filter_congr fun v _ => ?_) hlisted
    simp

/-! ## The entries of one type -/

theorem mem_selectionEntries (htax : tax.WellFormed)
    (hfound : tax.head? n = some head) {entry : Entry} (hn : entry.head = n) :
    entry ∈ selectionEntries tax sel ↔ entry ∈ entriesOfHead sel head n := by
  have hmem := Taxonomy.head?_eq_some_iff.mp hfound
  constructor
  · intro h
    obtain ⟨e, he, h⟩ := List.mem_flatMap.mp h
    have hnum : e.1.toNat = n := (head_of_mem_entriesOfHead h).symm.trans hn
    rw [hnum, eq_of_toNat htax hfound he hnum] at h
    exact h
  · intro h
    exact List.mem_flatMap.mpr ⟨_, hmem, by rwa [Int.toNat_natCast]⟩

/-- A selected type leaves an entry: it is one of its head, or the head is not written as a whole and
a value under the type is written. -/
def Reaches (sel : Selection) (head : Head) (t : String) : Prop :=
  t ∈ head.typeKeys ∨
    isWholeHead sel head = false ∧ ∃ d, ∃ v ∈ sel.valuesOf head.id t d, Lists sel head t d v

/-- A selected type keeps its meaning when it is written: it is one of its head, or the head is not
written as a whole and the type lists values and all of them are written. -/
def Keeps (sel : Selection) (head : Head) (t : String) : Prop :=
  t ∈ head.typeKeys ∨ isWholeHead sel head = false ∧ (∃ d, sel.valuesOf head.id t d ≠ []) ∧
    ∀ d, ∀ v ∈ sel.valuesOf head.id t d, Lists sel head t d v

theorem Reaches.plain (h : Reaches sel head t) : t ∈ head.typeKeys ∨ isWholeHead sel head = false :=
  h.imp_right And.left

theorem Keeps.reaches (h : Keeps sel head t) : Reaches sel head t := by
  refine h.imp_right fun ⟨hwhole, ⟨d, hd⟩, hlists⟩ => ⟨hwhole, d, ?_⟩
  obtain ⟨v, hv⟩ := List.exists_mem_of_ne_nil _ hd
  exact ⟨v, hv, hlists d v hv⟩

theorem Keeps.lists (h : Keeps sel head t) (d : String) :
    t ∈ head.typeKeys ∨ ∀ v ∈ sel.valuesOf head.id t d, Lists sel head t d v :=
  h.imp_right fun h => h.2.2 d

theorem mem_entriesOfHead (hid : head.id = n)
    (hplain : t ∈ head.typeKeys ∨ isWholeHead sel head = false) {entry : Entry}
    (htype : entry.type = t) :
    entry ∈ entriesOfHead sel head n ↔
      sel.hasType n t = true ∧ entry ∈ entriesOfType sel head n t := by
  subst htype
  rw [entriesOfHead, hid]
  by_cases hhead : sel.hasHead n = true
  · simp only [hhead, Bool.not_true, Bool.false_eq_true, if_false]
    by_cases hwhole : isWholeHead sel head = true
    · have ht : entry.type ∈ head.typeKeys := by
        refine hplain.resolve_right fun h => ?_
        rw [hwhole] at h
        cases h
      have hall := List.all_eq_true.mp hwhole entry.type ht
      rw [Bool.and_eq_true, hid] at hall
      rw [if_pos hwhole, entriesOfType, if_pos (narrowing_of_isWhole hall.2), if_pos ht,
        List.mem_singleton]
      constructor
      · intro h
        obtain ⟨t, -, rfl⟩ := List.mem_map.mp h
        exact ⟨hall.1, rfl⟩
      · rintro ⟨-, h⟩
        exact List.mem_map.mpr ⟨_, ht, h.symm⟩
    · rw [if_neg hwhole]
      constructor
      · intro h
        obtain ⟨t, htype, h⟩ := List.mem_flatMap.mp h
        obtain rfl := (place_of_mem_entriesOfType h).2
        exact ⟨Selection.hasType_iff_mem_types.mpr htype, h⟩
      · rintro ⟨htype, h⟩
        exact List.mem_flatMap.mpr ⟨_, Selection.hasType_iff_mem_types.mp htype, h⟩
  · constructor
    · intro h
      rw [Bool.not_eq_true] at hhead
      rw [hhead] at h
      cases h
    · rintro ⟨htype, -⟩
      exact absurd (Selection.hasHead_of_hasType htype) hhead

theorem leaf_mem_entriesOfType {v : String} :
    Entry.leaf n t d v ∈ entriesOfType sel head n t ↔ v ∈ writtenValues sel head t d := by
  have hleaf : Entry.leaf n t d v ∈ ((dimsOf sel head t).flatMap fun d =>
      (writtenValues sel head t d).map (.leaf n t d)) ↔
      d ∈ dimsOf sel head t ∧ v ∈ writtenValues sel head t d := by
    simp [List.mem_flatMap]
  have hdim : v ∈ writtenValues sel head t d → d ∈ dimsOf sel head t := by
    intro hv
    exact mem_dimsOf_of_narrowed (narrowed_of_mem_writtenValues hv)
  rw [entriesOfType]
  split
  · rename_i hnarrow
    constructor
    · intro h
      split at h
      · cases List.mem_singleton.mp h
      · cases h
    · intro hv
      have hnil := List.flatMap_eq_nil_iff.mp hnarrow d (hdim hv)
      rw [writtenValues_of_dimTokens_eq_nil hnil] at hv
      cases hv
  · rw [hleaf]
    exact ⟨fun h => h.2, fun hv => ⟨hdim hv, hv⟩⟩

theorem entriesOfType_ne_nil (hreaches : Reaches sel head t) : entriesOfType sel head n t ≠ [] := by
  rcases hreaches with ht | ⟨-, d, v, hv, hlists⟩
  · rw [entriesOfType]
    split
    · exact List.cons_ne_nil _ _
    · rename_i hnarrow
      intro hnil
      refine hnarrow (List.flatMap_eq_nil_iff.mpr fun d hd => ?_)
      rw [dimTokens_eq_nil_iff ht, ← List.map_eq_nil_iff (f := Entry.leaf n t d)]
      exact List.flatMap_eq_nil_iff.mp hnil d hd
  · have hwritten := mem_writtenValues_of_listed (.inr hlists) hv (hlists.narrowed hv)
    exact List.ne_nil_of_mem (leaf_mem_entriesOfType.mpr hwritten)

theorem head?_of_mem_selectionEntries (htax : tax.WellFormed) {entry : Entry}
    (h : entry ∈ selectionEntries tax sel) : ∃ head, tax.head? entry.head = some head := by
  obtain ⟨e, he, h⟩ := List.mem_flatMap.mp h
  obtain ⟨hid, hhead⟩ := htax e he
  have hn : (entry.head : Int) = e.1 := by
    rw [head_of_mem_entriesOfHead h, Int.toNat_of_nonneg (hid ▸ hhead.nonneg)]
  exact ⟨e.2, Taxonomy.head?_eq_some_iff.mpr (hn ▸ he)⟩

theorem hasType_of_mem_selectionEntries (htax : tax.WellFormed) {entry : Entry}
    (h : entry ∈ selectionEntries tax sel) : sel.hasType entry.head entry.type = true := by
  obtain ⟨e, he, h⟩ := List.mem_flatMap.mp h
  obtain ⟨hid, hhead⟩ := htax e he
  have hn : (entry.head : Int) = e.2.id := by
    rw [head_of_mem_entriesOfHead h, Int.toNat_of_nonneg (hid ▸ hhead.nonneg), hid]
  rw [entriesOfHead] at h
  split at h
  · cases h
  · split at h
    · rename_i hwhole
      obtain ⟨t, ht, rfl⟩ := List.mem_map.mp h
      have hall := List.all_eq_true.mp hwhole t ht
      rw [Bool.and_eq_true] at hall
      exact hn ▸ hall.1
    · obtain ⟨t, ht, h⟩ := List.mem_flatMap.mp h
      obtain rfl := (place_of_mem_entriesOfType h).2
      exact hn ▸ Selection.hasType_iff_mem_types.mpr ht

/-! ## The selection that is read back -/

section Kept

variable (htax : tax.WellFormed) (hfound : tax.head? n = some head)

include htax hfound

theorem hasType_selectionEntries (hreaches : Reaches sel head t) :
    (selected (selectionEntries tax sel)).hasType n t = true ↔ sel.hasType n t = true := by
  have hid := (htax.head hfound).1
  rw [hasType_selected]
  constructor
  · rintro ⟨entry, hmem, hn, htype⟩
    rw [mem_selectionEntries htax hfound (Int.ofNat.inj hn),
      mem_entriesOfHead hid hreaches.plain htype] at hmem
    exact hmem.1
  · intro htype
    have hne : entriesOfType sel head n t ≠ [] := entriesOfType_ne_nil hreaches
    obtain ⟨entry, hentry⟩ := List.exists_mem_of_ne_nil _ hne
    obtain ⟨hn, hplace⟩ := place_of_mem_entriesOfType hentry
    refine ⟨entry, ?_, congrArg _ hn, hplace⟩
    rw [mem_selectionEntries htax hfound hn, mem_entriesOfHead hid hreaches.plain hplace]
    exact ⟨htype, hentry⟩

/-- The values that are listed again. -/
theorem mem_values_selectionEntries (hkeeps : Keeps sel head t) {v : String} :
    v ∈ (selected (selectionEntries tax sel)).valuesOf n t d ↔
      v ∈ sel.valuesOf head.id t d ∧ (missing sel head t d ≠ [] ∨ foreign sel head t d ≠ []) := by
  have hid := (htax.head hfound).1
  have hplain := hkeeps.reaches.plain
  rw [mem_values_selected, mem_listed, ← mem_writtenValues (hkeeps.lists d)]
  constructor
  · rintro ⟨m, hm, hmem⟩
    obtain rfl : m = n := Int.ofNat.inj hm
    rw [mem_selectionEntries htax hfound rfl, mem_entriesOfHead hid hplain rfl] at hmem
    exact leaf_mem_entriesOfType.mp hmem.2
  · intro hv
    refine ⟨n, rfl, ?_⟩
    rw [mem_selectionEntries htax hfound rfl, mem_entriesOfHead hid hplain rfl]
    obtain ⟨vs, hvs⟩ := exists_values_of_narrowed (narrowed_of_mem_writtenValues hv)
    exact ⟨Selection.hasType_of_values? (hid ▸ hvs), leaf_mem_entriesOfType.mpr hv⟩

end Kept

theorem letThrough_selectionEntries (htax : tax.WellFormed) (hfound : tax.head? n = some head)
    (ht : t ∈ head.typeKeys) {v : String} :
    v ∈ (selected (selectionEntries tax sel)).letThrough tax n t d ↔
      v ∈ sel.letThrough tax n t d := by
  have hid := (htax.head hfound).1
  have happlicable := Taxonomy.applicable_of_found hfound t d
  have hagain : ∀ v, v ∈ (selected (selectionEntries tax sel)).valuesOf n t d ↔
      v ∈ sel.valuesOf head.id t d ∧ (missing sel head t d ≠ [] ∨ foreign sel head t d ≠ []) :=
    fun v => mem_values_selectionEntries htax hfound (.inl ht)
  have hlisted : sel.valuesOf n t d = sel.valuesOf head.id t d := by rw [hid]
  rw [Selection.mem_letThrough, Selection.mem_letThrough, happlicable, hlisted]
  by_cases hnarrowed : missing sel head t d ≠ [] ∨ foreign sel head t d ≠ []
  · have hsame : ∀ v, v ∈ (selected (selectionEntries tax sel)).valuesOf n t d ↔
        v ∈ sel.valuesOf head.id t d := fun v => (hagain v).trans (and_iff_left hnarrowed)
    have hnil : (selected (selectionEntries tax sel)).valuesOf n t d = [] ↔
        sel.valuesOf head.id t d = [] := by
      rw [List.eq_nil_iff_forall_not_mem, List.eq_nil_iff_forall_not_mem]
      exact forall_congr' fun v => not_congr (hsame v)
    simp only [hnil, hsame]
  · have hnil : (selected (selectionEntries tax sel)).valuesOf n t d = [] := by
      rw [List.eq_nil_iff_forall_not_mem]
      exact fun v hv => hnarrowed ((hagain v).mp hv).2
    rw [not_or, Decidable.not_not, Decidable.not_not] at hnarrowed
    rw [if_pos hnil]
    split
    · rfl
    · rename_i hne
      exact (mem_valuesOf_iff hnarrowed hne).symm

theorem typeKeys_of_within (hsel : sel.Within tax) {id : Int} (h : sel.hasType id t = true) :
    ∃ e, tax.head? id = some e ∧ t ∈ e.typeKeys := by
  obtain ⟨types, dims, htypes, hdims⟩ := Selection.hasType_iff.mp h
  exact ((hsel _ htypes).2 _ hdims).1

theorem dims_of_within (hsel : sel.Within tax) {id : Int} {t d : String}
    (hd : d ∈ (sel.dims id t).keys) :
    d ∈ dimensions ∧ ∀ vs, sel.values? id t d = some vs → ∀ v ∈ vs, Text.isDigits v.toList = true := by
  obtain ⟨types, dims, htypes, hdims⟩ := Selection.hasType_iff.mp (Selection.hasType_of_mem_dims hd)
  have hsame := Selection.dims_of_mem htypes hdims
  have hall := ((hsel _ htypes).2 _ hdims).2
  constructor
  · rw [hsame] at hd
    obtain ⟨e, he, rfl⟩ := List.mem_map.mp hd
    exact (hall e he).1
  · intro vs hvs
    rw [Selection.values?, hsame] at hvs
    exact (hall _ (OrderedMap.get?_eq_some_iff.mp hvs)).2

theorem mem_keys_of_within (hsel : sel.Within tax) {id : Int} (hid : id ∈ sel.headIds) :
    id ∈ tax.heads.keys := by
  obtain ⟨e, he, rfl⟩ := List.mem_map.mp hid
  exact (hsel e he).1

theorem lettered_of_within (htax : tax.WellFormed) (hsel : sel.Within tax) : sel.Lettered where
  types id t htype := by
    obtain ⟨e, he, ht⟩ := typeKeys_of_within hsel htype
    exact (htax.head he).2.typeKeys t ht
  dims id t d hd := (dims_of_within hsel hd).1
  values id t d vs hvs :=
    (dims_of_within hsel (OrderedMap.mem_keys_iff.mpr ⟨vs, hvs⟩)).2 vs hvs

theorem writable_of_short (htax : tax.WellFormed) (hsel : sel.Within tax)
    (hshort : ∀ id ∈ sel.headIds, Short id.toNat) : sel.Writable := by
  have hlettered := lettered_of_within htax hsel
  refine ⟨fun id hid => ?_, hlettered.types, hlettered.dims, hlettered.values⟩
  have hmem := OrderedMap.contains_eq_true.mp hid
  obtain ⟨h, hh, rfl⟩ := List.mem_map.mp (mem_keys_of_within hsel hmem)
  obtain ⟨hnum, hwf⟩ := htax h hh
  exact ⟨h.1.toNat, (Int.toNat_of_nonneg (hnum ▸ hwf.nonneg)).symm, hshort h.1 hmem⟩

theorem writable_of_within (htax : tax.WellFormed)
    (hshort : ∀ head ∈ tax.heads.keys, Short head.toNat)
    (hsel : sel.Within tax) : sel.Writable :=
  writable_of_short htax hsel fun id hid => hshort id (mem_keys_of_within hsel hid)

theorem sameEffect_selectionEntries (htax : tax.WellFormed) (hsel : sel.Within tax) :
    Selection.SameEffect tax (selected (selectionEntries tax sel)) sel := by
  intro id t
  by_cases hplace : ∃ e, tax.head? id = some e ∧ t ∈ e.typeKeys
  · obtain ⟨e, he, ht⟩ := hplace
    obtain ⟨hid, hhead⟩ := htax.head he
    obtain ⟨n, hn⟩ := hhead.exists_nat
    obtain rfl : id = n := hid.symm.trans hn
    exact ⟨Bool.eq_iff_iff.mpr (hasType_selectionEntries htax he (.inl ht)),
      fun d v => letThrough_selectionEntries htax he ht⟩
  -- Outside of the taxonomy nothing is selected, neither before nor after.
  · have hold : ¬ sel.hasType id t = true := fun h => hplace (typeKeys_of_within hsel h)
    have hnew : ¬ (selected (selectionEntries tax sel)).hasType id t = true := by
      rw [hasType_selected]
      rintro ⟨entry, hentry, rfl, rfl⟩
      exact hold (hasType_of_mem_selectionEntries htax hentry)
    refine ⟨by rw [Bool.eq_false_iff.mpr hold, Bool.eq_false_iff.mpr hnew], fun d v => ?_⟩
    rw [Selection.letThrough_of_not_hasType hold, Selection.letThrough_of_not_hasType hnew]

/-- Writing a selection within the taxonomy and the negations of an expansion as a tree, and
expanding the tree again, gives the same negations and a selection of the same effect. -/
theorem expandTree_compress_sameEffect (htax : tax.WellFormed)
    (hshort : ∀ head ∈ tax.heads.keys, Short head.toNat)
    (hsel : sel.Within tax) {raws : List String} {given : Selection} {neg : Negations}
    (hneg : expand tax raws = .ok (given, neg)) :
    ∃ again, expandTree tax (compress tax sel neg) = .ok (again, neg) ∧
      Selection.SameEffect tax again sel :=
  ⟨_, expandTree_compress htax (writable_of_within htax hshort hsel)
    (writable_of_expand hneg).2, sameEffect_selectionEntries htax hsel⟩

/-- Two leaves of images, one of which applies to books only, with a dimension that lists nothing. -/
theorem expandTree_compress_default :
    let sel := (((Selection.empty.addValue 0 "z0" "a" "1").addValue 0 "z0" "a" "5").addDim 0 "z0"
      "b").addType 1 "z2"
    let neg : Negations := (Negations.empty.add 0 "z2_d1").add 2 ""
    ∃ again, expandTree .default (compress .default sel neg) = .ok (again, neg) ∧
      Selection.SameEffect .default again sel := by
  intro sel neg
  have hshort : ∀ head ∈ Taxonomy.default.heads.keys, Short head.toNat := by decide
  have hsel : sel.Within .default := by decide
  have hneg : expand .default ["~cat0_z2_d1", "~cat2"] = .ok (.empty, neg) := rfl
  exact expandTree_compress_sameEffect Taxonomy.wellFormed_default hshort hsel hneg

end Shorthand

end Sift
