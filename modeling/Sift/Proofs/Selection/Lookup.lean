import Sift.Proofs.OrderedMap
import Sift.Proofs.Shorthand.Grammar
import Sift.Shorthand.Expand

/-!
# Looking up in selections

Selecting a type or a value changes one type of one head. A selection that is read off entries
therefore has exactly the types that its entries name (`hasType_selected`) and lists for each
dimension exactly the values of its leaves (`mem_values_selected`); it never lists a dimension
without a value.
-/

namespace Sift

/-! ## Values -/

theorem mem_insertNew {v w : String} {values : List String} :
    w ∈ insertNew v values ↔ w = v ∨ w ∈ values := by
  rw [insertNew]
  split
  · rename_i h
    refine ⟨.inr, ?_⟩
    rintro (rfl | hw)
    · exact h
    · exact hw
  · simp [or_comm]

theorem insertNew_ne_nil (v : String) (values : List String) : insertNew v values ≠ [] :=
  List.ne_nil_of_mem (mem_insertNew.mpr (.inl rfl))

theorem nodup_insertNew {v : String} {values : List String} (h : values.Nodup) :
    (insertNew v values).Nodup := by
  rw [insertNew]
  split
  · exact h
  · rename_i hv
    refine List.nodup_append.mpr ⟨h, by simp, ?_⟩
    intro a ha b hb hab
    obtain rfl : b = v := by simpa using hb
    exact hv (hab ▸ ha)

/-- The values that are listed for a dimension, none when it is absent. -/
def Selection.valuesOf (sel : Selection) (head : Int) (type dim : String) : List String :=
  (sel.values? head type dim).getD []

/-! ## One change -/

namespace Selection

variable (sel : Selection) (head head' : Int) (type type' dim dim' value : String)

theorem typesOf_alterType (f : Dims → Dims) :
    (sel.alterType head type f).typesOf head' =
      if head' = head then (sel.typesOf head).alter type fun dims => f (dims.getD .empty)
      else sel.typesOf head' := by
  rw [alterType, typesOf, OrderedMap.get?_alter]
  split
  · rfl
  · rfl

theorem dims_alterType (f : Dims → Dims) :
    (sel.alterType head type f).dims head' type' =
      if head' = head ∧ type' = type then f (sel.dims head type) else sel.dims head' type' := by
  rw [dims, typesOf_alterType]
  by_cases hh : head' = head
  · rw [if_pos hh, OrderedMap.get?_alter]
    by_cases ht : type' = type
    · rw [if_pos ht, if_pos ⟨hh, ht⟩]
      rfl
    · rw [if_neg ht, if_neg fun h => ht h.2, hh]
      rfl
  · rw [if_neg hh, if_neg fun h => hh h.1]
    rfl

theorem hasType_alterType (f : Dims → Dims) :
    (sel.alterType head type f).hasType head' type' = true ↔
      (head' = head ∧ type' = type) ∨ sel.hasType head' type' = true := by
  rw [hasType, hasType, typesOf_alterType, OrderedMap.contains_eq_true, OrderedMap.contains_eq_true]
  by_cases hh : head' = head
  · subst hh
    rw [if_pos rfl, OrderedMap.keys_alter]
    split
    · rename_i hmem
      refine ⟨.inr, ?_⟩
      rintro (⟨-, rfl⟩ | h)
      · exact hmem
      · exact h
    · simp [or_comm]
  · rw [if_neg hh]
    simp [hh]

theorem hasType_iff_mem_types {sel : Selection} {head : Int} {type : String} :
    sel.hasType head type = true ↔ type ∈ sel.types head := by
  rw [hasType, types, OrderedMap.contains_eq_true]

theorem hasType_addType :
    (sel.addType head type).hasType head' type' = true ↔
      (head' = head ∧ type' = type) ∨ sel.hasType head' type' = true :=
  hasType_alterType ..

theorem hasType_addValue :
    (sel.addValue head type dim value).hasType head' type' = true ↔
      (head' = head ∧ type' = type) ∨ sel.hasType head' type' = true :=
  hasType_alterType ..

theorem values?_addType :
    (sel.addType head type).values? head' type' dim' = sel.values? head' type' dim' := by
  rw [values?, addType, dims_alterType]
  split
  · rename_i h
    rw [values?, h.1, h.2]
    rfl
  · rfl

theorem values?_addValue :
    (sel.addValue head type dim value).values? head' type' dim' =
      if head' = head ∧ type' = type ∧ dim' = dim then
        some (insertNew value ((sel.values? head type dim).getD []))
      else sel.values? head' type' dim' := by
  rw [values?, addValue, dims_alterType]
  by_cases h : head' = head ∧ type' = type
  · obtain ⟨rfl, rfl⟩ := h
    rw [if_pos ⟨rfl, rfl⟩, OrderedMap.get?_alter]
    by_cases hd : dim' = dim
    · rw [if_pos hd, if_pos ⟨rfl, rfl, hd⟩]
      rfl
    · rw [if_neg hd, if_neg fun h => hd h.2.2]
      rfl
  · rw [if_neg h, if_neg fun h' => h ⟨h'.1, h'.2.1⟩]
    rfl

theorem hasHead_alterType {sel : Selection} {head head' : Int} {type : String} (f : Dims → Dims)
    (h : (sel.alterType head type f).hasHead head' = true) :
    head' = head ∨ sel.hasHead head' = true := by
  rw [hasHead, alterType, OrderedMap.contains_eq_true, OrderedMap.keys_alter] at h
  split at h
  · exact .inr (OrderedMap.contains_eq_true.mpr h)
  · rcases List.mem_append.mp h with h | h
    · exact .inr (OrderedMap.contains_eq_true.mpr h)
    · exact .inl (List.mem_singleton.mp h)

theorem hasType_iff {sel : Selection} {head : Int} {type : String} :
    sel.hasType head type = true ↔
      ∃ types dims, (head, types) ∈ sel.heads.entries ∧ (type, dims) ∈ types.entries := by
  rw [hasType, typesOf, OrderedMap.contains_eq_true]
  constructor
  · intro h
    cases hget : sel.heads.get? head with
    | none =>
      rw [hget] at h
      cases h
    | some types =>
      rw [hget] at h
      obtain ⟨dims, hdims⟩ := OrderedMap.mem_keys_iff.mp h
      exact ⟨types, dims, OrderedMap.get?_eq_some_iff.mp hget, OrderedMap.get?_eq_some_iff.mp hdims⟩
  · rintro ⟨types, dims, htypes, hdims⟩
    rw [OrderedMap.get?_eq_some_iff.mpr htypes]
    exact OrderedMap.mem_keys_iff.mpr ⟨dims, OrderedMap.get?_eq_some_iff.mpr hdims⟩

theorem dims_of_mem {sel : Selection} {head : Int} {type : String} {types : Types} {dims : Dims}
    (htypes : (head, types) ∈ sel.heads.entries) (hdims : (type, dims) ∈ types.entries) :
    sel.dims head type = dims := by
  rw [Selection.dims, typesOf, OrderedMap.get?_eq_some_iff.mpr htypes]
  show (types.get? type).getD .empty = dims
  rw [OrderedMap.get?_eq_some_iff.mpr hdims]
  rfl

theorem hasHead_of_hasType {sel : Selection} {head : Int} {type : String}
    (h : sel.hasType head type = true) : sel.hasHead head = true := by
  obtain ⟨types, dims, htypes, -⟩ := hasType_iff.mp h
  exact OrderedMap.contains_eq_true.mpr
    (OrderedMap.mem_keys_iff.mpr ⟨types, OrderedMap.get?_eq_some_iff.mpr htypes⟩)

theorem hasType_of_mem_dims {sel : Selection} {head : Int} {type dim : String}
    (h : dim ∈ (sel.dims head type).keys) : sel.hasType head type = true := by
  rw [dims] at h
  cases hget : (sel.typesOf head).get? type with
  | none =>
    rw [hget] at h
    cases h
  | some dims => exact OrderedMap.contains_eq_true.mpr (OrderedMap.mem_keys_iff.mpr ⟨_, hget⟩)

theorem hasType_of_values? {sel : Selection} {head : Int} {type dim : String}
    {values : List String} (h : sel.values? head type dim = some values) :
    sel.hasType head type = true :=
  hasType_of_mem_dims (OrderedMap.mem_keys_iff.mpr ⟨values, h⟩)

end Selection

/-! ## Selections read off entries -/

namespace Shorthand

/-- The head that an entry is about. -/
def Entry.head : Entry → Nat
  | leaf head _ _ _ => head
  | marker head _ => head

/-- The type that an entry is about. -/
def Entry.type : Entry → String
  | leaf _ type _ _ => type
  | marker _ type => type

/-- The selection that entries carry, one after the other. -/
def selected (entries : List Entry) : Selection :=
  entries.foldl (fun sel entry => select sel (some entry)) .empty

/-- The values that leaves among the entries give to a dimension. -/
def listed (entries : List Entry) (head : Int) (type dim : String) : List String :=
  entries.filterMap fun
    | .leaf h t d v => if (h : Int) = head ∧ t = type ∧ d = dim then some v else none
    | .marker _ _ => none

theorem mem_listed {entries : List Entry} {head : Int} {type dim v : String} :
    v ∈ listed entries head type dim ↔
      ∃ n : Nat, (n : Int) = head ∧ Entry.leaf n type dim v ∈ entries := by
  rw [listed, List.mem_filterMap]
  constructor
  · rintro ⟨entry, hmem, hv⟩
    cases entry with
    | leaf h t d v' =>
      simp only [Option.ite_none_right_eq_some, Option.some.injEq] at hv
      obtain ⟨⟨hh, rfl, rfl⟩, rfl⟩ := hv
      exact ⟨h, hh, hmem⟩
    | marker h t => cases hv
  · rintro ⟨n, hn, hmem⟩
    exact ⟨_, hmem, by simp [hn]⟩

theorem hasType_foldl_select (entries : List Entry) (sel : Selection) (head : Int)
    (type : String) :
    (entries.foldl (fun sel entry => select sel (some entry)) sel).hasType head type = true ↔
      (∃ entry ∈ entries, (entry.head : Int) = head ∧ entry.type = type) ∨
        sel.hasType head type = true := by
  induction entries generalizing sel with
  | nil => simp
  | cons entry entries ih =>
    rw [List.foldl_cons, ih]
    have hstep : (select sel (some entry)).hasType head type = true ↔
        ((entry.head : Int) = head ∧ entry.type = type) ∨ sel.hasType head type = true := by
      cases entry with
      | leaf h t d v =>
        rw [select, Selection.hasType_addValue, eq_comm (a := head), eq_comm (a := type)]
        rfl
      | marker h t =>
        rw [select, Selection.hasType_addType, eq_comm (a := head), eq_comm (a := type)]
        rfl
    rw [hstep]
    simp [or_assoc, or_left_comm]

theorem values?_foldl_select (entries : List Entry) (sel : Selection) (head : Int)
    (type dim : String) :
    (entries.foldl (fun sel entry => select sel (some entry)) sel).values? head type dim =
      (listed entries head type dim).foldl
        (fun values v => some (insertNew v (values.getD []))) (sel.values? head type dim) := by
  induction entries generalizing sel with
  | nil => rfl
  | cons entry entries ih =>
    rw [List.foldl_cons, ih]
    cases entry with
    | leaf h t d v =>
      rw [select, Selection.values?_addValue]
      by_cases hplace : (h : Int) = head ∧ t = type ∧ d = dim
      · obtain ⟨rfl, rfl, rfl⟩ := hplace
        simp [listed]
      · have hplace' : ¬ (head = h ∧ type = t ∧ dim = d) :=
          fun ⟨h1, h2, h3⟩ => hplace ⟨h1.symm, h2.symm, h3.symm⟩
        simp [listed, hplace, hplace']
    | marker h t =>
      rw [select, Selection.values?_addType]
      simp [listed]

theorem hasType_selected {entries : List Entry} {head : Int} {type : String} :
    (selected entries).hasType head type = true ↔
      ∃ entry ∈ entries, (entry.head : Int) = head ∧ entry.type = type := by
  rw [selected, hasType_foldl_select]
  simp [Selection.empty, Selection.hasType, Selection.typesOf, OrderedMap.contains]

theorem values?_selected (entries : List Entry) (head : Int) (type dim : String) :
    (selected entries).values? head type dim =
      (listed entries head type dim).foldl
        (fun values v => some (insertNew v (values.getD []))) none :=
  values?_foldl_select entries .empty head type dim

theorem foldl_insertNew (values : List String) (start : Option (List String)) :
    (values = [] → values.foldl (fun vs v => some (insertNew v (vs.getD []))) start = start) ∧
    (values ≠ [] → ∃ all, values.foldl (fun vs v => some (insertNew v (vs.getD []))) start =
      some all ∧ all ≠ [] ∧ ∀ v, v ∈ all ↔ v ∈ values ∨ v ∈ start.getD []) := by
  refine ⟨fun h => by rw [h]; rfl, ?_⟩
  induction values generalizing start with
  | nil => exact fun h => absurd rfl h
  | cons w values ih =>
    intro _
    rw [List.foldl_cons]
    cases values with
    | nil =>
      refine ⟨_, rfl, insertNew_ne_nil _ _, fun v => ?_⟩
      rw [mem_insertNew, List.mem_singleton]
    | cons w' values =>
      obtain ⟨all, hall, hne, hmem⟩ := ih (some (insertNew w (start.getD []))) (by simp)
      refine ⟨all, hall, hne, fun v => ?_⟩
      rw [hmem, Option.getD_some, mem_insertNew, List.mem_cons (b := w)]
      simp [or_assoc, or_left_comm]

theorem values?_selected_ne_nil {entries : List Entry} {head : Int} {type dim : String} :
    (selected entries).values? head type dim ≠ some [] := by
  rw [values?_selected]
  by_cases h : listed entries head type dim = []
  · simp [h]
  · obtain ⟨all, hall, hne, -⟩ := (foldl_insertNew _ none).2 h
    rw [hall]
    exact fun heq => hne (Option.some.inj heq)

theorem mem_values_selected {entries : List Entry} {head : Int} {type dim v : String} :
    v ∈ (selected entries).valuesOf head type dim ↔
      v ∈ listed entries head type dim := by
  rw [Selection.valuesOf, values?_selected]
  by_cases h : listed entries head type dim = []
  · simp [h]
  · obtain ⟨all, hall, -, hmem⟩ := (foldl_insertNew _ none).2 h
    rw [hall, Option.getD_some, hmem]
    simp

theorem exists_hasType_selected {entries : List Entry} {head : Int}
    (h : (selected entries).hasHead head = true) :
    ∃ type, (selected entries).hasType head type = true := by
  have key : ∀ sel : Selection,
      (entries.foldl (fun sel entry => select sel (some entry)) sel).hasHead head = true →
      (∃ entry ∈ entries, (entry.head : Int) = head) ∨ sel.hasHead head = true := by
    clear h
    induction entries with
    | nil => exact fun sel h => .inr h
    | cons entry entries ih =>
      intro sel h
      rw [List.foldl_cons] at h
      rcases ih _ h with ⟨e, he, hhead⟩ | h
      · exact .inl ⟨e, List.mem_cons_of_mem _ he, hhead⟩
      · cases entry with
        | leaf n t d v =>
          rcases Selection.hasHead_alterType _ h with hhead | h
          · exact .inl ⟨_, List.mem_cons_self, hhead.symm⟩
          · exact .inr h
        | marker n t =>
          rcases Selection.hasHead_alterType _ h with hhead | h
          · exact .inl ⟨_, List.mem_cons_self, hhead.symm⟩
          · exact .inr h
  rcases key .empty h with ⟨entry, hentry, hhead⟩ | h
  · exact ⟨entry.type, hasType_selected.mpr ⟨entry, hentry, hhead, rfl⟩⟩
  · cases h

theorem foldlM_select_silent (raws : List String) (h : ∀ raw ∈ raws, Entry.read raw = .ok none)
    (sel : Selection) :
    raws.foldlM (fun sel raw => do return select sel (← Entry.read raw)) sel = .ok sel := by
  induction raws with
  | nil => rfl
  | cons raw raws ih =>
    rw [List.foldlM_cons, h raw (by simp)]
    exact ih fun raw' hraw' => h raw' (by simp [hraw'])

end Shorthand

/-! ## Selections that can be written -/

/-- The heads, types, dimensions and values of the selection can be written and read back. -/
structure Selection.Writable (sel : Selection) : Prop where
  heads : ∀ head, sel.hasHead head = true → ∃ n : Nat, head = n ∧ Shorthand.Short n
  types : ∀ head t, sel.hasType head t = true → Shorthand.isTypeKey t.toList = true
  dims : ∀ head t, ∀ d ∈ (sel.dims head t).keys, d ∈ dimensions
  values : ∀ head t d vs, sel.values? head t d = some vs → ∀ v ∈ vs, Text.isDigits v.toList = true

/-- The types, dimensions and values of the selection can be written, whatever its heads are. -/
structure Selection.Lettered (sel : Selection) : Prop where
  types : ∀ head t, sel.hasType head t = true → Shorthand.isTypeKey t.toList = true
  dims : ∀ head t, ∀ d ∈ (sel.dims head t).keys, d ∈ dimensions
  values : ∀ head t d vs, sel.values? head t d = some vs → ∀ v ∈ vs, Text.isDigits v.toList = true

theorem Selection.Writable.lettered {sel : Selection} (h : sel.Writable) : sel.Lettered :=
  ⟨h.types, h.dims, h.values⟩

namespace Selection

variable {sel : Selection} {n : Nat} {type dim value : String}

theorem Writable.addType (h : sel.Writable) (hn : Shorthand.Short n)
    (ht : Shorthand.isTypeKey type.toList = true) : (sel.addType n type).Writable where
  heads head' hhead := by
    rcases hasHead_alterType id hhead with rfl | hhead
    · exact ⟨n, rfl, hn⟩
    · exact h.heads head' hhead
  types head' t htype := by
    rcases (hasType_addType ..).mp htype with ⟨-, rfl⟩ | htype
    · exact ht
    · exact h.types head' t htype
  dims head' t d hd := by
    rw [Selection.addType, dims_alterType] at hd
    split at hd
    · exact h.dims _ _ d hd
    · exact h.dims _ _ d hd
  values head' t d vs hvs := by
    rw [values?_addType] at hvs
    exact h.values head' t d vs hvs

theorem Writable.addValue (h : sel.Writable) (hn : Shorthand.Short n)
    (ht : Shorthand.isTypeKey type.toList = true) (hd : dim ∈ dimensions)
    (hv : Text.isDigits value.toList = true) : (sel.addValue n type dim value).Writable where
  heads head' hhead := by
    rcases hasHead_alterType _ hhead with rfl | hhead
    · exact ⟨n, rfl, hn⟩
    · exact h.heads head' hhead
  types head' t htype := by
    rcases (hasType_addValue ..).mp htype with ⟨-, rfl⟩ | htype
    · exact ht
    · exact h.types head' t htype
  dims head' t d hmem := by
    rw [Selection.addValue, dims_alterType] at hmem
    split at hmem
    · rw [OrderedMap.keys_alter] at hmem
      split at hmem
      · exact h.dims _ _ d hmem
      · rcases List.mem_append.mp hmem with hmem | hmem
        · exact h.dims _ _ d hmem
        · exact List.mem_singleton.mp hmem ▸ hd
    · exact h.dims _ _ d hmem
  values head' t d vs hvs := by
    rw [values?_addValue] at hvs
    split at hvs
    · obtain rfl := Option.some.inj hvs
      intro v hmem
      rcases mem_insertNew.mp hmem with rfl | hmem
      · exact hv
      · cases hold : sel.values? n type dim with
        | none =>
          rw [hold] at hmem
          cases hmem
        | some old =>
          rw [hold] at hmem
          exact h.values _ _ _ old hold v hmem
    · exact h.values head' t d vs hvs

theorem Writable.select (h : sel.Writable) {entry : Shorthand.Entry} (hentry : entry.Valid) :
    (Shorthand.select sel (some entry)).Writable := by
  cases entry with
  | leaf n t d v =>
    obtain ⟨hn, ht, hd, hv⟩ := hentry
    exact h.addValue hn ht hd hv
  | marker n t => exact h.addType hentry.1 hentry.2

theorem writable_empty : Selection.empty.Writable where
  heads head h := by cases h
  types head t h := by cases h
  dims head t d h := by cases h
  values head t d vs h := by cases h

end Selection

end Sift
