/-!
# Ordered maps

A finite map that remembers the order in which its keys were first given. It is the list of its
entries, no key twice. Every change goes through `alter`, which acts on the value of one key and
leaves the order of the others as it was.
-/

namespace Sift

/-- A finite map with its keys in first-given order. -/
structure OrderedMap (κ ν : Type) where
  entries : List (κ × ν)
  nodup : (entries.map Prod.fst).Nodup

namespace OrderedMap

variable {κ ν : Type}

/-- The map without entries. -/
def empty : OrderedMap κ ν := ⟨[], by simp⟩

instance : Inhabited (OrderedMap κ ν) := ⟨⟨[], by simp⟩⟩

def keys (m : OrderedMap κ ν) : List κ := m.entries.map Prod.fst

/-- The number of keys. -/
def size (m : OrderedMap κ ν) : Nat := m.entries.length

/-- No key is present. -/
def isEmpty (m : OrderedMap κ ν) : Bool := m.entries.isEmpty

@[ext] theorem ext {m n : OrderedMap κ ν} (h : m.entries = n.entries) : m = n := by
  cases m; cases n; subst h; rfl

theorem nodup_keys (m : OrderedMap κ ν) : m.keys.Nodup := m.nodup

@[simp] theorem keys_empty : (empty : OrderedMap κ ν).keys = [] := rfl

variable [DecidableEq κ]

/-- Changes the value of one key in place, or adds the key at the end. -/
def alterEntries (k : κ) (f : Option ν → ν) : List (κ × ν) → List (κ × ν)
  | [] => [(k, f none)]
  | (k', v) :: rest => if k' = k then (k', f (some v)) :: rest else (k', v) :: alterEntries k f rest

theorem keys_alterEntries (k : κ) (f : Option ν → ν) (entries : List (κ × ν)) :
    (alterEntries k f entries).map Prod.fst =
      if k ∈ entries.map Prod.fst then entries.map Prod.fst else entries.map Prod.fst ++ [k] := by
  induction entries with
  | nil => simp [alterEntries]
  | cons e rest ih =>
    obtain ⟨k', v⟩ := e
    by_cases h : k' = k
    · simp [alterEntries, h]
    · have h' : k ≠ k' := fun e => h e.symm
      by_cases hm : k ∈ rest.map Prod.fst
      · rw [if_pos hm] at ih
        rw [if_pos (by simpa using Or.inr (by simpa using hm))]
        simp [alterEntries, h, ih]
      · rw [if_neg hm] at ih
        rw [if_neg (by simpa [h'] using hm)]
        simp [alterEntries, h, ih]

theorem nodup_alterEntries (k : κ) (f : Option ν → ν) {entries : List (κ × ν)}
    (h : (entries.map Prod.fst).Nodup) : ((alterEntries k f entries).map Prod.fst).Nodup := by
  rw [keys_alterEntries]
  split
  · exact h
  · rename_i hk
    refine List.nodup_append.2 ⟨h, by simp, ?_⟩
    intro a ha b hb e
    obtain rfl : b = k := by simpa using hb
    exact hk (e ▸ ha)

instance [DecidableEq ν] : DecidableEq (OrderedMap κ ν) := fun m n =>
  if h : m.entries = n.entries then
    .isTrue (by cases m; cases n; subst h; rfl)
  else
    .isFalse fun e => h (congrArg entries e)

/-- The value of a key. -/
def get? (m : OrderedMap κ ν) (k : κ) : Option ν := m.entries.lookup k

/-- The key is present. -/
def contains (m : OrderedMap κ ν) (k : κ) : Bool := m.keys.contains k

/-- Changes the value of one key, which is added at the end when it is new. -/
def alter (m : OrderedMap κ ν) (k : κ) (f : Option ν → ν) : OrderedMap κ ν :=
  ⟨alterEntries k f m.entries, nodup_alterEntries k f m.nodup⟩

/-- Gives a key its value. -/
def insert (m : OrderedMap κ ν) (k : κ) (v : ν) : OrderedMap κ ν := m.alter k fun _ => v

/-- The map of a list of entries, where a later entry of a key replaces the earlier one. -/
def ofList (entries : List (κ × ν)) : OrderedMap κ ν :=
  entries.foldl (fun m e => m.insert e.1 e.2) empty

/-- Two maps have the same keys, in any order, with values that agree. -/
def agreesBy (agree : ν → ν → Bool) (m n : OrderedMap κ ν) : Bool :=
  m.size == n.size && m.entries.all fun e =>
    match n.get? e.1 with
    | some v => agree e.2 v
    | none => false

@[simp] theorem get?_empty (k : κ) : (empty : OrderedMap κ ν).get? k = none := rfl

@[simp] theorem keys_alter (m : OrderedMap κ ν) (k : κ) (f : Option ν → ν) :
    (m.alter k f).keys = if k ∈ m.keys then m.keys else m.keys ++ [k] :=
  keys_alterEntries k f m.entries

theorem lookup_alterEntries (k k' : κ) (f : Option ν → ν) (entries : List (κ × ν)) :
    (alterEntries k f entries).lookup k' =
      if k' = k then some (f (entries.lookup k)) else entries.lookup k' := by
  induction entries with
  | nil =>
    by_cases h : k' = k
    · simp [alterEntries, h]
    · simp [alterEntries, List.lookup_cons, beq_false_of_ne h, h]
  | cons e rest ih =>
    obtain ⟨a, v⟩ := e
    by_cases ha : a = k
    · subst ha
      by_cases h : k' = a
      · simp [alterEntries, h]
      · simp [alterEntries, List.lookup_cons, beq_false_of_ne h, h]
    · by_cases h : k' = k
      · subst h
        simp [alterEntries, ha, List.lookup_cons, beq_false_of_ne (Ne.symm ha), ih]
      · by_cases h' : k' = a
        · subst h'
          simp [alterEntries, h]
        · simp [alterEntries, ha, List.lookup_cons, beq_false_of_ne h', ih, h]

/-- `alter` acts on one key only. -/
@[simp] theorem get?_alter (m : OrderedMap κ ν) (k k' : κ) (f : Option ν → ν) :
    (m.alter k f).get? k' = if k' = k then some (f (m.get? k)) else m.get? k' :=
  lookup_alterEntries k k' f m.entries

theorem contains_eq_true {m : OrderedMap κ ν} {k : κ} : m.contains k = true ↔ k ∈ m.keys := by
  simp [contains]

end OrderedMap

end Sift
