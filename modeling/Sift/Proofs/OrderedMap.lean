import Sift.OrderedMap

/-!
# Looking up in ordered maps and changing them

No key stands twice, so an entry is what looking up its key gives (`get?_eq_some_iff`), and every
entry of a map that is made of a list comes from the list (`mem_of_mem_ofList`). Changes of one key are
one change (`foldl_alter`), and the entries of a map give it again, one after the other
(`foldl_alter_entries`).
-/

namespace Sift.OrderedMap

variable {κ ν : Type}

theorem mem_of_mem_alterEntries [DecidableEq κ] {k : κ} {f : Option ν → ν} {entries : List (κ × ν)}
    {e : κ × ν} (h : e ∈ alterEntries k f entries) : e ∈ entries ∨ ∃ v, e = (k, f v) := by
  induction entries with
  | nil => exact .inr ⟨none, by simpa [alterEntries] using h⟩
  | cons a rest ih =>
    obtain ⟨k', v⟩ := a
    rw [alterEntries] at h
    split at h
    · rename_i hk
      subst hk
      rcases List.mem_cons.mp h with rfl | h
      · exact .inr ⟨some v, rfl⟩
      · exact .inl (List.mem_cons_of_mem _ h)
    · rcases List.mem_cons.mp h with rfl | h
      · exact .inl List.mem_cons_self
      · rcases ih h with h | h
        · exact .inl (List.mem_cons_of_mem _ h)
        · exact .inr h

theorem alterEntries_of_not_mem [DecidableEq κ] {k : κ} (f : Option ν → ν) {entries : List (κ × ν)}
    (h : k ∉ entries.map Prod.fst) : alterEntries k f entries = entries ++ [(k, f none)] := by
  induction entries with
  | nil => rfl
  | cons e rest ih =>
    rw [List.map_cons, List.mem_cons, not_or] at h
    rw [alterEntries, if_neg (Ne.symm h.1), ih h.2, List.cons_append]

theorem alterEntries_append_singleton [DecidableEq κ] {k : κ} (f : Option ν → ν) (v : ν)
    {entries : List (κ × ν)} (h : k ∉ entries.map Prod.fst) :
    alterEntries k f (entries ++ [(k, v)]) = entries ++ [(k, f (some v))] := by
  induction entries with
  | nil => rw [List.nil_append, alterEntries, if_pos rfl, List.nil_append]
  | cons e rest ih =>
    rw [List.map_cons, List.mem_cons, not_or] at h
    rw [List.cons_append, alterEntries, if_neg (Ne.symm h.1), ih h.2, List.cons_append]

variable [DecidableEq κ]

theorem get?_eq_some_iff {m : OrderedMap κ ν} {k : κ} {v : ν} :
    m.get? k = some v ↔ (k, v) ∈ m.entries := by
  obtain ⟨entries, hnodup⟩ := m
  show entries.lookup k = some v ↔ (k, v) ∈ entries
  induction entries with
  | nil => simp
  | cons e rest ih =>
    obtain ⟨k', v'⟩ := e
    rw [List.map_cons, List.nodup_cons] at hnodup
    by_cases hk : k = k'
    · subst hk
      have hrest : (k, v) ∉ rest := fun hmem => hnodup.1 (List.mem_map.mpr ⟨_, hmem, rfl⟩)
      simp only [List.lookup_cons_self, List.mem_cons, hrest, or_false, Option.some.injEq,
        Prod.mk.injEq, true_and]
      exact eq_comm
    · rw [List.lookup_cons, beq_false_of_ne hk, List.mem_cons]
      simp [hk, ih hnodup.2]

theorem mem_keys_iff {m : OrderedMap κ ν} {k : κ} : k ∈ m.keys ↔ ∃ v, m.get? k = some v := by
  simp only [keys, List.mem_map, get?_eq_some_iff]
  constructor
  · rintro ⟨⟨k', v⟩, hmem, rfl⟩
    exact ⟨v, hmem⟩
  · rintro ⟨v, hmem⟩
    exact ⟨(k, v), hmem, rfl⟩

theorem get?_eq_none_iff {m : OrderedMap κ ν} {k : κ} : m.get? k = none ↔ k ∉ m.keys := by
  rw [mem_keys_iff, Option.eq_none_iff_forall_not_mem]
  simp

theorem mem_of_mem_ofList {entries : List (κ × ν)} {e : κ × ν} (h : e ∈ (ofList entries).entries) :
    e ∈ entries := by
  have key : ∀ (m : OrderedMap κ ν), e ∈ (entries.foldl (fun m e => m.insert e.1 e.2) m).entries →
      e ∈ m.entries ∨ e ∈ entries := by
    clear h
    induction entries with
    | nil => exact fun m h => .inl h
    | cons a rest ih =>
      intro m h
      rcases ih _ h with h | h
      · rcases mem_of_mem_alterEntries h with h | ⟨v, rfl⟩
        · exact .inl h
        · exact .inr List.mem_cons_self
      · exact .inr (List.mem_cons_of_mem _ h)
  rcases key empty h with h | h
  · cases h
  · exact h

theorem mem_keys_ofList {entries : List (κ × ν)} {k : κ} :
    k ∈ (ofList entries).keys ↔ k ∈ entries.map Prod.fst := by
  have key : ∀ m : OrderedMap κ ν, k ∈ (entries.foldl (fun m e => m.insert e.1 e.2) m).keys ↔
      k ∈ m.keys ∨ k ∈ entries.map Prod.fst := by
    induction entries with
    | nil => intro m; simp
    | cons e rest ih =>
      intro m
      have hstep : k ∈ (m.insert e.1 e.2).keys ↔ k ∈ m.keys ∨ k = e.1 := by
        rw [insert, keys_alter]
        split
        · rename_i he
          exact ⟨.inl, fun h => h.elim id fun h => h ▸ he⟩
        · rw [List.mem_append, List.mem_singleton]
      rw [List.foldl_cons, ih, hstep, List.map_cons, List.mem_cons, or_assoc]
  rw [ofList, key]
  simp

theorem alter_alter (m : OrderedMap κ ν) (k : κ) (f g : Option ν → ν) :
    (m.alter k f).alter k g = m.alter k fun v => g (some (f v)) := by
  have hentries : ∀ entries : List (κ × ν), alterEntries k g (alterEntries k f entries) =
      alterEntries k (fun v => g (some (f v))) entries := by
    intro entries
    induction entries with
    | nil => simp [alterEntries]
    | cons e rest ih =>
      by_cases hk : e.1 = k
      · simp [alterEntries, hk]
      · simp [alterEntries, hk, ih]
  exact ext (hentries m.entries)

theorem foldl_alter {α : Type} (m : OrderedMap κ ν) (k : κ) (d : ν) (f : ν → α → ν) (g : Option ν → ν)
    (xs : List α) : xs.foldl (fun m x => m.alter k fun v => f (v.getD d) x) (m.alter k g) =
      m.alter k fun v => xs.foldl f (g v) := by
  induction xs generalizing g with
  | nil => rfl
  | cons x xs ih =>
    rw [List.foldl_cons, alter_alter, ih]
    rfl

theorem foldl_alter_entries {m : OrderedMap κ ν} {f : κ × ν → Option ν → ν}
    (h : ∀ e ∈ m.entries, f e none = e.2) :
    m.entries.foldl (fun built e => built.alter e.1 (f e)) .empty = m := by
  have hbuilt : ∀ (rest : List (κ × ν)) (built : OrderedMap κ ν),
      (∀ e ∈ rest, f e none = e.2) → ((built.entries ++ rest).map Prod.fst).Nodup →
      (rest.foldl (fun built e => built.alter e.1 (f e)) built).entries =
        built.entries ++ rest := by
    intro rest
    induction rest with
    | nil => simp
    | cons e rest ih =>
      intro built heach hnodup
      have hnew : e.1 ∉ built.entries.map Prod.fst := by
        rw [List.map_append, List.map_cons, List.nodup_append] at hnodup
        exact fun hmem => hnodup.2.2 e.1 hmem e.1 List.mem_cons_self rfl
      have hadded : (built.alter e.1 (f e)).entries = built.entries ++ [e] := by
        show alterEntries e.1 (f e) built.entries = _
        rw [alterEntries_of_not_mem _ hnew, heach e List.mem_cons_self]
      rw [List.foldl_cons, ih _ (fun e' he' => heach e' (List.mem_cons_of_mem _ he')), hadded,
        List.append_assoc, List.singleton_append]
      rwa [hadded, List.append_assoc, List.singleton_append]
  exact ext (hbuilt m.entries .empty h m.nodup)

end Sift.OrderedMap
