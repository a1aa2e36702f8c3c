import Sift.Proofs.Shorthand.Accumulator
import Sift.Proofs.Shorthand.Legible
import Sift.Proofs.Shorthand.Recorded

/-!
# Settled accumulators

A token is settled when it is read as a literal, a leaf or a negation: running it adds it as it was
written and does nothing else to the entries (`step_settled`). Whatever a token of a well-formed
taxonomy adds is settled (`settled_of_mem_emitted`), so running what a tree left gives the same entries
again, and with commas between they are a tree that selects the same (`expandTree_accumulator`).
-/

namespace Sift.Shorthand

open Text

variable {tax : Taxonomy} {raw : String}

/-- A token of this kind stands for itself. -/
def Token.isSettled : Token → Bool
  | .leaf _ _ _ _ | .negation _ _ _ | .literal _ => true
  | _ => false

/-- The text reads as a token that stands for itself, and is one token in a tree. -/
structure Settled (raw : String) : Prop where
  ne_empty : raw ≠ ""
  no_comma : ',' ∉ raw.toList
  reads : ∃ token, Token.read raw = .ok token ∧ token.isSettled = true

/-! ## Running settled tokens -/

theorem step_settled (tax : Taxonomy) (h : Settled raw) (state : Expansion) : ∃ neg,
    Expansion.step tax state raw = .ok ⟨state.accumulator ++ [raw], neg⟩ := by
  obtain ⟨token, hread, htoken⟩ := h.reads
  rw [Expansion.step, if_neg h.ne_empty, hread]
  cases token with
  | head | type | dim | typeDim | value | removal => cases htoken
  | leaf | literal => exact ⟨_, rfl⟩
  | negation raw' n selector =>
    obtain ⟨rfl, -⟩ := negation_of_read hread
    exact ⟨_, rfl⟩

theorem foldlM_settled {raws : List String} (h : ∀ raw ∈ raws, Settled raw) (state : Expansion) :
    ∃ neg, raws.foldlM (Expansion.step tax) state = .ok ⟨state.accumulator ++ raws, neg⟩ := by
  induction raws generalizing state with
  | nil =>
    rw [List.append_nil]
    exact ⟨_, rfl⟩
  | cons raw raws ih =>
    obtain ⟨neg, hstep⟩ := step_settled tax (h raw (by simp)) state
    obtain ⟨neg', hrun⟩ := ih (fun r hr => h r (by simp [hr])) ⟨state.accumulator ++ [raw], neg⟩
    refine ⟨neg', ?_⟩
    rw [List.foldlM_cons, hstep]
    refine Eq.trans hrun ?_
    rw [List.append_assoc, List.singleton_append]

/-! ## What tokens leave -/

theorem settled_text {entry : Entry} (h : entry.Valid) : Settled entry.text := by
  cases entry with
  | leaf n t d v =>
    obtain ⟨hn, ht, hd, hv⟩ := h
    have hvalid : ∀ p ∈ [Part.type t, Part.value d v], p.Valid := by simpa using ⟨ht, hd, hv⟩
    refine ⟨?_, ?_, .leaf n t d v, read_leafText hn ht hd hv, rfl⟩
    · rw [Entry.text, leafText_eq]
      exact nameText_ne_empty n _
    · rw [Entry.text, leafText_eq]
      exact not_mem_nameText hvalid (by decide) (by decide)
  | marker n t =>
    obtain ⟨hn, ht⟩ := h
    obtain ⟨cs, hcs⟩ := written_cons 's' ['u', 'b'] n [t.toList]
    have hlist : (markerText n t).toList = 's' :: cs := by
      rw [markerText_eq, String.toList_ofList]
      exact hcs
    refine ⟨?_, ?_, .literal (markerText n t), ?_, rfl⟩
    · intro hempty
      rw [show markerText n t = "" from hempty] at hlist
      cases hlist
    · rw [Entry.text, markerText_eq, String.toList_ofList]
      refine not_mem_written (by decide) (by decide) fun field hfield => ?_
      rw [List.mem_singleton.mp hfield]
      exact Part.Valid.not_mem_text (p := .type t) ht (by decide)
    · rw [Entry.text, Token.read, hlist]
      rfl

theorem exists_entry_of_mem_expandIn {head : Head} (hhead : head.WellFormed) {n m : Nat}
    (hid : head.id = n) (hn : Short n) {parts : List Part} (hparts : ∀ p ∈ parts, p.Valid)
    {token : Token} (hnamed : named? m parts = some token) {text : String}
    (h : text ∈ expandIn head token) : ∃ entry : Entry, entry.Valid ∧ text = entry.text := by
  have hmarker : ∀ t ∈ head.typeKeys, ∃ entry : Entry, entry.Valid ∧
      markerText head.id t = entry.text :=
    fun t ht => ⟨.marker n t, ⟨hn, hhead.typeKeys t ht⟩, by rw [hid]; rfl⟩
  have hleaf : ∀ t ∈ head.typeKeys, ∀ d ∈ dimensions, ∀ v : String, isDigits v.toList = true →
      ∃ entry : Entry, entry.Valid ∧ leafText head.id t d v = entry.text :=
    fun t ht d hd v hv => ⟨.leaf n t d v, ⟨hn, hhead.typeKeys t ht, hd, hv⟩, by rw [hid]; rfl⟩
  have hleaves : ∀ t ∈ head.typeKeys, ∀ d ∈ dimensions, text ∈ dimLeaves head t d →
      ∃ entry : Entry, entry.Valid ∧ text = entry.text := by
    intro t ht d hd hmem
    obtain ⟨v, hv, rfl⟩ := List.mem_map.mp hmem
    exact hleaf t ht d hd v (hhead.digits_of_mem_applicable hv)
  unfold named? at hnamed
  split at hnamed
  all_goals cases hnamed
  · obtain ⟨t, ht, rfl⟩ := List.mem_map.mp h
    exact hmarker t ht
  · rename_i t
    rw [expandIn] at h
    split at h
    · rename_i ht
      obtain rfl := List.mem_singleton.mp h
      exact hmarker t (List.contains_iff_mem.mp ht)
    · cases h
  · rename_i d
    obtain ⟨t, ht, h⟩ := List.mem_flatMap.mp h
    exact hleaves t ht d (hparts (.dim d) (by simp)) h
  · rename_i d v
    obtain ⟨t, ht, rfl⟩ := List.mem_map.mp h
    obtain ⟨hd, hv⟩ := hparts (.value d v) (by simp)
    exact hleaf t ht d hd v hv
  · rename_i t d
    rw [expandIn] at h
    split at h
    · rename_i ht
      exact hleaves t (List.contains_iff_mem.mp ht) d (hparts (.dim d) (by simp)) h
    · cases h
  · cases h

theorem settled_of_mem_emitted (htax : tax.WellFormed) (hne : raw ≠ "") (hcomma : ',' ∉ raw.toList)
    {token : Token} (hread : Token.read raw = .ok token) {text : String}
    (h : text ∈ emitted tax raw token) : Settled text := by
  have hself : token.isSettled = true → text = raw → Settled text := by
    rintro htoken rfl
    exact ⟨hne, hcomma, token, hread, htoken⟩
  have hsought : ∀ n, token.headSought? = some n → Settled text := by
    intro n hn
    obtain ⟨head, hfound, hmem⟩ := mem_expandIn_of_mem_emitted hn h
    obtain ⟨hid, hhead⟩ := htax.head hfound
    rcases token_of_read hread with rfl | ⟨target, -, rfl⟩ | ⟨m, selector, rfl⟩ |
      ⟨digits, more, parts, m, -, hparts, -, hnamed⟩
    · cases hn
    · cases hn
    · cases hn
    · obtain ⟨entry, hvalid, rfl⟩ := exists_entry_of_mem_expandIn hhead hid
        (short_of_headSought? hread hn) (mapM_part?_eq_some hparts).2 hnamed hmem
      exact settled_text hvalid
  cases token with
  | head | type | dim | typeDim | value => exact hsought _ rfl
  | removal => cases h
  | leaf | literal => exact hself rfl (List.mem_singleton.mp h)
  | negation raw' n selector =>
    obtain ⟨rfl, -⟩ := negation_of_read hread
    exact hself rfl (List.mem_singleton.mp h)

theorem settled_of_expandTokens (htax : tax.WellFormed) {raws : List String}
    (hcomma : ∀ raw ∈ raws, ',' ∉ raw.toList) {state : Expansion}
    (h : expandTokens tax raws = .ok state) : ∀ entry ∈ state.accumulator, Settled entry := by
  intro entry hentry
  obtain ⟨pre, raw, post, rfl, ⟨hne, token, hread, hadded⟩, -⟩ := (mem_accumulator h).mp hentry
  exact settled_of_mem_emitted htax hne (hcomma raw (by simp)) hread hadded

/-! ## Running what is left -/

/-- What a run left is left by running it. -/
theorem expandTokens_accumulator (htax : tax.WellFormed) {raws : List String}
    (hcomma : ∀ raw ∈ raws, ',' ∉ raw.toList) {state : Expansion}
    (h : expandTokens tax raws = .ok state) :
    ∃ neg, expandTokens tax state.accumulator = .ok ⟨state.accumulator, neg⟩ :=
  foldlM_settled (settled_of_expandTokens htax hcomma h) .start

/-- The entries that a tree leaves are left again when they are run, and with commas between they are
a tree that selects the same, in the same order. -/
theorem expandTree_accumulator (htax : tax.WellFormed) {tree : String} {sel : Selection}
    {neg : Negations} (h : expandTree tax tree = .ok (sel, neg)) :
    ∃ state, expandTokens tax (split ',' tree) = .ok state ∧
      (∃ again, expandTokens tax state.accumulator = .ok again ∧
        again.accumulator = state.accumulator) ∧
      ∃ neg', expandTree tax (join ',' state.accumulator) = .ok (sel, neg') := by
  have hcomma : ∀ raw ∈ split ',' tree, ',' ∉ raw.toList := fun _ hraw => not_mem_of_mem_split hraw
  obtain ⟨state, hrun, h⟩ := bind_eq_ok h
  obtain ⟨sel', hsel, h⟩ := bind_eq_ok h
  obtain ⟨rfl, rfl⟩ := Prod.mk.inj (Except.ok.inj h)
  obtain ⟨neg', hagain⟩ := expandTokens_accumulator htax hcomma hrun
  refine ⟨state, hrun, ⟨_, hagain, rfl⟩, neg', ?_⟩
  have hentries : ∀ entry ∈ state.accumulator, ',' ∉ entry.toList := fun entry hentry =>
    (settled_of_expandTokens htax hcomma hrun entry hentry).no_comma
  rw [expandTree_join, flatMap_split hentries, expand, hagain]
  show (selectionOf state.accumulator >>= fun sel => _) = _
  rw [hsel]
  rfl

/-- A value of every type, a type, a leaf with a leading zero and a line feed, a literal, an empty
token, and negations, one of which is removed again. -/
theorem expandTree_accumulator_default :
    let tree := "cat3_a5,cat0_z1,cat00_z0_a01\n,foo,,~cat2,~cat0_z1_b3,!~cat2"
    let left := ["cat3_zz_a5", "sub0_z1", "cat00_z0_a01\n", "foo", "~cat0_z1_b3"]
    ∃ sel neg neg' state again, expandTree .default tree = .ok (sel, neg) ∧
      expandTokens .default (split ',' tree) = .ok state ∧ state.accumulator = left ∧
      expandTokens .default left = .ok again ∧ again.accumulator = left ∧
      expandTree .default (join ',' left) = .ok (sel, neg') := by
  intro tree left
  obtain ⟨⟨sel, neg⟩, hexpand⟩ := exists_of_isOk (x := expandTree .default tree) (by decide)
  obtain ⟨state, hrun, ⟨again, hagain, hsame⟩, neg', htree⟩ :=
    expandTree_accumulator Taxonomy.wellFormed_default hexpand
  have hleft : (expandTokens .default (split ',' tree)).toOption.map (·.accumulator) = some left := by
    decide
  rw [hrun] at hleft
  have hacc : state.accumulator = left := Option.some.inj hleft
  rw [hacc] at hagain hsame htree
  exact ⟨sel, neg, neg', state, again, hexpand, hrun, hacc, hagain, hsame, htree⟩

end Sift.Shorthand
