import Sift.Proofs.OrderedMap
import Sift.Proofs.Outcome
import Sift.Proofs.Selection.Lookup
import Sift.Proofs.Shorthand.Grammar
import Sift.Shorthand.Compress
import Sift.Shorthand.Expand

/-!
# Recorded selections and negations

What tokens select and negate can be written (`writable_of_expand`). Running the written forms of
negations from nothing records them again, head by head and selector by selector
(`foldlM_negationTokens`); a written negation is kept in the accumulator but carries no selection.
-/

namespace Sift

/-- The negations have heads and selectors that can be written and read back, no selector twice. -/
def Negations.Writable (neg : Negations) : Prop :=
  ∀ head selectors, neg.heads.get? head = some selectors →
    (∃ n : Nat, head = n ∧ Shorthand.Short n) ∧ selectors ≠ [] ∧ selectors.Nodup ∧
      ∀ s ∈ selectors, Shorthand.IsSelector s

namespace Shorthand

variable {tax : Taxonomy}

/-! ## What is recorded can be written -/

theorem writable_add {neg : Negations} (h : neg.Writable) {n : Nat} (hn : Short n)
    {selector : String} (hselector : IsSelector selector) : (neg.add n selector).Writable := by
  intro head selectors hget
  rw [Negations.add, OrderedMap.get?_alter] at hget
  split at hget
  · rename_i hhead
    obtain rfl := Option.some.inj hget
    have hold : ((neg.heads.get? n).getD []).Nodup ∧
        ∀ s ∈ (neg.heads.get? n).getD [], IsSelector s := by
      cases hn' : neg.heads.get? n with
      | none => simp
      | some given => exact ⟨(h _ _ hn').2.2.1, (h _ _ hn').2.2.2⟩
    refine ⟨⟨n, hhead, hn⟩, insertNew_ne_nil _ _, nodup_insertNew hold.1, fun s hs => ?_⟩
    rcases mem_insertNew.mp hs with rfl | hs
    · exact hselector
    · exact hold.2 s hs
  · exact h head selectors hget

theorem writable_step {raw : String} {state state' : Expansion} (h : state.negations.Writable)
    (hstep : Expansion.step tax state raw = .ok state') : state'.negations.Writable := by
  rw [Expansion.step] at hstep
  split at hstep
  · obtain rfl := Except.ok.inj hstep
    exact h
  · obtain ⟨token, hread, hstep⟩ := bind_eq_ok hstep
    obtain rfl := Except.ok.inj hstep
    cases token with
    | negation raw' n selector =>
      obtain ⟨-, hn, hselector⟩ := negation_of_read hread
      exact writable_add h hn hselector
    | _ => exact h

theorem writable_of_expandTokens {raws : List String} {state : Expansion}
    (h : expandTokens tax raws = .ok state) : state.negations.Writable := by
  refine foldlM_preserves (p := fun state => state.negations.Writable)
    (fun _ _ _ hs hstep => writable_step hs hstep) h fun head selectors hget => ?_
  cases hget

theorem writable_of_selectionOf {acc : List String} {sel : Selection}
    (h : selectionOf acc = .ok sel) : sel.Writable := by
  refine foldlM_preserves (fun sel raw sel' hsel hstep => ?_) h Selection.writable_empty
  obtain ⟨entry, hread, hstep⟩ := bind_eq_ok hstep
  obtain rfl := Except.ok.inj hstep
  cases entry with
  | none => exact hsel
  | some entry => exact hsel.select (Entry.valid_of_read hread)

theorem selected_of_selectionOf {acc : List String} {sel : Selection}
    (h : selectionOf acc = .ok sel) : ∃ entries, sel = selected entries := by
  refine foldlM_preserves (p := fun sel => ∃ entries, sel = selected entries)
    (fun sel raw sel' hsel hstep => ?_) h ⟨[], rfl⟩
  obtain ⟨entries, rfl⟩ := hsel
  obtain ⟨entry, -, hstep⟩ := bind_eq_ok hstep
  obtain rfl := Except.ok.inj hstep
  cases entry with
  | none => exact ⟨entries, rfl⟩
  | some entry =>
    refine ⟨entries ++ [entry], ?_⟩
    rw [selected, selected, List.foldl_append]
    rfl

theorem selected_of_expand {raws : List String} {sel : Selection} {neg : Negations}
    (h : expand tax raws = .ok (sel, neg)) : ∃ entries, sel = selected entries := by
  obtain ⟨state, -, h⟩ := bind_eq_ok h
  obtain ⟨sel', hsel, h⟩ := bind_eq_ok h
  obtain ⟨rfl, -⟩ := Prod.mk.inj (Except.ok.inj h)
  exact selected_of_selectionOf hsel

/-- Whatever the tokens are, what they select and negate can be written. -/
theorem writable_of_expand {raws : List String} {sel : Selection} {neg : Negations}
    (h : expand tax raws = .ok (sel, neg)) : sel.Writable ∧ neg.Writable := by
  obtain ⟨state, hrun, h⟩ := bind_eq_ok h
  obtain ⟨sel', hsel, h⟩ := bind_eq_ok h
  obtain ⟨rfl, rfl⟩ := Prod.mk.inj (Except.ok.inj h)
  exact ⟨writable_of_selectionOf hsel, writable_of_expandTokens hrun⟩

/-! ## What is written is recorded -/

theorem negationText_ne_empty (n : Nat) (selector : String) : negationText n selector ≠ "" := by
  obtain ⟨cs, hcs⟩ := written_cons '~' ['c', 'a', 't'] n (selectorFields selector)
  intro h
  have hnil := congrArg String.toList h
  rw [negationText_eq, String.toList_ofList] at hnil
  rw [show written "~cat".toList n (selectorFields selector) = '~' :: cs from hcs] at hnil
  cases hnil

theorem step_negationText {n : Nat} (hn : Short n) {selector : String} (h : IsSelector selector)
    (state : Expansion) : Expansion.step tax state (negationText n selector) =
      .ok ⟨state.accumulator ++ [negationText n selector], state.negations.add n selector⟩ := by
  rw [Expansion.step, if_neg (negationText_ne_empty n selector), read_negationText hn h]
  rfl

theorem foldlM_selectors {n : Nat} (hn : Short n) (selectors : List String)
    (h : ∀ s ∈ selectors, IsSelector s) (state : Expansion) :
    (selectors.map (negationText n)).foldlM (Expansion.step tax) state =
      .ok ⟨state.accumulator ++ selectors.map (negationText n),
        selectors.foldl (fun neg s => neg.add n s) state.negations⟩ := by
  induction selectors generalizing state with
  | nil => simp [pure, Except.pure]
  | cons s selectors ih =>
    rw [List.map_cons, List.foldlM_cons, step_negationText hn (h s (by simp))]
    refine (ih (fun s' hs' => h s' (by simp [hs'])) _).trans ?_
    simp

theorem entries_foldl_add (head : Int) (selectors given : List String)
    (hnodup : (given ++ selectors).Nodup) {done : List (Int × List String)}
    (hnew : head ∉ done.map Prod.fst) {neg : Negations}
    (hneg : neg.heads.entries = done ++ [(head, given)]) :
    (selectors.foldl (fun neg s => neg.add head s) neg).heads.entries =
      done ++ [(head, given ++ selectors)] := by
  induction selectors generalizing given neg with
  | nil => rw [List.foldl_nil, List.append_nil, hneg]
  | cons s selectors ih =>
    have hs : s ∉ given := by
      rw [List.nodup_append] at hnodup
      exact fun hmem => hnodup.2.2 s hmem s List.mem_cons_self rfl
    have hadd : (neg.add head s).heads.entries = done ++ [(head, given ++ [s])] := by
      show OrderedMap.alterEntries head _ neg.heads.entries = _
      rw [hneg, OrderedMap.alterEntries_append_singleton _ _ hnew, Option.getD_some, insertNew,
        if_neg hs]
    rw [List.foldl_cons, ih (given ++ [s]) (by simpa using hnodup) hadd]
    simp

theorem foldlM_negations (rest : List (Int × List String))
    (hrest : ∀ e ∈ rest, (∃ n : Nat, e.1 = n ∧ Short n) ∧ e.2 ≠ [] ∧ e.2.Nodup ∧
      ∀ s ∈ e.2, IsSelector s)
    (hnodup : (rest.map Prod.fst).Nodup) (state : Expansion)
    (hnew : ∀ e ∈ rest, e.1 ∉ state.negations.heads.keys) :
    ∃ neg, (rest.flatMap fun e => e.2.map (negationText e.1)).foldlM (Expansion.step tax) state =
        .ok ⟨state.accumulator ++ rest.flatMap fun e => e.2.map (negationText e.1), neg⟩ ∧
      neg.heads.entries = state.negations.heads.entries ++ rest := by
  induction rest generalizing state with
  | nil => exact ⟨state.negations, by simp [pure, Except.pure], by simp⟩
  | cons e rest ih =>
    obtain ⟨head, selectors⟩ := e
    obtain ⟨⟨n, rfl, hn⟩, hne, hdistinct, hselectors⟩ := hrest _ List.mem_cons_self
    rw [List.map_cons, List.nodup_cons] at hnodup
    have hhead : (n : Int) ∉ state.negations.heads.entries.map Prod.fst :=
      hnew _ List.mem_cons_self
    have hadded : (selectors.foldl (fun neg s => neg.add n s) state.negations).heads.entries =
        state.negations.heads.entries ++ [((n : Int), selectors)] := by
      cases selectors with
      | nil => exact absurd rfl hne
      | cons s selectors =>
        refine entries_foldl_add n selectors [s] hdistinct hhead ?_
        exact OrderedMap.alterEntries_of_not_mem _ hhead
    have hnext : ∀ e ∈ rest,
        e.1 ∉ (selectors.foldl (fun neg s => neg.add n s) state.negations).heads.keys := by
      intro e he
      rw [OrderedMap.keys, hadded, List.map_append, List.mem_append, not_or]
      refine ⟨hnew e (by simp [he]), fun hmem => hnodup.1 ?_⟩
      obtain heq : e.1 = n := by simpa using hmem
      exact List.mem_map.mpr ⟨e, he, heq⟩
    obtain ⟨neg, hrun, hentries⟩ := ih (fun e he => hrest e (by simp [he])) hnodup.2
      ⟨state.accumulator ++ selectors.map (negationText n), _⟩ hnext
    refine ⟨neg, ?_, by rw [hentries, hadded, List.append_assoc, List.singleton_append]⟩
    rw [List.flatMap_cons, List.foldlM_append, foldlM_selectors hn selectors hselectors]
    refine Eq.trans hrun ?_
    simp

theorem foldlM_negationTokens {neg : Negations} (h : neg.Writable) (acc : List String) :
    (negationTokens neg).foldlM (Expansion.step tax) ⟨acc, .empty⟩ =
      .ok ⟨acc ++ negationTokens neg, neg⟩ := by
  have hitems : ∀ e ∈ neg.heads.entries, (∃ n : Nat, e.1 = n ∧ Short n) ∧ e.2 ≠ [] ∧
      e.2.Nodup ∧ ∀ s ∈ e.2, IsSelector s :=
    fun e he => h e.1 e.2 (OrderedMap.get?_eq_some_iff.mpr he)
  obtain ⟨neg', hrun, hentries⟩ := foldlM_negations neg.heads.entries hitems neg.heads.nodup
    ⟨acc, .empty⟩ (fun e _ hmem => by cases hmem)
  obtain rfl : neg' = neg := by
    obtain ⟨heads⟩ := neg
    obtain ⟨heads'⟩ := neg'
    exact congrArg Negations.mk (OrderedMap.ext hentries)
  exact hrun

theorem read_of_mem_negationTokens {neg : Negations} (h : neg.Writable) {raw : String}
    (hraw : raw ∈ negationTokens neg) : Entry.read raw = .ok none := by
  rw [negationTokens, List.mem_flatMap] at hraw
  obtain ⟨⟨head, selectors⟩, he, hraw⟩ := hraw
  obtain ⟨s, hs, rfl⟩ := List.mem_map.mp hraw
  obtain ⟨⟨n, rfl, -⟩, -, -, hselectors⟩ := h _ _ (OrderedMap.get?_eq_some_iff.mpr he)
  exact read_entry_negationText (hselectors s hs)

/-! ## Trees -/

theorem expandTree_join (texts : List String) :
    expandTree tax (Text.join ',' texts) = expand tax (texts.flatMap (Text.split ',')) := by
  rw [expandTree]
  by_cases hnil : texts = []
  · rw [hnil]
    rfl
  · rw [Text.split_join_eq hnil]

theorem expand_append_negationText {n : Nat} (hn : Short n) {selector : String}
    (h : IsSelector selector) (raws : List String) :
    expand tax (raws ++ [negationText n selector]) =
      (expand tax raws).map fun result => (result.1, result.2.add n selector) := by
  have htokens : expandTokens tax (raws ++ [negationText n selector]) =
      (expandTokens tax raws).map fun state =>
        ⟨state.accumulator ++ [negationText n selector], state.negations.add n selector⟩ := by
    rw [expandTokens, List.foldlM_append]
    refine congrArg (expandTokens tax raws >>= ·) (funext fun state => ?_)
    rw [List.foldlM_cons, step_negationText hn h]
    rfl
  have hselection : ∀ acc, selectionOf (acc ++ [negationText n selector]) = selectionOf acc := by
    intro acc
    have hsilent := foldlM_select_silent [negationText n selector] fun raw hraw => by
      rw [List.mem_singleton.mp hraw]
      exact read_entry_negationText h
    rw [selectionOf, List.foldlM_append]
    show (selectionOf acc >>= _) = selectionOf acc
    cases selectionOf acc with
    | error fault => rfl
    | ok sel => exact hsilent sel
  rw [expand, htokens, expand]
  cases expandTokens tax raws with
  | error fault => rfl
  | ok state =>
    show (selectionOf (state.accumulator ++ [negationText n selector]) >>= _) =
      Except.map _ (selectionOf state.accumulator >>= _)
    rw [hselection]
    cases selectionOf state.accumulator with
    | error fault => rfl
    | ok sel => rfl

end Shorthand

end Sift
