import Sift.Proofs.Selection.Lookup
import Sift.Proofs.Taxonomy.WellFormed

/-!
# Running tokens on entries

An accumulator that holds entries as they are written (`holding`) stays of that form under the
tokens of the shorthand, and `Turns` says what tokens make of it. Runs compose, and a run over blocks
of tokens is taken block by block (`Turns.flatMap`). A token that names something adds what it stands
for to any accumulator (`Appends`): a leaf is added as it stands, and a type adds its marker when the
head has it. A dimension followed by removals of its leaves adds those that are not removed
(`turns_dim`).
-/

namespace Sift.Shorthand

/-- The accumulator that holds entries as they are written. -/
def holding (entries : List Entry) (neg : Negations) : Expansion :=
  ⟨entries.map Entry.text, neg⟩

/-- The tokens turn an accumulator of the first entries into one of the second, whatever has been
negated. -/
def Turns (tax : Taxonomy) (raws : List String) (before after : List Entry) : Prop :=
  ∀ neg, raws.foldlM (Expansion.step tax) (holding before neg) = .ok (holding after neg)

/-- A head of the taxonomy whose number is short enough to be read back. -/
structure Known (tax : Taxonomy) (head : Head) (n : Nat) : Prop where
  id : head.id = n
  short : Short n
  found : tax.head? n = some head
  wellFormed : head.WellFormed

variable {tax : Taxonomy} {before after : List Entry}

/-! ## Composing runs -/

theorem Turns.nil (es : List Entry) : Turns tax [] es es := fun _ => rfl

theorem Turns.append {raws raws' : List String} {es es₁ es₂ : List Entry}
    (h : Turns tax raws es es₁) (h' : Turns tax raws' es₁ es₂) :
    Turns tax (raws ++ raws') es es₂ := by
  intro neg
  rw [List.foldlM_append, h neg]
  exact h' neg

theorem Turns.flatMap {α : Type} {toks : α → List String} {added : α → List Entry} (xs : List α)
    (es : List Entry)
    (h : ∀ pre x post, xs = pre ++ x :: post →
      Turns tax (toks x) (es ++ pre.flatMap added) (es ++ pre.flatMap added ++ added x)) :
    Turns tax (xs.flatMap toks) es (es ++ xs.flatMap added) := by
  induction xs generalizing es with
  | nil =>
    rw [List.flatMap_nil, List.flatMap_nil, List.append_nil]
    exact Turns.nil es
  | cons x xs ih =>
    have hfirst : Turns tax (toks x) es (es ++ added x) := by simpa using h [] x xs rfl
    have hrest := ih (es ++ added x) fun pre y post hxs => by
      have := h (x :: pre) y post (by rw [hxs, List.cons_append])
      simpa [List.append_assoc] using this
    rw [List.flatMap_cons, List.flatMap_cons, ← List.append_assoc]
    exact hfirst.append hrest

theorem turns_of_read {raw : String} {token : Token} (hraw : raw ≠ "")
    (hread : Token.read raw = .ok token)
    (happly : ∀ neg, (holding before neg).apply tax raw token = holding after neg) :
    Turns tax [raw] before after := by
  intro neg
  rw [List.foldlM_cons, Expansion.step, if_neg hraw, hread]
  exact congrArg Except.ok (happly neg)

/-! ## Tokens that add entries -/

/-- The token adds the entries to any accumulator, and does nothing else. -/
def Appends (tax : Taxonomy) (raw : String) (entries : List String) : Prop :=
  ∀ state, Expansion.step tax state raw = .ok ⟨state.accumulator ++ entries, state.negations⟩

theorem Appends.turns {raw : String} {added : List Entry}
    (h : Appends tax raw (added.map Entry.text)) (es : List Entry) :
    Turns tax [raw] es (es ++ added) := by
  intro neg
  rw [List.foldlM_cons, h, holding, holding, List.map_append]
  rfl

theorem ne_empty_of_sought {raw : String} {token : Token} {n : Nat}
    (hread : Token.read raw = .ok token) (hsought : token.headSought? = some n) : raw ≠ "" := by
  rintro rfl
  obtain rfl : Token.literal "" = token := Except.ok.inj hread
  cases hsought

theorem appends_of_found {raw : String} {token : Token} {n : Nat} {head : Head}
    (hread : Token.read raw = .ok token) (hsought : token.headSought? = some n)
    (hfound : tax.head? n = some head) : Appends tax raw (expandIn head token) := by
  intro state
  rw [Expansion.step, if_neg (ne_empty_of_sought hread hsought), hread]
  cases token with
  | head | type | dim | typeDim | value =>
    obtain rfl := Option.some.inj hsought
    show Except.ok (state.apply tax raw _) = _
    simp only [Expansion.apply, emitted, Token.headSought?, Option.bind_some, hfound]
  | leaf | removal | negation | literal => cases hsought

theorem appends_of_unknown {raw : String} {token : Token} {n : Nat}
    (hread : Token.read raw = .ok token) (hsought : token.headSought? = some n)
    (hnone : tax.head? n = none) : Appends tax raw [] := by
  intro state
  rw [Expansion.step, if_neg (ne_empty_of_sought hread hsought), hread]
  cases token with
  | head | type | dim | typeDim | value =>
    obtain rfl := Option.some.inj hsought
    show Except.ok (state.apply tax raw _) = _
    simp only [Expansion.apply, emitted, Token.headSought?, Option.bind_some, hnone]
  | leaf | removal | negation | literal => cases hsought

theorem foldlM_appends {α : Type} {text : α → String} {added : α → List String} {xs : List α}
    (h : ∀ x ∈ xs, Appends tax (text x) (added x)) (state : Expansion) :
    (xs.map text).foldlM (Expansion.step tax) state =
      .ok ⟨state.accumulator ++ xs.flatMap added, state.negations⟩ := by
  induction xs generalizing state with
  | nil =>
    rw [List.flatMap_nil, List.append_nil]
    rfl
  | cons x xs ih =>
    rw [List.map_cons, List.foldlM_cons, h x (by simp), List.flatMap_cons, ← List.append_assoc]
    exact ih (fun y hy => h y (by simp [hy])) _

theorem appends_leafText {n : Nat} (hn : Short n) {t d v : String} (ht : isTypeKey t.toList = true)
    (hd : d ∈ dimensions) (hv : Text.isDigits v.toList = true) :
    Appends tax (leafText n t d v) [leafText n t d v] := by
  intro state
  have hraw : leafText n t d v ≠ "" := leafText_eq n t d v ▸ nameText_ne_empty n _
  rw [Expansion.step, if_neg hraw, read_leafText hn ht hd hv]
  rfl

/-! ## Tokens of a known head -/

section Known

variable {head : Head} {n : Nat}

theorem appends_headText (h : Known tax head n) :
    Appends tax (headText n) (head.typeKeys.map (markerText n)) := by
  have hadds := appends_of_found (read_headText h.short) rfl h.found
  rwa [expandIn, h.id] at hadds

theorem appends_typeText (h : Known tax head n) {t : String} (ht : isTypeKey t.toList = true) :
    Appends tax (typeText n t) (if t ∈ head.typeKeys then [markerText n t] else []) := by
  have hadds := appends_of_found (read_typeText h.short ht) rfl h.found
  simpa only [expandIn, h.id, List.contains_iff_mem] using hadds

theorem appends_dimText (h : Known tax head n) {t d : String} (ht : isTypeKey t.toList = true)
    (hd : d ∈ dimensions) : Appends tax (dimText n t d)
      (if t ∈ head.typeKeys then (head.applicable t d).map (leafText n t d) else []) := by
  have hadds := appends_of_found (read_dimText h.short ht hd) rfl h.found
  simpa only [expandIn, dimLeaves, h.id, List.contains_iff_mem] using hadds

theorem turns_headText (h : Known tax head n) (es : List Entry) :
    Turns tax [headText n] es (es ++ head.typeKeys.map (Entry.marker n)) := by
  refine Appends.turns ?_ es
  rw [List.map_map]
  exact appends_headText h

theorem turns_typeText (h : Known tax head n) {t : String} (ht : isTypeKey t.toList = true)
    (es : List Entry) :
    Turns tax [typeText n t] es
      (es ++ if t ∈ head.typeKeys then [Entry.marker n t] else []) := by
  refine Appends.turns ?_ es
  rw [apply_ite (List.map Entry.text)]
  exact appends_typeText h ht

theorem turns_dimText (h : Known tax head n) {t d : String} (ht : isTypeKey t.toList = true)
    (hd : d ∈ dimensions) (es : List Entry) :
    Turns tax [dimText n t d] es
      (es ++ if t ∈ head.typeKeys then (head.applicable t d).map (Entry.leaf n t d) else []) := by
  refine Appends.turns ?_ es
  rw [apply_ite (List.map Entry.text), List.map_map]
  exact appends_dimText h ht hd

theorem turns_leaves (hn : Short n) {t d : String}
    (ht : isTypeKey t.toList = true) (hd : d ∈ dimensions) {vs : List String}
    (hvs : ∀ v ∈ vs, Text.isDigits v.toList = true) (es : List Entry) :
    Turns tax (vs.map (leafText n t d)) es (es ++ vs.map (Entry.leaf n t d)) := by
  intro neg
  refine (foldlM_appends (fun v hv => appends_leafText hn ht hd (hvs v hv)) _).trans ?_
  rw [holding, holding, List.map_append, List.map_map, ← List.map_eq_flatMap]
  rfl

/-! ## Removals -/

theorem turns_removal (target : Entry) (hvalid : ∀ e ∈ before, e.Valid) (htarget : target.Valid) :
    Turns tax [removalText target.text] before (before.filter (· ≠ target)) := by
  refine turns_of_read (removalText_ne_empty _) (read_removalText _) fun neg => ?_
  have hfilter : (before.map Entry.text).filter (· != target.text) =
      (before.filter (· ≠ target)).map Entry.text := by
    rw [List.filter_map]
    congr 1
    refine List.filter_congr fun e he => ?_
    have hiff : e.text ≠ target.text ↔ e ≠ target :=
      not_congr ⟨Entry.text_injective (hvalid e he) htarget, fun h => by rw [h]⟩
    rw [Function.comp_apply, Bool.eq_iff_iff, bne_iff_ne, decide_eq_true_eq, hiff]
  simp only [Expansion.apply, holding, emitted, hfilter, List.append_nil]

theorem turns_removals (hn : Short n) {t d : String}
    (ht : isTypeKey t.toList = true) (hd : d ∈ dimensions) {vs : List String}
    (hvs : ∀ v ∈ vs, Text.isDigits v.toList = true) (hvalid : ∀ e ∈ before, e.Valid) :
    Turns tax (vs.map fun v => removalText (leafText n t d v)) before
      (before.filter fun e => e ∉ vs.map (Entry.leaf n t d)) := by
  induction vs generalizing before with
  | nil =>
    have hall : before.filter (fun e => e ∉ [].map (Entry.leaf n t d)) = before :=
      List.filter_eq_self.mpr fun e _ => by simp
    rw [hall]
    exact Turns.nil before
  | cons v vs ih =>
    have hone : Turns tax [removalText (leafText n t d v)] before
        (before.filter (· ≠ Entry.leaf n t d v)) :=
      turns_removal (.leaf n t d v) hvalid ⟨hn, ht, hd, hvs v (by simp)⟩
    have hleft : ∀ e ∈ before.filter (· ≠ Entry.leaf n t d v), e.Valid :=
      fun e he => hvalid e (List.mem_filter.mp he).1
    have hrest := ih (fun w hw => hvs w (by simp [hw])) hleft
    have hboth : (before.filter (· ≠ Entry.leaf n t d v)).filter
        (fun e => e ∉ vs.map (Entry.leaf n t d)) =
        before.filter fun e => e ∉ (v :: vs).map (Entry.leaf n t d) := by
      rw [List.filter_filter]
      refine List.filter_congr fun e _ => ?_
      rw [Bool.eq_iff_iff, Bool.and_eq_true]
      simp [and_comm]
    rw [hboth] at hrest
    exact hone.append hrest

/-- No entry is a leaf of the dimension. -/
def Avoids (entries : List Entry) (n : Nat) (t d : String) : Prop :=
  ∀ v, Entry.leaf n t d v ∉ entries

theorem turns_dim (h : Known tax head n) {t d : String} (ht : isTypeKey t.toList = true)
    (hd : d ∈ dimensions) {removed : List String} {es : List Entry}
    (hremoved : ∀ v ∈ removed, Text.isDigits v.toList = true) (hvalid : ∀ e ∈ es, e.Valid)
    (havoids : Avoids es n t d) :
    Turns tax (dimText n t d :: removed.map fun v => removalText (leafText n t d v)) es
      (es ++ if t ∈ head.typeKeys then
        ((head.applicable t d).filter fun v => v ∉ removed).map (Entry.leaf n t d) else []) := by
  have hdim := turns_dimText h ht hd es
  have hadded : ∀ e ∈ es ++ (if t ∈ head.typeKeys then
      (head.applicable t d).map (Entry.leaf n t d) else []), e.Valid := by
    intro e he
    rcases List.mem_append.mp he with he | he
    · exact hvalid e he
    · split at he
      · obtain ⟨v, hv, rfl⟩ := List.mem_map.mp he
        exact ⟨h.short, ht, hd, h.wellFormed.digits_of_mem_applicable hv⟩
      · cases he
  have hremovals : Turns tax _ _ _ := turns_removals h.short ht hd hremoved hadded
  have hkept : es.filter (fun e => e ∉ removed.map (Entry.leaf n t d)) = es := by
    refine List.filter_eq_self.mpr fun e he => ?_
    simp only [List.mem_map, not_exists, not_and, decide_eq_true_eq]
    rintro v - rfl
    exact havoids v he
  have hleft : (if t ∈ head.typeKeys then (head.applicable t d).map (Entry.leaf n t d)
        else []).filter (fun e => e ∉ removed.map (Entry.leaf n t d)) =
      if t ∈ head.typeKeys then
        ((head.applicable t d).filter fun v => v ∉ removed).map (Entry.leaf n t d) else [] := by
    split
    · rw [List.filter_map]
      congr 1
      refine List.filter_congr fun v _ => ?_
      have hiff : Entry.leaf n t d v ∈ removed.map (Entry.leaf n t d) ↔ v ∈ removed := by simp
      rw [Function.comp_apply, Bool.eq_iff_iff, decide_eq_true_eq, decide_eq_true_eq, hiff]
    · rfl
  rw [List.filter_append, hkept, hleft] at hremovals
  exact hdim.append hremovals

end Known

/-! ## Reading the selection off -/

theorem foldlM_select_text (es : List Entry) (h : ∀ e ∈ es, e.Valid) (sel : Selection) :
    (es.map Entry.text).foldlM (fun sel raw => do return select sel (← Entry.read raw)) sel =
      .ok (es.foldl (fun sel entry => select sel (some entry)) sel) := by
  induction es generalizing sel with
  | nil => rfl
  | cons e es ih =>
    rw [List.map_cons, List.foldlM_cons, Entry.read_text (h e (by simp)), List.foldl_cons]
    exact ih (fun e' he' => h e' (by simp [he'])) _

/-- The selection of an accumulator is that of its entries. -/
theorem selectionOf_append (es : List Entry) (h : ∀ e ∈ es, e.Valid) (raws : List String)
    (hsilent : ∀ raw ∈ raws, Entry.read raw = .ok none) :
    selectionOf (es.map Entry.text ++ raws) = .ok (selected es) := by
  rw [selectionOf, List.foldlM_append, foldlM_select_text es h]
  exact foldlM_select_silent raws hsilent _

theorem expandTree_of_turns {raw : String} {es : List Entry} (hraw : ',' ∉ raw.toList)
    (h : Turns tax [raw] [] es) (hvalid : ∀ e ∈ es, e.Valid) :
    expandTree tax raw = .ok (selected es, .empty) := by
  have hrun : expandTokens tax [raw] = .ok (holding es .empty) := h .empty
  have hread := selectionOf_append es hvalid [] (by simp)
  rw [List.append_nil] at hread
  rw [expandTree, Text.split_of_not_mem hraw, expand, hrun]
  show (selectionOf (es.map Entry.text) >>= _) = _
  rw [hread]
  rfl

end Sift.Shorthand
