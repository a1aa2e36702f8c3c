import Mathlib.Data.List.Induction
import Sift.Proofs.Shorthand.Legible
import Sift.Proofs.Shorthand.Recorded

/-!
# Negations that are recorded and negations that are left

Every negation among tokens is recorded (`negations_expandTokens`), while a removal drops the entries
equal to its target, negations among them. So the entries that are left are the negations that no
later token removes (`negated_accumulator`), and they record less than the tokens did when a negation
is removed again (`not_recorded_removed`).

Negations are recorded head by head and selector by selector, each at its first occurrence
(`keys_addAll`, `selectors_addAll`). So what is recorded is what the entries that are left record
exactly when leaving out the removed negations does not change the order of first occurrences
(`negations_eq_recorded_iff`).
-/

namespace Sift

/-! ## Maps of negations -/

namespace Negations

/-- Negates selectors one after the other. -/
def addAll (neg : Negations) (given : List (Int × String)) : Negations :=
  given.foldl (fun neg e => neg.add e.1 e.2) neg

theorem entries_eq (neg : Negations) :
    neg.heads.entries = neg.heads.keys.map fun head => (head, neg.selectors head) := by
  rw [OrderedMap.keys, List.map_map]
  refine (List.map_id _).symm.trans (List.map_congr_left fun e he => ?_)
  rw [Function.comp_apply, selectors, OrderedMap.get?_eq_some_iff.mpr he]
  rfl

theorem eq_iff {neg neg' : Negations} : neg = neg' ↔
    neg.heads.keys = neg'.heads.keys ∧ ∀ head, neg.selectors head = neg'.selectors head := by
  constructor
  · rintro rfl
    exact ⟨rfl, fun _ => rfl⟩
  · rintro ⟨hkeys, hselectors⟩
    obtain ⟨heads⟩ := neg
    obtain ⟨heads'⟩ := neg'
    refine congrArg Negations.mk (OrderedMap.ext ?_)
    have hentries := entries_eq ⟨heads⟩
    rw [hkeys, funext hselectors, ← entries_eq ⟨heads'⟩] at hentries
    exact hentries

end Negations

namespace Shorthand

variable {tax : Taxonomy} {raw : String}

/-- The head and the selector that a token negates. -/
def Token.negates? : Token → Option (Int × String)
  | .negation _ n selector => some (n, selector)
  | _ => none

/-- The head and the selector that a text negates. -/
def negation? (raw : String) : Option (Int × String) :=
  (Token.read raw).toOption.bind Token.negates?

/-- What tokens negate, one after the other. -/
def negated (raws : List String) : List (Int × String) := raws.filterMap negation?

/-- The negations that tokens record. -/
def recorded (raws : List String) : Negations := Negations.empty.addAll (negated raws)

/-- The tokens that no later token removes. -/
def unremoved : List String → List String
  | [] => []
  | raw :: rest => if removalText raw ∈ rest then unremoved rest else raw :: unremoved rest

/-- The selectors given for a head. -/
def selectorsOf (head : Int) (given : List (Int × String)) : List String :=
  (given.filter fun e => e.1 = head).map Prod.snd

/-- Heads, and the selectors of each head, occur first in the same order. -/
structure SameFirsts (given given' : List (Int × String)) : Prop where
  heads : (given.map Prod.fst).eraseDups = (given'.map Prod.fst).eraseDups
  selectors : ∀ head, (selectorsOf head given).eraseDups = (selectorsOf head given').eraseDups

theorem selectorsOf_eq_nil {given : List (Int × String)} {head : Int}
    (h : head ∉ given.map Prod.fst) : selectorsOf head given = [] := by
  rw [selectorsOf, List.map_eq_nil_iff, List.filter_eq_nil_iff]
  intro e he hhead
  exact h (List.mem_map.mpr ⟨e, he, of_decide_eq_true hhead⟩)

instance (given given' : List (Int × String)) : Decidable (SameFirsts given given') :=
  decidable_of_iff ((given.map Prod.fst).eraseDups = (given'.map Prod.fst).eraseDups ∧
      ∀ head ∈ given.map Prod.fst ++ given'.map Prod.fst,
        (selectorsOf head given).eraseDups = (selectorsOf head given').eraseDups) <| by
    refine ⟨fun h => ⟨h.1, fun head => ?_⟩, fun h => ⟨h.heads, fun head _ => h.selectors head⟩⟩
    by_cases hhead : head ∈ given.map Prod.fst ++ given'.map Prod.fst
    · exact h.2 head hhead
    · rw [List.mem_append, not_or] at hhead
      rw [selectorsOf_eq_nil hhead.1, selectorsOf_eq_nil hhead.2]

/-! ## First occurrences -/

theorem eraseDups_concat {α : Type} [DecidableEq α] (xs : List α) (x : α) :
    (xs ++ [x]).eraseDups = if x ∈ xs then xs.eraseDups else xs.eraseDups ++ [x] := by
  rw [List.eraseDups_append]
  by_cases h : x ∈ xs
  · simp [List.removeAll, h]
  · simp [List.removeAll, h, List.eraseDups_cons]

theorem keys_addAll (given : List (Int × String)) :
    (Negations.empty.addAll given).heads.keys = (given.map Prod.fst).eraseDups := by
  induction given using List.reverseRecOn with
  | nil => rfl
  | append_singleton given e ih =>
    rw [Negations.addAll, List.foldl_append]
    show ((Negations.empty.addAll given).add e.1 e.2).heads.keys = _
    rw [Negations.add, OrderedMap.keys_alter, ih, List.map_append, List.map_singleton,
      eraseDups_concat]
    simp only [List.mem_eraseDups]

theorem selectors_addAll (given : List (Int × String)) (head : Int) :
    (Negations.empty.addAll given).selectors head = (selectorsOf head given).eraseDups := by
  induction given using List.reverseRecOn with
  | nil => rfl
  | append_singleton given e ih =>
    rw [Negations.addAll, List.foldl_append]
    show ((Negations.empty.addAll given).add e.1 e.2).selectors head = _
    rw [Negations.selectors] at ih
    rw [Negations.selectors, Negations.add, OrderedMap.get?_alter, selectorsOf, List.filter_append]
    by_cases hhead : e.1 = head
    · subst hhead
      rw [if_pos rfl, Option.getD_some, ih, List.filter_cons_of_pos (by simp), List.filter_nil,
        List.map_append, List.map_singleton, eraseDups_concat, insertNew]
      simp only [List.mem_eraseDups]
      rfl
    · rw [if_neg (Ne.symm hhead), ih, List.filter_cons_of_neg (by simpa using hhead),
        List.filter_nil, List.append_nil]
      rfl

theorem addAll_eq_iff {given given' : List (Int × String)} :
    Negations.empty.addAll given = Negations.empty.addAll given' ↔ SameFirsts given given' := by
  rw [Negations.eq_iff]
  simp only [keys_addAll, selectors_addAll]
  exact ⟨fun h => ⟨h.1, h.2⟩, fun h => ⟨h.heads, h.selectors⟩⟩

/-! ## What a step does -/

theorem negated_cons (raw : String) (raws : List String) :
    negated (raw :: raws) = (negation? raw).toList ++ negated raws := by
  rw [negated, List.filterMap_cons]
  cases negation? raw <;> rfl

theorem negation?_of_read {token : Token} (h : Token.read raw = .ok token) :
    negation? raw = token.negates? := by
  rw [negation?, h]
  rfl

theorem negation?_eq_none (h : raw.toList.head? ≠ some '~') : negation? raw = none := by
  cases hread : Token.read raw with
  | error fault =>
    rw [negation?, hread]
    rfl
  | ok token =>
    rw [negation?_of_read hread]
    cases token with
    | negation raw' n selector =>
      obtain ⟨⟨cs, hcs⟩, -⟩ := readNegation_of_read hread
      rw [hcs] at h
      exact absurd rfl h
    | _ => rfl

theorem negation?_of_mem_expandIn {head : Head} {token : Token} {entry : String}
    (h : entry ∈ expandIn head token) : negation? entry = none := by
  have hmarker : ∀ t, negation? (markerText head.id t) = none := fun t =>
    negation?_eq_none (by simp [markerText])
  have hleaf : ∀ t d v, negation? (leafText head.id t d v) = none := fun t d v =>
    negation?_eq_none (by simp [leafText, dimText, typeText, headText])
  have hleaves : ∀ t d, entry ∈ dimLeaves head t d → negation? entry = none := by
    intro t d hmem
    obtain ⟨v, -, rfl⟩ := List.mem_map.mp hmem
    exact hleaf t d v
  cases token with
  | head _ =>
    obtain ⟨t, -, rfl⟩ := List.mem_map.mp h
    exact hmarker t
  | type _ t =>
    rw [expandIn] at h
    split at h
    · obtain rfl := List.mem_singleton.mp h
      exact hmarker t
    · cases h
  | dim _ d =>
    obtain ⟨t, -, h⟩ := List.mem_flatMap.mp h
    exact hleaves t d h
  | typeDim _ t d =>
    rw [expandIn] at h
    split at h
    · exact hleaves t d h
    · cases h
  | value _ d v =>
    obtain ⟨t, -, rfl⟩ := List.mem_map.mp h
    exact hleaf t d v
  | leaf | removal | negation | literal => cases h

theorem emitted_cases (tax : Taxonomy) {token : Token} (h : Token.read raw = .ok token) :
    emitted tax raw token = [raw] ∨
      (negation? raw = none ∧ ∀ entry ∈ emitted tax raw token, negation? entry = none) := by
  have hname : ∀ n, token.headSought? = some n → ∀ entry ∈ emitted tax raw token,
      negation? entry = none := by
    intro n hsought entry hentry
    obtain ⟨head, -, hmem⟩ := mem_expandIn_of_mem_emitted hsought hentry
    exact negation?_of_mem_expandIn hmem
  cases token with
  | head | type | dim | typeDim | value => exact .inr ⟨negation?_of_read h, hname _ rfl⟩
  | removal => exact .inr ⟨negation?_of_read h, fun entry hentry => nomatch hentry⟩
  | leaf | literal => exact .inl rfl
  | negation raw' n selector =>
    obtain ⟨rfl, -⟩ := negation_of_read h
    exact .inl rfl

theorem negations_step {state state' : Expansion} (h : Expansion.step tax state raw = .ok state') :
    state'.negations = state.negations.addAll (negation? raw).toList := by
  rw [Expansion.step] at h
  split at h
  · rename_i hempty
    subst hempty
    obtain rfl := Except.ok.inj h
    rfl
  · obtain ⟨token, hread, h⟩ := bind_eq_ok h
    obtain rfl := Except.ok.inj h
    rw [negation?_of_read hread]
    cases token <;> rfl

/-! ## What a run does -/

theorem negations_foldlM {raws : List String} {state state' : Expansion}
    (h : raws.foldlM (Expansion.step tax) state = .ok state') :
    state'.negations = state.negations.addAll (negated raws) := by
  induction raws generalizing state with
  | nil =>
    obtain rfl := Except.ok.inj h
    rfl
  | cons raw raws ih =>
    rw [List.foldlM_cons] at h
    obtain ⟨next, hstep, h⟩ := bind_eq_ok h
    rw [ih h, negations_step hstep, negated_cons]
    exact (List.foldl_append ..).symm

theorem negations_expandTokens {raws : List String} {state : Expansion}
    (h : expandTokens tax raws = .ok state) : state.negations = recorded raws :=
  negations_foldlM h

theorem negated_unremoved_cons (raw : String) (raws : List String) :
    negated (unremoved (raw :: raws)) =
      (if removalText raw ∈ raws then [] else (negation? raw).toList) ++ negated (unremoved raws) := by
  rw [unremoved]
  split
  · rfl
  · exact negated_cons raw _

theorem negated_alone (tax : Taxonomy) (raw : String) (later : List String) :
    negated ((alone tax raw).filter fun entry => removalText entry ∉ later) =
      if removalText raw ∈ later then [] else (negation? raw).toList := by
  cases hread : Token.read raw with
  | error fault =>
    rw [alone_of_error tax hread, negation?, hread]
    split <;> rfl
  | ok token =>
    rw [alone_eq tax hread]
    by_cases hempty : raw = ""
    · subst hempty
      rw [if_pos rfl]
      split <;> rfl
    · rw [if_neg hempty]
      rcases emitted_cases tax hread with hself | ⟨hnone, hentries⟩
      · rw [hself]
        by_cases hremoved : removalText raw ∈ later
        · rw [List.filter_cons_of_neg (by simpa using hremoved), if_pos hremoved]
          rfl
        · rw [List.filter_cons_of_pos (by simpa using hremoved), if_neg hremoved, List.filter_nil,
            negated_cons]
          exact List.append_nil _
      · rw [hnone, Option.toList_none, ite_self, negated, List.filterMap_eq_nil_iff]
        exact fun entry hentry => hentries entry (List.mem_filter.mp hentry).1

theorem negated_survivors (tax : Taxonomy) (raws : List String) :
    negated (survivors tax raws) = negated (unremoved raws) := by
  induction raws with
  | nil => rfl
  | cons raw raws ih =>
    rw [negated_unremoved_cons, ← ih, ← negated_alone tax raw raws, survivors]
    exact List.filterMap_append

/-- The negations that are left are those that no later token removes. -/
theorem negated_accumulator {raws : List String} {state : Expansion}
    (h : expandTokens tax raws = .ok state) :
    negated state.accumulator = negated (unremoved raws) := by
  rw [accumulator_eq_survivors h, negated_survivors]

/-! ## What is recorded and what is left -/

/-- No negation is removed by a later token. -/
def KeepsNegations (raws : List String) : Prop :=
  ∀ pre raw post, raws = pre ++ raw :: post → removalText raw ∈ post → negation? raw = none

theorem negated_unremoved {raws : List String} (h : KeepsNegations raws) :
    negated (unremoved raws) = negated raws := by
  induction raws with
  | nil => rfl
  | cons raw raws ih =>
    have hrest : KeepsNegations raws := fun pre r post heq hremoved =>
      h (raw :: pre) r post (by rw [heq, List.cons_append]) hremoved
    rw [negated_unremoved_cons, ih hrest, negated_cons]
    split
    · rename_i hremoved
      rw [h [] raw raws rfl hremoved]
      rfl
    · rfl

theorem negations_eq_recorded {raws : List String} {state : Expansion}
    (h : expandTokens tax raws = .ok state) (hkeeps : KeepsNegations raws) :
    state.negations = recorded state.accumulator := by
  rw [negations_expandTokens h, recorded, recorded, negated_accumulator h,
    negated_unremoved hkeeps]

/-- What is recorded is what the entries that are left record, exactly when the negations that no later
token removes have heads and selectors in the same order as all of them. The entries that are left can
be run again, and the same condition tells whether that records the same. -/
theorem negations_eq_recorded_iff {raws : List String} {state : Expansion}
    (h : expandTokens tax raws = .ok state) :
    (state.negations = recorded state.accumulator ↔
      SameFirsts (negated raws) (negated (unremoved raws))) ∧
    (tax.Keyed → ∃ again, expandTokens tax state.accumulator = .ok again) ∧
    ∀ again, expandTokens tax state.accumulator = .ok again →
      (again.negations = state.negations ↔
        SameFirsts (negated raws) (negated (unremoved raws))) := by
  have hleft : recorded state.accumulator = .addAll .empty (negated (unremoved raws)) := by
    rw [recorded, negated_accumulator h]
  refine ⟨?_, fun htax => exists_expandTokens_accumulator htax h, fun again hagain => ?_⟩
  · rw [negations_expandTokens h, hleft, recorded, addAll_eq_iff]
  · rw [negations_expandTokens h, negations_expandTokens hagain, eq_comm, hleft, recorded,
      addAll_eq_iff]

/-- A negation that is removed in one spelling and left in another. -/
theorem negations_eq_recorded_default :
    let raws := ["~cat0_z1", "~cat00_z1", "cat0_z1", "!~cat0_z1", "~cat2", "~cat0_b3", "!~cat9"]
    ∃ state, expandTokens .default raws = .ok state ∧
      state.accumulator = ["~cat00_z1", "sub0_z1", "~cat2", "~cat0_b3"] ∧
      state.negations = recorded state.accumulator := by
  intro raws
  obtain ⟨state, hrun⟩ := exists_of_isOk (x := expandTokens .default raws) (by decide)
  have hleft : (expandTokens .default raws).toOption.map (·.accumulator) =
      some ["~cat00_z1", "sub0_z1", "~cat2", "~cat0_b3"] := by decide
  rw [hrun] at hleft
  refine ⟨state, hrun, Option.some.inj hleft, ?_⟩
  exact (negations_eq_recorded_iff hrun).1.mpr (by decide)

/-- A tree that negates a type and removes the negation again: the type is still negated, but the
accumulator is empty. -/
theorem not_recorded_removed : ¬ ∀ (tax : Taxonomy) (tree : String) (sel : Selection)
    (neg : Negations) (state : Expansion), expandTree tax tree = .ok (sel, neg) →
      expandTokens tax (Text.split ',' tree) = .ok state → neg = recorded state.accumulator := by
  intro h
  have hfalse := h .default "~cat0_z1,!~cat0_z1" .empty (.add .empty 0 "z1")
    ⟨[], .add .empty 0 "z1"⟩ rfl rfl
  exact absurd hfalse (by decide)

end Shorthand

end Sift
