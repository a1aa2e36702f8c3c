import Sift.Proofs.Outcome
import Sift.Proofs.Shorthand.Grammar
import Sift.Shorthand.Expand

/-!
# What tokens leave

What is left of a run is, token by token, what the token leaves on its own and no later token removes
(`accumulator_eq_survivors`). So an entry is left exactly when some token adds it and no later token
removes it (`mem_accumulator`). A removal is told by its text alone, so the later tokens need not be
read for this.
-/

namespace Sift.Shorthand

variable {tax : Taxonomy} {raw entry : String} {token : Token}

/-! ## Reading a token -/

theorem token_of_read (h : Token.read raw = .ok token) :
    token = .literal raw ∨ (∃ target, raw = removalText target ∧ token = .removal target) ∨
      (∃ n selector, token = .negation raw n selector) ∨
      ∃ digits more parts n, headAndFields? "cat".toList raw.toList = some (digits, more) ∧
        more.mapM part? = some parts ∧ Integer.ofRun digits = .ok n ∧ named? n parts = some token := by
  unfold Token.read at h
  split at h
  · rename_i target hraw
    refine .inr (.inl ⟨String.ofList target, ?_, (Except.ok.inj h).symm⟩)
    rw [← String.toList_inj, hraw]
    simp [removalText]
  · unfold readNegation at h
    split at h
    · exact .inl (Except.ok.inj h).symm
    · split at h
      · obtain ⟨n, -, h⟩ := bind_eq_ok h
        exact .inr (.inr (.inl ⟨n, _, (Except.ok.inj h).symm⟩))
      · exact .inl (Except.ok.inj h).symm
  · unfold readNamed at h
    split at h
    · exact .inl (Except.ok.inj h).symm
    · rename_i digits more hhead
      split at h
      · exact .inl (Except.ok.inj h).symm
      · rename_i parts hparts
        split at h
        · exact .inl (Except.ok.inj h).symm
        · rename_i first hfirst
          obtain ⟨n, hrun, h⟩ := bind_eq_ok h
          have hsome : (named? n parts).isSome = true := by
            rw [isSome_named? n 0, hfirst]
            rfl
          obtain ⟨named, hnamed⟩ := Option.isSome_iff_exists.mp hsome
          have htoken : (named? n parts).getD (.literal raw) = token := Except.ok.inj h
          rw [hnamed] at htoken
          obtain rfl : named = token := htoken
          exact .inr (.inr (.inr ⟨digits, more, parts, n, hhead, hparts, hrun, hnamed⟩))
  · exact .inl (Except.ok.inj h).symm

theorem named?_ne_removal {n : Nat} {parts : List Part} {target : String} :
    named? n parts ≠ some (.removal target) := by
  intro h
  unfold named? at h
  split at h <;> cases h

theorem eq_removal_iff (h : Token.read raw = .ok token) {target : String} :
    token = .removal target ↔ raw = removalText target := by
  constructor
  · rintro rfl
    rcases token_of_read h with hliteral | ⟨target', rfl, heq⟩ | ⟨n, selector, heq⟩ |
      ⟨digits, more, parts, n, -, -, -, hnamed⟩
    · cases hliteral
    · obtain rfl := Token.removal.inj heq
      rfl
    · cases heq
    · exact absurd hnamed named?_ne_removal
  · rintro rfl
    rw [read_removalText] at h
    exact (Except.ok.inj h).symm

/-! ## Steps -/

/-- Read on its own, the token adds the entry. -/
def Adds (tax : Taxonomy) (raw entry : String) : Prop :=
  raw ≠ "" ∧ ∃ token, Token.read raw = .ok token ∧ entry ∈ emitted tax raw token

/-- What a token leaves when nothing else is run. -/
def alone (tax : Taxonomy) (raw : String) : List String :=
  match expandTokens tax [raw] with
  | .ok state => state.accumulator
  | .error _ => []

theorem alone_eq (tax : Taxonomy) (h : Token.read raw = .ok token) :
    alone tax raw = if raw = "" then [] else emitted tax raw token := by
  rw [alone, expandTokens, List.foldlM_cons, Expansion.step, h]
  by_cases hempty : raw = ""
  · rw [if_pos hempty, if_pos hempty]
    rfl
  · rw [if_neg hempty, if_neg hempty]
    cases token <;> rfl

theorem alone_of_error (tax : Taxonomy) {fault : Integer.Fault}
    (h : Token.read raw = .error fault) : alone tax raw = [] := by
  have hne : raw ≠ "" := by
    rintro rfl
    cases h
  rw [alone, expandTokens, List.foldlM_cons, Expansion.step, if_neg hne, h]
  rfl

theorem mem_alone : entry ∈ alone tax raw ↔ Adds tax raw entry := by
  cases hread : Token.read raw with
  | error fault => simp [alone_of_error tax hread, Adds, hread]
  | ok token =>
    rw [alone_eq tax hread, Adds, hread]
    split
    · rename_i hempty
      simp [hempty]
    · rename_i hne
      simp [hne]

theorem accumulator_step {state state' : Expansion} (h : Expansion.step tax state raw = .ok state') :
    state'.accumulator =
      state.accumulator.filter (fun entry => raw ≠ removalText entry) ++ alone tax raw := by
  have hkept : (∀ entry, raw ≠ removalText entry) →
      state.accumulator.filter (fun entry => raw ≠ removalText entry) = state.accumulator :=
    fun hne => List.filter_eq_self.mpr fun entry _ => decide_eq_true (hne entry)
  rw [Expansion.step] at h
  split at h
  · rename_i hempty
    subst hempty
    obtain rfl := Except.ok.inj h
    rw [hkept fun entry => (removalText_ne_empty entry).symm]
    exact (List.append_nil _).symm
  · rename_i hne
    obtain ⟨token, hread, h⟩ := bind_eq_ok h
    obtain rfl := Except.ok.inj h
    rw [alone_eq tax hread, if_neg hne]
    cases token with
    | removal target =>
      refine congrArg (· ++ _) (List.filter_congr fun entry _ => ?_)
      obtain rfl : raw = removalText target := (eq_removal_iff hread).mp rfl
      rw [Bool.eq_iff_iff, bne_iff_ne, decide_eq_true_eq]
      exact not_congr ⟨fun heq => by rw [heq], fun heq => (removalText_injective heq).symm⟩
    | head | type | dim | typeDim | value | leaf | negation | literal =>
      rw [hkept fun entry heq => by cases (eq_removal_iff hread).mpr heq]
      rfl

/-! ## Runs -/

/-- What each token leaves on its own and no later token removes, in the order of the tokens. -/
def survivors (tax : Taxonomy) : List String → List String
  | [] => []
  | raw :: later =>
    (alone tax raw).filter (fun entry => removalText entry ∉ later) ++ survivors tax later

theorem accumulator_foldlM {raws : List String} {state state' : Expansion}
    (h : raws.foldlM (Expansion.step tax) state = .ok state') : state'.accumulator =
      state.accumulator.filter (fun entry => removalText entry ∉ raws) ++ survivors tax raws := by
  -- By induction on the tokens: what stands in front of a step is only thinned out by the later ones.
  induction raws generalizing state with
  | nil =>
    obtain rfl := Except.ok.inj h
    rw [List.filter_eq_self.mpr (by simp), survivors, List.append_nil]
  | cons raw raws ih =>
    rw [List.foldlM_cons] at h
    obtain ⟨next, hstep, h⟩ := bind_eq_ok h
    have hkept : (state.accumulator.filter fun entry => raw ≠ removalText entry).filter
        (fun entry => removalText entry ∉ raws) =
        state.accumulator.filter fun entry => removalText entry ∉ raw :: raws := by
      rw [List.filter_filter]
      refine List.filter_congr fun entry _ => ?_
      simp [Bool.and_comm, eq_comm]
    rw [ih h, accumulator_step hstep, List.filter_append, hkept, survivors, List.append_assoc]

theorem accumulator_eq_survivors {raws : List String} {state : Expansion}
    (h : expandTokens tax raws = .ok state) : state.accumulator = survivors tax raws :=
  accumulator_foldlM h

/-- Some token adds the entry, and no token behind it removes the entry. -/
def Survives (tax : Taxonomy) (raws : List String) (entry : String) : Prop :=
  ∃ pre raw post, raws = pre ++ raw :: post ∧ Adds tax raw entry ∧ removalText entry ∉ post

theorem survives_cons {raws : List String} : Survives tax (raw :: raws) entry ↔
    (Adds tax raw entry ∧ removalText entry ∉ raws) ∨ Survives tax raws entry := by
  constructor
  · rintro ⟨pre, raw', post, heq, hadds, hpost⟩
    cases pre with
    | nil =>
      obtain ⟨rfl, rfl⟩ := List.cons.inj heq
      exact .inl ⟨hadds, hpost⟩
    | cons p pre => exact .inr ⟨pre, raw', post, (List.cons.inj heq).2, hadds, hpost⟩
  · rintro (⟨hadds, hpost⟩ | ⟨pre, raw', post, rfl, hadds, hpost⟩)
    · exact ⟨[], raw, raws, rfl, hadds, hpost⟩
    · exact ⟨raw :: pre, raw', post, rfl, hadds, hpost⟩

theorem mem_survivors {raws : List String} :
    entry ∈ survivors tax raws ↔ Survives tax raws entry := by
  induction raws with
  | nil => simp [survivors, Survives]
  | cons raw raws ih =>
    rw [survivors, List.mem_append, List.mem_filter, decide_eq_true_eq, mem_alone, ih, survives_cons]

/-- What is left of a run: every entry that a token adds and no later token removes. -/
theorem mem_accumulator {raws : List String} {state : Expansion}
    (h : expandTokens tax raws = .ok state) :
    entry ∈ state.accumulator ↔ Survives tax raws entry := by
  rw [accumulator_eq_survivors h, mem_survivors]

end Sift.Shorthand
