import Mathlib.Data.List.Perm.Subperm
import Sift.Proofs.Selection.Lookup
import Sift.Proofs.Shorthand.Shape

/-!
# Heads do not interfere

A token acts on one head at most: what it adds is read as entries of the head that it names, what it
removes is read as its target is, and what it negates is in the head that it names. So the entries of
one head, and its negations, come out of the tokens that name the head alone (`SameIn`), and the order
in which tokens of different heads stand does not matter.
-/

namespace Sift

theorem OrderedMap.agreesBy_of_get? {κ ν : Type} [DecidableEq κ] {agree : ν → ν → Bool}
    (hrefl : ∀ v, agree v v = true) {m n : OrderedMap κ ν} (h : ∀ k, m.get? k = n.get? k) :
    m.agreesBy agree n = true := by
  have hsub : ∀ {m n : OrderedMap κ ν}, (∀ k, m.get? k = n.get? k) → m.size ≤ n.size := by
    intro m n h
    have hkeys : m.keys ⊆ n.keys := by
      intro k hk
      rw [mem_keys_iff] at hk ⊢
      exact h k ▸ hk
    have hle := (List.subperm_of_subset m.nodup_keys hkeys).length_le
    simpa [keys, size] using hle
  have hsize : m.size = n.size := Nat.le_antisymm (hsub h) (hsub fun k => (h k).symm)
  rw [agreesBy, hsize, beq_self_eq_true, Bool.true_and, List.all_eq_true]
  intro e he
  rw [← h, get?_eq_some_iff.mpr he]
  exact hrefl e.2

theorem Selection.agrees_of_get? {sel sel' : Selection}
    (h : ∀ head, sel.heads.get? head = sel'.heads.get? head) : sel.agrees sel' = true :=
  OrderedMap.agreesBy_of_get? (fun _ => OrderedMap.agreesBy_of_get?
    (fun _ => OrderedMap.agreesBy_of_get? (fun _ => beq_self_eq_true _) fun _ => rfl)
    fun _ => rfl) h

theorem Negations.agrees_of_get? {neg neg' : Negations}
    (h : ∀ head, neg.heads.get? head = neg'.heads.get? head) : neg.agrees neg' = true :=
  OrderedMap.agreesBy_of_get? (fun _ => beq_self_eq_true _) h

namespace Shorthand

variable {tax : Taxonomy} {raw : String} {h : Int} {n : Nat}

/-! ## The head that a token names -/

/-- The head that a token is about. A removal is about none: what it removes is a text. -/
def Token.about? : Token → Option Nat
  | .head n | .type n _ | .dim n _ | .typeDim n _ _ | .value n _ _ | .leaf n _ _ _
  | .negation _ n _ => some n
  | .removal _ | .literal _ => none

/-- A token without the mark of a removal. -/
def bare (raw : String) : String :=
  match raw.toList with
  | '!' :: target => String.ofList target
  | _ => raw

/-- The text is read as a token about the head. -/
def isAbout (h : Int) (raw : String) : Bool :=
  match Token.read raw with
  | .ok token => token.about?.any fun n : Nat => (n : Int) = h
  | .error _ => false

/-- The text is read as an entry of the head. -/
def carries (h : Int) (raw : String) : Bool :=
  match Entry.read raw with
  | .ok entry => entry.any fun entry => (entry.head : Int) = h
  | .error _ => false

/-- The token, or what it removes, is read as one of the head, among tokens or among entries. -/
def names (h : Int) (raw : String) : Bool := isAbout h (bare raw) || carries h (bare raw)

theorem isAbout_iff : isAbout h raw = true ↔
    ∃ token n, Token.read raw = .ok token ∧ token.about? = some n ∧ (n : Int) = h := by
  rw [isAbout]
  cases Token.read raw with
  | error fault => simp
  | ok token =>
    simp only [Except.ok.injEq, Option.any_eq_true, decide_eq_true_eq]
    exact ⟨fun ⟨n, hn⟩ => ⟨token, n, rfl, hn⟩, fun ⟨_, n, rfl, hn⟩ => ⟨n, hn⟩⟩

theorem carries_iff : carries h raw = true ↔
    ∃ entry, Entry.read raw = .ok (some entry) ∧ (entry.head : Int) = h := by
  rw [carries]
  cases Entry.read raw with
  | error fault => simp
  | ok entry => simp [Option.any_eq_true]

theorem bare_removalText (target : String) : bare (removalText target) = target := by
  have hlist : (removalText target).toList = '!' :: target.toList := by simp [removalText]
  simp [bare, hlist]

theorem bare_of_read {token : Token} (hread : Token.read raw = .ok token)
    (hother : ∀ target, token ≠ .removal target) : bare raw = raw := by
  rw [bare]
  split
  · rename_i target hraw
    rw [Token.read, hraw] at hread
    exact absurd (Except.ok.inj hread).symm (hother _)
  · rfl

/-! ## One head for each text -/

theorem digits_of_read_entry {entry : Entry} (hread : Entry.read raw = .ok (some entry)) :
    ∃ lead ∈ ["cat", "sub"], ∃ digits more,
      headAndFields? lead.toList raw.toList = some (digits, more) ∧
        Integer.ofRun digits = .ok entry.head := by
  cases entry with
  | leaf n t d v =>
    obtain ⟨digits, more, hhead, -, hrun⟩ := (Shape.readEntry_iff (s := .leaf t d v) rfl).mp hread
    exact ⟨"cat", by simp, digits, more, hhead, hrun⟩
  | marker n t =>
    obtain ⟨digits, more, hhead, -, hrun⟩ := (Shape.readEntry_iff (s := .marker t) rfl).mp hread
    exact ⟨"sub", by simp, digits, more, hhead, hrun⟩

theorem head_of_startsWithHead (hstart : StartsWithHead n raw) {entry : Entry}
    (hread : Entry.read raw = .ok (some entry)) : entry.head = n := by
  obtain ⟨lead, hlead, digits, more, hhead, hrun⟩ := digits_of_read_entry hread
  rw [digits_of_startsWithHead hstart hlead hhead, Integer.ofRun] at hrun
  split at hrun
  · cases hrun
  · rw [Text.ofDigits_decimal] at hrun
    exact (Except.ok.inj hrun).symm

theorem about?_of_named? {parts : List Part} {token : Token} (h : named? n parts = some token) :
    token.about? = some n := by
  unfold named? at h
  split at h
  all_goals cases h
  all_goals rfl

theorem head_of_read {token : Token} {entry : Entry} (hread : Token.read raw = .ok token)
    (habout : token.about? = some n) (hentry : Entry.read raw = .ok (some entry)) :
    entry.head = n := by
  obtain ⟨lead, hlead, digits, more, hhead, hrun⟩ := digits_of_read_entry hentry
  have hstart : ∃ c ∈ ['c', 's'], raw.toList.head? = some c := by
    rcases List.mem_pair.mp hlead with rfl | rfl
    · exact ⟨'c', by simp, head?_of_headAndFields? hhead⟩
    · exact ⟨'s', by simp, head?_of_headAndFields? hhead⟩
  rcases token_of_read hread with rfl | ⟨target, -, rfl⟩ | ⟨m, selector, rfl⟩ |
    ⟨digits', more', parts, m, hhead', -, hrun', hnamed⟩
  · cases habout
  · cases habout
  · obtain ⟨⟨rest, hraw⟩, -⟩ := readNegation_of_read hread
    rw [hraw] at hstart
    simp at hstart
  · rcases List.mem_pair.mp hlead with rfl | rfl
    · obtain ⟨rfl, rfl⟩ := Prod.mk.inj (Option.some.inj (hhead.symm.trans hhead'))
      obtain rfl := Except.ok.inj (hrun.symm.trans hrun')
      rw [about?_of_named? hnamed] at habout
      exact Option.some.inj habout
    · have hc := head?_of_headAndFields? hhead'
      rw [head?_of_headAndFields? hhead] at hc
      cases hc

theorem eq_of_names {h' : Int} (hh : names h raw = true) (hh' : names h' raw = true) : h = h' := by
  simp only [names, Bool.or_eq_true, isAbout_iff, carries_iff] at hh hh'
  rcases hh with ⟨token, n, hread, habout, rfl⟩ | ⟨entry, hread, rfl⟩
  · rcases hh' with ⟨token', n', hread', habout', rfl⟩ | ⟨entry', hread', rfl⟩
    · obtain rfl : token = token' := Except.ok.inj (hread.symm.trans hread')
      rw [Option.some.inj (habout.symm.trans habout')]
    · rw [head_of_read hread habout hread']
  · rcases hh' with ⟨token', n', hread', habout', rfl⟩ | ⟨entry', hread', rfl⟩
    · rw [head_of_read hread' habout' hread]
    · rw [Option.some.inj (Except.ok.inj (hread.symm.trans hread'))]

/-! ## What tokens of a head leave -/

theorem bare_of_read_removal {target : String} (hread : Token.read raw = .ok (.removal target)) :
    bare raw = target := by
  rw [(eq_removal_iff hread).mp rfl, bare_removalText]

theorem names_of_mem_emitted (htax : tax.Keyed) {token : Token}
    (hread : Token.read raw = .ok token) {entry : String} (hmem : entry ∈ emitted tax raw token)
    (hcarries : carries h entry = true) : names h raw = true := by
  have hself : (∀ target, token ≠ .removal target) → entry = raw → names h raw = true := by
    rintro hother rfl
    rw [names, bare_of_read hread hother, hcarries, Bool.or_true]
  have hsource : ∀ n, token.headSought? = some n → token.about? = some n → names h raw = true := by
    intro n hsought habout
    obtain ⟨head, hfound, hexpand⟩ := mem_expandIn_of_mem_emitted hsought hmem
    have hstart := startsWithHead_of_mem_expandIn (htax.id hfound) hexpand
    obtain ⟨e, hentry, rfl⟩ := carries_iff.mp hcarries
    have hself : isAbout e.head raw = true :=
      isAbout_iff.mpr ⟨token, n, hread, habout, by rw [head_of_startsWithHead hstart hentry]⟩
    have hother : ∀ target, token ≠ .removal target := by
      rintro target rfl
      cases habout
    rw [names, bare_of_read hread hother, hself, Bool.true_or]
  cases token with
  | head _ | type _ _ | dim _ _ | typeDim _ _ _ | value _ _ _ => exact hsource _ rfl rfl
  | leaf _ _ _ _ | literal _ => exact hself nofun (List.mem_singleton.mp hmem)
  | removal _ => cases hmem
  | negation _ _ _ =>
    obtain ⟨rfl, -⟩ := negation_of_read hread
    exact hself nofun (List.mem_singleton.mp hmem)

/-- The same entries of the head and the same selectors of its negations. -/
structure SameIn (h : Int) (s s' : Expansion) : Prop where
  entries : s.accumulator.filter (carries h) = s'.accumulator.filter (carries h)
  negations : s.negations.heads.get? h = s'.negations.heads.get? h

theorem SameIn.step {s s' t t' : Expansion} (hs : SameIn h s s')
    (hstep : Expansion.step tax s raw = .ok t) (hstep' : Expansion.step tax s' raw = .ok t') :
    SameIn h t t' := by
  rw [Expansion.step] at hstep hstep'
  split at hstep
  · rename_i hempty
    rw [if_pos hempty] at hstep'
    obtain rfl := Except.ok.inj hstep
    obtain rfl := Except.ok.inj hstep'
    exact hs
  · rename_i hne
    rw [if_neg hne] at hstep'
    obtain ⟨token, hread, hstep⟩ := bind_eq_ok hstep
    obtain ⟨token', hread', hstep'⟩ := bind_eq_ok hstep'
    obtain rfl : token = token' := Except.ok.inj (hread.symm.trans hread')
    obtain rfl := Except.ok.inj hstep
    obtain rfl := Except.ok.inj hstep'
    have hadded : ∀ added, (s.accumulator ++ added).filter (carries h) =
        (s'.accumulator ++ added).filter (carries h) := fun added => by
      rw [List.filter_append, List.filter_append, hs.entries]
    cases token with
    | removal target =>
      refine ⟨?_, hs.negations⟩
      show (s.accumulator.filter (· != target) ++ []).filter (carries h) =
        (s'.accumulator.filter (· != target) ++ []).filter (carries h)
      rw [List.append_nil, List.append_nil, List.filter_comm, hs.entries, List.filter_comm]
    | negation raw' n selector =>
      refine ⟨hadded _, ?_⟩
      show (s.negations.add n selector).heads.get? h = (s'.negations.add n selector).heads.get? h
      rw [Negations.add, Negations.add, OrderedMap.get?_alter, OrderedMap.get?_alter]
      split
      · rename_i heq
        rw [← heq, hs.negations]
      · exact hs.negations
    | _ => exact ⟨hadded _, hs.negations⟩

theorem SameIn.skip (htax : tax.Keyed) {s s' t : Expansion} (hnames : names h raw = false)
    (hs : SameIn h s s') (hstep : Expansion.step tax s raw = .ok t) : SameIn h t s' := by
  rw [Expansion.step] at hstep
  split at hstep
  · obtain rfl := Except.ok.inj hstep
    exact hs
  · obtain ⟨token, hread, hstep⟩ := bind_eq_ok hstep
    obtain rfl := Except.ok.inj hstep
    have hadded : (s.accumulator ++ emitted tax raw token).filter (carries h) =
        s'.accumulator.filter (carries h) := by
      have hnone : (emitted tax raw token).filter (carries h) = [] := by
        refine List.filter_eq_nil_iff.mpr fun entry hmem hcarries => ?_
        rw [names_of_mem_emitted htax hread hmem hcarries] at hnames
        cases hnames
      rw [List.filter_append, hnone, List.append_nil, hs.entries]
    cases token with
    | removal target =>
      refine ⟨?_, hs.negations⟩
      show (s.accumulator.filter (· != target) ++ []).filter (carries h) = _
      rw [List.append_nil, List.filter_comm, hs.entries, List.filter_eq_self]
      intro entry hmem
      rw [bne_iff_ne]
      rintro rfl
      rw [names, bare_of_read_removal hread, (List.mem_filter.mp hmem).2, Bool.or_true] at hnames
      cases hnames
    | negation raw' n selector =>
      refine ⟨hadded, ?_⟩
      have hother : h ≠ n := by
        rintro rfl
        rw [names, bare_of_read hread (fun target heq => by cases heq),
          isAbout_iff.mpr ⟨_, n, hread, rfl, rfl⟩, Bool.true_or] at hnames
        cases hnames
      show (s.negations.add n selector).heads.get? h = s'.negations.heads.get? h
      rw [Negations.add, OrderedMap.get?_alter, if_neg hother, hs.negations]
    | _ => exact ⟨hadded, hs.negations⟩

/-- A whole run keeps the two the same. -/
theorem sameIn_expandTokens (htax : tax.Keyed) {raws : List String} {s s' : Expansion}
    (hrun : expandTokens tax raws = .ok s)
    (hrun' : expandTokens tax (raws.filter (names h)) = .ok s') : SameIn h s s' :=
  foldlM_filter (fun hs hstep hstep' => hs.step hstep hstep')
    (fun hnames hs hstep => hs.skip htax hnames hstep) ⟨rfl, rfl⟩ hrun hrun'

/-! ## What entries of a head select -/

theorem select_eq_alterType (entry : Entry) :
    ∃ f, ∀ sel, select sel (some entry) = sel.alterType entry.head entry.type f := by
  cases entry with
  | leaf n t d v =>
    exact ⟨fun dims => dims.alter d fun values => insertNew v (values.getD []), fun sel => rfl⟩
  | marker n t => exact ⟨_, fun sel => rfl⟩

theorem get?_select {sel sel' : Selection} (entry : Entry)
    (hs : sel.heads.get? h = sel'.heads.get? h) :
    (select sel (some entry)).heads.get? h = (select sel' (some entry)).heads.get? h := by
  obtain ⟨f, hf⟩ := select_eq_alterType entry
  rw [hf, hf, Selection.alterType, Selection.alterType, OrderedMap.get?_alter, OrderedMap.get?_alter]
  split
  · rename_i heq
    rw [← heq, hs]
  · exact hs

theorem get?_select_of_ne {sel : Selection} {entry : Entry} (hne : h ≠ entry.head) :
    (select sel (some entry)).heads.get? h = sel.heads.get? h := by
  obtain ⟨f, hf⟩ := select_eq_alterType entry
  rw [hf, Selection.alterType, OrderedMap.get?_alter, if_neg hne]

theorem get?_selectionOf {acc : List String} {sel sel' : Selection}
    (hsel : selectionOf acc = .ok sel) (hsel' : selectionOf (acc.filter (carries h)) = .ok sel') :
    sel.heads.get? h = sel'.heads.get? h := by
  refine foldlM_filter (r := fun sel sel' => sel.heads.get? h = sel'.heads.get? h)
    (fun {s s' raw t t'} hs hstep hstep' => ?_) (fun {s s' raw t} hcarries hs hstep => ?_) rfl
    hsel hsel'
  · obtain ⟨entry, hread, hstep⟩ := bind_eq_ok hstep
    obtain ⟨entry', hread', hstep'⟩ := bind_eq_ok hstep'
    obtain rfl : entry = entry' := Except.ok.inj (hread.symm.trans hread')
    obtain rfl := Except.ok.inj hstep
    obtain rfl := Except.ok.inj hstep'
    cases entry with
    | none => exact hs
    | some entry => exact get?_select entry hs
  · obtain ⟨entry, hread, hstep⟩ := bind_eq_ok hstep
    obtain rfl := Except.ok.inj hstep
    cases entry with
    | none => exact hs
    | some entry =>
      refine (get?_select_of_ne ?_).trans hs
      rintro rfl
      rw [carries_iff.mpr ⟨entry, hread, rfl⟩] at hcarries
      cases hcarries

/-! ## Tokens that name heads can be expanded -/

theorem not_overlong_of_read_entry {entry : Entry} (hread : Entry.read raw = .ok (some entry))
    {lead : String} (hlead : lead ∈ ["cat", "~cat", "sub"]) {suits : List (List Char) → Bool} :
    ¬ Overlong lead suits raw := by
  obtain ⟨lead', hlead', digits, more, hsome, hrun⟩ := digits_of_read_entry hread
  rintro ⟨digits', more', hsome', -, hlong⟩
  have hsame : lead' = lead := by
    have hhead : ∀ {l l' : Char} {ls ls' : List Char}, lead.toList = l :: ls →
        lead'.toList = l' :: ls' → l = l' := by
      intro l l' ls ls' hl hl'
      rw [hl] at hsome'
      rw [hl'] at hsome
      exact Option.some.inj ((head?_of_headAndFields? hsome').symm.trans
        (head?_of_headAndFields? hsome))
    simp only [List.mem_cons, List.not_mem_nil, or_false] at hlead hlead'
    rcases hlead with rfl | rfl | rfl <;> rcases hlead' with rfl | rfl <;>
      first | rfl | exact absurd (hhead rfl rfl) (by decide)
  subst hsame
  obtain ⟨rfl, rfl⟩ := Prod.mk.inj (Option.some.inj (hsome.symm.trans hsome'))
  rw [Integer.ofRun, if_pos hlong] at hrun
  cases hrun

theorem exists_about_of_overlong {lead : String} (hlead : lead ∈ ["cat", "~cat", "sub"])
    {suits : List (List Char) → Bool} (hlong : Overlong lead suits raw)
    (hnames : names h raw = true) : ∃ token n, Token.read raw = .ok token ∧ token.about? = some n := by
  have hbare : bare raw = raw := by
    obtain ⟨digits, more, hsome, -⟩ := hlong
    have hhead : ∃ l ∈ ['c', '~', 's'], raw.toList.head? = some l := by
      simp only [List.mem_cons, List.not_mem_nil, or_false] at hlead
      rcases hlead with rfl | rfl | rfl
      · exact ⟨'c', by simp, head?_of_headAndFields? hsome⟩
      · exact ⟨'~', by simp, head?_of_headAndFields? hsome⟩
      · exact ⟨'s', by simp, head?_of_headAndFields? hsome⟩
    rw [bare]
    split
    · rename_i target hraw
      rw [hraw] at hhead
      simp at hhead
    · rfl
  rw [names, hbare, Bool.or_eq_true] at hnames
  rcases hnames with habout | hcarries
  · obtain ⟨token, n, hread, habout, -⟩ := isAbout_iff.mp habout
    exact ⟨token, n, hread, habout⟩
  · obtain ⟨entry, hread, -⟩ := carries_iff.mp hcarries
    exact absurd hlong (not_overlong_of_read_entry hread hlead)

theorem not_overlong_of_names (hnames : names h raw = true) : ¬ Overlong "cat" isName raw ∧
    ¬ Overlong "~cat" isSelector raw ∧ ¬ Overlong "sub" isMarkerPlace raw := by
  refine ⟨fun hlong => ?_, fun hlong => ?_, fun hlong => ?_⟩
  · obtain ⟨token, n, hread, -⟩ := exists_about_of_overlong (by simp) hlong hnames
    exact (exists_readToken_iff.mp ⟨token, hread⟩).1 hlong
  · obtain ⟨token, n, hread, -⟩ := exists_about_of_overlong (by simp) hlong hnames
    exact (exists_readToken_iff.mp ⟨token, hread⟩).2 hlong
  -- A marker is no token of its own.
  · obtain ⟨token, n, hread, habout⟩ := exists_about_of_overlong (by simp) hlong hnames
    obtain ⟨digits, more, hsome, -⟩ := hlong
    obtain ⟨rest, hraw⟩ := List.head?_eq_some_iff.mp (head?_of_headAndFields? hsome)
    rw [Token.read, hraw] at hread
    obtain rfl : Token.literal raw = token := Except.ok.inj hread
    cases habout

theorem legible_of_names {raws : List String} (hall : ∀ raw ∈ raws, ∃ h, names h raw = true) :
    Legible raws where
  names raw hraw := (not_overlong_of_names (hall raw hraw).choose_spec).1
  negations raw hraw := (not_overlong_of_names (hall raw hraw).choose_spec).2.1
  markers pre raw post heq hlong :=
    absurd hlong (not_overlong_of_names (hall raw (by simp [heq])).choose_spec).2.2

/-! ## Taking the tokens of one head -/

theorem expand_filter_names (htax : tax.Keyed) {raws : List String} {sel : Selection}
    {neg : Negations} (hexpand : expand tax raws = .ok (sel, neg)) (h : Int) :
    ∃ sel' neg', expand tax (raws.filter (names h)) = .ok (sel', neg') ∧
      sel.heads.get? h = sel'.heads.get? h ∧ neg.heads.get? h = neg'.heads.get? h := by
  have hlegible : Legible (raws.filter (names h)) :=
    legible_of_names fun raw hraw => ⟨h, (List.mem_filter.mp hraw).2⟩
  obtain ⟨⟨sel', neg'⟩, hexpand'⟩ := (exists_expand_iff htax).mpr hlegible
  refine ⟨sel', neg', hexpand', ?_⟩
  obtain ⟨state, hrun, hexpand⟩ := bind_eq_ok hexpand
  obtain ⟨sel₁, hsel, hexpand⟩ := bind_eq_ok hexpand
  obtain ⟨rfl, rfl⟩ := Prod.mk.inj (Except.ok.inj hexpand)
  obtain ⟨state', hrun', hexpand'⟩ := bind_eq_ok hexpand'
  obtain ⟨sel₂, hsel', hexpand'⟩ := bind_eq_ok hexpand'
  obtain ⟨rfl, rfl⟩ := Prod.mk.inj (Except.ok.inj hexpand')
  have hsame := sameIn_expandTokens htax hrun hrun'
  have hentries : ∀ entry ∈ state.accumulator.filter (carries h),
      ∃ e, Entry.read entry = .ok e := fun entry hmem =>
    exists_selectionOf_iff.mp ⟨_, hsel⟩ entry (List.mem_filter.mp hmem).1
  obtain ⟨alone, halone⟩ := exists_selectionOf_iff.mpr hentries
  refine ⟨?_, hsame.negations⟩
  rw [get?_selectionOf hsel halone, get?_selectionOf hsel' (hsame.entries ▸ halone)]

/-! ## Interleaving the tokens of heads -/

/-- One list is made of others by taking their elements from the front, in any turn. -/
inductive Interleaves {α : Type} : List (List α) → List α → Prop
  | done {lists : List (List α)} (h : ∀ list ∈ lists, list = []) : Interleaves lists []
  | take (pre : List (List α)) {post : List (List α)} {list all : List α} (x : α)
      (h : Interleaves (pre ++ list :: post) all) :
      Interleaves (pre ++ (x :: list) :: post) (x :: all)

theorem Interleaves.mem_iff {α : Type} {lists : List (List α)} {all : List α}
    (h : Interleaves lists all) {x : α} : x ∈ all ↔ x ∈ lists.flatten := by
  induction h with
  | done h => simpa using fun list hlist hx => List.ne_nil_of_mem hx (h list hlist)
  | take pre y h ih => simp [ih, or_left_comm]

theorem Interleaves.filter_eq {α : Type} {p : α → Bool} {lists : List (List α)} {all : List α}
    (h : Interleaves lists all) (honly : lists.Pairwise fun list list' =>
      (∀ x ∈ list, p x = false) ∨ ∀ x ∈ list', p x = false) :
    all.filter p = lists.flatten.filter p := by
  induction h with
  | done h => rw [List.flatten_eq_nil_iff.mpr h]
  | @take pre post list all x h ih =>
    rw [List.pairwise_append, List.pairwise_cons] at honly
    obtain ⟨hpre, ⟨hfirst, hpost⟩, hcross⟩ := honly
    have hshorter : ∀ {list' : List α}, ((∀ y ∈ x :: list, p y = false) ∨ ∀ y ∈ list', p y = false) →
        (∀ y ∈ list, p y = false) ∨ ∀ y ∈ list', p y = false :=
      fun h => h.imp_left fun h y hy => h y (List.mem_cons_of_mem x hy)
    have ih := ih <| List.pairwise_append.mpr ⟨hpre,
      List.pairwise_cons.mpr ⟨fun list' hl => hshorter (hfirst list' hl), hpost⟩,
      fun list' hl list'' hl' => by
        rcases List.mem_cons.mp hl' with rfl | hl'
        · exact (hshorter (hcross list' hl _ List.mem_cons_self).symm).symm
        · exact hcross list' hl list'' (List.mem_cons_of_mem _ hl')⟩
    cases hx : p x with
    | false => simp [hx, ih]
    | true =>
      -- No list before has anything of it, so the element is the first.
      have hnone : pre.flatten.filter p = [] := by
        refine List.filter_eq_nil_iff.mpr fun y hy => ?_
        obtain ⟨list', hl, hy⟩ := List.mem_flatten.mp hy
        rcases hcross list' hl _ List.mem_cons_self with h | h
        · simp [h y hy]
        · rw [h x List.mem_cons_self] at hx
          cases hx
      simp [hx, ih, hnone]

theorem expand_interleaved (htax : tax.Keyed) {parts : List (Int × List String)}
    (hheads : (parts.map Prod.fst).Nodup) (hnames : ∀ part ∈ parts, ∀ raw ∈ part.2,
      names part.1 raw = true) {raws raws' : List String}
    (hraws : Interleaves (parts.map Prod.snd) raws)
    (hraws' : Interleaves (parts.map Prod.snd) raws') :
    ∃ sel neg sel' neg', expand tax raws = .ok (sel, neg) ∧ expand tax raws' = .ok (sel', neg') ∧
      sel.agrees sel' = true ∧ neg.agrees neg' = true := by
  have hlegible : ∀ {raws}, Interleaves (parts.map Prod.snd) raws → Legible raws := by
    intro raws hraws
    refine legible_of_names fun raw hraw => ?_
    obtain ⟨list, hlist, hraw⟩ := List.mem_flatten.mp (hraws.mem_iff.mp hraw)
    obtain ⟨part, hpart, rfl⟩ := List.mem_map.mp hlist
    exact ⟨part.1, hnames part hpart raw hraw⟩
  have honly : ∀ h, (parts.map Prod.snd).Pairwise fun list list' =>
      (∀ raw ∈ list, names h raw = false) ∨ ∀ raw ∈ list', names h raw = false := by
    intro h
    have hother : ∀ part ∈ parts, h ≠ part.1 → ∀ raw ∈ part.2, names h raw = false :=
      fun part hpart hne raw hraw => Bool.eq_false_iff.mpr fun hh =>
        hne (eq_of_names hh (hnames part hpart raw hraw))
    rw [List.pairwise_map]
    refine (List.pairwise_map.mp hheads).imp_of_mem fun {a b} ha hb hne => ?_
    by_cases hh : h = a.1
    · exact .inr (hother b hb (hh ▸ hne))
    · exact .inl (hother a ha hh)
  obtain ⟨⟨sel, neg⟩, hexpand⟩ := (exists_expand_iff htax).mpr (hlegible hraws)
  obtain ⟨⟨sel', neg'⟩, hexpand'⟩ := (exists_expand_iff htax).mpr (hlegible hraws')
  have hsame : ∀ h, sel.heads.get? h = sel'.heads.get? h ∧
      neg.heads.get? h = neg'.heads.get? h := by
    intro h
    have hfilter := (hraws.filter_eq (honly h)).trans (hraws'.filter_eq (honly h)).symm
    obtain ⟨s, m, halone, hsel, hneg⟩ := expand_filter_names htax hexpand h
    obtain ⟨s', m', halone', hsel', hneg'⟩ := expand_filter_names htax hexpand' h
    rw [← hfilter, halone] at halone'
    obtain ⟨rfl, rfl⟩ := Prod.mk.inj (Except.ok.inj halone')
    exact ⟨hsel.trans hsel'.symm, hneg.trans hneg'.symm⟩
  exact ⟨sel, neg, sel', neg', hexpand, hexpand', Selection.agrees_of_get? fun h => (hsame h).1,
    Negations.agrees_of_get? fun h => (hsame h).2⟩

/-- Heads do not interfere: the tokens that name a head give the same of it when they are expanded
alone, and tokens of different heads give equal maps in whichever order they stand among each other. -/
theorem heads_independent (htax : tax.Keyed) :
    (∀ raws sel neg, expand tax raws = .ok (sel, neg) → ∀ h : Int,
      ∃ sel' neg', expand tax (raws.filter (names h)) = .ok (sel', neg') ∧
        sel.heads.get? h = sel'.heads.get? h ∧ neg.heads.get? h = neg'.heads.get? h) ∧
    ∀ parts : List (Int × List String), (parts.map Prod.fst).Nodup →
      (∀ part ∈ parts, ∀ raw ∈ part.2, names part.1 raw = true) →
      ∀ raws raws', Interleaves (parts.map Prod.snd) raws →
        Interleaves (parts.map Prod.snd) raws' →
        ∃ sel neg sel' neg', expand tax raws = .ok (sel, neg) ∧
          expand tax raws' = .ok (sel', neg') ∧ sel.agrees sel' = true ∧ neg.agrees neg' = true :=
  ⟨fun _ _ _ hexpand h => expand_filter_names htax hexpand h,
    fun _ hheads hnames _ _ hraws hraws' => expand_interleaved htax hheads hnames hraws hraws'⟩

/-- Images without books, one of them written with a leading zero, among sounds and a negation. -/
theorem heads_independent_default :
    (∃ sel neg sel' neg',
      expand .default ["cat0", "foo", "cat1_a1", "!sub0_z2", "~cat0_a5", "cat00_z1_a1"] =
        .ok (sel, neg) ∧
      expand .default ["cat0", "!sub0_z2", "~cat0_a5", "cat00_z1_a1"] = .ok (sel', neg') ∧
      sel.heads.get? 0 = sel'.heads.get? 0 ∧ neg.heads.get? 0 = neg'.heads.get? 0) ∧
    ∃ sel neg sel' neg', expand .default ["cat0", "cat1_a1", "!sub0_z2"] = .ok (sel, neg) ∧
      expand .default ["cat1_a1", "cat0", "!sub0_z2"] = .ok (sel', neg') ∧
      sel.agrees sel' = true ∧ neg.agrees neg' = true := by
  obtain ⟨halone, hmixed⟩ := heads_independent Taxonomy.wellFormed_default.keyed
  constructor
  · obtain ⟨⟨sel, neg⟩, hexpand⟩ := exists_of_isOk (x := expand .default
      ["cat0", "foo", "cat1_a1", "!sub0_z2", "~cat0_a5", "cat00_z1_a1"]) (by decide)
    obtain ⟨sel', neg', hexpand', hsame⟩ := halone _ sel neg hexpand 0
    exact ⟨sel, neg, sel', neg', hexpand, hexpand', hsame⟩
  · have hdone : Interleaves [[], []] ([] : List String) := .done (by decide)
    refine hmixed [(0, ["cat0", "!sub0_z2"]), (1, ["cat1_a1"])] (by decide) (by decide) _ _ ?_ ?_
    · exact .take [] _ (.take [_] _ (.take [] _ hdone))
    · exact .take [_] _ (.take [] _ (.take [] _ hdone))

end Shorthand

end Sift
