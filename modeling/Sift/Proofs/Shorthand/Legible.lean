import Sift.Proofs.Shorthand.Survivors
import Sift.Proofs.Taxonomy.WellFormed

/-!
# Trees that can be expanded

Numbers of heads are read only up to a number of digits. A tree can be expanded exactly when no name
and no negation in it has a longer head, and every marker that has one is removed by a later token
(`exists_expand_iff`): a marker is not read before the selection is read off what the tokens left.
-/

namespace Sift.Shorthand

open Text

variable {tax : Taxonomy} {raw : String}

/-- The text is of a form that is read, but its head has too many digits: a start, the digits, and
fields behind them that suit the form. -/
def Overlong (lead : String) (suits : List (List Char) → Bool) (raw : String) : Prop :=
  ∃ digits more, headAndFields? lead.toList raw.toList = some (digits, more) ∧ suits more = true ∧
    Integer.maxDigits < digits.length

/-- The fields behind a head name something in it. -/
def isName (fields : List (List Char)) : Bool := ((fields.mapM part?).bind (named? 0)).isSome

/-- The fields behind the head of a leaf. -/
def isLeafPlace (fields : List (List Char)) : Bool :=
  match fields.mapM part? with
  | some [.type _, .value _ _] => true
  | _ => false

/-- The fields behind the head of a marker. -/
def isMarkerPlace (fields : List (List Char)) : Bool :=
  match fields.mapM part? with
  | some [.type _] => true
  | _ => false

theorem isLeafPlace_iff {fields : List (List Char)} : isLeafPlace fields = true ↔
    ∃ t d v, fields.mapM part? = some [.type t, .value d v] := by
  rw [isLeafPlace]
  constructor
  · intro h
    split at h
    · rename_i t d v hparts
      exact ⟨t, d, v, hparts⟩
    · cases h
  · rintro ⟨t, d, v, hparts⟩
    rw [hparts]

theorem isMarkerPlace_iff {fields : List (List Char)} : isMarkerPlace fields = true ↔
    ∃ t, fields.mapM part? = some [.type t] := by
  rw [isMarkerPlace]
  constructor
  · intro h
    split at h
    · rename_i t hparts
      exact ⟨t, hparts⟩
    · cases h
  · rintro ⟨t, hparts⟩
    rw [hparts]

/-- No head that is read has too many digits. -/
structure Legible (raws : List String) : Prop where
  names : ∀ raw ∈ raws, ¬ Overlong "cat" isName raw
  negations : ∀ raw ∈ raws, ¬ Overlong "~cat" isSelector raw
  markers : ∀ pre raw post, raws = pre ++ raw :: post → Overlong "sub" isMarkerPlace raw →
    removalText raw ∈ post

/-! ## Heads -/

theorem exists_bind_ofRun_iff {β : Type} {digits : List Char} {f : Nat → Except Integer.Fault β}
    (hf : ∀ n, ∃ b, f n = .ok b) :
    (∃ b, Integer.ofRun digits >>= f = .ok b) ↔ ¬ Integer.maxDigits < digits.length := by
  rw [exists_bind_iff hf, exists_ofRun_iff, Nat.not_lt]

theorem not_overlong_of_none {lead : String} {suits : List (List Char) → Bool}
    (h : headAndFields? lead.toList raw.toList = none) : ¬ Overlong lead suits raw := by
  rintro ⟨digits, more, hsome, -⟩
  rw [h] at hsome
  cases hsome

theorem overlong_iff_of_some {lead : String} {suits : List (List Char) → Bool} {digits : List Char}
    {more : List (List Char)} (h : headAndFields? lead.toList raw.toList = some (digits, more)) :
    Overlong lead suits raw ↔ suits more = true ∧ Integer.maxDigits < digits.length := by
  constructor
  · rintro ⟨digits', more', hsome, hsuits, hlong⟩
    obtain ⟨rfl, rfl⟩ := Prod.mk.inj (Option.some.inj (h.symm.trans hsome))
    exact ⟨hsuits, hlong⟩
  · exact fun ⟨hsuits, hlong⟩ => ⟨digits, more, h, hsuits, hlong⟩

theorem overlong_of_headed {lead : String} {suits : List (List Char) → Bool} {digits : List Char}
    (hdigits : isDigits digits = true) (hlong : Integer.maxDigits < digits.length)
    (hlead : '_' ∉ lead.toList ∧ '\n' ∉ lead.toList) (fs : List (List Char)) (hfs : PlainFields fs)
    (hsuits : suits fs = true) (hraw : raw.toList = joined '_' ((lead.toList ++ digits) :: fs)) :
    Overlong lead suits raw :=
  ⟨digits, fs, by rw [hraw, headAndFields?_headed hdigits hlead hfs], hsuits, hlong⟩

theorem head?_of_headAndFields? {l : Char} {lead cs digits : List Char} {more : List (List Char)}
    (h : headAndFields? (l :: lead) cs = some (digits, more)) : cs.head? = some l := by
  have hfields := (headAndFields?_eq_some h).1
  have hcs : withoutLineEnd cs = joined '_' ((l :: lead ++ digits) :: more) := by
    rw [← hfields, joined_fields]
  have hhead : (withoutLineEnd cs).head? = some l := by
    rw [hcs]
    cases more with
    | nil => rfl
    | cons field more => rfl
  rw [withoutLineEnd] at hhead
  split at hhead
  · cases cs with
    | nil => cases hhead
    | cons c cs =>
      cases cs with
      | nil => cases hhead
      | cons d cs => exact hhead
  · exact hhead

theorem not_overlong_of_head? {lead : String} {l c : Char} {ls cs : List Char}
    (hlead : lead.toList = l :: ls) (hraw : raw.toList = c :: cs) (hne : c ≠ l)
    {suits : List (List Char) → Bool} : ¬ Overlong lead suits raw := by
  rintro ⟨digits, more, hsome, -⟩
  rw [hlead] at hsome
  have hhead := head?_of_headAndFields? hsome
  rw [hraw] at hhead
  exact hne (Option.some.inj hhead)

/-! ## Reading tokens and entries -/

theorem exists_readNamed_iff :
    (∃ token, readNamed raw = .ok token) ↔ ¬ Overlong "cat" isName raw := by
  unfold readNamed
  split
  · rename_i hnone
    exact iff_of_true ⟨_, rfl⟩ (not_overlong_of_none hnone)
  · rename_i digits more hsome
    rw [overlong_iff_of_some hsome, isName]
    split
    · rename_i hparts
      exact iff_of_true ⟨_, rfl⟩ (by simp [hparts])
    · rename_i parts hparts
      rw [hparts, Option.bind_some]
      split
      · rename_i hnamed
        exact iff_of_true ⟨_, rfl⟩ (by simp [hnamed])
      · rename_i token hnamed
        rw [hnamed, Option.isSome_some, and_iff_right rfl]
        exact exists_bind_ofRun_iff fun _ => ⟨_, rfl⟩

theorem exists_readNegation_iff :
    (∃ token, readNegation raw = .ok token) ↔ ¬ Overlong "~cat" isSelector raw := by
  unfold readNegation
  split
  · rename_i hnone
    exact iff_of_true ⟨_, rfl⟩ (not_overlong_of_none hnone)
  · rename_i digits more hsome
    rw [overlong_iff_of_some hsome]
    split
    · rename_i hselector
      rw [and_iff_right hselector]
      exact exists_bind_ofRun_iff fun _ => ⟨_, rfl⟩
    · rename_i hother
      exact iff_of_true ⟨_, rfl⟩ fun h => hother h.1

theorem exists_readToken_iff : (∃ token, Token.read raw = .ok token) ↔
    ¬ Overlong "cat" isName raw ∧ ¬ Overlong "~cat" isSelector raw := by
  unfold Token.read
  split
  · rename_i target hraw
    refine iff_of_true ⟨_, rfl⟩ ⟨?_, ?_⟩
    · exact not_overlong_of_head? rfl hraw (by decide)
    · exact not_overlong_of_head? rfl hraw (by decide)
  · rename_i rest hraw
    rw [exists_readNegation_iff]
    exact (and_iff_right (not_overlong_of_head? rfl hraw (by decide))).symm
  · rename_i rest hraw
    rw [exists_readNamed_iff]
    exact (and_iff_left (not_overlong_of_head? rfl hraw (by decide))).symm
  · rename_i hbang htilde hc
    refine iff_of_true ⟨_, rfl⟩ ⟨?_, ?_⟩
    · rintro ⟨digits, more, hsome, -⟩
      obtain ⟨rest, hraw⟩ := List.head?_eq_some_iff.mp (head?_of_headAndFields? hsome)
      exact hc rest hraw
    · rintro ⟨digits, more, hsome, -⟩
      obtain ⟨rest, hraw⟩ := List.head?_eq_some_iff.mp (head?_of_headAndFields? hsome)
      exact htilde rest hraw

theorem exists_readEntry_iff : (∃ entry, Entry.read raw = .ok entry) ↔
    ¬ Overlong "cat" isLeafPlace raw ∧ ¬ Overlong "sub" isMarkerPlace raw := by
  unfold Entry.read
  split
  · rename_i digits more other hcat
    obtain ⟨rest, hraw⟩ := List.head?_eq_some_iff.mp (head?_of_headAndFields? hcat)
    have hsub : ¬ Overlong "sub" isMarkerPlace raw := not_overlong_of_head? rfl hraw (by decide)
    rw [and_iff_left hsub, overlong_iff_of_some hcat, isLeafPlace_iff]
    by_cases hplace : ∃ t d v, other.mapM part? = some [.type t, .value d v]
    · rw [and_iff_right hplace]
      obtain ⟨t, d, v, hparts⟩ := hplace
      rw [hparts]
      exact exists_bind_ofRun_iff fun _ => ⟨_, rfl⟩
    · refine iff_of_true ?_ fun h => hplace h.1
      split
      · rename_i t d v hparts
        exact absurd ⟨t, d, v, hparts⟩ hplace
      · exact ⟨_, rfl⟩
  · rename_i digits more hcat hsub
    rw [and_iff_right (not_overlong_of_none hcat), overlong_iff_of_some hsub, isMarkerPlace_iff]
    by_cases hplace : ∃ t, more.mapM part? = some [.type t]
    · rw [and_iff_right hplace]
      obtain ⟨t, hparts⟩ := hplace
      rw [hparts]
      exact exists_bind_ofRun_iff fun _ => ⟨_, rfl⟩
    · refine iff_of_true ?_ fun h => hplace h.1
      split
      · rename_i t hparts
        exact absurd ⟨t, hparts⟩ hplace
      · exact ⟨_, rfl⟩
  · rename_i hcat hsub
    exact iff_of_true ⟨_, rfl⟩ ⟨not_overlong_of_none hcat, not_overlong_of_none hsub⟩

/-! ## What tokens leave -/

/-- The text starts as a leaf or a marker of a head does. -/
def StartsWithHead (n : Nat) (text : String) : Prop :=
  ∃ lead ∈ ["cat", "sub"], ∃ rest, text.toList = lead.toList ++ decimal n ++ '_' :: rest

theorem withoutLineEnd_append_cons (cs : List Char) {c : Char} (hc : c ≠ '\n') (rest : List Char) :
    ∃ rest', withoutLineEnd (cs ++ c :: rest) = cs ++ c :: rest' := by
  rw [withoutLineEnd]
  split
  · rename_i hlast
    cases rest with
    | nil =>
      rw [List.getLast?_concat] at hlast
      exact absurd (Option.some.inj hlast) hc
    | cons d rest => exact ⟨(d :: rest).dropLast, by rw [List.dropLast_append_cons]; rfl⟩
  · exact ⟨rest, rfl⟩

theorem digits_of_startsWithHead {n : Nat} (h : StartsWithHead n raw) {lead : String}
    (hlead : lead ∈ ["cat", "sub"]) {digits : List Char} {more : List (List Char)}
    (hsome : headAndFields? lead.toList raw.toList = some (digits, more)) : digits = decimal n := by
  have hform : ∀ lead ∈ ["cat", "sub"], '_' ∉ lead.toList ∧ lead.toList.length = 3 := by decide
  obtain ⟨lead', hlead', rest, hraw⟩ := h
  obtain ⟨rest', hrest'⟩ :=
    withoutLineEnd_append_cons (lead'.toList ++ decimal n) (by decide : '_' ≠ '\n') rest
  have hplain : '_' ∉ lead'.toList ++ decimal n := by
    rw [List.mem_append, not_or]
    exact ⟨(hform lead' hlead').1, not_mem_decimal (by decide)⟩
  have hfields := (headAndFields?_eq_some hsome).1
  rw [hraw, hrest', fields_append_sep _ _ _ hplain] at hfields
  have hfirst := (List.cons.inj hfields).1
  exact (List.append_inj_right hfirst ((hform lead' hlead').2.trans (hform lead hlead).2.symm)).symm

theorem not_overlong_of_startsWithHead {n : Nat} (hn : Short n) (h : StartsWithHead n raw)
    {lead : String} (hlead : lead ∈ ["cat", "sub"]) {suits : List (List Char) → Bool} :
    ¬ Overlong lead suits raw := by
  rintro ⟨digits, more, hsome, -, hlong⟩
  rw [digits_of_startsWithHead h hlead hsome] at hlong
  exact Nat.not_lt.mpr hn hlong

theorem startsWithHead_markerText (n : Nat) (t : String) : StartsWithHead n (markerText n t) := by
  refine ⟨"sub", by simp, t.toList, ?_⟩
  rw [markerText_eq, String.toList_ofList, written, joined_cons_cons]
  rfl

theorem startsWithHead_leafText (n : Nat) (t d v : String) :
    StartsWithHead n (leafText n t d v) := by
  refine ⟨"cat", by simp, joined '_' [t.toList, d.toList ++ v.toList], ?_⟩
  rw [leafText_eq, toList_nameText, written, List.map_cons, joined_cons_cons]
  rfl

theorem startsWithHead_of_mem_expandIn {head : Head} {n : Nat} (hid : head.id = n) {token : Token}
    {entry : String} (h : entry ∈ expandIn head token) : StartsWithHead n entry := by
  have hleaves : ∀ t d, ∀ e ∈ dimLeaves head t d, StartsWithHead n e := by
    intro t d e he
    obtain ⟨v, -, rfl⟩ := List.mem_map.mp he
    exact hid ▸ startsWithHead_leafText n t d v
  cases token with
  | head _ =>
    obtain ⟨t, -, rfl⟩ := List.mem_map.mp h
    exact hid ▸ startsWithHead_markerText n t
  | type _ t =>
    rw [expandIn] at h
    split at h
    · obtain rfl := List.mem_singleton.mp h
      exact hid ▸ startsWithHead_markerText n t
    · cases h
  | dim _ d =>
    obtain ⟨t, -, h⟩ := List.mem_flatMap.mp h
    exact hleaves t d entry h
  | typeDim _ t d =>
    rw [expandIn] at h
    split at h
    · exact hleaves t d entry h
    · cases h
  | value _ d v =>
    obtain ⟨t, -, rfl⟩ := List.mem_map.mp h
    exact hid ▸ startsWithHead_leafText n t d v
  | leaf _ _ _ _ | removal _ | negation _ _ _ | literal _ => cases h

theorem headSought?_of_named? {n m : Nat} {parts : List Part} {token : Token}
    (h : named? n parts = some token) (hsought : token.headSought? = some m) : m = n := by
  unfold named? at h
  split at h
  all_goals cases h
  all_goals cases hsought
  all_goals rfl

theorem mem_expandIn_of_mem_emitted {token : Token} {n : Nat} (hsought : token.headSought? = some n)
    {entry : String} (h : entry ∈ emitted tax raw token) :
    ∃ head, tax.head? n = some head ∧ entry ∈ expandIn head token := by
  unfold emitted at h
  split at h
  · cases hsought
  · cases hsought
  · cases hsought
  · cases hsought
  · rw [hsought, Option.bind_some] at h
    split at h
    · rename_i head hfound
      exact ⟨head, hfound, h⟩
    · cases h

theorem short_of_headSought? {token : Token} (hread : Token.read raw = .ok token) {n : Nat}
    (hsought : token.headSought? = some n) : Short n := by
  rcases token_of_read hread with rfl | ⟨target, -, rfl⟩ | ⟨m, selector, rfl⟩ |
    ⟨digits, more, parts, m, hhead, -, hrun, hnamed⟩
  · cases hsought
  · cases hsought
  · cases hsought
  · obtain rfl := headSought?_of_named? hnamed hsought
    exact short_of_ofRun (headAndFields?_eq_some hhead).2 hrun

theorem source_of_adds (htax : tax.Keyed) {entry : String} (h : Adds tax raw entry) :
    entry = raw ∨ ∃ n, Short n ∧ StartsWithHead n entry := by
  obtain ⟨-, token, hread, hmem⟩ := h
  have hsource : ∀ n, token.headSought? = some n → ∃ n, Short n ∧ StartsWithHead n entry := by
    intro n hsought
    obtain ⟨head, hfound, hexpand⟩ := mem_expandIn_of_mem_emitted hsought hmem
    exact ⟨n, short_of_headSought? hread hsought,
      startsWithHead_of_mem_expandIn (htax.id hfound) hexpand⟩
  cases token with
  | head _ | type _ _ | dim _ _ | typeDim _ _ _ | value _ _ _ => exact .inr (hsource _ rfl)
  | leaf _ _ _ _ | literal _ => exact .inl (List.mem_singleton.mp hmem)
  | removal _ => cases hmem
  | negation _ _ _ =>
    obtain ⟨rfl, -⟩ := negation_of_read hread
    exact .inl (List.mem_singleton.mp hmem)

theorem adds_marker (h : Overlong "sub" isMarkerPlace raw) : Adds tax raw raw := by
  obtain ⟨digits, more, hsome, -⟩ := h
  obtain ⟨rest, hraw⟩ := List.head?_eq_some_iff.mp (head?_of_headAndFields? hsome)
  have hread : Token.read raw = .ok (.literal raw) := by
    rw [Token.read, hraw]
    rfl
  refine ⟨?_, _, hread, List.mem_singleton_self raw⟩
  rintro rfl
  cases hraw

/-! ## Trees -/

theorem exists_step_iff (state : Expansion) : (∃ state', Expansion.step tax state raw = .ok state') ↔
    ¬ Overlong "cat" isName raw ∧ ¬ Overlong "~cat" isSelector raw := by
  rw [← exists_readToken_iff, Expansion.step]
  split
  · rename_i hempty
    subst hempty
    exact iff_of_true ⟨_, rfl⟩ ⟨_, rfl⟩
  · exact exists_bind_iff fun _ => ⟨_, rfl⟩

theorem exists_selectionOf_iff {acc : List String} : (∃ sel, selectionOf acc = .ok sel) ↔
    ∀ raw ∈ acc, ∃ entry, Entry.read raw = .ok entry :=
  exists_foldlM_iff fun _ _ => exists_bind_iff fun _ => ⟨_, rfl⟩

theorem not_overlong_leaf (h : ¬ Overlong "cat" isName raw) : ¬ Overlong "cat" isLeafPlace raw := by
  rintro ⟨digits, more, hsome, hplace, hlong⟩
  refine h ⟨digits, more, hsome, ?_, hlong⟩
  obtain ⟨t, d, v, hparts⟩ := isLeafPlace_iff.mp hplace
  rw [isName, hparts]
  rfl

theorem exists_expandTokens_iff {raws : List String} :
    (∃ state, expandTokens tax raws = .ok state) ↔
      ∀ raw ∈ raws, ¬ Overlong "cat" isName raw ∧ ¬ Overlong "~cat" isSelector raw :=
  exists_foldlM_iff (f := Expansion.step tax)
    (p := fun raw => ¬ Overlong "cat" isName raw ∧ ¬ Overlong "~cat" isSelector raw)
    fun state _ => exists_step_iff state

theorem exists_expandTokens_accumulator (htax : tax.Keyed) {raws : List String} {state : Expansion}
    (h : expandTokens tax raws = .ok state) :
    ∃ again, expandTokens tax state.accumulator = .ok again := by
  refine exists_expandTokens_iff.mpr fun entry hentry => ?_
  obtain ⟨pre, raw, post, rfl, hadds, -⟩ := (mem_accumulator h).mp hentry
  -- An entry is a token of the run, or starts with the number of a head that was read.
  rcases source_of_adds htax hadds with rfl | ⟨n, hn, hhead⟩
  · exact exists_expandTokens_iff.mp ⟨state, h⟩ entry (by simp)
  · refine ⟨not_overlong_of_startsWithHead hn hhead (by decide), ?_⟩
    obtain ⟨lead, hlead, rest, htext⟩ := hhead
    simp only [List.mem_cons, List.not_mem_nil, or_false] at hlead
    rcases hlead with rfl | rfl
    · exact not_overlong_of_head? rfl htext (by decide)
    · exact not_overlong_of_head? rfl htext (by decide)

/-- Tokens can be expanded exactly when no head that is read has too many digits. -/
theorem exists_expand_iff (htax : tax.Keyed) {raws : List String} :
    (∃ result, expand tax raws = .ok result) ↔ Legible raws := by
  constructor
  · rintro ⟨result, h⟩
    obtain ⟨state, hrun, h⟩ := bind_eq_ok h
    obtain ⟨sel, hsel, -⟩ := bind_eq_ok h
    have htoken := exists_expandTokens_iff.mp ⟨state, hrun⟩
    have hentry := exists_selectionOf_iff.mp ⟨sel, hsel⟩
    refine ⟨fun raw hraw => (htoken raw hraw).1, fun raw hraw => (htoken raw hraw).2, ?_⟩
    intro pre raw post heq hlong
    by_cases hremoved : removalText raw ∈ post
    · exact hremoved
    · have hleft : raw ∈ state.accumulator :=
        (mem_accumulator hrun).mpr ⟨pre, raw, post, heq, adds_marker hlong, hremoved⟩
      exact absurd hlong (exists_readEntry_iff.mp (hentry raw hleft)).2
  · intro h
    obtain ⟨state, hrun⟩ := exists_expandTokens_iff.mpr fun raw hraw =>
      ⟨h.names raw hraw, h.negations raw hraw⟩
    have hentry : ∀ entry ∈ state.accumulator, ∃ e, Entry.read entry = .ok e := by
      intro entry hleft
      obtain ⟨pre, raw, post, heq, hadds, hkept⟩ := (mem_accumulator hrun).mp hleft
      rw [exists_readEntry_iff]
      rcases source_of_adds htax hadds with rfl | ⟨n, hn, hhead⟩
      · have hname : ¬ Overlong "cat" isName entry := h.names entry (by simp [heq])
        exact ⟨not_overlong_leaf hname, fun hlong => hkept (h.markers pre entry post heq hlong)⟩
      · exact ⟨not_overlong_of_startsWithHead hn hhead (by simp),
          not_overlong_of_startsWithHead hn hhead (by simp)⟩
    obtain ⟨sel, hsel⟩ := exists_selectionOf_iff.mpr hentry
    rw [expand, hrun]
    show ∃ result, (selectionOf state.accumulator >>= fun sel => _) = Except.ok result
    rw [hsel]
    exact ⟨_, rfl⟩

end Sift.Shorthand
