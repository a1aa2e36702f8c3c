import Sift.Proofs.Shorthand.Accumulator
import Sift.Shorthand.Compress

/-!
# Expanding compressed selections

Every token of a compressed selection names something in its head, or removes it, and tells by its
text what that is (`Spells`). The tokens of a dimension depend on the tokens before them only in that
a dimension is not named twice, and the tokens of other heads, types and dimensions never name it. So
the tokens of a selection are those of its heads, types and dimensions one after the other
(`selectionTokens_eq`), and running them leaves the entries of `selectionEntries`
(`turns_selectionTokens`).
-/

namespace Sift.Shorthand

variable {tax : Taxonomy} {sel : Selection} {head : Head} {n : Nat} {t d : String}

/-! ## What stands before does not matter -/

theorem not_mem_of_split {α : Type} {xs pre post : List α} {x : α} (h : xs = pre ++ x :: post)
    (hnodup : xs.Nodup) : x ∉ pre := by
  rw [h, List.nodup_append] at hnodup
  exact fun hx => hnodup.2.2 x hx x List.mem_cons_self rfl

theorem foldl_append_eq_flatMap {α β : Type} {f : α → List β → List β} {g : α → List β}
    (xs : List α) (start : List β)
    (h : ∀ pre x post, xs = pre ++ x :: post → f x (start ++ pre.flatMap g) = g x) :
    xs.foldl (fun acc x => acc ++ f x acc) start = start ++ xs.flatMap g := by
  induction xs generalizing start with
  | nil => simp
  | cons x xs ih =>
    have hfirst : f x start = g x := by simpa using h [] x xs rfl
    have hrest := ih (start ++ g x) fun pre y post hxs => by
      have := h (x :: pre) y post (by rw [hxs, List.cons_append])
      simpa [List.append_assoc] using this
    rw [List.foldl_cons, hfirst, hrest, List.flatMap_cons, List.append_assoc]

theorem holdsRun_singleton {text : String} {parts : List String} (h : text ∉ parts) :
    holdsRun [text] parts = false := by
  induction parts with
  | nil => rfl
  | cons part parts ih =>
    rw [List.mem_cons, not_or] at h
    rw [holdsRun, ih h.2, Bool.or_false]
    simp [List.isPrefixOf, beq_false_of_ne h.1]

theorem mentions_eq_false {parts : List String} {text : String} (htext : ',' ∉ text.toList)
    (hparts : ∀ part ∈ parts, ',' ∉ part.toList) (h : text ∉ parts) :
    mentions parts text = false := by
  rw [mentions, Text.split_of_not_mem htext, Text.flatMap_split hparts]
  exact holdsRun_singleton h

/-- A head whose names can be written, under that number. -/
structure Numbered (head : Head) (n : Nat) : Prop where
  id : head.id = n
  wellFormed : head.WellFormed

/-- The token names what these parts name behind a head, or removes it. -/
def Spells (n : Nat) (parts : List Part) (raw : String) : Prop :=
  (∀ p ∈ parts, p.Valid) ∧ (raw = nameText n parts ∨ raw = removalText (nameText n parts))

/-- The dimension that a part is in. -/
def Part.dim? : Part → Option String
  | .type _ => none
  | .dim d | .value d _ => some d

namespace Spells

variable {parts : List Part} {raw : String}

theorem not_mem (h : Spells n parts raw) : ',' ∉ raw.toList := by
  have hname : ',' ∉ (nameText n parts).toList := not_mem_nameText h.1 (by decide) (by decide)
  rcases h.2 with rfl | rfl
  · exact hname
  · simpa [removalText] using hname

theorem ne_empty (h : Spells n parts raw) : raw ≠ "" := by
  rcases h.2 with rfl | rfl
  · exact nameText_ne_empty n parts
  · exact removalText_ne_empty _

theorem unique (h : Spells n parts raw) {n' : Nat} {parts' : List Part}
    (h' : Spells n' parts' raw) : n = n' ∧ parts = parts' := by
  rcases h.2 with rfl | rfl <;> rcases h'.2 with heq | heq
  · exact nameText_injective h.1 h'.1 heq
  · exact absurd heq (nameText_ne_removalText n parts _)
  · exact absurd heq.symm (nameText_ne_removalText n' parts' _)
  · exact nameText_injective h.1 h'.1 (removalText_injective heq)

end Spells

theorem spells_headText (n : Nat) : Spells n [] (headText n) := ⟨nofun, .inl (headText_eq n)⟩

theorem spells_typeText (ht : isTypeKey t.toList = true) : Spells n [.type t] (typeText n t) :=
  ⟨by simpa [Part.Valid] using ht, .inl (typeText_eq n t)⟩

theorem spells_dimText (ht : isTypeKey t.toList = true) (hd : d ∈ dimensions) :
    Spells n [.type t, .dim d] (dimText n t d) :=
  ⟨by simpa using ⟨ht, hd⟩, .inl (dimText_eq n t d)⟩

theorem spells_leafText (ht : isTypeKey t.toList = true) (hd : d ∈ dimensions) {v : String}
    (hv : Text.isDigits v.toList = true) : Spells n [.type t, .value d v] (leafText n t d v) :=
  ⟨by simpa using ⟨ht, hd, hv⟩, .inl (leafText_eq n t d v)⟩

theorem spells_removalText (ht : isTypeKey t.toList = true) (hd : d ∈ dimensions) {v : String}
    (hv : Text.isDigits v.toList = true) :
    Spells n [.type t, .value d v] (removalText (leafText n t d v)) :=
  ⟨(spells_leafText (n := n) ht hd hv).1, .inr (by rw [leafText_eq])⟩

theorem mem_foreign {v : String} :
    v ∈ foreign sel head t d ↔
      v ∈ sel.valuesOf head.id t d ∧ v ∉ head.applicable t d := by
  simp [foreign, Selection.valuesOf]

theorem digits_of_mem_foreign (hsel : sel.Lettered) {v : String}
    (hv : v ∈ foreign sel head t d) : Text.isDigits v.toList = true := by
  have hlisted := (mem_foreign.mp hv).1
  rw [Selection.valuesOf] at hlisted
  cases hvs : sel.values? head.id t d with
  | none =>
    rw [hvs] at hlisted
    cases hlisted
  | some vs =>
    rw [hvs] at hlisted
    exact hsel.values _ _ _ _ hvs v hlisted

theorem mem_dimensions_of_mem_dimsOf (hhead : head.WellFormed) (hsel : sel.Lettered)
    (h : d ∈ dimsOf sel head t) : d ∈ dimensions := by
  rw [dimsOf, List.mem_append, List.mem_filter] at h
  rcases h with h | ⟨h, -⟩
  · exact hhead.dims d h
  · exact hsel.dims _ _ d h

theorem nodup_dimsOf (sel : Selection) (head : Head) (t : String) : (dimsOf sel head t).Nodup := by
  refine List.nodup_append.mpr ⟨head.dimensions.nodup_keys,
    (sel.dims head.id t).nodup_keys.filter _, fun d hd d' hd' heq => ?_⟩
  subst heq
  simp [hd] at hd'

theorem spells_of_mem_dimTokens (hnum : Numbered head n) (hsel : sel.Lettered)
    (ht : isTypeKey t.toList = true) (hd : d ∈ dimensions) {before : List String} {raw : String}
    (h : raw ∈ dimTokens sel head t d before) :
    ∃ part, part.dim? = some d ∧ Spells n [.type t, part] raw := by
  have happlies : ∀ v ∈ head.applicable t d, Text.isDigits v.toList = true :=
    fun v hv => hnum.wellFormed.digits_of_mem_applicable hv
  simp only [dimTokens, hnum.id, List.mem_append] at h
  rcases h with h | h
  · split at h
    · obtain ⟨v, hv, rfl⟩ := List.mem_map.mp h
      exact ⟨.value d v, rfl, spells_leafText ht hd (happlies v (List.mem_filter.mp hv).1)⟩
    · split at h
      · rcases List.mem_append.mp h with h | h
        · split at h
          · cases h
          · obtain rfl := List.mem_singleton.mp h
            exact ⟨.dim d, rfl, spells_dimText ht hd⟩
        · obtain ⟨v, hv, rfl⟩ := List.mem_map.mp h
          exact ⟨.value d v, rfl, spells_removalText ht hd (happlies v (List.mem_filter.mp hv).1)⟩
      · cases h
  · obtain ⟨v, hv, rfl⟩ := List.mem_map.mp h
    exact ⟨.value d v, rfl, spells_leafText ht hd (digits_of_mem_foreign hsel hv)⟩

theorem mentions_nil (text : String) : mentions [] text = false := by
  cases hsplit : Text.split ',' text with
  | nil => exact absurd (List.map_eq_nil_iff.mp hsplit) (Text.fields_ne_nil ',' _)
  | cons part parts =>
    rw [mentions, hsplit]
    rfl

theorem dimTokens_eq {before : List String}
    (h : mentions before (dimText head.id t d) = false) :
    dimTokens sel head t d before = dimTokens sel head t d [] := by
  simp only [dimTokens, h, mentions_nil]

theorem mem_dimTokens {raw : String} : raw ∈ dimTokens sel head t d [] ↔
    (if (head.applicable t d).length < 2 * (missing sel head t d).length then
      ∃ v ∈ head.applicable t d, v ∉ missing sel head t d ∧ leafText head.id t d v = raw
    else
      (missing sel head t d ≠ [] ∨ (foreign sel head t d ≠ [] ∧ head.applicable t d ≠ [])) ∧
        (raw = dimText head.id t d ∨ ∃ v ∈ head.applicable t d, v ∈ missing sel head t d ∧
          removalText (leafText head.id t d v) = raw)) ∨
      ∃ v ∈ foreign sel head t d, leafText head.id t d v = raw := by
  rw [dimTokens, List.mem_append]
  refine or_congr ?_ List.mem_map
  by_cases hmajority : (head.applicable t d).length < 2 * (missing sel head t d).length
  · simp [if_pos hmajority, and_assoc]
  · simp only [if_neg hmajority, mentions_nil]
    by_cases hneeded : missing sel head t d ≠ [] ∨
        (foreign sel head t d ≠ [] ∧ head.applicable t d ≠ [])
    · rw [if_pos (by simpa [List.isEmpty_eq_false_iff] using hneeded)]
      simp [hneeded, and_assoc]
    · rw [if_neg (by simpa [List.isEmpty_eq_false_iff] using hneeded)]
      simp [hneeded]

/-- The tokens that narrow a type, dimension by dimension. -/
def narrowing (sel : Selection) (head : Head) (t : String) : List String :=
  (dimsOf sel head t).flatMap fun d => dimTokens sel head t d []

/-- The tokens of a type: those that narrow it, or the type itself. -/
def tokensOfType (sel : Selection) (head : Head) (t : String) : List String :=
  if narrowing sel head t = [] then [typeText head.id t] else narrowing sel head t

/-- The tokens of a head: nothing, the head itself, or those of its selected types. -/
def tokensOfHead (sel : Selection) (head : Head) : List String :=
  if !sel.hasHead head.id then []
  else if isWholeHead sel head then [headText head.id]
  else (sel.types head.id).flatMap (tokensOfType sel head)

theorem dimTokens_eq_nil (hmissing : missing sel head t d = []) (hforeign : foreign sel head t d = [])
    (before : List String) : dimTokens sel head t d before = [] := by
  simp [dimTokens, hmissing, hforeign]

theorem narrowing_of_isWhole (h : isWhole sel head t = true) : narrowing sel head t = [] := by
  rw [narrowing, List.flatMap_eq_nil_iff]
  intro d hd
  have hboth := List.all_eq_true.mp h d hd
  simp only [Bool.and_eq_true, List.isEmpty_iff] at hboth
  exact dimTokens_eq_nil hboth.1 hboth.2 []

theorem typeTokens_eq (hnum : Numbered head n) (hsel : sel.Lettered)
    (ht : isTypeKey t.toList = true) {before : List String}
    (hbefore : ∀ d ∈ dimensions, ∀ raw ∈ before, ',' ∉ raw.toList ∧ raw ≠ dimText n t d) :
    typeTokens sel head t before = tokensOfType sel head t := by
  by_cases hwhole : isWhole sel head t = true
  · rw [typeTokens, if_pos hwhole, tokensOfType, if_pos (narrowing_of_isWhole hwhole)]
  · have hfold : (dimsOf sel head t).foldl
        (fun tokens d => tokens ++ dimTokens sel head t d (before ++ tokens)) [] =
        narrowing sel head t := by
      refine foldl_append_eq_flatMap _ [] fun pre d post hdims => dimTokens_eq ?_
      have hdim : ∀ d' ∈ pre ++ d :: post, d' ∈ dimensions :=
        fun d' hd' => mem_dimensions_of_mem_dimsOf hnum.wellFormed hsel (hdims ▸ hd')
      have hd : d ∈ dimensions := hdim d (by simp)
      have hpre : ∀ raw ∈ pre.flatMap (fun d => dimTokens sel head t d []),
          ∃ d' ∈ pre, ∃ part, part.dim? = some d' ∧ Spells n [.type t, part] raw := by
        intro raw hraw
        obtain ⟨d', hd', hraw⟩ := List.mem_flatMap.mp hraw
        exact ⟨d', hd', spells_of_mem_dimTokens hnum hsel ht (hdim d' (by simp [hd'])) hraw⟩
      rw [hnum.id, List.nil_append]
      refine mentions_eq_false (spells_dimText ht hd).not_mem ?_ ?_
      · intro raw hraw
        rcases List.mem_append.mp hraw with hraw | hraw
        · exact (hbefore d hd raw hraw).1
        · obtain ⟨d', -, part, -, hspells⟩ := hpre raw hraw
          exact hspells.not_mem
      · intro hmem
        rcases List.mem_append.mp hmem with hmem | hmem
        · exact (hbefore d hd _ hmem).2 rfl
        · obtain ⟨d', hd', part, hpart, hspells⟩ := hpre _ hmem
          obtain ⟨-, hparts⟩ := hspells.unique (spells_dimText ht hd)
          obtain rfl : part = .dim d := by simpa using hparts
          obtain rfl : d = d' := Option.some.inj hpart
          exact not_mem_of_split hdims (nodup_dimsOf sel head t) hd'
    simp only [typeTokens, if_neg hwhole, hfold, tokensOfType, List.isEmpty_iff]

theorem spells_of_mem_tokensOfType (hnum : Numbered head n) (hsel : sel.Lettered)
    (ht : isTypeKey t.toList = true) {raw : String} (h : raw ∈ tokensOfType sel head t) :
    ∃ parts, Spells n (.type t :: parts) raw := by
  rw [tokensOfType] at h
  split at h
  · obtain rfl := List.mem_singleton.mp h
    rw [hnum.id]
    exact ⟨[], spells_typeText ht⟩
  · obtain ⟨d, hd, hraw⟩ := List.mem_flatMap.mp h
    have hdim := mem_dimensions_of_mem_dimsOf hnum.wellFormed hsel hd
    obtain ⟨part, -, hspells⟩ := spells_of_mem_dimTokens hnum hsel ht hdim hraw
    exact ⟨[part], hspells⟩

theorem headTokens_eq (hnum : Numbered head n) (hsel : sel.Lettered) {before : List String}
    (hbefore : ∀ t d, isTypeKey t.toList = true → d ∈ dimensions →
      ∀ raw ∈ before, ',' ∉ raw.toList ∧ raw ≠ dimText n t d) :
    headTokens sel head before = tokensOfHead sel head := by
  have hfold : (sel.types head.id).foldl
      (fun tokens t => tokens ++ typeTokens sel head t (before ++ tokens)) [] =
      (sel.types head.id).flatMap (tokensOfType sel head) := by
    refine foldl_append_eq_flatMap _ [] fun pre t post htypes => ?_
    have hkey : ∀ t' ∈ pre ++ t :: post, isTypeKey t'.toList = true := fun t' ht' =>
      hsel.types head.id t' (Selection.hasType_iff_mem_types.mpr (htypes ▸ ht'))
    have ht : isTypeKey t.toList = true := hkey t (by simp)
    refine typeTokens_eq hnum hsel ht fun d hd raw hraw => ?_
    rw [List.nil_append] at hraw
    rcases List.mem_append.mp hraw with hraw | hraw
    · exact hbefore t d ht hd raw hraw
    · obtain ⟨t', ht', hraw⟩ := List.mem_flatMap.mp hraw
      obtain ⟨parts, hspells⟩ :=
        spells_of_mem_tokensOfType hnum hsel (hkey t' (by simp [ht'])) hraw
      refine ⟨hspells.not_mem, ?_⟩
      rintro rfl
      obtain ⟨-, hparts⟩ := hspells.unique (spells_dimText ht hd)
      obtain rfl : t' = t := Part.type.inj (List.cons.inj hparts).1
      exact not_mem_of_split htypes (sel.typesOf head.id).nodup_keys ht'
  rw [headTokens, tokensOfHead, hfold]

theorem spells_of_mem_tokensOfHead (hnum : Numbered head n) (hsel : sel.Lettered) {raw : String}
    (h : raw ∈ tokensOfHead sel head) : ∃ parts, Spells n parts raw := by
  rw [tokensOfHead] at h
  split at h
  · cases h
  · split at h
    · obtain rfl := List.mem_singleton.mp h
      rw [hnum.id]
      exact ⟨[], spells_headText n⟩
    · obtain ⟨t, ht, hraw⟩ := List.mem_flatMap.mp h
      have hkey := hsel.types head.id t (Selection.hasType_iff_mem_types.mpr ht)
      obtain ⟨parts, hspells⟩ := spells_of_mem_tokensOfType hnum hsel hkey hraw
      exact ⟨_, hspells⟩

theorem tokensOfHead_eq_nil (h : sel.hasHead head.id = false) : tokensOfHead sel head = [] := by
  rw [tokensOfHead, h]
  rfl

theorem numbered_of_mem (htax : tax.WellFormed) {e : Int × Head} (he : e ∈ tax.heads.entries) :
    Numbered e.2 e.1.toNat := by
  obtain ⟨hid, hhead⟩ := htax e he
  exact ⟨by rw [hid, Int.toNat_of_nonneg (hid ▸ hhead.nonneg)], hhead⟩

theorem found_of_mem (htax : tax.WellFormed) {e : Int × Head} (he : e ∈ tax.heads.entries) :
    tax.head? e.1.toNat = some e.2 := by
  obtain ⟨hid, hhead⟩ := htax e he
  rw [Int.toNat_of_nonneg (hid ▸ hhead.nonneg)]
  exact Taxonomy.head?_eq_some_iff.mpr he

theorem eq_of_toNat (htax : tax.WellFormed) (hfound : tax.head? n = some head) {e : Int × Head}
    (he : e ∈ tax.heads.entries) (hn : e.1.toNat = n) : e.2 = head :=
  Option.some.inj ((found_of_mem htax he).symm.trans (hn ▸ hfound))

theorem known_of_mem (htax : tax.WellFormed) (hsel : sel.Writable) {e : Int × Head}
    (he : e ∈ tax.heads.entries) (h : sel.hasHead e.2.id = true) : Known tax e.2 e.1.toNat := by
  obtain ⟨hid, hhead⟩ := htax e he
  obtain ⟨n, hn, hshort⟩ := hsel.heads e.2.id h
  have hnat : e.1 = n := hid.symm.trans hn
  rw [hnat, Int.toNat_natCast]
  exact ⟨hn, hshort, Taxonomy.head?_eq_some_iff.mpr (hnat ▸ he), hhead⟩

theorem toNat_ne_of_split (htax : tax.WellFormed) {pre post : List (Int × Head)}
    {e e' : Int × Head} (h : tax.heads.entries = pre ++ e :: post) (he' : e' ∈ pre) :
    e.1.toNat ≠ e'.1.toNat := by
  have hnonneg : ∀ e' ∈ pre ++ e :: post, 0 ≤ e'.1 := fun e' hmem =>
    (htax e' (h ▸ hmem)).1 ▸ (htax e' (h ▸ hmem)).2.nonneg
  have hkeys : tax.heads.keys = pre.map Prod.fst ++ e.1 :: post.map Prod.fst := by
    rw [OrderedMap.keys, h, List.map_append, List.map_cons]
  intro hsame
  have hid : e.1 = e'.1 := by
    have hpos := hnonneg e (by simp)
    have hpos' := hnonneg e' (by simp [he'])
    omega
  exact not_mem_of_split hkeys tax.heads.nodup (hid ▸ List.mem_map_of_mem he')

theorem selectionTokens_eq (htax : tax.WellFormed) (hsel : sel.Lettered) :
    selectionTokens tax sel = tax.heads.entries.flatMap fun e => tokensOfHead sel e.2 := by
  refine foldl_append_eq_flatMap _ [] fun pre e post hentries => ?_
  have hnum : ∀ e' ∈ pre ++ e :: post, Numbered e'.2 e'.1.toNat := fun e' he' =>
    numbered_of_mem htax (hentries ▸ he')
  refine headTokens_eq (hnum e (by simp)) hsel fun t d ht hd raw hraw => ?_
  obtain ⟨e', he', hraw⟩ := List.mem_flatMap.mp (List.nil_append _ ▸ hraw)
  obtain ⟨parts, hspells⟩ := spells_of_mem_tokensOfHead (hnum e' (by simp [he'])) hsel hraw
  refine ⟨hspells.not_mem, ?_⟩
  rintro rfl
  exact toNat_ne_of_split htax hentries he' ((spells_dimText ht hd).unique hspells).1

theorem spells_of_mem_selectionTokens (htax : tax.WellFormed) (hsel : sel.Lettered) {raw : String}
    (h : raw ∈ selectionTokens tax sel) : ∃ n parts, Spells n parts raw := by
  rw [selectionTokens_eq htax hsel] at h
  obtain ⟨e, he, h⟩ := List.mem_flatMap.mp h
  obtain ⟨parts, hspells⟩ := spells_of_mem_tokensOfHead (numbered_of_mem htax he) hsel h
  exact ⟨_, parts, hspells⟩

/-! ## What the tokens leave -/

/-- The values that the tokens of a dimension leave selected. The dimension itself stands for its
leaves only under a type of the head. -/
def writtenValues (sel : Selection) (head : Head) (t d : String) : List String :=
  (if (head.applicable t d).length < 2 * (missing sel head t d).length ∨
      (t ∈ head.typeKeys ∧ (missing sel head t d ≠ [] ∨
        (foreign sel head t d ≠ [] ∧ head.applicable t d ≠ []))) then
    (head.applicable t d).filter fun v => v ∉ missing sel head t d
  else []) ++ foreign sel head t d

/-- The entries that the tokens of a type leave. -/
def entriesOfType (sel : Selection) (head : Head) (n : Nat) (t : String) : List Entry :=
  if narrowing sel head t = [] then
    if t ∈ head.typeKeys then [.marker n t] else []
  else (dimsOf sel head t).flatMap fun d => (writtenValues sel head t d).map (.leaf n t d)

/-- The entries that the tokens of a head leave. -/
def entriesOfHead (sel : Selection) (head : Head) (n : Nat) : List Entry :=
  if !sel.hasHead head.id then []
  else if isWholeHead sel head then head.typeKeys.map (.marker n)
  else (sel.types head.id).flatMap (entriesOfType sel head n)

/-- The entries that the tokens of a selection leave. -/
def selectionEntries (tax : Taxonomy) (sel : Selection) : List Entry :=
  tax.heads.entries.flatMap fun e => entriesOfHead sel e.2 e.1.toNat

theorem digits_of_mem_writtenValues (hhead : head.WellFormed) (hsel : sel.Lettered) {v : String}
    (h : v ∈ writtenValues sel head t d) : Text.isDigits v.toList = true := by
  rcases List.mem_append.mp h with h | h
  · split at h
    · exact hhead.digits_of_mem_applicable (List.mem_filter.mp h).1
    · cases h
  · exact digits_of_mem_foreign hsel h

theorem place_of_mem_entriesOfType {entry : Entry} (h : entry ∈ entriesOfType sel head n t) :
    entry.head = n ∧ entry.type = t := by
  rw [entriesOfType] at h
  split at h
  · split at h
    · obtain rfl := List.mem_singleton.mp h
      exact ⟨rfl, rfl⟩
    · cases h
  · obtain ⟨d, -, h⟩ := List.mem_flatMap.mp h
    obtain ⟨v, -, rfl⟩ := List.mem_map.mp h
    exact ⟨rfl, rfl⟩

theorem head_of_mem_entriesOfHead {entry : Entry} (h : entry ∈ entriesOfHead sel head n) :
    entry.head = n := by
  rw [entriesOfHead] at h
  split at h
  · cases h
  · split at h
    · obtain ⟨t, -, rfl⟩ := List.mem_map.mp h
      rfl
    · obtain ⟨t, -, h⟩ := List.mem_flatMap.mp h
      exact (place_of_mem_entriesOfType h).1

theorem valid_of_mem_entriesOfType (hknown : Known tax head n) (hsel : sel.Lettered)
    (ht : isTypeKey t.toList = true) {entry : Entry} (h : entry ∈ entriesOfType sel head n t) :
    entry.Valid := by
  rw [entriesOfType] at h
  split at h
  · split at h
    · obtain rfl := List.mem_singleton.mp h
      exact ⟨hknown.short, ht⟩
    · cases h
  · obtain ⟨d, hd, h⟩ := List.mem_flatMap.mp h
    obtain ⟨v, hv, rfl⟩ := List.mem_map.mp h
    exact ⟨hknown.short, ht, mem_dimensions_of_mem_dimsOf hknown.wellFormed hsel hd,
      digits_of_mem_writtenValues hknown.wellFormed hsel hv⟩

theorem valid_of_mem_entriesOfHead (hknown : Known tax head n) (hsel : sel.Lettered)
    {entry : Entry} (h : entry ∈ entriesOfHead sel head n) : entry.Valid := by
  rw [entriesOfHead] at h
  split at h
  · cases h
  · split at h
    · obtain ⟨t, ht, rfl⟩ := List.mem_map.mp h
      exact ⟨hknown.short, hknown.wellFormed.typeKeys t ht⟩
    · obtain ⟨t, ht, h⟩ := List.mem_flatMap.mp h
      have hkey := hsel.types head.id t (Selection.hasType_iff_mem_types.mpr ht)
      exact valid_of_mem_entriesOfType hknown hsel hkey h

/-! ## Running the tokens -/

theorem turns_dimTokens (hknown : Known tax head n) (hsel : sel.Lettered)
    (ht : isTypeKey t.toList = true) (hd : d ∈ dimensions) {es : List Entry}
    (hvalid : ∀ e ∈ es, e.Valid) (havoids : Avoids es n t d) :
    Turns tax (dimTokens sel head t d []) es
      (es ++ (writtenValues sel head t d).map (.leaf n t d)) := by
  have happlies : ∀ v ∈ head.applicable t d, Text.isDigits v.toList = true :=
    fun v hv => hknown.wellFormed.digits_of_mem_applicable hv
  have hextra : ∀ es, Turns tax ((foreign sel head t d).map (leafText n t d)) es
      (es ++ (foreign sel head t d).map (.leaf n t d)) :=
    turns_leaves hknown.short ht hd fun v hv => digits_of_mem_foreign hsel hv
  simp only [dimTokens, writtenValues, hknown.id, mentions_nil, List.map_append,
    ← List.append_assoc]
  refine Turns.append ?_ (hextra _)
  -- Only the first part depends on the case: listed leaves, or the dimension with removals.
  by_cases hmajority : (head.applicable t d).length < 2 * (missing sel head t d).length
  · have hkept : (head.applicable t d).filter (fun v => !(missing sel head t d).contains v) =
        (head.applicable t d).filter fun v => v ∉ missing sel head t d :=
      List.filter_congr fun v _ => by simp
    rw [if_pos hmajority, if_pos (.inl hmajority), hkept]
    exact turns_leaves hknown.short ht hd (fun v hv => happlies v (List.mem_filter.mp hv).1) es
  · have hnamed : (!(missing sel head t d).isEmpty ||
        (!(foreign sel head t d).isEmpty && !(head.applicable t d).isEmpty)) = true ↔
        missing sel head t d ≠ [] ∨ (foreign sel head t d ≠ [] ∧ head.applicable t d ≠ []) := by
      simp [List.isEmpty_eq_false_iff]
    rw [if_neg hmajority]
    simp only [hmajority, false_or, hnamed]
    split
    · rename_i hneeded
      have hremoved : ∀ v ∈ (head.applicable t d).filter (missing sel head t d).contains,
          Text.isDigits v.toList = true := fun v hv => happlies v (List.mem_filter.mp hv).1
      have hleft : (head.applicable t d).filter (fun v =>
            v ∉ (head.applicable t d).filter (missing sel head t d).contains) =
          (head.applicable t d).filter fun v => v ∉ missing sel head t d :=
        List.filter_congr fun v hv => by simp [hv]
      have hdim := turns_dim hknown ht hd hremoved hvalid havoids
      rw [hleft] at hdim
      simp only [hneeded, and_true]
      split at hdim
      · rename_i hkey
        rw [if_pos hkey]
        exact hdim
      · rename_i hkey
        rw [if_neg hkey]
        exact hdim
    · rename_i hneeded
      simp only [hneeded, and_false, if_false, List.map_nil, List.append_nil]
      exact Turns.nil es

theorem turns_tokensOfType (hknown : Known tax head n) (hsel : sel.Lettered)
    (ht : isTypeKey t.toList = true) {es : List Entry} (hvalid : ∀ e ∈ es, e.Valid)
    (havoids : ∀ d, Avoids es n t d) :
    Turns tax (tokensOfType sel head t) es (es ++ entriesOfType sel head n t) := by
  rw [tokensOfType, entriesOfType]
  split
  · rw [hknown.id]
    exact turns_typeText hknown ht es
  · refine Turns.flatMap _ es fun pre d post hdims => ?_
    have hdim : ∀ d' ∈ pre ++ d :: post, d' ∈ dimensions :=
      fun d' hd' => mem_dimensions_of_mem_dimsOf hknown.wellFormed hsel (hdims ▸ hd')
    refine turns_dimTokens hknown hsel ht (hdim d (by simp)) (fun e he => ?_) fun v he => ?_
    · rcases List.mem_append.mp he with he | he
      · exact hvalid e he
      · obtain ⟨d', hd', he⟩ := List.mem_flatMap.mp he
        obtain ⟨v, hv, rfl⟩ := List.mem_map.mp he
        exact ⟨hknown.short, ht, hdim d' (by simp [hd']),
          digits_of_mem_writtenValues hknown.wellFormed hsel hv⟩
    · rcases List.mem_append.mp he with he | he
      · exact havoids d v he
      · obtain ⟨d', hd', he⟩ := List.mem_flatMap.mp he
        obtain ⟨v', -, heq⟩ := List.mem_map.mp he
        obtain ⟨-, -, rfl, -⟩ := Entry.leaf.inj heq
        exact not_mem_of_split hdims (nodup_dimsOf sel head t) hd'

theorem turns_tokensOfHead (hknown : Known tax head n) (hsel : sel.Lettered) {es : List Entry}
    (hvalid : ∀ e ∈ es, e.Valid) (havoids : ∀ e ∈ es, e.head ≠ n) :
    Turns tax (tokensOfHead sel head) es (es ++ entriesOfHead sel head n) := by
  rw [tokensOfHead, entriesOfHead]
  split
  · rw [List.append_nil]
    exact Turns.nil es
  · split
    · rw [hknown.id]
      exact turns_headText hknown es
    · refine Turns.flatMap _ es fun pre t post htypes => ?_
      have hkey : ∀ t' ∈ pre ++ t :: post, isTypeKey t'.toList = true := fun t' ht' =>
        hsel.types head.id t' (Selection.hasType_iff_mem_types.mpr (htypes ▸ ht'))
      refine turns_tokensOfType hknown hsel (hkey t (by simp)) (fun e he => ?_) fun d v he => ?_
      · rcases List.mem_append.mp he with he | he
        · exact hvalid e he
        · obtain ⟨t', ht', he⟩ := List.mem_flatMap.mp he
          exact valid_of_mem_entriesOfType hknown hsel (hkey t' (by simp [ht'])) he
      · rcases List.mem_append.mp he with he | he
        · exact havoids _ he rfl
        · obtain ⟨t', ht', he⟩ := List.mem_flatMap.mp he
          obtain rfl : t = t' := (place_of_mem_entriesOfType he).2
          exact not_mem_of_split htypes (sel.typesOf head.id).nodup_keys ht'

theorem entriesOfHead_eq_nil (h : sel.hasHead head.id = false) : entriesOfHead sel head n = [] := by
  rw [entriesOfHead, h]
  rfl

theorem valid_of_mem_selectionEntries (htax : tax.WellFormed) (hsel : sel.Writable) {entry : Entry}
    (h : entry ∈ selectionEntries tax sel) : entry.Valid := by
  obtain ⟨e, he, h⟩ := List.mem_flatMap.mp h
  cases hhead : sel.hasHead e.2.id with
  | false =>
    rw [entriesOfHead_eq_nil hhead] at h
    cases h
  | true => exact valid_of_mem_entriesOfHead (known_of_mem htax hsel he hhead) hsel.lettered h

/-- Running the tokens of a selection from nothing leaves its entries. -/
theorem turns_selectionTokens (htax : tax.WellFormed) (hsel : sel.Writable) :
    Turns tax (selectionTokens tax sel) [] (selectionEntries tax sel) := by
  rw [selectionTokens_eq htax hsel.lettered, selectionEntries]
  refine Turns.flatMap _ [] fun pre e post hentries => ?_
  have hmem : ∀ e' ∈ pre ++ e :: post, e' ∈ tax.heads.entries := fun e' he' => hentries ▸ he'
  cases hhead : sel.hasHead e.2.id with
  | false =>
    rw [tokensOfHead_eq_nil hhead, entriesOfHead_eq_nil hhead, List.append_nil]
    exact Turns.nil _
  | true =>
    have hknown := known_of_mem htax hsel (hmem e (by simp)) hhead
    refine turns_tokensOfHead hknown hsel.lettered (fun entry h => ?_) fun entry h heq => ?_
    · obtain ⟨e', he', h⟩ := List.mem_flatMap.mp h
      exact valid_of_mem_selectionEntries htax hsel
        (List.mem_flatMap.mpr ⟨e', hmem e' (by simp [he']), h⟩)
    · obtain ⟨e', he', h⟩ := List.mem_flatMap.mp h
      have hsame : e.1.toNat = e'.1.toNat := heq.symm.trans (head_of_mem_entriesOfHead h)
      exact toNat_ne_of_split htax hentries he' hsame

end Sift.Shorthand
