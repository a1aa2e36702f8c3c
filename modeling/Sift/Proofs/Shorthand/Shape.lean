import Sift.Proofs.Shorthand.Legible

/-!
# Shapes

What names something in a head has one of seven shapes: `cat` and the digits of the head, alone or
with a type, a dimension, a value, or a type and one of these behind underscores, or `sub`, the
digits and a type, which is a marker. No text is of two shapes, nor of one in two ways
(`Shape.Matches.unique`). Tokens and entries are read off the texts of their shape and off no others
(`Shape.read_iff`, `Shape.readEntry_iff`), whatever digits the head is written with, and with or
without a line feed behind (`Shape.fits_iff`). So what is written is read back
(`readBack_of_valid`).
-/

namespace Sift.Shorthand

open Text

variable {raw : String} {n : Nat} {t d v : String}

/-! ## Texts with a head -/

theorem withoutLineEnd_eq_iff {cs ds : List Char} (h : '\n' ∉ ds) :
    withoutLineEnd cs = ds ↔ cs = ds ∨ cs = ds ++ ['\n'] := by
  constructor
  · intro heq
    rw [withoutLineEnd] at heq
    split at heq
    · rename_i hlast
      obtain ⟨init, rfl⟩ := List.getLast?_eq_some_iff.mp hlast
      rw [List.dropLast_concat] at heq
      exact .inr (by rw [heq])
    · exact .inl heq
  · rintro (rfl | rfl)
    · exact withoutLineEnd_of_not_mem h
    · rw [withoutLineEnd, List.getLast?_concat, if_pos rfl, List.dropLast_concat]

theorem headAndFields?_eq_some_iff {lead cs digits : List Char} {fs : List (List Char)}
    (hlead : '_' ∉ lead ∧ '\n' ∉ lead) (hfs : PlainFields fs) :
    headAndFields? lead cs = some (digits, fs) ↔ isDigits digits = true ∧
      (cs = joined '_' ((lead ++ digits) :: fs) ∨
        cs = joined '_' ((lead ++ digits) :: fs) ++ ['\n']) := by
  have hline : isDigits digits = true → '\n' ∉ joined '_' ((lead ++ digits) :: fs) :=
    fun hdigits => not_mem_headed hdigits (by decide) ⟨by decide, hlead.2⟩ fun f hf => (hfs f hf).2
  constructor
  · intro h
    obtain ⟨hfields, hdigits⟩ := headAndFields?_eq_some h
    refine ⟨hdigits, (withoutLineEnd_eq_iff (hline hdigits)).mp ?_⟩
    rw [← hfields, joined_fields]
  · rintro ⟨hdigits, hcs⟩
    have hwithout := (withoutLineEnd_eq_iff (hline hdigits)).mpr hcs
    rw [← headAndFields?_headed hdigits hlead hfs, headAndFields?, headAndFields?, hwithout,
      withoutLineEnd_of_not_mem (hline hdigits)]

/-! ## Shapes -/

/-- A shape, with what stands in it behind the head. -/
inductive Shape
  | head
  | type (t : String)
  | dim (d : String)
  | typeDim (t d : String)
  | value (d v : String)
  | leaf (t d v : String)
  | marker (t : String)

namespace Shape

variable {s s' : Shape} {digits digits' : String}

/-- The text of the shape with these digits for the head. -/
def text (digits : String) : Shape → String
  | head => "cat" ++ digits
  | type t => "cat" ++ digits ++ "_" ++ t
  | dim d => "cat" ++ digits ++ "_" ++ d
  | typeDim t d => "cat" ++ digits ++ "_" ++ t ++ "_" ++ d
  | value d v => "cat" ++ digits ++ "_" ++ d ++ v
  | leaf t d v => "cat" ++ digits ++ "_" ++ t ++ "_" ++ d ++ v
  | marker t => "sub" ++ digits ++ "_" ++ t

/-- The parts behind the head. -/
def parts : Shape → List Part
  | head => []
  | type t => [.type t]
  | dim d => [.dim d]
  | typeDim t d => [.type t, .dim d]
  | value d v => [.value d v]
  | leaf t d v => [.type t, .value d v]
  | marker t => [.type t]

/-- What stands in front of the digits. -/
def lead : Shape → String
  | marker _ => "sub"
  | _ => "cat"

/-- What stands in the shape is a type key, the letter of a dimension, or a letter and digits. -/
def Valid (s : Shape) : Prop := ∀ p ∈ s.parts, p.Valid

/-- The text is of the shape, with these digits for the head. A line feed may follow. -/
structure Matches (s : Shape) (digits raw : String) : Prop where
  number : isDigits digits.toList = true
  valid : s.Valid
  written : raw = s.text digits ∨ raw = s.text digits ++ "\n"

/-- The token of the shape in a head. A marker is no token. -/
def token? (n : Nat) : Shape → Option Token
  | head => some (.head n)
  | type t => some (.type n t)
  | dim d => some (.dim n d)
  | typeDim t d => some (.typeDim n t d)
  | value d v => some (.value n d v)
  | leaf t d v => some (.leaf n t d v)
  | marker _ => none

/-- The entry of the shape in a head. Only leaves and markers are entries. -/
def entry? (n : Nat) : Shape → Option Entry
  | leaf t d v => some (.leaf n t d v)
  | marker t => some (.marker n t)
  | _ => none

/-- The text is taken apart into the number of a head and the parts of the shape. -/
def Fits (s : Shape) (raw : String) (n : Nat) : Prop :=
  ∃ digits more, headAndFields? s.lead.toList raw.toList = some (digits, more) ∧
    more.mapM part? = some s.parts ∧ Integer.ofRun digits = .ok n

theorem toList_text (s : Shape) (digits : String) : (s.text digits).toList =
    joined '_' ((s.lead.toList ++ digits.toList) :: s.parts.map Part.text) := by
  cases s <;> simp [text, lead, parts, joined, Part.text]

theorem lead_eq (s : Shape) : s.lead = "cat" ∨ s.lead = "sub" := by
  cases s with
  | marker => exact .inr rfl
  | _ => exact .inl rfl

theorem eq_of_parts (hlead : s.lead = s'.lead) (hparts : s.parts = s'.parts) : s = s' := by
  cases s <;> cases s' <;> simp_all [lead, parts]

theorem matches_iff : s.Matches digits raw ↔
    ∃ more, headAndFields? s.lead.toList raw.toList = some (digits.toList, more) ∧
      more.mapM part? = some s.parts := by
  have hlead : '_' ∉ s.lead.toList ∧ '\n' ∉ s.lead.toList := by
    rcases s.lead_eq with h | h
    all_goals
      rw [h]
      decide
  have htext : raw = s.text digits ∨ raw = s.text digits ++ "\n" ↔
      raw.toList = (s.text digits).toList ∨ raw.toList = (s.text digits).toList ++ ['\n'] := by
    rw [← String.toList_inj, ← String.toList_inj, String.toList_append]
    rfl
  constructor
  · rintro ⟨hdigits, hvalid, hraw⟩
    rw [htext, toList_text] at hraw
    exact ⟨_, (headAndFields?_eq_some_iff hlead (plainFields_text _ hvalid)).mpr ⟨hdigits, hraw⟩,
      mapM_part?_text _ hvalid⟩
  · rintro ⟨more, hhead, hparts⟩
    obtain ⟨rfl, hvalid⟩ := mapM_part?_eq_some hparts
    obtain ⟨hdigits, hraw⟩ :=
      (headAndFields?_eq_some_iff hlead (plainFields_text _ hvalid)).mp hhead
    exact ⟨hdigits, hvalid, by rwa [htext, toList_text]⟩

theorem Matches.head?_eq (h : s.Matches digits raw) : raw.toList.head? = s.lead.toList.head? := by
  obtain ⟨more, hhead, -⟩ := matches_iff.mp h
  rcases s.lead_eq with hs | hs
  all_goals
    rw [hs] at hhead ⊢
    exact head?_of_headAndFields? hhead

theorem Matches.lead_eq (h : s.Matches digits raw) (h' : s'.Matches digits' raw) :
    s.lead = s'.lead := by
  have hstart := h.head?_eq.symm.trans h'.head?_eq
  rcases s.lead_eq with hs | hs <;> rcases s'.lead_eq with hs' | hs' <;> rw [hs, hs'] at hstart ⊢
  · exact absurd hstart (by decide)
  · exact absurd hstart (by decide)

/-- A text is of one shape at most, and in one way. -/
theorem Matches.unique (h : s.Matches digits raw) (h' : s'.Matches digits' raw) :
    s = s' ∧ digits = digits' := by
  have hlead := h.lead_eq h'
  obtain ⟨more, hhead, hparts⟩ := matches_iff.mp h
  obtain ⟨more', hhead', hparts'⟩ := matches_iff.mp h'
  rw [hlead] at hhead
  obtain ⟨hdigits, rfl⟩ := Prod.mk.inj (Option.some.inj (hhead.symm.trans hhead'))
  exact ⟨eq_of_parts hlead (Option.some.inj (hparts.symm.trans hparts')),
    String.toList_inj.mp hdigits⟩

theorem fits_iff : s.Fits raw n ↔
    ∃ digits, s.Matches digits raw ∧ Integer.ofRun digits.toList = .ok n := by
  constructor
  · rintro ⟨digits, more, hhead, hparts, hrun⟩
    refine ⟨String.ofList digits, matches_iff.mpr ⟨more, ?_, hparts⟩, ?_⟩
    · rwa [String.toList_ofList]
    · rwa [String.toList_ofList]
  · rintro ⟨digits, hmatches, hrun⟩
    obtain ⟨more, hhead, hparts⟩ := matches_iff.mp hmatches
    exact ⟨digits.toList, more, hhead, hparts, hrun⟩

theorem Fits.valid (h : s.Fits raw n) : Short n ∧ s.Valid := by
  obtain ⟨digits, more, hhead, hparts, hrun⟩ := h
  exact ⟨short_of_ofRun (headAndFields?_eq_some hhead).2 hrun, (mapM_part?_eq_some hparts).2⟩

/-! ## Reading -/

theorem named?_of_token? {token : Token} (h : s.token? n = some token) :
    s.lead = "cat" ∧ named? n s.parts = some token := by
  cases s with
  | marker => cases h
  | _ => exact ⟨rfl, h⟩

theorem eq_of_named? {m : Nat} {others : List Part} {token : Token} (h : s.token? n = some token)
    (hnamed : named? m others = some token) : m = n ∧ others = s.parts := by
  cases s with
  | marker => cases h
  | _ =>
    cases h
    unfold named? at hnamed
    split at hnamed
    all_goals simp_all [parts]

/-- A token is read off the texts of its shape and off no others. -/
theorem read_iff {token : Token} (htoken : s.token? n = some token) :
    Token.read raw = .ok token ↔ s.Fits raw n := by
  obtain ⟨hlead, hnamed⟩ := named?_of_token? htoken
  rw [Fits, hlead]
  constructor
  · intro h
    rcases token_of_read h with rfl | ⟨target, -, rfl⟩ | ⟨m, selector, rfl⟩ |
      ⟨digits, more, parts, m, hhead, hparts, hrun, hread⟩
    · cases s <;> cases htoken
    · cases s <;> cases htoken
    · cases s <;> cases htoken
    · obtain ⟨rfl, rfl⟩ := eq_of_named? htoken hread
      exact ⟨digits, more, hhead, hparts, hrun⟩
  · rintro ⟨digits, more, hhead, hparts, hrun⟩
    obtain ⟨rest, hraw⟩ := List.head?_eq_some_iff.mp (head?_of_headAndFields? hhead)
    have hzero : (named? 0 s.parts).isSome = true := by
      rw [isSome_named? 0 n, hnamed]
      rfl
    obtain ⟨first, hfirst⟩ := Option.isSome_iff_exists.mp hzero
    rw [Token.read, hraw]
    show readNamed raw = _
    rw [readNamed, hhead]
    simp only [hparts, hfirst, hrun]
    show Except.ok ((named? n s.parts).getD (.literal raw)) = _
    rw [hnamed]
    rfl

theorem readEntry_iff {entry : Entry} (hentry : s.entry? n = some entry) :
    Entry.read raw = .ok (some entry) ↔ s.Fits raw n := by
  constructor
  · intro h
    unfold Entry.read at h
    split at h
    · rename_i digits more hhead
      split at h
      · rename_i hparts
        obtain ⟨m, hrun, h⟩ := bind_eq_ok h
        obtain rfl := Option.some.inj (Except.ok.inj h)
        cases s <;> cases hentry
        exact ⟨digits, more, hhead, hparts, hrun⟩
      · cases h
    · rename_i digits more _ hhead
      split at h
      · rename_i hparts
        obtain ⟨m, hrun, h⟩ := bind_eq_ok h
        obtain rfl := Option.some.inj (Except.ok.inj h)
        cases s <;> cases hentry
        exact ⟨digits, more, hhead, hparts, hrun⟩
      · cases h
    · cases h
  · rintro ⟨digits, more, hhead, hparts, hrun⟩
    cases s with
    | leaf t d v =>
      obtain rfl := Option.some.inj hentry
      have hcat : headAndFields? "cat".toList raw.toList = some (digits, more) := hhead
      have htexts : more.mapM part? = some [.type t, .value d v] := hparts
      rw [Entry.read, hcat]
      simp only [htexts, hrun]
      rfl
    | marker t =>
      obtain rfl := Option.some.inj hentry
      have hsub : headAndFields? "sub".toList raw.toList = some (digits, more) := hhead
      have htexts : more.mapM part? = some [.type t] := hparts
      have hcat : headAndFields? "cat".toList raw.toList = none := by
        rw [Option.eq_none_iff_forall_ne_some]
        intro found hfound
        cases (head?_of_headAndFields? hfound).symm.trans (head?_of_headAndFields? hsub)
      rw [Entry.read, hcat, hsub]
      simp only [htexts, hrun]
      rfl
    | _ => cases hentry

/-! ## What is written -/

theorem fits_text (h : s.Valid) (hn : Short n) : s.Fits (s.text (toString (n : Int))) n := by
  have hdigits : (toString (n : Int)).toList = decimal n := toList_repr_natCast n
  refine fits_iff.mpr ⟨toString (n : Int), ⟨?_, h, .inl rfl⟩, ?_⟩
  · rw [hdigits]
    exact isDigits_decimal n
  · rw [hdigits]
    exact ofRun_decimal hn

theorem read_text {token : Token} (h : s.Valid) (hn : Short n) (htoken : s.token? n = some token) :
    Token.read (s.text (toString (n : Int))) = .ok token :=
  (read_iff htoken).mpr (fits_text h hn)

end Shape

/-- What is written in a head of a type, a dimension and a value is read as just that: names and
negations among tokens, leaves and markers among entries. -/
structure ReadBack (n : Nat) (t d v : String) : Prop where
  head : Token.read (headText n) = .ok (.head n)
  type : Token.read (typeText n t) = .ok (.type n t)
  dim : Token.read (headText n ++ "_" ++ d) = .ok (.dim n d)
  typeDim : Token.read (dimText n t d) = .ok (.typeDim n t d)
  value : Token.read (headText n ++ "_" ++ d ++ v) = .ok (.value n d v)
  leaf : Token.read (leafText n t d v) = .ok (.leaf n t d v)
  negation : ∀ selector ∈ ["", t, d ++ v, t ++ "_" ++ d ++ v],
    Token.read (negationText n selector) = .ok (.negation (negationText n selector) n selector)
  leafEntry : Entry.read (leafText n t d v) = .ok (some (.leaf n t d v))
  markerEntry : Entry.read (markerText n t) = .ok (some (.marker n t))

theorem isSelector_of_mem (ht : isTypeKey t.toList = true) (hd : d ∈ dimensions)
    (hv : isDigits v.toList = true) :
    ∀ selector ∈ ["", t, d ++ v, t ++ "_" ++ d ++ v], IsSelector selector := by
  have hvalid : ∀ p ∈ [Part.type t, .value d v], p.Valid := by simpa using ⟨ht, hd, hv⟩
  have hwritten : ∀ parts ⊆ [Part.type t, .value d v], selects parts = true → ∀ selector : String,
      selector.toList = joined '_' (parts.map Part.text) → IsSelector selector := by
    intro parts hparts hselects selector htext
    rw [← String.ofList_toList (s := selector), htext]
    exact isSelector_text (fun p hp => hvalid p (hparts hp)) hselects
  intro selector hmem
  simp only [List.mem_cons, List.not_mem_nil, or_false] at hmem
  rcases hmem with rfl | rfl | rfl | rfl
  · exact hwritten [] (by simp) rfl _ rfl
  · exact hwritten [.type selector] (by simp) rfl _ rfl
  · exact hwritten [.value d v] (by simp) rfl _ (by simp [joined, Part.text])
  · exact hwritten [.type t, .value d v] (by simp) rfl _ (by simp [joined, Part.text])

theorem readBack_of_valid (hn : Short n) (ht : isTypeKey t.toList = true) (hd : d ∈ dimensions)
    (hv : isDigits v.toList = true) : ReadBack n t d v where
  head := read_headText hn
  type := read_typeText hn ht
  dim := Shape.read_text (s := .dim d) (List.forall_mem_singleton.mpr hd) hn rfl
  typeDim := read_dimText hn ht hd
  value := Shape.read_text (s := .value d v) (List.forall_mem_singleton.mpr ⟨hd, hv⟩) hn rfl
  leaf := read_leafText hn ht hd hv
  negation := fun selector hmem => read_negationText hn (isSelector_of_mem ht hd hv selector hmem)
  leafEntry := @Entry.read_text (.leaf n t d v) ⟨hn, ht, hd, hv⟩
  markerEntry := @Entry.read_text (.marker n t) ⟨hn, ht⟩

/-- No text is of two shapes or of one in two ways, tokens and entries are read off the texts of
their shape and off no others, what is written is read back, and so is the written form of any leaf
that was read. -/
theorem shapes_unique_and_read_back :
    (∀ (raw digits digits' : String) (s s' : Shape), s.Matches digits raw →
      s'.Matches digits' raw → s = s' ∧ digits = digits') ∧
    (∀ (raw : String) (s : Shape) (n : Nat),
      (∀ token ∈ s.token? n, Token.read raw = .ok token ↔
        ∃ digits, s.Matches digits raw ∧ Integer.ofRun digits.toList = .ok n) ∧
      ∀ entry ∈ s.entry? n, Entry.read raw = .ok (some entry) ↔
        ∃ digits, s.Matches digits raw ∧ Integer.ofRun digits.toList = .ok n) ∧
    (∀ (n : Nat) (t d v : String), Short n → isTypeKey t.toList = true → d ∈ dimensions →
      isDigits v.toList = true → ReadBack n t d v) ∧
    ∀ (raw : String) (n : Nat) (t d v : String), Entry.read raw = .ok (some (.leaf n t d v)) →
      Entry.read (leafText n t d v) = .ok (some (.leaf n t d v)) := by
  refine ⟨fun _ _ _ _ _ h h' => h.unique h', fun raw s n => ⟨?_, ?_⟩, ?_, ?_⟩
  · intro token htoken
    rw [Shape.read_iff htoken, Shape.fits_iff]
  · intro entry hentry
    rw [Shape.readEntry_iff hentry, Shape.fits_iff]
  · exact fun n t d v hn ht hd hv => readBack_of_valid hn ht hd hv
  · intro raw n t d v h
    exact @Entry.read_text (.leaf n t d v) (Entry.valid_of_read h)

/-- A leaf with digits of two scripts in its head and in its value, and a line feed behind. -/
theorem shapes_unique_and_read_back_scripts :
    let raw := "cat0٣_z12_a٠9\n"
    let s := Shape.leaf "z12" "a" "٠9"
    s.Matches "0٣" raw ∧ (∀ s' digits, s'.Matches digits raw → s' = s ∧ digits = "0٣") ∧
      Token.read raw = .ok (.leaf 3 "z12" "a" "٠9") ∧
      Entry.read raw = .ok (some (.leaf 3 "z12" "a" "٠9")) ∧
      Short 3 ∧ isTypeKey "z12".toList = true ∧ "a" ∈ dimensions ∧ isDigits "٠9".toList = true ∧
      ReadBack 3 "z12" "a" "٠9" ∧
      Entry.read (leafText 3 "z12" "a" "٠9") = .ok (some (.leaf 3 "z12" "a" "٠9")) := by
  intro raw s
  obtain ⟨hunique, hread, hback, hagain⟩ := shapes_unique_and_read_back
  have htype : isTypeKey "z12".toList = true := by decide
  have hdim : "a" ∈ dimensions := by decide
  have hvalue : isDigits "٠9".toList = true := by decide
  have hvalid : s.Valid := by simpa [s, Shape.Valid, Shape.parts] using ⟨htype, hdim, hvalue⟩
  have hmatches : s.Matches "0٣" raw := ⟨by decide, hvalid, .inr (by decide)⟩
  have hfits : ∃ digits, s.Matches digits raw ∧ Integer.ofRun digits.toList = .ok 3 :=
    ⟨"0٣", hmatches, rfl⟩
  have hentry := ((hread raw s 3).2 _ rfl).mpr hfits
  exact ⟨hmatches, fun s' digits h => hunique raw digits "0٣" s' s h hmatches,
    ((hread raw s 3).1 _ rfl).mpr hfits, hentry, by decide, htype, hdim, hvalue,
    hback 3 "z12" "a" "٠9" (by decide) htype hdim hvalue, hagain raw 3 "z12" "a" "٠9" hentry⟩

end Sift.Shorthand
