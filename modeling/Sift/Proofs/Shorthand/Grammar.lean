import Sift.Proofs.Outcome
import Sift.Shorthand.Token
import Sift.Taxonomy

/-!
# Written tokens are read back

A written token is a start with the digits of its head and then its parts, with underscores between.
`headAndFields?_written` takes such a text apart, and from it each written form reads as the token it
was written for (`read_nameText`, `read_negationText`) and each entry as itself
(`Entry.read_text`). A head is written with its decimal digits, and it is read back as long as these
are few enough (`Short`).
-/

namespace Sift.Text

theorem toNat_of_ascii {c : Char} (h : c.isDigit = true) : 48 ≤ c.toNat ∧ c.toNat ≤ 57 := by
  simpa [Char.isDigit, UInt32.le_iff_toNat_le] using h

theorem digitValue?_of_ascii {c : Char} (h : c.isDigit = true) :
    digitValue? c = some (c.toNat - '0'.toNat) := by
  have hc := toNat_of_ascii h
  have hfind : (zeros.find? fun z => z ≤ c.toNat && c.toNat ≤ z + 9) = some 48 := by
    simp [zeros, hc.1, hc.2]
  rw [digitValue?, hfind]
  rfl

theorem isDigit_of_ascii {c : Char} (h : c.isDigit = true) : isDigit c = true := by
  simp [isDigit, digitValue?_of_ascii h]

/-- The decimal digits of a number. -/
def decimal (n : Nat) : List Char := Nat.toDigits 10 n

theorem ascii_of_mem_decimal {n : Nat} {c : Char} (h : c ∈ decimal n) : c.isDigit = true :=
  Nat.isDigit_of_mem_toDigits (by omega) (by omega) h

theorem isDigits_decimal (n : Nat) : isDigits (decimal n) = true :=
  isDigits_iff.mpr ⟨Nat.toDigits_ne_nil, fun _ hc => isDigit_of_ascii (ascii_of_mem_decimal hc)⟩

theorem ofDigits_eq_ofDigitChars {cs : List Char} (h : ∀ c ∈ cs, c.isDigit = true) :
    ofDigits cs = Nat.ofDigitChars 10 cs 0 := by
  have key : ∀ n, cs.foldl (fun n c => 10 * n + (digitValue? c).getD 0) n =
      Nat.ofDigitChars 10 cs n := by
    induction cs with
    | nil => intro n; rfl
    | cons c cs ih =>
      intro n
      rw [List.foldl_cons, Nat.ofDigitChars_cons, digitValue?_of_ascii (h c (by simp))]
      exact ih (fun d hd => h d (by simp [hd])) _
  exact key 0

@[simp] theorem ofDigits_decimal (n : Nat) : ofDigits (decimal n) = n := by
  rw [ofDigits_eq_ofDigitChars fun _ hc => ascii_of_mem_decimal hc, decimal,
    Nat.ofDigitChars_ten_toDigits]

@[simp] theorem toList_repr_natCast (n : Nat) : (Int.repr n).toList = decimal n := by
  show n.repr.toList = decimal n
  rw [Nat.toList_repr, decimal]

theorem ne_of_isDigit {c d : Char} (h : isDigit c = true) (hd : isDigit d = false) : c ≠ d := by
  rintro rfl
  rw [h] at hd
  exact Bool.noConfusion hd

theorem not_mem_of_isDigits {cs : List Char} {d : Char} (h : isDigits cs = true)
    (hd : isDigit d = false) : d ∉ cs :=
  fun hmem => ne_of_isDigit ((isDigits_iff.mp h).2 d hmem) hd rfl

theorem mem_joined {sep c : Char} {parts : List (List Char)} (h : c ∈ joined sep parts) :
    c = sep ∨ ∃ part ∈ parts, c ∈ part := by
  induction parts with
  | nil => simp [joined] at h
  | cons part more ih =>
    cases more with
    | nil => exact .inr ⟨part, by simp, h⟩
    | cons next more =>
      rw [joined_cons_cons, List.mem_append, List.mem_cons] at h
      rcases h with h | h | h
      · exact .inr ⟨part, by simp, h⟩
      · exact .inl h
      · rcases ih h with h | ⟨p, hp, hc⟩
        · exact .inl h
        · exact .inr ⟨p, by simp [hp], hc⟩

theorem fields_append (sep : Char) (cs ds : List Char) :
    fields sep (cs ++ sep :: ds) = fields sep cs ++ fields sep ds := by
  induction cs with
  | nil => simp [fields]
  | cons c cs ih =>
    rw [List.cons_append, fields, fields, ih]
    split
    · rfl
    · cases hfields : fields sep cs with
      | nil => exact absurd hfields (fields_ne_nil sep cs)
      | cons field more => rfl

theorem not_mem_fields {sep : Char} {cs field : List Char} (h : field ∈ fields sep cs) :
    sep ∉ field := by
  induction cs generalizing field with
  | nil =>
    obtain rfl : field = [] := by simpa [fields] using h
    simp
  | cons c rest ih =>
    rw [fields] at h
    split at h
    · rcases List.mem_cons.mp h with rfl | h
      · simp
      · exact ih h
    · rename_i hc
      cases hfields : fields sep rest with
      | nil => exact absurd hfields (fields_ne_nil sep rest)
      | cons first more =>
        rw [hfields] at h ih
        rcases List.mem_cons.mp h with rfl | h
        · simp only [List.mem_cons, not_or]
          exact ⟨fun e => hc e.symm, ih (by simp)⟩
        · exact ih (by simp [h])

theorem not_mem_of_mem_split {sep : Char} {text part : String} (h : part ∈ split sep text) :
    sep ∉ part.toList := by
  obtain ⟨field, hfield, rfl⟩ := List.mem_map.mp h
  rw [String.toList_ofList]
  exact not_mem_fields hfield

theorem split_join_eq {sep : Char} {texts : List String} (hne : texts ≠ []) :
    split sep (join sep texts) = texts.flatMap (split sep) := by
  have hfields : fields sep (joined sep (texts.map String.toList)) =
      texts.flatMap fun text => fields sep text.toList := by
    induction texts with
    | nil => exact absurd rfl hne
    | cons text texts ih =>
      cases texts with
      | nil => simp [joined]
      | cons next texts =>
        rw [List.map_cons, List.map_cons, joined_cons_cons, fields_append, ← List.map_cons,
          ih (by simp)]
        simp only [List.flatMap_cons]
  rw [split, join, String.toList_ofList, hfields, List.map_flatMap]
  rfl

theorem join_split (sep : Char) (text : String) : join sep (split sep text) = text := by
  rw [join, split, List.map_map]
  have hid : String.toList ∘ String.ofList = id := funext fun cs => String.toList_ofList
  rw [hid, List.map_id, joined_fields, String.ofList_toList]

theorem split_of_not_mem {sep : Char} {text : String} (h : sep ∉ text.toList) :
    split sep text = [text] := by
  rw [split, fields_of_not_mem sep _ h, List.map_singleton, String.ofList_toList]

theorem flatMap_split {sep : Char} {texts : List String} (h : ∀ text ∈ texts, sep ∉ text.toList) :
    texts.flatMap (split sep) = texts := by
  induction texts with
  | nil => rfl
  | cons text texts ih =>
    rw [List.flatMap_cons, split_of_not_mem (h text (by simp)), ih fun t ht => h t (by simp [ht]),
      List.singleton_append]

end Sift.Text

namespace Sift.Shorthand

open Text

/-! ## Parts -/

namespace Part

/-- The written form of a part. -/
def text : Part → List Char
  | type key => key.toList
  | dim d => d.toList
  | value d v => d.toList ++ v.toList

/-- A part that can be written: a type key, the letter of a dimension, or a letter and digits. -/
def Valid : Part → Prop
  | type key => isTypeKey key.toList = true
  | dim d => d ∈ dimensions
  | value d v => d ∈ dimensions ∧ isDigits v.toList = true

end Part

theorem mem_dimensions_iff {d : String} :
    d ∈ dimensions ↔ ∃ c, isDim c = true ∧ d = String.singleton c := by
  constructor
  · intro h
    simp only [dimensions, List.mem_cons, List.not_mem_nil, or_false] at h
    rcases h with rfl | rfl | rfl | rfl
    · exact ⟨'a', rfl, rfl⟩
    · exact ⟨'b', rfl, rfl⟩
    · exact ⟨'c', rfl, rfl⟩
    · exact ⟨'d', rfl, rfl⟩
  · rintro ⟨c, hc, rfl⟩
    simp only [isDim, Bool.or_eq_true, beq_iff_eq] at hc
    rcases hc with ((rfl | rfl) | rfl) | rfl <;> decide

theorem isTypeKey_cons_of_isDim {c : Char} {cs : List Char} (h : isDim c = true) :
    isTypeKey (c :: cs) = false := by
  unfold isTypeKey
  split
  · rename_i heq
    obtain ⟨rfl, -⟩ := List.cons.inj heq
    exact absurd h (by decide)
  · rfl

theorem part?_eq_some_iff {field : List Char} {p : Part} :
    part? field = some p ↔ p.Valid ∧ field = p.text := by
  constructor
  · intro h
    unfold part? at h
    split at h
    · rename_i hkey
      obtain rfl := Option.some.inj h
      exact ⟨by simpa [Part.Valid] using hkey, by simp [Part.text]⟩
    · cases field with
      | nil => cases h
      | cons c rest =>
        simp only at h
        split at h
        · rename_i hc
          simp only [Bool.and_eq_true, List.isEmpty_iff] at hc
          obtain rfl := Option.some.inj h
          exact ⟨mem_dimensions_iff.mpr ⟨c, hc.1, rfl⟩, by simp [Part.text, hc.2]⟩
        · split at h
          · rename_i hc
            simp only [Bool.and_eq_true] at hc
            obtain rfl := Option.some.inj h
            exact ⟨⟨mem_dimensions_iff.mpr ⟨c, hc.1, rfl⟩, by simpa using hc.2⟩,
              by simp [Part.text]⟩
          · cases h
  · rintro ⟨hvalid, rfl⟩
    cases p with
    | type key => simp only [Part.Valid] at hvalid; simp [part?, Part.text, hvalid]
    | dim d =>
      obtain ⟨c, hc, rfl⟩ := mem_dimensions_iff.mp hvalid
      simp [part?, Part.text, isTypeKey_cons_of_isDim hc, hc]
    | value d v =>
      obtain ⟨hd, hv⟩ := hvalid
      obtain ⟨c, hc, rfl⟩ := mem_dimensions_iff.mp hd
      have hne : v.toList ≠ [] := (isDigits_iff.mp hv).1
      simp [part?, Part.text, isTypeKey_cons_of_isDim hc, hc, hv, hne]

theorem part?_text {p : Part} (h : p.Valid) : part? p.text = some p :=
  part?_eq_some_iff.mpr ⟨h, rfl⟩

theorem mapM_part?_text (parts : List Part) (h : ∀ p ∈ parts, p.Valid) :
    (parts.map Part.text).mapM part? = some parts := by
  induction parts with
  | nil => rfl
  | cons p parts ih =>
    rw [List.map_cons, List.mapM_cons, part?_text (h p (by simp)),
      ih fun q hq => h q (by simp [hq])]
    rfl

theorem mapM_part?_eq_some {fields : List (List Char)} {parts : List Part}
    (h : fields.mapM part? = some parts) :
    fields = parts.map Part.text ∧ ∀ p ∈ parts, p.Valid := by
  induction fields generalizing parts with
  | nil =>
    obtain rfl : [] = parts := Option.some.inj h
    simp
  | cons field fields ih =>
    rw [List.mapM_cons] at h
    cases hp : part? field with
    | none => rw [hp] at h; cases h
    | some p =>
      cases hps : fields.mapM part? with
      | none => rw [hp, hps] at h; cases h
      | some ps =>
        rw [hp, hps] at h
        obtain rfl : p :: ps = parts := Option.some.inj h
        obtain ⟨hvalid, rfl⟩ := part?_eq_some_iff.mp hp
        obtain ⟨rfl, hall⟩ := ih hps
        exact ⟨rfl, by simpa using ⟨hvalid, hall⟩⟩

theorem Part.Valid.text_ne_nil {p : Part} (h : p.Valid) : p.text ≠ [] := by
  intro hnil
  have hread := part?_text h
  rw [hnil] at hread
  cases hread

theorem Part.Valid.mem_text {p : Part} (h : p.Valid) {c : Char} (hc : c ∈ p.text) :
    isDigit c = true ∨ isDim c = true ∨ c = 'z' := by
  have hdim : ∀ d ∈ dimensions, c ∈ d.toList → isDim c = true := by
    intro d hd hmem
    obtain ⟨l, hl, rfl⟩ := mem_dimensions_iff.mp hd
    obtain rfl : c = l := by simpa using hmem
    exact hl
  cases p with
  | type key =>
    have hkey : isTypeKey key.toList = true := h
    unfold isTypeKey at hkey
    split at hkey
    · rename_i rest heq
      rw [Part.text, heq, List.mem_cons] at hc
      simp only [Bool.or_eq_true, beq_iff_eq] at hkey
      rcases hc with rfl | hc
      · exact .inr (.inr rfl)
      · rcases hkey with rfl | hdigits
        · exact .inr (.inr (by simpa using hc))
        · exact .inl ((isDigits_iff.mp hdigits).2 c hc)
    · cases hkey
  | dim d => exact .inr (.inl (hdim d h hc))
  | value d v =>
    rw [Part.text, List.mem_append] at hc
    rcases hc with hc | hc
    · exact .inr (.inl (hdim d h.1 hc))
    · exact .inl ((isDigits_iff.mp h.2).2 c hc)

theorem Part.Valid.not_mem_text {p : Part} (h : p.Valid) {c : Char}
    (hc : isDigit c = false ∧ isDim c = false ∧ c ≠ 'z') : c ∉ p.text := by
  intro hmem
  rcases h.mem_text hmem with h | h | h
  · exact absurd (h.symm.trans hc.1) Bool.noConfusion
  · exact absurd (h.symm.trans hc.2.1) Bool.noConfusion
  · exact hc.2.2 h

/-! ## Heads and fields -/

theorem after?_append (lead cs : List Char) : after? lead (lead ++ cs) = some cs := by
  induction lead with
  | nil => rfl
  | cons l lead ih => rw [List.cons_append, after?, if_pos rfl, ih]

theorem after?_eq_some {lead cs rest : List Char} (h : after? lead cs = some rest) :
    cs = lead ++ rest := by
  induction lead generalizing cs with
  | nil => exact Option.some.inj h
  | cons l lead ih =>
    cases cs with
    | nil => cases h
    | cons c cs =>
      rw [after?] at h
      split at h
      · rename_i hc
        rw [hc, ih h, List.cons_append]
      · cases h

theorem withoutLineEnd_of_not_mem {cs : List Char} (h : '\n' ∉ cs) : withoutLineEnd cs = cs := by
  rw [withoutLineEnd, if_neg]
  intro hlast
  exact h (List.mem_of_getLast? hlast)

/-- The written form of a head with the fields behind it. -/
def written (lead : List Char) (n : Nat) (fields : List (List Char)) : List Char :=
  joined '_' ((lead ++ decimal n) :: fields)

/-- The fields behind a head hold neither an underscore nor a line feed. -/
def PlainFields (fields : List (List Char)) : Prop :=
  ∀ field ∈ fields, '_' ∉ field ∧ '\n' ∉ field

theorem not_mem_decimal {n : Nat} {c : Char} (h : isDigit c = false) : c ∉ decimal n :=
  not_mem_of_isDigits (isDigits_decimal n) h

theorem not_mem_headed {lead digits : List Char} (hdigits : isDigits digits = true)
    {fs : List (List Char)} {c : Char} (hc : isDigit c = false) (hlead : c ≠ '_' ∧ c ∉ lead)
    (hfs : ∀ field ∈ fs, c ∉ field) : c ∉ joined '_' ((lead ++ digits) :: fs) := by
  intro hmem
  rcases mem_joined hmem with hmem | ⟨field, hfield, hmem⟩
  · exact hlead.1 hmem
  · rcases List.mem_cons.mp hfield with rfl | hfield
    · rcases List.mem_append.mp hmem with hmem | hmem
      · exact hlead.2 hmem
      · exact not_mem_of_isDigits hdigits hc hmem
    · exact hfs field hfield hmem

theorem not_mem_written {lead : List Char} {fs : List (List Char)} {n : Nat} {c : Char}
    (hc : isDigit c = false) (hlead : c ≠ '_' ∧ c ∉ lead) (hfs : ∀ field ∈ fs, c ∉ field) :
    c ∉ written lead n fs :=
  not_mem_headed (isDigits_decimal n) hc hlead hfs

theorem fields_headed {lead digits : List Char} (hdigits : isDigits digits = true)
    {fs : List (List Char)} (hlead : '_' ∉ lead ∧ '\n' ∉ lead) (hfs : PlainFields fs) :
    fields '_' (withoutLineEnd (joined '_' ((lead ++ digits) :: fs))) = (lead ++ digits) :: fs := by
  have hall : ∀ field ∈ (lead ++ digits) :: fs, '_' ∉ field := by
    intro field hmem
    rcases List.mem_cons.mp hmem with rfl | hmem
    · simp only [List.mem_append, not_or]
      exact ⟨hlead.1, not_mem_of_isDigits hdigits (by decide)⟩
    · exact (hfs field hmem).1
  have hline : '\n' ∉ joined '_' ((lead ++ digits) :: fs) :=
    not_mem_headed hdigits (by decide) ⟨by decide, hlead.2⟩ fun field hfield => (hfs field hfield).2
  rw [withoutLineEnd_of_not_mem hline, fields_joined '_' _ (by simp) hall]

theorem headAndFields?_headed {lead digits : List Char} (hdigits : isDigits digits = true)
    {fs : List (List Char)} (hlead : '_' ∉ lead ∧ '\n' ∉ lead) (hfs : PlainFields fs) :
    headAndFields? lead (joined '_' ((lead ++ digits) :: fs)) = some (digits, fs) := by
  rw [headAndFields?, fields_headed hdigits hlead hfs]
  simp [headDigits?, after?_append, hdigits]

theorem headAndFields?_written (lead : List Char) {fs : List (List Char)} (n : Nat)
    (hlead : '_' ∉ lead ∧ '\n' ∉ lead) (hfs : PlainFields fs) :
    headAndFields? lead (written lead n fs) = some (decimal n, fs) :=
  headAndFields?_headed (isDigits_decimal n) hlead hfs

theorem headAndFields?_written_other {lead : List Char} (lead' : List Char) {fs : List (List Char)}
    (n : Nat) (hlead : '_' ∉ lead' ∧ '\n' ∉ lead') (hfs : PlainFields fs)
    (hother : ∀ cs, after? lead (lead' ++ cs) = none) :
    headAndFields? lead (written lead' n fs) = none := by
  rw [headAndFields?, written, fields_headed (isDigits_decimal n) hlead hfs]
  simp [headDigits?, hother]

theorem plainFields_text (parts : List Part) (h : ∀ p ∈ parts, p.Valid) :
    PlainFields (parts.map Part.text) := by
  intro field hmem
  obtain ⟨p, hp, rfl⟩ := List.mem_map.mp hmem
  exact ⟨(h p hp).not_mem_text (by decide), (h p hp).not_mem_text (by decide)⟩

/-- A number with no more digits than are read. -/
def Short (n : Nat) : Prop := (decimal n).length ≤ Integer.maxDigits

instance (n : Nat) : Decidable (Short n) :=
  inferInstanceAs (Decidable ((decimal n).length ≤ Integer.maxDigits))

theorem ofRun_decimal {n : Nat} (h : Short n) : Integer.ofRun (decimal n) = .ok n := by
  rw [Integer.ofRun, if_neg (Nat.not_lt.mpr h), ofDigits_decimal]

/-! ## Written forms -/

/-- The written form of the parts of a head. -/
def nameText (n : Nat) (parts : List Part) : String :=
  String.ofList (written "cat".toList n (parts.map Part.text))

theorem toList_nameText (n : Nat) (parts : List Part) :
    (nameText n parts).toList = written "cat".toList n (parts.map Part.text) :=
  String.toList_ofList

theorem headText_eq (n : Nat) : headText n = nameText n [] := by
  rw [← String.toList_inj]
  simp [headText, nameText, written, joined]

theorem typeText_eq (n : Nat) (t : String) : typeText n t = nameText n [.type t] := by
  rw [← String.toList_inj]
  simp [typeText, headText, nameText, written, joined, Part.text]

theorem dimText_eq (n : Nat) (t d : String) : dimText n t d = nameText n [.type t, .dim d] := by
  rw [← String.toList_inj]
  simp [dimText, typeText, headText, nameText, written, joined, Part.text]

theorem leafText_eq (n : Nat) (t d v : String) :
    leafText n t d v = nameText n [.type t, .value d v] := by
  rw [← String.toList_inj]
  simp [leafText, dimText, typeText, headText, nameText, written, joined,
    Part.text]

theorem markerText_eq (n : Nat) (t : String) :
    markerText n t = String.ofList (written "sub".toList n [t.toList]) := by
  rw [← String.toList_inj]
  simp [markerText, written, joined]

theorem not_mem_nameText {n : Nat} {parts : List Part} {c : Char} (h : ∀ p ∈ parts, p.Valid)
    (hc : isDigit c = false ∧ isDim c = false ∧ c ≠ 'z') (hlead : c ≠ '_' ∧ c ∉ "cat".toList) :
    c ∉ (nameText n parts).toList := by
  rw [toList_nameText]
  refine not_mem_written hc.1 hlead fun field hfield => ?_
  obtain ⟨p, hp, rfl⟩ := List.mem_map.mp hfield
  exact (h p hp).not_mem_text hc

theorem headAndFields?_nameText {n : Nat} {parts : List Part} (h : ∀ p ∈ parts, p.Valid) :
    headAndFields? "cat".toList (nameText n parts).toList =
      some (decimal n, parts.map Part.text) := by
  rw [toList_nameText]
  exact headAndFields?_written "cat".toList n (by decide) (plainFields_text _ h)

/-- A name tells its head and its parts. -/
theorem nameText_injective {n n' : Nat} {parts parts' : List Part} (h : ∀ p ∈ parts, p.Valid)
    (h' : ∀ p ∈ parts', p.Valid) (heq : nameText n parts = nameText n' parts') :
    n = n' ∧ parts = parts' := by
  have hfields : some (decimal n, parts.map Part.text) = some (decimal n', parts'.map Part.text) := by
    rw [← headAndFields?_nameText h, ← headAndFields?_nameText h', heq]
  obtain ⟨hdigits, htexts⟩ := Prod.mk.inj (Option.some.inj hfields)
  refine ⟨by rw [← ofDigits_decimal n, hdigits, ofDigits_decimal], ?_⟩
  have hparts : some parts = some parts' := by
    rw [← mapM_part?_text _ h, ← mapM_part?_text _ h', htexts]
  exact Option.some.inj hparts

theorem written_cons (l : Char) (lead : List Char) (n : Nat) (fs : List (List Char)) :
    ∃ cs, written (l :: lead) n fs = l :: cs := by
  cases fs with
  | nil => exact ⟨_, rfl⟩
  | cons f fs => exact ⟨_, rfl⟩

theorem nameText_ne_empty (n : Nat) (parts : List Part) : nameText n parts ≠ "" := by
  obtain ⟨cs, hcs⟩ := written_cons 'c' ['a', 't'] n (parts.map Part.text)
  intro h
  have hnil := congrArg String.toList h
  rw [(toList_nameText n parts).trans hcs] at hnil
  cases hnil

theorem nameText_ne_removalText (n : Nat) (parts : List Part) (target : String) :
    nameText n parts ≠ removalText target := by
  obtain ⟨cs, hcs⟩ := written_cons 'c' ['a', 't'] n (parts.map Part.text)
  intro h
  have hlist := congrArg String.toList h
  rw [(toList_nameText n parts).trans hcs] at hlist
  simp [removalText] at hlist

theorem leafText_injective {n : Nat} {t d v w : String} (h : leafText n t d v = leafText n t d w) :
    v = w := by
  rw [leafText, leafText, ← String.toList_inj, String.toList_append, String.toList_append] at h
  exact String.toList_inj.mp (List.append_cancel_left h)

theorem leafText_ne_dimText {n : Nat} {t d v : String} (hv : isDigits v.toList = true) :
    leafText n t d v ≠ dimText n t d := by
  intro h
  rw [leafText, ← String.toList_inj, String.toList_append] at h
  exact (isDigits_iff.mp hv).1 (List.append_right_eq_self.mp h)

theorem leafText_ne_removalText {n : Nat} {t d : String} (v target : String) :
    leafText n t d v ≠ removalText target :=
  leafText_eq n t d v ▸ nameText_ne_removalText n _ target

theorem dimText_ne_removalText {n : Nat} {t d : String} (target : String) :
    dimText n t d ≠ removalText target :=
  dimText_eq n t d ▸ nameText_ne_removalText n _ target

theorem removalText_ne_empty (target : String) : removalText target ≠ "" := by
  intro h
  have hnil := congrArg String.toList h
  simp [removalText] at hnil

theorem removalText_injective {target target' : String}
    (h : removalText target = removalText target') : target = target' := by
  have hlist := congrArg String.toList h
  simp only [removalText, String.toList_append] at hlist
  exact String.toList_inj.mp (List.append_cancel_left hlist)

/-! ## Reading -/

theorem isSome_named? (m n : Nat) (parts : List Part) :
    (named? m parts).isSome = (named? n parts).isSome := by
  unfold named?
  split <;> rfl

/-- The head of a name is all that can keep it from being read. -/
theorem read_nameText_eq {n : Nat} {parts : List Part} {token : Token} (h : ∀ p ∈ parts, p.Valid)
    (htoken : named? n parts = some token) : Token.read (nameText n parts) =
      (Integer.ofRun (decimal n)).map fun m => (named? m parts).getD (.literal (nameText n parts)) := by
  obtain ⟨cs, hcs⟩ := written_cons 'c' ['a', 't'] n (parts.map Part.text)
  have hzero : (named? 0 parts).isSome = true := by rw [isSome_named? 0 n, htoken]; rfl
  obtain ⟨token', htoken'⟩ := Option.isSome_iff_exists.mp hzero
  have hread : Token.read (nameText n parts) = readNamed (nameText n parts) := by
    rw [Token.read, (toList_nameText n parts).trans hcs]
    rfl
  rw [hread, readNamed, headAndFields?_nameText h]
  simp only [mapM_part?_text _ h, htoken']
  rfl

theorem read_nameText {n : Nat} {parts : List Part} {token : Token} (h : ∀ p ∈ parts, p.Valid)
    (hn : Short n) (htoken : named? n parts = some token) :
    Token.read (nameText n parts) = .ok token := by
  rw [read_nameText_eq h htoken, ofRun_decimal hn]
  show Except.ok ((named? n parts).getD (.literal (nameText n parts))) = Except.ok token
  rw [htoken]
  rfl

theorem read_headText {n : Nat} (hn : Short n) :
    Token.read (headText n) = .ok (.head n) := by
  rw [headText_eq]
  exact read_nameText (by simp) hn rfl

theorem read_typeText {n : Nat} {t : String} (hn : Short n)
    (ht : isTypeKey t.toList = true) : Token.read (typeText n t) = .ok (.type n t) := by
  rw [typeText_eq]
  exact read_nameText (by simpa [Part.Valid] using ht) hn rfl

theorem read_dimText {n : Nat} {t d : String} (hn : Short n)
    (ht : isTypeKey t.toList = true) (hd : d ∈ dimensions) :
    Token.read (dimText n t d) = .ok (.typeDim n t d) := by
  rw [dimText_eq]
  exact read_nameText (by simpa using ⟨ht, hd⟩) hn rfl

theorem read_leafText {n : Nat} {t d v : String} (hn : Short n)
    (ht : isTypeKey t.toList = true) (hd : d ∈ dimensions) (hv : isDigits v.toList = true) :
    Token.read (leafText n t d v) = .ok (.leaf n t d v) := by
  rw [leafText_eq]
  exact read_nameText (by simpa using ⟨ht, hd, hv⟩) hn rfl

theorem read_removalText (target : String) :
    Token.read (removalText target) = .ok (.removal target) := by
  have hlist : (removalText target).toList = '!' :: target.toList := by simp [removalText]
  rw [Token.read, hlist]
  simp

/-! ## Negations -/

/-- A selector of the grammar: nothing, a type, a value, or a type and a value. -/
def IsSelector (selector : String) : Prop :=
  isSelector (fields '_' selector.toList) = true ∧ '\n' ∉ selector.toList

/-- The fields behind the head of a negation. -/
def selectorFields (selector : String) : List (List Char) :=
  if selector = "" then [] else fields '_' selector.toList

theorem negationText_eq (n : Nat) (selector : String) :
    negationText n selector =
      String.ofList (written "~cat".toList n (selectorFields selector)) := by
  rw [← String.toList_inj, negationText, selectorFields]
  split
  · simp [headText, written, joined]
  · have hjoin := joined_fields '_' selector.toList
    cases hfields : fields '_' selector.toList with
    | nil => exact absurd hfields (fields_ne_nil '_' _)
    | cons field more =>
      rw [hfields] at hjoin
      simp [headText, written, joined_cons_cons, hjoin]

theorem joined_selectorFields (selector : String) :
    String.ofList (joined '_' (selectorFields selector)) = selector := by
  rw [selectorFields]
  split
  · rename_i h
    rw [h]
    rfl
  · rw [joined_fields, String.ofList_toList]

theorem mem_of_mem_field {sep c : Char} {cs field : List Char} (h : field ∈ fields sep cs)
    (hc : c ∈ field) : c ∈ cs := by
  induction cs generalizing field with
  | nil =>
    obtain rfl : field = [] := by simpa [fields] using h
    cases hc
  | cons d rest ih =>
    rw [fields] at h
    split at h
    · rcases List.mem_cons.mp h with rfl | h
      · cases hc
      · exact List.mem_cons_of_mem _ (ih h hc)
    · cases hfields : fields sep rest with
      | nil => exact absurd hfields (fields_ne_nil sep rest)
      | cons first more =>
        rw [hfields] at h ih
        rcases List.mem_cons.mp h with rfl | h
        · rcases List.mem_cons.mp hc with rfl | hc
          · simp
          · exact List.mem_cons_of_mem _ (ih (by simp) hc)
        · exact List.mem_cons_of_mem _ (ih (by simp [h]) hc)

theorem plainFields_selectorFields {selector : String} (h : IsSelector selector) :
    PlainFields (selectorFields selector) := by
  intro field hmem
  rw [selectorFields] at hmem
  split at hmem
  · cases hmem
  · exact ⟨not_mem_fields hmem, fun hc => h.2 (mem_of_mem_field hmem hc)⟩

theorem selectorFields_joined {parts : List Part} (h : ∀ p ∈ parts, p.Valid) :
    selectorFields (String.ofList (joined '_' (parts.map Part.text))) = parts.map Part.text := by
  cases parts with
  | nil => rfl
  | cons p parts =>
    have hfields := fields_joined '_' ((p :: parts).map Part.text) (by simp)
      fun field hfield => (plainFields_text _ h field hfield).1
    rw [selectorFields, if_neg, String.toList_ofList, hfields]
    intro hempty
    have hnil : joined '_' ((p :: parts).map Part.text) = [] := by
      simpa using congrArg String.toList hempty
    rw [hnil] at hfields
    exact (h p (by simp)).text_ne_nil (List.cons.inj hfields).1.symm

theorem negationText_joined {n : Nat} {parts : List Part} (h : ∀ p ∈ parts, p.Valid) :
    negationText n (String.ofList (joined '_' (parts.map Part.text))) = "~" ++ nameText n parts := by
  have hwritten : ∀ fs, written "~cat".toList n fs = '~' :: written "cat".toList n fs := by
    intro fs
    cases fs with
    | nil => rfl
    | cons f fs => rfl
  rw [negationText_eq, selectorFields_joined h, hwritten, ← String.toList_inj]
  simp [toList_nameText]

theorem isSelector_selectorFields {selector : String} (h : IsSelector selector) :
    isSelector (selectorFields selector) = true := by
  rw [selectorFields]
  split
  · rfl
  · exact h.1

theorem read_negationText {n : Nat} {selector : String} (hn : Short n)
    (h : IsSelector selector) :
    Token.read (negationText n selector) = .ok (.negation (negationText n selector) n selector) := by
  have hlist : (negationText n selector).toList =
      written "~cat".toList n (selectorFields selector) := by
    rw [negationText_eq, String.toList_ofList]
  obtain ⟨cs, hcs⟩ := written_cons '~' ['c', 'a', 't'] n (selectorFields selector)
  have hread : Token.read (negationText n selector) = readNegation (negationText n selector) := by
    rw [Token.read, hlist.trans hcs]
    rfl
  have hhead : headAndFields? "~cat".toList (negationText n selector).toList =
      some (decimal n, selectorFields selector) := by
    rw [hlist]
    exact headAndFields?_written "~cat".toList n (by decide)
      (plainFields_selectorFields h)
  rw [hread, readNegation, hhead]
  simp only [isSelector_selectorFields h, if_true, ofRun_decimal hn, joined_selectorFields]
  rfl

/-! ## Entries -/

/-- An entry that can be written: its head is read back, and its parts are valid. -/
def Entry.Valid : Entry → Prop
  | leaf n t d v => Short n ∧ isTypeKey t.toList = true ∧ d ∈ dimensions ∧
      isDigits v.toList = true
  | marker n t => Short n ∧ isTypeKey t.toList = true

theorem plainFields_type {t : String} (ht : isTypeKey t.toList = true) :
    PlainFields [t.toList] :=
  plainFields_text [.type t] (by simpa [Part.Valid] using ht)

theorem Entry.read_text {entry : Entry} (h : entry.Valid) :
    Entry.read entry.text = .ok (some entry) := by
  cases entry with
  | leaf n t d v =>
    obtain ⟨hn, ht, hd, hv⟩ := h
    have hvalid : ∀ p ∈ [Part.type t, Part.value d v], p.Valid := by simpa using ⟨ht, hd, hv⟩
    rw [Entry.text, Entry.read, leafText_eq, headAndFields?_nameText hvalid]
    simp only [mapM_part?_text _ hvalid, ofRun_decimal hn]
    rfl
  | marker n t =>
    obtain ⟨hn, ht⟩ := h
    have htext : (markerText n t).toList = written "sub".toList n [t.toList] := by
      rw [markerText_eq, String.toList_ofList]
    have hcat : headAndFields? "cat".toList (markerText n t).toList = none := by
      rw [htext]
      exact headAndFields?_written_other "sub".toList n (by decide)
        (plainFields_type ht) fun cs => rfl
    have hsub : headAndFields? "sub".toList (markerText n t).toList =
        some (decimal n, [t.toList]) := by
      rw [htext]
      exact headAndFields?_written "sub".toList n (by decide) (plainFields_type ht)
    have hparts : [t.toList].mapM part? = some [.type t] :=
      mapM_part?_text [.type t] (by simpa [Part.Valid] using ht)
    rw [Entry.text, Entry.read, hcat, hsub]
    simp only [hparts, ofRun_decimal hn]
    rfl

theorem Entry.text_injective {a b : Entry} (ha : a.Valid) (hb : b.Valid) (h : a.text = b.text) :
    a = b := by
  have hread : (Except.ok (some a) : Except Integer.Fault _) = .ok (some b) := by
    rw [← Entry.read_text ha, ← Entry.read_text hb, h]
  exact Option.some.inj (Except.ok.inj hread)

theorem read_entry_negationText {n : Nat} {selector : String} (h : IsSelector selector) :
    Entry.read (negationText n selector) = .ok none := by
  have hlist : (negationText n selector).toList =
      written "~cat".toList n (selectorFields selector) := by
    rw [negationText_eq, String.toList_ofList]
  have hcat : headAndFields? "cat".toList (negationText n selector).toList = none := by
    rw [hlist]
    exact headAndFields?_written_other "~cat".toList n (by decide)
      (plainFields_selectorFields h) fun cs => rfl
  have hsub : headAndFields? "sub".toList (negationText n selector).toList = none := by
    rw [hlist]
    exact headAndFields?_written_other "~cat".toList n (by decide)
      (plainFields_selectorFields h) fun cs => rfl
  rw [Entry.read, hcat, hsub]

/-! ## What reading gives is valid -/

theorem digitValue?_lt {c : Char} {n : Nat} (h : digitValue? c = some n) : n < 10 := by
  rw [digitValue?, Option.map_eq_some_iff] at h
  obtain ⟨z, hz, rfl⟩ := h
  have := List.find?_some hz
  simp only [Bool.and_eq_true, decide_eq_true_eq] at this
  omega

theorem length_decimal_ofDigits {cs : List Char} (hne : cs ≠ []) :
    (decimal (ofDigits cs)).length ≤ cs.length := by
  have key : ∀ n, cs.foldl (fun n c => 10 * n + (digitValue? c).getD 0) n <
      (n + 1) * 10 ^ cs.length := by
    clear hne
    induction cs with
    | nil => intro n; simp
    | cons c cs ih =>
      intro n
      rw [List.foldl_cons, List.length_cons, Nat.pow_succ]
      refine Nat.lt_of_lt_of_le (ih _) ?_
      have hdigit : (digitValue? c).getD 0 < 10 := by
        cases hc : digitValue? c with
        | none => simp
        | some v => simpa using digitValue?_lt hc
      calc (10 * n + (digitValue? c).getD 0 + 1) * 10 ^ cs.length
          ≤ ((n + 1) * 10) * 10 ^ cs.length := Nat.mul_le_mul_right _ (by omega)
        _ = (n + 1) * (10 ^ cs.length * 10) := by rw [Nat.mul_assoc, Nat.mul_comm 10]
  have hlt := key 0
  rw [Nat.zero_add, Nat.one_mul] at hlt
  exact (Nat.length_toDigits_le_iff (by omega) (List.length_pos_iff.mpr hne)).mpr hlt

theorem exists_ofRun_iff {digits : List Char} :
    (∃ n, Integer.ofRun digits = .ok n) ↔ digits.length ≤ Integer.maxDigits := by
  rw [Integer.ofRun]
  split
  · rename_i hlong
    exact iff_of_false nofun (Nat.not_le.mpr hlong)
  · rename_i hshort
    exact iff_of_true ⟨_, rfl⟩ (Nat.not_lt.mp hshort)

theorem short_of_ofRun {digits : List Char} {n : Nat} (hdigits : isDigits digits = true)
    (h : Integer.ofRun digits = .ok n) : Short n := by
  rw [Integer.ofRun] at h
  split at h
  · cases h
  · rename_i hlen
    obtain rfl := Except.ok.inj h
    have := length_decimal_ofDigits (isDigits_iff.mp hdigits).1
    exact Nat.le_trans this (Nat.not_lt.mp hlen)

theorem short_of_read_nameText {n : Nat} {parts : List Part} {token token' : Token}
    (h : ∀ p ∈ parts, p.Valid) (htoken : named? n parts = some token)
    (hread : Token.read (nameText n parts) = .ok token') : Short n := by
  rw [read_nameText_eq h htoken] at hread
  cases hrun : Integer.ofRun (decimal n) with
  | error fault =>
    rw [hrun] at hread
    cases hread
  | ok m =>
    rw [Integer.ofRun] at hrun
    split at hrun
    · cases hrun
    · rename_i hlen
      exact Nat.not_lt.mp hlen

theorem headAndFields?_eq_some {lead cs digits : List Char} {more : List (List Char)}
    (h : headAndFields? lead cs = some (digits, more)) :
    fields '_' (withoutLineEnd cs) = (lead ++ digits) :: more ∧ isDigits digits = true := by
  unfold headAndFields? at h
  split at h
  · rename_i first more' hfields
    cases hdigits : headDigits? lead first with
    | none => rw [hdigits] at h; cases h
    | some ds =>
      rw [hdigits] at h
      obtain ⟨rfl, rfl⟩ := Prod.mk.inj (Option.some.inj h)
      rw [headDigits?, Option.filter_eq_some_iff] at hdigits
      rw [hfields, after?_eq_some hdigits.1]
      exact ⟨rfl, hdigits.2⟩
  · cases h

theorem Entry.valid_of_read {raw : String} {entry : Entry}
    (h : Entry.read raw = .ok (some entry)) : entry.Valid := by
  unfold Entry.read at h
  split at h
  · rename_i digits more _ hhead
    split at h
    · rename_i t d v hparts
      obtain ⟨-, hvalid⟩ := mapM_part?_eq_some hparts
      obtain ⟨n, hrun, h⟩ := bind_eq_ok h
      obtain rfl := Option.some.inj (Except.ok.inj h)
      have ht := hvalid (.type t) (by simp)
      have hv := hvalid (.value d v) (by simp)
      exact ⟨short_of_ofRun (headAndFields?_eq_some hhead).2 hrun, ht, hv.1, hv.2⟩
    · cases h
  · rename_i digits more _ hhead
    split at h
    · rename_i t hparts
      obtain ⟨-, hvalid⟩ := mapM_part?_eq_some hparts
      obtain ⟨n, hrun, h⟩ := bind_eq_ok h
      obtain rfl := Option.some.inj (Except.ok.inj h)
      exact ⟨short_of_ofRun (headAndFields?_eq_some hhead).2 hrun, hvalid (.type t) (by simp)⟩
    · cases h
  · cases h

theorem isSelector_cases {fs : List (List Char)} (h : isSelector fs = true) :
    fs = [[]] ∨ ∃ parts : List Part, fs = parts.map Part.text ∧ parts.length ≤ 2 ∧
      ∀ p ∈ parts, p.Valid ∧ ∀ d, p ≠ .dim d := by
  unfold isSelector at h
  split at h
  · exact .inr ⟨[], rfl, by simp, by simp⟩
  · exact .inl rfl
  · split at h
    · rename_i t hparts
      obtain ⟨hfs, hvalid⟩ := mapM_part?_eq_some hparts
      exact .inr ⟨_, hfs, by simp, by simpa using hvalid⟩
    · rename_i d v hparts
      obtain ⟨hfs, hvalid⟩ := mapM_part?_eq_some hparts
      exact .inr ⟨_, hfs, by simp, by simpa using hvalid⟩
    · rename_i t d v hparts
      obtain ⟨hfs, hvalid⟩ := mapM_part?_eq_some hparts
      exact .inr ⟨_, hfs, by simp, by simpa using hvalid⟩
    · cases h

theorem selectorFields_eq {selector : String} (h : IsSelector selector) :
    ∃ parts : List Part, selectorFields selector = parts.map Part.text ∧ parts.length ≤ 2 ∧
      ∀ p ∈ parts, p.Valid ∧ ∀ d, p ≠ .dim d := by
  rcases isSelector_cases (isSelector_selectorFields h) with hempty | hparts
  · have hnil : selector = "" := by
      rw [← joined_selectorFields selector, hempty]
      rfl
    rw [hnil] at hempty
    cases hempty
  · exact hparts

theorem not_mem_negationText {n : Nat} {selector : String} (h : IsSelector selector) {c : Char}
    (hc : isDigit c = false ∧ isDim c = false ∧ c ≠ 'z') (hlead : c ≠ '_' ∧ c ∉ "~cat".toList) :
    c ∉ (negationText n selector).toList := by
  obtain ⟨parts, hparts, -, hvalid⟩ := selectorFields_eq h
  rw [negationText_eq, String.toList_ofList, hparts]
  refine not_mem_written hc.1 hlead fun field hfield => ?_
  obtain ⟨p, hp, rfl⟩ := List.mem_map.mp hfield
  exact (hvalid p hp).1.not_mem_text hc

theorem isSelector_joined {more : List (List Char)} (hplain : ∀ field ∈ more, '_' ∉ field)
    (h : isSelector more = true) : IsSelector (String.ofList (joined '_' more)) := by
  rw [IsSelector, String.toList_ofList]
  have hlines : ∀ field ∈ more, '\n' ∉ field := by
    intro field hfield
    rcases isSelector_cases h with rfl | ⟨parts, rfl, -, hvalid⟩
    · obtain rfl : field = [] := by simpa using hfield
      simp
    · exact (plainFields_text _ (fun p hp => (hvalid p hp).1) field hfield).2
  refine ⟨?_, fun hline => ?_⟩
  · cases more with
    | nil => rfl
    | cons first rest => rwa [fields_joined '_' _ (by simp) hplain]
  · rcases mem_joined hline with hline | ⟨field, hfield, hline⟩
    · exact absurd hline (by decide)
    · exact hlines field hfield hline

/-- The parts of a selector: none, a type, a value, or a type and a value. -/
def selects : List Part → Bool
  | [] | [.type _] | [.value _ _] | [.type _, .value _ _] => true
  | _ => false

theorem isSelector_text {parts : List Part} (h : ∀ p ∈ parts, p.Valid)
    (hparts : selects parts = true) :
    IsSelector (String.ofList (joined '_' (parts.map Part.text))) := by
  refine isSelector_joined (fun field hfield => (plainFields_text _ h field hfield).1) ?_
  have hread := mapM_part?_text parts h
  unfold isSelector
  split
  · rfl
  · rfl
  · rw [hread]
    unfold selects at hparts
    split at hparts
    · rename_i hnil _
      exact absurd rfl hnil
    · rfl
    · rfl
    · rfl
    · cases hparts

theorem readNegation_of_read {raw raw' selector : String} {n : Nat}
    (h : Token.read raw = .ok (.negation raw' n selector)) :
    (∃ rest, raw.toList = '~' :: rest) ∧ readNegation raw = .ok (.negation raw' n selector) := by
  unfold Token.read at h
  split at h
  · cases h
  · rename_i rest hraw
    exact ⟨⟨rest, hraw⟩, h⟩
  · unfold readNamed at h
    split at h
    · cases h
    · split at h
      · cases h
      · rename_i digits more _ _ parts _
        split at h
        · cases h
        · obtain ⟨m, -, h⟩ := bind_eq_ok h
          have h := Except.ok.inj h
          unfold named? at h
          split at h <;> cases h
  · cases h

theorem negation_of_read {raw raw' selector : String} {n : Nat}
    (h : Token.read raw = .ok (.negation raw' n selector)) :
    raw' = raw ∧ Short n ∧ IsSelector selector := by
  obtain ⟨-, hneg⟩ := readNegation_of_read h
  unfold readNegation at hneg
  split at hneg
  · cases hneg
  · rename_i digits more hhead
    split at hneg
    · rename_i hselector
      obtain ⟨m, hrun, hneg⟩ := bind_eq_ok hneg
      obtain ⟨rfl, rfl, rfl⟩ := Token.negation.inj (Except.ok.inj hneg)
      obtain ⟨hfields, hdigits⟩ := headAndFields?_eq_some hhead
      refine ⟨rfl, short_of_ofRun hdigits hrun,
        isSelector_joined (fun field hfield => ?_) hselector⟩
      exact not_mem_fields (by rw [hfields]; exact List.mem_cons_of_mem _ hfield)
    · cases hneg

end Sift.Shorthand
