import Sift.Predicate.Category
import Sift.Proofs.Predicate.Rendering
import Sift.Proofs.Selection.Lookup

/-!
# The category predicates of a selection

A selection that can be written always has category predicates, one for each of its types
(`ofSelection_eq`), and so have negations, one for each selector of the grammar
(`negationPredicate?_eq`). All of them are clean.
-/

namespace Sift.Category

open Predicate Sql

/-! ## Without faults -/

/-- The predicate of a code, which is looked for in the column of its letter. -/
def codeOf (code : String) : Predicate := hasCode (code.toList.headD 'z') code

/-- The predicate of a dimension, when it lists values. -/
def dimOf? (dim : String) (values : List String) : Option Predicate :=
  if values = [] then none else some (any (values.map fun value => codeOf (dim ++ value)))

/-- The predicates of the dimensions of a type, gathered in one when there is any. -/
def dimsOf (dims : Dims) : List Predicate :=
  let parts := dims.entries.filterMap fun e => dimOf? e.1 e.2
  if parts = [] then [] else [all parts]

/-- The predicate of a type. -/
def typeOf (head : Int) (type : String) (dims : Dims) : Predicate :=
  all (headPredicate head :: ((if type = untyped then [] else [codeOf type]) ++ dimsOf dims))

theorem codePredicate_eq {code : String} (h : code.toList ≠ []) :
    codePredicate code = .ok (codeOf code) := by
  rw [codePredicate, codeOf]
  cases hcode : code.toList with
  | nil => exact absurd hcode h
  | cons letter rest => rfl

theorem dimPredicate?_eq {dim : String} (hdim : dim ∈ dimensions) (values : List String) :
    dimPredicate? dim values = .ok (dimOf? dim values) := by
  have hcodes : (values.mapM fun value => codePredicate (dim ++ value)) =
      .ok (values.map fun value => codeOf (dim ++ value)) := by
    refine mapM_eq_map fun value _ => codePredicate_eq ?_
    obtain ⟨c, -, rfl⟩ := Shorthand.mem_dimensions_iff.mp hdim
    simp
  rw [dimPredicate?, hcodes, dimOf?]
  cases values with
  | nil => rfl
  | cons v values => rfl

theorem typePredicate_eq {head : Int} {type : String}
    (htype : Shorthand.isTypeKey type.toList = true) {dims : Dims}
    (hdims : ∀ e ∈ dims.entries, e.1 ∈ dimensions) :
    typePredicate head type dims = .ok (typeOf head type dims) := by
  have hne : type.toList ≠ [] := by
    intro hnil
    rw [hnil] at htype
    cases htype
  have hparts : (dims.entries.mapM fun e => dimPredicate? e.1 e.2) =
      .ok (dims.entries.map fun e => dimOf? e.1 e.2) :=
    mapM_eq_map fun e he => dimPredicate?_eq (hdims e he) e.2
  have hflat : (dims.entries.map fun e => dimOf? e.1 e.2).filterMap id =
      dims.entries.filterMap fun e => dimOf? e.1 e.2 := by
    rw [List.filterMap_map]
    rfl
  have hdimsOf : (if (dims.entries.filterMap fun e => dimOf? e.1 e.2).isEmpty then []
      else [all (dims.entries.filterMap fun e => dimOf? e.1 e.2)]) = dimsOf dims := by
    simp only [dimsOf, List.isEmpty_iff]
  rw [typePredicate, hparts, codePredicate_eq hne, typeOf]
  split
  · show Except.ok _ = _
    rw [hflat, hdimsOf]
    rfl
  · show Except.ok _ = _
    rw [hflat, hdimsOf]
    rfl

theorem ofSelection_eq_of_keys {sel : Selection}
    (htypes : ∀ head type, sel.hasType head type = true → Shorthand.isTypeKey type.toList = true)
    (hdims : ∀ head type, ∀ d ∈ (sel.dims head type).keys, d ∈ dimensions) :
    ofSelection sel = .ok (sel.heads.entries.flatMap fun e =>
      e.2.entries.map fun t => typeOf e.1 t.1 t.2) := by
  have hheads : (sel.heads.entries.mapM fun e =>
      e.2.entries.mapM fun t => typePredicate e.1 t.1 t.2) =
      .ok (sel.heads.entries.map fun e => e.2.entries.map fun t => typeOf e.1 t.1 t.2) := by
    refine mapM_eq_map fun e he => mapM_eq_map fun t ht => ?_
    have hkey := htypes e.1 t.1 (Selection.hasType_iff.mpr ⟨e.2, t.2, he, ht⟩)
    refine typePredicate_eq hkey fun d hd => hdims e.1 t.1 d.1 ?_
    rw [Selection.dims_of_mem he ht]
    exact List.mem_map_of_mem hd
  show ((sel.heads.entries.mapM fun e => e.2.entries.mapM fun t => typePredicate e.1 t.1 t.2) >>=
    fun heads => Except.ok heads.flatten) = _
  rw [hheads, List.flatMap_def]
  rfl

theorem ofSelection_eq {sel : Selection} (h : sel.Writable) :
    ofSelection sel = .ok (sel.heads.entries.flatMap fun e =>
      e.2.entries.map fun t => typeOf e.1 t.1 t.2) :=
  ofSelection_eq_of_keys h.types h.dims

theorem mem_letters_of_isDim {c : Char} (h : Shorthand.isDim c = true) :
    c ∈ singleLetters ++ multiLetters := by
  simp only [Shorthand.isDim, Bool.or_eq_true, beq_iff_eq] at h
  rcases h with ((rfl | rfl) | rfl) | rfl <;> decide

theorem text_eq_code {p : Shorthand.Part} (h : p.Valid) (hdim : ∀ d, p ≠ .dim d) :
    ∃ letter ∈ singleLetters ++ multiLetters, ∃ rest, p.text = letter :: rest ∧
      (Text.isDigits rest = true ∨ letter = 'z' ∧ rest = ['z']) := by
  cases p with
  | type key =>
    have hkey : Shorthand.isTypeKey key.toList = true := h
    unfold Shorthand.isTypeKey at hkey
    split at hkey
    · rename_i rest heq
      refine ⟨'z', by decide, rest, heq, ?_⟩
      rw [Bool.or_eq_true, beq_iff_eq] at hkey
      exact hkey.symm.imp_right fun hz => ⟨rfl, hz⟩
    · cases hkey
  | dim d => exact absurd rfl (hdim d)
  | value d v =>
    obtain ⟨c, hc, rfl⟩ := Shorthand.mem_dimensions_iff.mp h.1
    exact ⟨c, mem_letters_of_isDim hc, v.toList, by simp [Shorthand.Part.text], .inl h.2⟩

theorem negationPredicate?_eq (head : Int) {selector : String} (h : Shorthand.IsSelector selector) :
    negationPredicate? head selector = some (not (if selector = "" then headPredicate head
      else all (headPredicate head ::
        (Shorthand.selectorFields selector).map fun field => codeOf (String.ofList field)))) := by
  rw [negationPredicate?]
  split
  · rfl
  · rename_i hne
    have hfields : Shorthand.selectorFields selector = Text.fields '_' selector.toList := by
      rw [Shorthand.selectorFields, if_neg hne]
    obtain ⟨parts, hparts, hlength, hvalid⟩ := Shorthand.selectorFields_eq h
    have hcodes : (Shorthand.selectorFields selector).all isCode = true := by
      rw [hparts, List.all_map, List.all_eq_true]
      intro p hp
      obtain ⟨letter, hletter, rest, htext, hrest⟩ := text_eq_code (hvalid p hp).1 (hvalid p hp).2
      have hne : rest ≠ [] := by
        rcases hrest with hdigits | ⟨-, rfl⟩
        · exact (Text.isDigits_iff.mp hdigits).1
        · exact List.cons_ne_nil _ _
      obtain ⟨c, rest, rfl⟩ := List.exists_cons_of_ne_nil hne
      rw [Function.comp_apply, htext, isCode]
      exact List.contains_iff_mem.mpr hletter
    have hboth : (decide ((Shorthand.selectorFields selector).length ≤ 2) &&
        (Shorthand.selectorFields selector).all isCode) = true := by
      rw [hcodes, hparts, List.length_map, decide_eq_true hlength]
      rfl
    simp only [← hfields, hboth, if_true, codeOf, String.toList_ofList]

/-! ## What they are made of -/

/-- What holds of the predicates of heads and codes and is kept by the connectives. -/
structure Composes (holds : Predicate → Prop) : Prop where
  head : ∀ head, holds (headPredicate head)
  code : ∀ letter ∈ singleLetters ++ multiLetters, ∀ code, holds (hasCode letter code)
  all : ∀ items, (∀ p ∈ items, holds p) → holds (all items)
  any : ∀ items, (∀ p ∈ items, holds p) → holds (any items)
  not : ∀ item, holds item → holds (not item)

section

variable {holds : Predicate → Prop}

theorem Composes.dimsOf (h : Composes holds) {dims : Dims}
    (hdims : ∀ e ∈ dims.entries, e.1 ∈ dimensions) : ∀ p ∈ dimsOf dims, holds p := by
  intro p hp
  rw [Category.dimsOf] at hp
  split at hp
  · cases hp
  · obtain rfl := List.mem_singleton.mp hp
    refine h.all _ fun q hq => ?_
    obtain ⟨d, hd, hq⟩ := List.mem_filterMap.mp hq
    rw [dimOf?, Option.ite_none_left_eq_some] at hq
    obtain ⟨-, hq⟩ := hq
    obtain rfl := Option.some.inj hq
    refine h.any _ fun r hr => ?_
    obtain ⟨v, -, rfl⟩ := List.mem_map.mp hr
    obtain ⟨c, hc, hdim⟩ := Shorthand.mem_dimensions_iff.mp (hdims d hd)
    refine h.code _ ?_ (d.1 ++ v)
    rw [hdim]
    simpa using mem_letters_of_isDim hc

theorem Composes.typeOf (h : Composes holds) {head : Int} {type : String}
    (htype : Shorthand.isTypeKey type.toList = true) {dims : Dims}
    (hdims : ∀ e ∈ dims.entries, e.1 ∈ dimensions) : holds (typeOf head type dims) := by
  refine h.all _ fun p hp => ?_
  rcases List.mem_cons.mp hp with rfl | hp
  · exact h.head head
  · rcases List.mem_append.mp hp with hp | hp
    · split at hp
      · cases hp
      · obtain rfl := List.mem_singleton.mp hp
        refine h.code _ ?_ type
        unfold Shorthand.isTypeKey at htype
        split at htype
        · rename_i rest heq
          rw [heq]
          show 'z' ∈ singleLetters ++ multiLetters
          decide
        · cases htype
    · exact h.dimsOf hdims p hp

theorem Composes.ofSelection (h : Composes holds) {sel : Selection} (hsel : sel.Writable)
    {predicates : List Predicate} (hpredicates : ofSelection sel = .ok predicates) :
    ∀ p ∈ predicates, holds p := by
  rw [ofSelection_eq hsel] at hpredicates
  obtain rfl := Except.ok.inj hpredicates
  intro p hp
  obtain ⟨e, he, hp⟩ := List.mem_flatMap.mp hp
  obtain ⟨t, ht, rfl⟩ := List.mem_map.mp hp
  have hkey := hsel.types e.1 t.1 (Selection.hasType_iff.mpr ⟨e.2, t.2, he, ht⟩)
  refine h.typeOf hkey fun d hd => hsel.dims e.1 t.1 d.1 ?_
  rw [Selection.dims_of_mem he ht]
  exact List.mem_map_of_mem hd

theorem Composes.ofNegations (h : Composes holds) (neg : Negations) :
    ∀ p ∈ ofNegations neg, holds p := by
  intro p hp
  obtain ⟨e, -, hp⟩ := List.mem_flatMap.mp hp
  obtain ⟨selector, -, hp⟩ := List.mem_filterMap.mp hp
  unfold negationPredicate? at hp
  split at hp
  · obtain rfl := Option.some.inj hp
    exact h.not _ (h.head e.1)
  · simp only at hp
    split at hp
    · rename_i hcodes
      rw [Bool.and_eq_true] at hcodes
      obtain rfl := Option.some.inj hp
      refine h.not _ (h.all _ fun q hq => ?_)
      rcases List.mem_cons.mp hq with rfl | hq
      · exact h.head e.1
      · obtain ⟨code, hcode, rfl⟩ := List.mem_map.mp hq
        refine h.code _ ?_ _
        have hletter := List.all_eq_true.mp hcodes.2 code hcode
        unfold isCode at hletter
        split at hletter
        · exact List.contains_iff_mem.mp hletter
        · cases hletter
    · cases hp

end

/-! ## Clean predicates -/

theorem clean_hasCode {letter : Char} (h : letter ∈ singleLetters ++ multiLetters) (code : String) :
    (hasCode letter code).Clean := by
  have hcolumn : Safe ("s.subcat" ++ String.singleton letter) := by
    refine (safe_of_all (by decide)).append (safe_of_plain fun c hc => ?_)
    obtain rfl : c = letter := by simpa using hc
    have hall : (singleLetters ++ multiLetters).all isPlain = true := by decide
    exact List.all_eq_true.mp hall c h
  unfold hasCode
  split
  · refine .compare hcolumn (safe_of_all (by decide)) (Quoted.safe ?_)
    exact (quoted_escape code).append (quoted_of_not_mem (by decide))
  · refine .like hcolumn (Quoted.append ?_ (quoted_of_not_mem (by decide)))
    exact (quoted_of_not_mem (by decide)).append (quoted_escape code)

theorem composes_clean : Composes Predicate.Clean where
  head head := .compare (safe_of_all (by decide)) (safe_of_all (by decide)) (safe_int head)
  code _ hletter code := clean_hasCode hletter code
  all _ h := .all h
  any _ h := .any h
  not _ h := .not h

end Sift.Category
