import Mathlib.Data.List.Perm.Basic
import Sift.Proofs.Shorthand.Stable

/-!
# Compression is canonical

What is missing of a dimension, and what does not apply, is known from the values that it lets
through, and the other way round (`mem_letThrough_iff`). The tokens of a dimension are written from
these two alone, up to order, so selections of the same effect are written with the same tokens
(`selectionTokens_perm`). And the two can be told from the tokens (`mem_missing_iff_tokens`,
`mem_foreign_iff_tokens`), which name the dimension that they belong to, so selections that are
written with the same tokens have the same effect (`sameEffect_of_tokens`).
-/

namespace Sift.Shorthand

variable {tax : Taxonomy} {sel a b : Selection} {head : Head} {n : Nat} {t d : String}

theorem eq_nil_iff_of_perm {α : Type} {xs ys : List α} (h : xs.Perm ys) : xs = [] ↔ ys = [] := by
  rw [← List.length_eq_zero_iff, ← List.length_eq_zero_iff, h.length_eq]

theorem flatMap_perm_of_support {α β : Type} [DecidableEq β] {f : α → List β} {xs ys : List α}
    (hxs : xs.Nodup) (hys : ys.Nodup) (hfx : ∀ x, f x ≠ [] → x ∈ xs) (hfy : ∀ x, f x ≠ [] → x ∈ ys) :
    (xs.flatMap f).Perm (ys.flatMap f) := by
  have hkept : ∀ zs : List α, zs.flatMap f = (zs.filter fun x => f x ≠ []).flatMap f := by
    intro zs
    induction zs with
    | nil => rfl
    | cons z zs ih =>
      rw [List.flatMap_cons, ih, List.filter_cons]
      by_cases hz : f z = [] <;> simp [hz]
  rw [hkept xs, hkept ys]
  refine List.Perm.flatMap_right f
    ((List.perm_ext_iff_of_nodup (hxs.filter _) (hys.filter _)).mpr fun x => ?_)
  simp only [List.mem_filter, decide_eq_true_eq]
  exact and_congr_left fun hx => iff_of_true (hfx x hx) (hfy x hx)

/-! ## What is let through -/

theorem letThrough_of_values {vs : List String} (hplain : sel.Plain)
    (hvs : sel.values? n t d = some vs) : sel.letThrough tax n t d = vs := by
  rw [Selection.letThrough, hvs]
  cases vs with
  | nil => exact absurd rfl (hplain.values hvs).1
  | cons v vs => rfl

theorem nodup_letThrough (hplain : sel.Plain) : (sel.letThrough tax n t d).Nodup := by
  cases hvs : sel.values? n t d with
  | none =>
    rw [Selection.letThrough_of_none hvs]
    exact Taxonomy.nodup_applicable n t d
  | some vs =>
    rw [letThrough_of_values hplain hvs]
    exact (hplain.values hvs).2

section Found

variable (hid : head.id = n) (hfound : tax.head? n = some head)

include hid hfound

theorem missing_eq_filter (hplain : sel.Plain) : missing sel head t d =
    (head.applicable t d).filter fun v => v ∉ sel.letThrough tax n t d := by
  by_cases hd : d ∈ head.dims
  · rw [missing, if_pos (List.contains_iff_mem.mpr hd), hid]
    cases hvs : sel.values? n t d with
    | none =>
      rw [Selection.letThrough_of_none hvs, Taxonomy.applicable_of_found hfound]
      exact (List.filter_eq_nil_iff.mpr fun v hv => by simpa using hv).symm
    | some vs =>
      rw [letThrough_of_values hplain hvs]
      exact List.filter_congr fun v _ => by simp
  · rw [missing, if_neg (mt List.contains_iff_mem.mp hd), Head.applicable_eq_nil hd, List.filter_nil]

theorem foreign_eq_filter (hplain : sel.Plain) : foreign sel head t d =
    (sel.letThrough tax n t d).filter fun v => v ∉ head.applicable t d := by
  rw [foreign, hid]
  cases hvs : sel.values? n t d with
  | none =>
    rw [Selection.letThrough_of_none hvs, Taxonomy.applicable_of_found hfound]
    exact (List.filter_eq_nil_iff.mpr fun v hv => by simpa using hv).symm
  | some vs =>
    rw [letThrough_of_values hplain hvs]
    exact List.filter_congr fun v _ => by simp

theorem mem_letThrough_iff (hplain : sel.Plain) {v : String} :
    v ∈ sel.letThrough tax n t d ↔
      (v ∈ head.applicable t d ∧ v ∉ missing sel head t d) ∨ v ∈ foreign sel head t d := by
  rw [missing_eq_filter hid hfound hplain, foreign_eq_filter hid hfound hplain]
  by_cases happlies : v ∈ head.applicable t d <;> simp [happlies]

/-! ## The same effect, the same tokens -/

variable (ha : a.Plain) (hb : b.Plain)

include ha hb

section Dimension

variable (hsame : ∀ v, v ∈ a.letThrough tax n t d ↔ v ∈ b.letThrough tax n t d)

include hsame

theorem missing_congr : missing a head t d = missing b head t d := by
  rw [missing_eq_filter hid hfound ha, missing_eq_filter hid hfound hb]
  exact List.filter_congr fun v _ => by rw [Bool.eq_iff_iff]; simp [hsame v]

theorem foreign_perm : (foreign a head t d).Perm (foreign b head t d) := by
  rw [foreign_eq_filter hid hfound ha, foreign_eq_filter hid hfound hb]
  exact ((List.perm_ext_iff_of_nodup (nodup_letThrough ha) (nodup_letThrough hb)).mpr hsame).filter _

theorem dimTokens_perm : (dimTokens a head t d []).Perm (dimTokens b head t d []) := by
  have hforeign := foreign_perm hid hfound ha hb hsame
  simp only [dimTokens, missing_congr hid hfound ha hb hsame, hforeign.isEmpty_eq]
  exact (hforeign.map _).append_left _

end Dimension

section Types

variable (hsame : ∀ d v, v ∈ a.letThrough tax n t d ↔ v ∈ b.letThrough tax n t d)

include hsame

theorem narrowing_perm : (narrowing a head t).Perm (narrowing b head t) := by
  have hdim : ∀ d, (dimTokens a head t d []).Perm (dimTokens b head t d []) :=
    fun d => dimTokens_perm hid hfound ha hb (hsame d)
  refine (flatMap_perm_of_support (nodup_dimsOf a head t) (nodup_dimsOf b head t) ?_ ?_).trans
    (List.Perm.flatMap_left _ fun d _ => hdim d)
  · exact fun d hd => mem_dimsOf_of_narrowed (narrowed_of_dimTokens hd)
  · intro d hd
    exact mem_dimsOf_of_narrowed (narrowed_of_dimTokens (mt (eq_nil_iff_of_perm (hdim d)).mpr hd))

theorem tokensOfType_perm : (tokensOfType a head t).Perm (tokensOfType b head t) := by
  have hperm := narrowing_perm hid hfound ha hb hsame
  simp only [tokensOfType, eq_nil_iff_of_perm hperm]
  split
  · exact List.Perm.refl _
  · exact hperm

theorem isWhole_congr : isWhole a head t = isWhole b head t := by
  rw [Bool.eq_iff_iff, isWhole_iff, isWhole_iff]
  refine forall_congr' fun d => ?_
  rw [missing_congr hid hfound ha hb (hsame d)]
  exact and_congr_right fun _ => eq_nil_iff_of_perm (foreign_perm hid hfound ha hb (hsame d))

end Types

theorem tokensOfHead_perm (hhead : head.WellFormed)
    (hsame : Selection.SameEffect tax a b) : (tokensOfHead a head).Perm (tokensOfHead b head) := by
  have hwhole : isWholeHead a head = isWholeHead b head := by
    refine List.all_congr rfl fun t => ?_
    rw [hid, (hsame n t).1, isWhole_congr hid hfound ha hb (hsame n t).2]
  have htypes : (a.types head.id).Perm (b.types head.id) := by
    refine (List.perm_ext_iff_of_nodup (a.typesOf head.id).nodup_keys
      (b.typesOf head.id).nodup_keys).mpr fun t => ?_
    rw [← Selection.types, ← Selection.types, ← Selection.hasType_iff_mem_types, hid, (hsame n t).1,
      Selection.hasType_iff_mem_types]
  rw [tokensOfHead_eq hhead, tokensOfHead_eq hhead, hwhole]
  split
  · exact List.Perm.refl _
  · exact htypes.flatMap fun t _ => tokensOfType_perm hid hfound ha hb (hsame n t).2

end Found

/-- Selections of the same effect are written with the same tokens. -/
theorem selectionTokens_perm (htax : tax.WellFormed) (haletters : a.Lettered) (ha : a.Plain)
    (hbletters : b.Lettered) (hb : b.Plain) (hsame : Selection.SameEffect tax a b) :
    (selectionTokens tax a).Perm (selectionTokens tax b) := by
  rw [selectionTokens_eq htax haletters, selectionTokens_eq htax hbletters]
  refine List.Perm.flatMap_left _ fun e he => ?_
  obtain ⟨hid, hhead⟩ := numbered_of_mem htax he
  exact tokensOfHead_perm hid (found_of_mem htax he) ha hb hhead hsame

/-! ## Telling a dimension from its tokens -/

theorem dimTokens_ne_nil (hplain : sel.Plain) (ht : t ∈ head.typeKeys)
    (hnarrowed : missing sel head t d ≠ [] ∨ foreign sel head t d ≠ []) :
    dimTokens sel head t d [] ≠ [] := by
  obtain ⟨vs, hvs⟩ := exists_values_of_narrowed hnarrowed
  obtain ⟨v, hv⟩ := List.exists_mem_of_ne_nil _ (hplain.values hvs).1
  have hlisted : v ∈ sel.valuesOf head.id t d := by
    rw [Selection.valuesOf, hvs]
    exact hv
  have hwritten := (mem_writtenValues (.inl ht)).mpr ⟨hlisted, hnarrowed⟩
  rw [Ne, dimTokens_eq_nil_iff ht]
  exact List.ne_nil_of_mem hwritten

section Dimension

variable (hnum : Numbered head n)

include hnum

theorem leaf_mem_dimTokens {v : String} (hv : Text.isDigits v.toList = true) :
    leafText n t d v ∈ dimTokens sel head t d [] ↔
      ((head.applicable t d).length < 2 * (missing sel head t d).length ∧
        v ∈ head.applicable t d ∧ v ∉ missing sel head t d) ∨ v ∈ foreign sel head t d := by
  rw [mem_dimTokens, hnum.id]
  refine or_congr ?_ ?_
  · split
    · rename_i hmajority
      rw [and_iff_right hmajority]
      constructor
      · rintro ⟨w, hw, hkept, heq⟩
        exact leafText_injective heq ▸ ⟨hw, hkept⟩
      · rintro ⟨hw, hkept⟩
        exact ⟨v, hw, hkept, rfl⟩
    · rename_i hmajority
      refine iff_of_false ?_ fun h => hmajority h.1
      rintro ⟨-, heq | ⟨w, -, -, heq⟩⟩
      · exact leafText_ne_dimText hv heq
      · exact leafText_ne_removalText v _ heq.symm
  · constructor
    · rintro ⟨w, hw, heq⟩
      exact leafText_injective heq ▸ hw
    · exact fun hw => ⟨v, hw, rfl⟩

theorem dim_mem_dimTokens (hsel : sel.Lettered) : dimText n t d ∈ dimTokens sel head t d [] ↔
    ¬ (head.applicable t d).length < 2 * (missing sel head t d).length ∧
      (missing sel head t d ≠ [] ∨ (foreign sel head t d ≠ [] ∧ head.applicable t d ≠ [])) := by
  have hforeign : ¬ ∃ v ∈ foreign sel head t d, leafText n t d v = dimText n t d := by
    rintro ⟨v, hv, heq⟩
    exact leafText_ne_dimText (digits_of_mem_foreign hsel hv) heq
  rw [mem_dimTokens, hnum.id, or_iff_left hforeign]
  split
  · rename_i hmajority
    refine iff_of_false ?_ fun h => h.1 hmajority
    rintro ⟨v, hv, -, heq⟩
    exact leafText_ne_dimText (hnum.wellFormed.digits_of_mem_applicable hv) heq
  · rename_i hmajority
    rw [and_iff_right hmajority]
    exact and_iff_left (.inl rfl)

theorem removal_mem_dimTokens {v : String} :
    removalText (leafText n t d v) ∈ dimTokens sel head t d [] ↔
      ¬ (head.applicable t d).length < 2 * (missing sel head t d).length ∧
        v ∈ missing sel head t d := by
  have hforeign : ¬ ∃ w ∈ foreign sel head t d,
      leafText n t d w = removalText (leafText n t d v) := by
    rintro ⟨w, -, heq⟩
    exact leafText_ne_removalText w _ heq
  rw [mem_dimTokens, hnum.id, or_iff_left hforeign]
  split
  · rename_i hmajority
    refine iff_of_false ?_ fun h => h.1 hmajority
    rintro ⟨w, -, -, heq⟩
    exact leafText_ne_removalText w _ heq
  · rename_i hmajority
    rw [and_iff_right hmajority]
    constructor
    · rintro ⟨-, heq | ⟨w, -, hw, heq⟩⟩
      · exact absurd heq.symm (dimText_ne_removalText _)
      · exact leafText_injective (removalText_injective heq) ▸ hw
    · intro hv
      exact ⟨.inl (List.ne_nil_of_mem hv), .inr ⟨v, mem_applicable_of_mem_missing hv, hv, rfl⟩⟩

variable (hsel : sel.Lettered)

include hsel

theorem mem_foreign_iff_tokens {v : String} : v ∈ foreign sel head t d ↔
    Text.isDigits v.toList = true ∧ v ∉ head.applicable t d ∧
      leafText n t d v ∈ dimTokens sel head t d [] := by
  constructor
  · intro hv
    have hdigits := digits_of_mem_foreign hsel hv
    exact ⟨hdigits, (mem_foreign.mp hv).2, (leaf_mem_dimTokens hnum hdigits).mpr (.inr hv)⟩
  · rintro ⟨hdigits, hother, hmem⟩
    rcases (leaf_mem_dimTokens hnum hdigits).mp hmem with ⟨-, happlies, -⟩ | hv
    · exact absurd happlies hother
    · exact hv

theorem mem_missing_iff_tokens (hplain : sel.Plain) (ht : t ∈ head.typeKeys) {v : String} :
    v ∈ missing sel head t d ↔ v ∈ head.applicable t d ∧
      (removalText (leafText n t d v) ∈ dimTokens sel head t d [] ∨
        (dimTokens sel head t d [] ≠ [] ∧ dimText n t d ∉ dimTokens sel head t d [] ∧
          leafText n t d v ∉ dimTokens sel head t d [])) := by
  rw [removal_mem_dimTokens hnum, dim_mem_dimTokens hnum hsel]
  constructor
  · intro hv
    have happlies := mem_applicable_of_mem_missing hv
    refine ⟨happlies, ?_⟩
    by_cases hmajority : (head.applicable t d).length < 2 * (missing sel head t d).length
    · refine .inr ⟨dimTokens_ne_nil hplain ht (.inl (List.ne_nil_of_mem hv)), fun h => h.1 hmajority,
        fun hmem => ?_⟩
      have hdigits := hnum.wellFormed.digits_of_mem_applicable happlies
      rcases (leaf_mem_dimTokens hnum hdigits).mp hmem with ⟨-, -, hkept⟩ | hforeign
      · exact hkept hv
      · exact (mem_foreign.mp hforeign).2 happlies
    · exact .inl ⟨hmajority, hv⟩
  · rintro ⟨happlies, ⟨-, hv⟩ | ⟨hne, hunnamed, hunlisted⟩⟩
    · exact hv
    · have hdigits := hnum.wellFormed.digits_of_mem_applicable happlies
      rw [leaf_mem_dimTokens hnum hdigits, not_or] at hunlisted
      have happlicable : head.applicable t d ≠ [] := List.ne_nil_of_mem happlies
      -- The dimension is not named, so its leaves are listed.
      have hmajority : (head.applicable t d).length < 2 * (missing sel head t d).length :=
        Decidable.of_not_not fun hminor => hunnamed ⟨hminor, (narrowed_of_dimTokens hne).imp_right
          fun hforeign => ⟨hforeign, happlicable⟩⟩
      exact Decidable.of_not_not fun hkept => hunlisted.1 ⟨hmajority, happlies, hkept⟩

end Dimension

theorem letThrough_congr (hnum : Numbered head n) (hfound : tax.head? n = some head)
    (ht : t ∈ head.typeKeys) (haletters : a.Lettered) (ha : a.Plain) (hbletters : b.Lettered)
    (hb : b.Plain)
    (hsame : ∀ raw, raw ∈ dimTokens a head t d [] ↔ raw ∈ dimTokens b head t d []) (v : String) :
    v ∈ a.letThrough tax n t d ↔ v ∈ b.letThrough tax n t d := by
  have hnil : dimTokens a head t d [] = [] ↔ dimTokens b head t d [] = [] := by
    rw [List.eq_nil_iff_forall_not_mem, List.eq_nil_iff_forall_not_mem]
    exact forall_congr' fun raw => not_congr (hsame raw)
  rw [mem_letThrough_iff hnum.id hfound ha, mem_letThrough_iff hnum.id hfound hb,
    mem_missing_iff_tokens hnum haletters ha ht, mem_missing_iff_tokens hnum hbletters hb ht,
    mem_foreign_iff_tokens hnum haletters, mem_foreign_iff_tokens hnum hbletters]
  simp only [hsame, ne_eq, hnil]

/-! ## Telling heads, types and dimensions from the tokens -/

theorem tokensOfType_ne_nil (sel : Selection) (head : Head) (t : String) :
    tokensOfType sel head t ≠ [] := by
  rw [tokensOfType]
  split
  · exact List.cons_ne_nil _ _
  · rename_i hne
    exact hne

section Place

variable (htax : tax.WellFormed) (hfound : tax.head? n = some head) (hsel : sel.Lettered)

include htax hfound hsel

theorem mem_selectionTokens_iff {parts : List Part} {raw : String} (hspells : Spells n parts raw) :
    raw ∈ selectionTokens tax sel ↔ raw ∈ tokensOfHead sel head := by
  rw [selectionTokens_eq htax hsel]
  constructor
  · intro h
    obtain ⟨e, he, h⟩ := List.mem_flatMap.mp h
    obtain ⟨parts', hspells'⟩ := spells_of_mem_tokensOfHead (numbered_of_mem htax he) hsel h
    rwa [← eq_of_toNat htax hfound he (hspells'.unique hspells).1]
  · exact fun h => List.mem_flatMap.mpr ⟨_, Taxonomy.head?_eq_some_iff.mp hfound, h⟩

theorem mem_tokensOfHead_iff {parts : List Part} {raw : String}
    (hspells : Spells n (.type t :: parts) raw) : raw ∈ tokensOfHead sel head ↔
      isWholeHead sel head = false ∧ sel.hasType n t = true ∧ raw ∈ tokensOfType sel head t := by
  obtain ⟨hid, hhead⟩ := htax.head hfound
  rw [tokensOfHead_eq hhead]
  cases isWholeHead sel head with
  | true =>
    refine iff_of_false (fun h => ?_) fun h => Bool.noConfusion h.1
    obtain rfl := List.mem_singleton.mp h
    rw [hid] at hspells
    cases (hspells.unique (spells_headText n)).2
  | false =>
    rw [if_neg Bool.false_ne_true, and_iff_right rfl]
    constructor
    · intro h
      obtain ⟨t', ht', h⟩ := List.mem_flatMap.mp h
      have htype := Selection.hasType_iff_mem_types.mpr ht'
      obtain ⟨parts', hspells'⟩ :=
        spells_of_mem_tokensOfType ⟨hid, hhead⟩ hsel (hsel.types _ _ htype) h
      obtain rfl : t' = t := Part.type.inj (List.cons.inj (hspells'.unique hspells).2).1
      exact ⟨hid ▸ htype, h⟩
    · rintro ⟨htype, h⟩
      exact List.mem_flatMap.mpr ⟨t, Selection.hasType_iff_mem_types.mp (hid ▸ htype), h⟩

theorem mem_tokensOfType_iff (ht : isTypeKey t.toList = true) {part : Part}
    (hpart : part.dim? = some d) {raw : String} (hspells : Spells n [.type t, part] raw) :
    raw ∈ tokensOfType sel head t ↔ raw ∈ dimTokens sel head t d [] := by
  have hnum : Numbered head n := ⟨(htax.head hfound).1, (htax.head hfound).2⟩
  have hnarrowing : raw ∈ dimTokens sel head t d [] → raw ∈ narrowing sel head t := fun h =>
    List.mem_flatMap.mpr
      ⟨d, mem_dimsOf_of_narrowed (narrowed_of_dimTokens (List.ne_nil_of_mem h)), h⟩
  rw [tokensOfType]
  split
  · rename_i hnil
    rw [hnil] at hnarrowing
    refine iff_of_false (fun h => ?_) fun h => List.not_mem_nil (hnarrowing h)
    obtain rfl := List.mem_singleton.mp h
    rw [hnum.id] at hspells
    cases (hspells.unique (spells_typeText ht)).2
  · refine ⟨fun h => ?_, hnarrowing⟩
    obtain ⟨d', hd', h⟩ := List.mem_flatMap.mp h
    have hdim := mem_dimensions_of_mem_dimsOf hnum.wellFormed hsel hd'
    obtain ⟨part', hpart', hspells'⟩ := spells_of_mem_dimTokens hnum hsel ht hdim h
    obtain rfl : part' = part := by simpa using (hspells'.unique hspells).2
    obtain rfl : d' = d := Option.some.inj (hpart'.symm.trans hpart)
    exact h

theorem head_mem_selectionTokens_iff :
    headText n ∈ selectionTokens tax sel ↔ isWholeHead sel head = true := by
  obtain ⟨hid, hhead⟩ := htax.head hfound
  rw [mem_selectionTokens_iff htax hfound hsel (spells_headText n), tokensOfHead_eq hhead, hid]
  split
  · rename_i hwhole
    exact iff_of_true List.mem_cons_self hwhole
  · rename_i hnot
    refine iff_of_false (fun h => ?_) hnot
    obtain ⟨t, ht, h⟩ := List.mem_flatMap.mp h
    have hkey := hsel.types _ _ (Selection.hasType_iff_mem_types.mpr ht)
    obtain ⟨parts, hspells⟩ := spells_of_mem_tokensOfType ⟨hid, hhead⟩ hsel hkey h
    cases ((spells_headText n).unique hspells).2

theorem hasType_iff_tokens (ht : t ∈ head.typeKeys) : sel.hasType n t = true ↔
    headText n ∈ selectionTokens tax sel ∨
      ∃ parts raw, Spells n (.type t :: parts) raw ∧ raw ∈ selectionTokens tax sel := by
  obtain ⟨hid, hhead⟩ := htax.head hfound
  rw [head_mem_selectionTokens_iff htax hfound hsel]
  constructor
  · intro htype
    cases hwhole : isWholeHead sel head with
    | true => exact .inl rfl
    | false =>
      right
      obtain ⟨raw, hraw⟩ := List.exists_mem_of_ne_nil _ (tokensOfType_ne_nil sel head t)
      obtain ⟨parts, hspells⟩ :=
        spells_of_mem_tokensOfType ⟨hid, hhead⟩ hsel (hhead.typeKeys t ht) hraw
      refine ⟨parts, raw, hspells, ?_⟩
      rw [mem_selectionTokens_iff htax hfound hsel hspells,
        mem_tokensOfHead_iff htax hfound hsel hspells]
      exact ⟨hwhole, htype, hraw⟩
  · rintro (hwhole | ⟨parts, raw, hspells, hraw⟩)
    · have hall := List.all_eq_true.mp hwhole t ht
      rw [Bool.and_eq_true, hid] at hall
      exact hall.1
    · rw [mem_selectionTokens_iff htax hfound hsel hspells,
        mem_tokensOfHead_iff htax hfound hsel hspells] at hraw
      exact hraw.2.1

theorem mem_dimTokens_iff_tokens (ht : t ∈ head.typeKeys) {raw : String} :
    raw ∈ dimTokens sel head t d [] ↔ raw ∈ selectionTokens tax sel ∧
      ∃ part, part.dim? = some d ∧ Spells n [.type t, part] raw := by
  obtain ⟨hid, hhead⟩ := htax.head hfound
  have hkey := hhead.typeKeys t ht
  constructor
  · intro hraw
    have hnarrowed := narrowed_of_dimTokens (List.ne_nil_of_mem hraw)
    obtain ⟨vs, hvs⟩ := exists_values_of_narrowed hnarrowed
    have hdim := mem_dimensions_of_mem_dimsOf hhead hsel (mem_dimsOf_of_values hvs)
    obtain ⟨part, hpart, hspells⟩ := spells_of_mem_dimTokens ⟨hid, hhead⟩ hsel hkey hdim hraw
    refine ⟨?_, part, hpart, hspells⟩
    rw [mem_selectionTokens_iff htax hfound hsel hspells,
      mem_tokensOfHead_iff htax hfound hsel hspells,
      mem_tokensOfType_iff htax hfound hsel hkey hpart hspells]
    refine ⟨Bool.eq_false_iff.mpr fun hwhole => ?_, hid ▸ Selection.hasType_of_values? hvs, hraw⟩
    have hall := List.all_eq_true.mp hwhole t ht
    rw [Bool.and_eq_true, isWhole_iff] at hall
    exact hnarrowed.elim (fun h => h (hall.2 d).1) fun h => h (hall.2 d).2
  · rintro ⟨hraw, part, hpart, hspells⟩
    rw [mem_selectionTokens_iff htax hfound hsel hspells,
      mem_tokensOfHead_iff htax hfound hsel hspells,
      mem_tokensOfType_iff htax hfound hsel hkey hpart hspells] at hraw
    exact hraw.2.2

end Place

/-- Selections that are written with the same tokens have the same effect. -/
theorem sameEffect_of_tokens (htax : tax.WellFormed) (hawithin : a.Within tax) (ha : a.Plain)
    (hbwithin : b.Within tax) (hb : b.Plain)
    (hsame : ∀ raw, raw ∈ selectionTokens tax a ↔ raw ∈ selectionTokens tax b) :
    Selection.SameEffect tax a b := by
  have haletters := lettered_of_within htax hawithin
  have hbletters := lettered_of_within htax hbwithin
  intro id t
  by_cases hplace : ∃ e, tax.head? id = some e ∧ t ∈ e.typeKeys
  · obtain ⟨head, hfound, ht⟩ := hplace
    obtain ⟨hid, hhead⟩ := htax.head hfound
    obtain ⟨n, hn⟩ := hhead.exists_nat
    obtain rfl : id = n := hid.symm.trans hn
    constructor
    · rw [Bool.eq_iff_iff, hasType_iff_tokens htax hfound haletters ht,
        hasType_iff_tokens htax hfound hbletters ht]
      simp only [hsame]
    · refine fun d => letThrough_congr ⟨hid, hhead⟩ hfound ht haletters ha hbletters hb fun raw => ?_
      rw [mem_dimTokens_iff_tokens htax hfound haletters ht,
        mem_dimTokens_iff_tokens htax hfound hbletters ht, hsame]
  · have ha : ¬ a.hasType id t = true := fun h => hplace (typeKeys_of_within hawithin h)
    have hb : ¬ b.hasType id t = true := fun h => hplace (typeKeys_of_within hbwithin h)
    refine ⟨by rw [Bool.eq_false_iff.mpr ha, Bool.eq_false_iff.mpr hb], fun d v => ?_⟩
    rw [Selection.letThrough_of_not_hasType ha, Selection.letThrough_of_not_hasType hb]

/-! ## The text -/

theorem split_compress (htax : tax.WellFormed) (hsel : sel.Lettered) :
    Text.split ',' (compress tax sel .empty) =
      if selectionTokens tax sel = [] then [""] else selectionTokens tax sel := by
  have htext : compress tax sel .empty = Text.join ',' (selectionTokens tax sel) := by
    rw [compress, show negationTokens .empty = [] from rfl, List.append_nil]
  rw [htext]
  split
  · rename_i hnil
    rw [hnil]
    rfl
  · rename_i hne
    rw [Text.split_join_eq hne]
    exact Text.flatMap_split fun raw hraw => not_mem_selectionTokens htax hsel hraw

theorem mem_selectionTokens_iff_split (htax : tax.WellFormed) (hsel : sel.Lettered) {raw : String} :
    raw ∈ selectionTokens tax sel ↔
      raw ∈ Text.split ',' (compress tax sel .empty) ∧ raw ≠ "" := by
  have hne : raw ∈ selectionTokens tax sel → raw ≠ "" := fun h => by
    obtain ⟨n, parts, hspells⟩ := spells_of_mem_selectionTokens htax hsel h
    exact hspells.ne_empty
  rw [split_compress htax hsel]
  split
  · rename_i hnil
    rw [hnil]
    simp
  · exact ⟨fun h => ⟨h, hne h⟩, fun h => h.1⟩

/-- Selections within the taxonomy have the same effect exactly when they are compressed to the same
tokens, up to order. -/
theorem sameEffect_iff_compress_perm (htax : tax.WellFormed) (hawithin : a.Within tax)
    (ha : a.Plain) (hbwithin : b.Within tax) (hb : b.Plain) :
    Selection.SameEffect tax a b ↔ (Text.split ',' (compress tax a .empty)).Perm
      (Text.split ',' (compress tax b .empty)) := by
  have haletters := lettered_of_within htax hawithin
  have hbletters := lettered_of_within htax hbwithin
  constructor
  · intro hsame
    have hperm := selectionTokens_perm htax haletters ha hbletters hb hsame
    rw [split_compress htax haletters, split_compress htax hbletters]
    simp only [eq_nil_iff_of_perm hperm]
    split
    · exact List.Perm.refl _
    · exact hperm
  · intro hperm
    refine sameEffect_of_tokens htax hawithin ha hbwithin hb fun raw => ?_
    rw [mem_selectionTokens_iff_split htax haletters, mem_selectionTokens_iff_split htax hbletters,
      hperm.mem_iff]

/-- Books of both sources and two that do not apply, in another order and with or without a list of
every format; and without one of the sources. -/
theorem sameEffect_iff_compress_perm_default :
    let add := fun (sel : Selection) (e : String × String) => sel.addValue 0 "z2" e.1 e.2
    let a := [("b", "77"), ("a", "13"), ("b", "3"), ("b", "78"), ("a", "5"), ("b", "10"), ("a", "12"),
      ("a", "11")].foldl add .empty
    let b := [("b", "10"), ("b", "78"), ("b", "77"), ("b", "3")].foldl add .empty
    let c := [("b", "10"), ("b", "78"), ("b", "77")].foldl add .empty
    a ≠ b ∧ Selection.SameEffect .default a b ∧ ¬ Selection.SameEffect .default b c := by
  intro add a b c
  have htax := Taxonomy.wellFormed_default
  have ha : a.Within .default ∧ a.Plain := by decide
  have hb : b.Within .default ∧ b.Plain := by decide
  have hc : c.Within .default ∧ c.Plain := by decide
  have hsame := sameEffect_iff_compress_perm htax ha.1 ha.2 hb.1 hb.2
  have hother := sameEffect_iff_compress_perm htax hb.1 hb.2 hc.1 hc.2
  have hwritten : compress .default a .empty = "cat0_z2_b,cat0_z2_b77,cat0_z2_b78" ∧
      compress .default b .empty = "cat0_z2_b,cat0_z2_b78,cat0_z2_b77" ∧
      compress .default c .empty =
        "cat0_z2_b,!cat0_z2_b3,cat0_z2_b78,cat0_z2_b77" := by decide
  rw [hwritten.1, hwritten.2.1] at hsame
  rw [hwritten.2.1, hwritten.2.2] at hother
  exact ⟨by decide, hsame.mpr (by decide +kernel), mt hother.mp (by decide +kernel)⟩

end Sift.Shorthand
