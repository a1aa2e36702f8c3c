import Sift.Proofs.Predicate.Codes
import Sift.Proofs.Shorthand.Removal

/-!
# Rows behind a removal

A removal takes entries away, so what it leaves selects fewer types and lists fewer values. A row that
matches what is left matched before (`matches_of_subset`), with two exceptions that come from what an
absence means: when a type was selected and none is left there is no filter any more, and when a
dimension loses all its values while its type stays, the type is no longer narrowed in that
dimension. A removal has one target, so in the second case the target is a leaf whose value was the
only one listed (`sole_of_lost`), and the row that is let through is of its type and lacks its code
(`holds_of_removal`).
-/

namespace Sift

open Shorthand Category

variable {tax : Taxonomy} {row : Row} {sel : Selection} {neg : Negations}

/-! ## Fewer entries -/

namespace Shorthand

variable {entries fewer : List Entry} {id : Int} {t d v : String}

theorem hasType_of_subset (h : fewer ⊆ entries) (htype : (selected fewer).hasType id t = true) :
    (selected entries).hasType id t = true := by
  obtain ⟨entry, hentry, hplace⟩ := hasType_selected.mp htype
  exact hasType_selected.mpr ⟨entry, h hentry, hplace⟩

theorem valuesOf_subset (h : fewer ⊆ entries) :
    (selected fewer).valuesOf id t d ⊆ (selected entries).valuesOf id t d := by
  intro v hv
  obtain ⟨n, hn, hleaf⟩ := mem_listed.mp (mem_values_selected.mp hv)
  exact mem_values_selected.mpr (mem_listed.mpr ⟨n, hn, h hleaf⟩)

theorem values?_selected_eq_none (h : (selected entries).valuesOf id t d = []) :
    (selected entries).values? id t d = none := by
  rw [Selection.valuesOf] at h
  cases hvalues : (selected entries).values? id t d with
  | none => rfl
  | some values =>
    rw [hvalues] at h
    obtain rfl : values = [] := h
    exact absurd hvalues values?_selected_ne_nil

/-- A row that matches fewer entries matches them all, unless they select a type and the fewer do not,
or the row is of a type that loses a dimension. -/
theorem matches_of_subset (h : fewer ⊆ entries) (hrow : (selected fewer).Matches row) :
    (selected entries).Matches row ∨
      ((∃ id t, (selected entries).hasType id t = true) ∧
        ∀ id t, (selected fewer).hasType id t = false) ∨
      ∃ id t d, (selected fewer).hasType id t = true ∧ row.IsOf id t ∧
        (selected fewer).values? id t d = none ∧ (selected entries).valuesOf id t d ≠ [] ∧
        ¬ ∃ v ∈ (selected entries).valuesOf id t d, row.Has (d ++ v) := by
  rcases hrow with hnone | ⟨id, t, htype, hof, hdims⟩
  · by_cases hbefore : ∃ id t, (selected entries).hasType id t = true
    · exact .inr (.inl ⟨hbefore, hnone⟩)
    · exact .inl (.inl fun id t => Bool.eq_false_iff.mpr fun htype => hbefore ⟨id, t, htype⟩)
  · by_cases hall : ∀ d, (selected entries).valuesOf id t d ≠ [] →
        ∃ v ∈ (selected entries).valuesOf id t d, row.Has (d ++ v)
    · exact .inl (.inr ⟨id, t, hasType_of_subset h htype, hof, hall⟩)
    · simp only [not_forall] at hall
      obtain ⟨d, hlisted, hlacks⟩ := hall
      refine .inr (.inr ⟨id, t, d, htype, hof, values?_selected_eq_none ?_, hlisted, hlacks⟩)
      by_contra hleft
      obtain ⟨v, hv, hhas⟩ := hdims d hleft
      exact hlacks ⟨v, valuesOf_subset h hv, hhas⟩

end Shorthand

/-! ## One removal -/

namespace Shorthand

variable {acc : List String} {target : String} {id : Int} {t d v : String}

theorem entriesOf_filter_subset (acc : List String) (target : String) :
    entriesOf (acc.filter (· != target)) ⊆ entriesOf acc := by
  intro entry hentry
  obtain ⟨raw, hraw, -, hread⟩ := mem_entriesOf_filter.mp hentry
  exact mem_entriesOf.mpr ⟨raw, hraw, hread⟩

/-- When a removal takes all values of a dimension, there was one, and the target is its leaf. -/
theorem sole_of_lost (hlisted : (selected (entriesOf acc)).valuesOf id t d ≠ [])
    (hlost : (selected (entriesOf (acc.filter (· != target)))).values? id t d = none) :
    ∃ (n : Nat) (v : String), id = n ∧ Entry.read target = .ok (some (.leaf n t d v)) ∧
      ∀ w, w ∈ (selected (entriesOf acc)).valuesOf id t d ↔ w = v := by
  have htarget : ∀ w ∈ (selected (entriesOf acc)).valuesOf id t d,
      ∃ n : Nat, id = n ∧ Entry.read target = .ok (some (.leaf n t d w)) := by
    intro w hw
    obtain ⟨n, rfl, hleaf⟩ := mem_listed.mp (mem_values_selected.mp hw)
    obtain ⟨raw, hraw, hread⟩ := mem_entriesOf.mp hleaf
    by_cases heq : raw = target
    · exact ⟨n, rfl, heq ▸ hread⟩
    · -- An entry that is not the target would still list its value.
      have hleft : w ∈ (selected (entriesOf (acc.filter (· != target)))).valuesOf n t d :=
        mem_values_selected.mpr (mem_listed.mpr
          ⟨n, rfl, mem_entriesOf_filter.mpr ⟨raw, hraw, heq, hread⟩⟩)
      rw [Selection.valuesOf, hlost] at hleft
      cases hleft
  obtain ⟨v, hv⟩ := List.exists_mem_of_ne_nil _ hlisted
  obtain ⟨n, hn, hread⟩ := htarget v hv
  refine ⟨n, v, hn, hread, fun w => ⟨fun hw => ?_, fun hw => hw ▸ hv⟩⟩
  obtain ⟨m, -, hread'⟩ := htarget w hw
  cases hread.symm.trans hread'
  rfl

end Shorthand

namespace Category

/-- A row that the categories behind a removal find was found before, unless a type was selected and
none is left, or the removal takes the only value of a dimension: then it may also be a row of the
type without the code of that value. -/
theorem holds_of_removal {raws : List String} (h : expand tax raws = .ok (sel, neg))
    (target : String) :
    ∃ left before after, expand tax (raws ++ [removalText target]) = .ok (left, neg) ∧
      ofSelection sel = .ok before ∧ ofSelection left = .ok after ∧
      ∀ row : Row, (Predicate.any after).Holds row.truth → (Predicate.any before).Holds row.truth ∨
        ((∃ id t, sel.hasType id t = true) ∧ ∀ id t, left.hasType id t = false) ∨
        ∃ (n : Nat) (t d v : String), Entry.read target = .ok (some (.leaf n t d v)) ∧
          (∀ w, w ∈ sel.valuesOf n t d ↔ w = v) ∧ left.values? n t d = none ∧
          left.hasType n t = true ∧ row.IsOf n t ∧ ¬ row.Has (d ++ v) := by
  obtain ⟨state, -, hsel, hleft⟩ := expand_removal h target
  have hwritable := (writable_of_expand h).1
  have hwritable' := (writable_of_expand hleft).1
  refine ⟨_, _, _, hleft, ofSelection_eq hwritable, ofSelection_eq hwritable', fun row hrow => ?_⟩
  have hmatches := (holds_ofSelection hwritable' (ofSelection_eq hwritable')).mp hrow
  have hsubset := entriesOf_filter_subset state.accumulator target
  rw [holds_ofSelection hwritable (ofSelection_eq hwritable), hsel]
  rcases matches_of_subset hsubset hmatches with hbefore | hemptied |
    ⟨id, t, d, htype, hof, hlost, hlisted, hlacks⟩
  · exact .inl hbefore
  · exact .inr (.inl hemptied)
  · obtain ⟨n, v, rfl, hread, hsole⟩ := sole_of_lost hlisted hlost
    refine .inr (.inr ⟨n, t, d, v, hread, hsole, hlost, htype, hof, fun hhas => hlacks ?_⟩)
    exact ⟨v, (hsole v).mpr rfl, hhas⟩

/-- The only format of movies is removed, while a source stays. -/
theorem holds_of_removal_default :
    let raws := ["cat1", "cat0_z0_a1", "cat0_z0_b1"]
    ∃ sel neg, expand .default raws = .ok (sel, neg) ∧
      ∃ left before after, expand .default (raws ++ [removalText "cat0_z0_a1"]) = .ok (left, neg) ∧
        ofSelection sel = .ok before ∧ ofSelection left = .ok after ∧
        ∀ row : Row, (Predicate.any after).Holds row.truth → (Predicate.any before).Holds row.truth ∨
          ((∃ id t, sel.hasType id t = true) ∧ ∀ id t, left.hasType id t = false) ∨
          ∃ (n : Nat) (t d v : String), Entry.read "cat0_z0_a1" = .ok (some (.leaf n t d v)) ∧
            (∀ w, w ∈ sel.valuesOf n t d ↔ w = v) ∧ left.values? n t d = none ∧
            left.hasType n t = true ∧ row.IsOf n t ∧ ¬ row.Has (d ++ v) := by
  intro raws
  obtain ⟨⟨sel, neg⟩, hexpand⟩ := exists_of_isOk (x := expand .default raws) (by decide)
  exact ⟨sel, neg, hexpand, holds_of_removal hexpand "cat0_z0_a1"⟩

/-- A movie with a source and no format is found when the only format is removed, whether it leaves
nothing or the source, though it was not found before. -/
theorem found_behind_removal :
    let row : Row := .ofCodes 0 fun letter =>
      if letter = 'z' then ["z0"] else if letter = 'b' then ["b1"] else []
    Taxonomy.default.WellFormed ∧ row.WellFormed ∧
      ∀ raws ∈ [["cat0_z0_a1"], ["cat0_z0_a1", "cat0_z0_b1"]],
        (∃ sel neg before, expand .default raws = .ok (sel, neg) ∧ ofSelection sel = .ok before ∧
          ¬ (Predicate.any before).Holds row.truth) ∧
        ∃ left neg after, expand .default (raws ++ ["!" ++ "cat0_z0_a1"]) = .ok (left, neg) ∧
          ofSelection left = .ok after ∧ (Predicate.any after).Holds row.truth := by
  intro row
  refine ⟨Taxonomy.wellFormed_default, wellFormed_ofCodes (by decide) (by decide), ?_⟩
  simp only [List.mem_cons, List.not_mem_nil, or_false, forall_eq_or_imp, forall_eq]
  refine ⟨⟨⟨_, _, _, rfl, rfl, by decide⟩, _, _, _, rfl, rfl, by decide⟩,
    ⟨_, _, _, rfl, rfl, by decide⟩, _, _, _, rfl, rfl, by decide⟩

end Category

end Sift
