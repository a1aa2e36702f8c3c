import Sift.Descriptor
import Sift.Proofs.Sql.Safety

/-!
# Rendered predicates are groups

A predicate is clean when its columns, operators and fragments are safe and its patterns stay inside
a literal. A clean predicate is written as nothing or as one parenthesis with its partner
(`render_enclosed`), so the conditions of a filter are groups with `AND` between them.
-/

namespace Sift

open Sql

namespace Predicate

/-- Nothing in the predicate leaves its place. -/
inductive Clean : Predicate → Prop
  | compare {column operator literal : String} (hcolumn : Safe column) (hoperator : Safe operator)
      (hliteral : Safe literal) : Clean (.compare column operator literal)
  | like {column pattern : String} (hcolumn : Safe column) (hpattern : Quoted pattern) :
      Clean (.like column pattern)
  | isNull {column : String} {negated : Bool} (hcolumn : Safe column) :
      Clean (.isNull column negated)
  | raw {sql : String} (hsql : Safe sql) : Clean (.raw sql)
  | all {items : List Predicate} (hitems : ∀ p ∈ items, Clean p) : Clean (.all items)
  | any {items : List Predicate} (hitems : ∀ p ∈ items, Clean p) : Clean (.any items)
  | not {item : Predicate} (hitem : Clean item) : Clean (.not item)

/-! ## Rendering -/

theorem mem_renderMembers {items : List Predicate} {s : String} (h : s ∈ renderMembers items) :
    ∃ p ∈ items, s = p.render := by
  induction items with
  | nil =>
    rw [renderMembers] at h
    cases h
  | cons p items ih =>
    rw [renderMembers] at h
    split at h
    · obtain ⟨q, hq, hs⟩ := ih h
      exact ⟨q, by simp [hq], hs⟩
    · rcases List.mem_cons.mp h with rfl | h
      · exact ⟨p, by simp, rfl⟩
      · obtain ⟨q, hq, hs⟩ := ih h
        exact ⟨q, by simp [hq], hs⟩

theorem group_enclosed {operator : String} (hoperator : Safe operator) {rendered : List String}
    (h : ∀ s ∈ rendered, s = "" ∨ Enclosed s) :
    group operator rendered = "" ∨ Enclosed (group operator rendered) := by
  have hsafe : ∀ s ∈ rendered, Safe s := by
    intro s hs
    rcases h s hs with rfl | hs
    · exact safe_of_all (by decide)
    · exact hs.safe
  have hspace : Safe " " := safe_of_all (by decide)
  unfold group
  split
  · exact .inl rfl
  · exact h _ (by simp)
  · exact .inr ⟨_, rfl, Safe.intercalate ((hspace.append hoperator).append hspace) hsafe⟩

/-- A clean predicate is written as nothing or as one group. -/
theorem render_enclosed {p : Predicate} (h : p.Clean) : p.render = "" ∨ Enclosed p.render := by
  have hspace : Safe " " := safe_of_all (by decide)
  induction h with
  | @compare column operator literal hcolumn hoperator hliteral =>
    refine .inr ⟨column ++ " " ++ operator ++ " " ++ literal, ?_,
      (((hcolumn.append hspace).append hoperator).append hspace).append hliteral⟩
    simp [render, String.append_assoc]
  | @like column pattern hcolumn hpattern =>
    refine .inr ⟨column ++ " LIKE " ++ ("'" ++ pattern ++ "'"), ?_,
      (hcolumn.append (safe_of_all (by decide))).append hpattern.safe⟩
    rw [render, ← String.toList_inj]
    simp
  | @isNull column negated hcolumn =>
    refine .inr ⟨column ++ " IS " ++ (if negated then "NOT " else "") ++ "NULL", ?_,
      ((hcolumn.append (safe_of_all (by decide))).append ?_).append (safe_of_all (by decide))⟩
    · rw [render, ← String.toList_inj]
      simp
    · cases negated
      · exact safe_of_all (by decide)
      · exact safe_of_all (by decide)
  | raw hsql => exact .inr ⟨_, by rw [render], hsql⟩
  | all hitems ih =>
    rw [render]
    refine group_enclosed (safe_of_all (by decide)) fun s hs => ?_
    obtain ⟨p, hp, rfl⟩ := mem_renderMembers hs
    exact ih p hp
  | any hitems ih =>
    rw [render]
    refine group_enclosed (safe_of_all (by decide)) fun s hs => ?_
    obtain ⟨p, hp, rfl⟩ := mem_renderMembers hs
    exact ih p hp
  | @not item hitem ih =>
    refine .inr ⟨"NOT " ++ item.render, ?_, (safe_of_all (by decide)).append ?_⟩
    · rw [render, ← String.toList_inj]
      simp
    · rcases ih with h | h
      · rw [h]
        exact safe_of_all (by decide)
      · exact h.safe

end Predicate

/-! ## Conjunctions of groups -/

theorem joinGroups_eq {groups : List Predicate} (h : ∀ p ∈ groups, p.Clean) :
    ∃ units : List String, (∀ u ∈ units, Enclosed u) ∧
      Compiler.joinGroups groups = " AND ".intercalate units := by
  refine ⟨(groups.map (·.render)).filter (· != ""), fun u hu => ?_, rfl⟩
  obtain ⟨hmem, hne⟩ := List.mem_filter.mp hu
  obtain ⟨p, hp, rfl⟩ := List.mem_map.mp hmem
  exact (Predicate.render_enclosed (h p hp)).resolve_left (by simpa using hne)

theorem lex_conjunction {units : List String} (h : ∀ u ∈ units, Enclosed u) :
    lex (" AND ".intercalate units) = some (units.intersperse "AND") := by
  have hunit : ∀ u ∈ units, lex u = some [u] := by
    intro u hu
    obtain ⟨inner, rfl, hinner⟩ := h u hu
    exact hinner.lex_group
  have hsep : " AND " = String.singleton ' ' ++ "AND" ++ String.singleton ' ' := by decide
  clear h
  induction units with
  | nil => rfl
  | cons u units ih =>
    cases units with
    | nil =>
      rw [String.intercalate_singleton]
      exact hunit u (by simp)
    | cons v units =>
      have hand : lex "AND" = some ["AND"] := by decide
      have hrest := ih fun w hw => hunit w (by simp [hw])
      have hfirst := lex_append (.inl rfl) (hunit u (by simp)) hand
      have hboth := lex_append (.inl rfl) hfirst hrest
      rw [String.intercalate_cons_cons, hsep, ← String.append_assoc, ← String.append_assoc]
      exact hboth

end Sift
