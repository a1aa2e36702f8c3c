import Sift.Proofs.Predicate.Category
import Sift.Proofs.Predicate.Meaning
import Sift.Proofs.Sql.Qualifiers

/-!
# Tables that predicates refer to

A clean predicate is written with the qualifiers of its columns, operators, literals and fragments and
no others (`mem_qualifiers_render`): marks between members have none, and a member that is left out
because it is empty has none either. The predicates of categories and negations refer to the spots
only.
-/

namespace Sift

open Sql

namespace Predicate

/-- A table qualifies a column in some part of the predicate. -/
inductive Refers (q : String) : Predicate → Prop
  | compare {column operator literal part : String} (hpart : part ∈ [column, operator, literal])
      (h : q ∈ qualifiers part) : Refers q (.compare column operator literal)
  | like {column pattern part : String} (hpart : part ∈ [column, "'" ++ pattern ++ "'"])
      (h : q ∈ qualifiers part) : Refers q (.like column pattern)
  | isNull {column : String} {negated : Bool} (h : q ∈ qualifiers column) :
      Refers q (.isNull column negated)
  | raw {sql : String} (h : q ∈ qualifiers sql) : Refers q (.raw sql)
  | all {items : List Predicate} {p : Predicate} (hp : p ∈ items) (h : Refers q p) :
      Refers q (.all items)
  | any {items : List Predicate} {p : Predicate} (hp : p ∈ items) (h : Refers q p) :
      Refers q (.any items)
  | not {item : Predicate} (h : Refers q item) : Refers q (.not item)

variable {q : String}

theorem refers_compare {column operator literal : String} :
    Refers q (.compare column operator literal) ↔
      q ∈ qualifiers column ∨ q ∈ qualifiers operator ∨ q ∈ qualifiers literal := by
  constructor
  · rintro ⟨hpart, h⟩
    simp only [List.mem_cons, List.not_mem_nil, or_false] at hpart
    rcases hpart with rfl | rfl | rfl
    · exact .inl h
    · exact .inr (.inl h)
    · exact .inr (.inr h)
  · rintro (h | h | h)
    · exact .compare (by simp) h
    · exact .compare (by simp) h
    · exact .compare (by simp) h

theorem refers_like {column pattern : String} :
    Refers q (.like column pattern) ↔
      q ∈ qualifiers column ∨ q ∈ qualifiers ("'" ++ pattern ++ "'") := by
  constructor
  · rintro (_ | ⟨hpart, h⟩)
    simp only [List.mem_cons, List.not_mem_nil, or_false] at hpart
    rcases hpart with rfl | rfl
    · exact .inl h
    · exact .inr h
  · rintro (h | h)
    · exact .like (by simp) h
    · exact .like (by simp) h

/-! ## Rendering -/

theorem Refers.not_isEmpty {p : Predicate} (h : Refers q p) : p.isEmpty ≠ true := by
  induction h with
  | compare | like | isNull => exact nofun
  | @raw sql h =>
    intro hblank
    have hpoint : '.' ∉ sql.toList := by
      intro hmem
      have hnot : Text.isBlank '.' = false := by decide
      rw [isEmpty, List.all_eq_true] at hblank
      exact absurd (hnot.symm.trans (hblank _ hmem)) nofun
    rw [qualifiers_eq_nil hpoint] at h
    cases h
  | all hp h ih =>
    rw [isEmpty, ne_eq, areEmpty_iff]
    exact fun hempty => ih (hempty _ hp)
  | any hp h ih =>
    rw [isEmpty, ne_eq, areEmpty_iff]
    exact fun hempty => ih (hempty _ hp)
  | not h ih => rwa [isEmpty]

theorem balanced_render {p : Predicate} (h : p.Clean) : Balanced p.render := by
  rcases render_enclosed h with hempty | henclosed
  · rw [hempty]
    decide
  · exact henclosed.safe.balanced

theorem qualifiers_parens {s : String} (h : Balanced s) :
    qualifiers ("(" ++ s ++ ")") = qualifiers s := by
  have hopen : Balanced ("(" ++ s) := Balanced.append (by decide) h
  rw [qualifiers_closes hopen (by decide), qualifiers_opens (by decide)]

theorem mem_qualifiers_group {operator : String} (hsep : Separates (" " ++ operator ++ " "))
    {rendered : List String} (h : ∀ s ∈ rendered, Balanced s) :
    q ∈ qualifiers (group operator rendered) ↔ ∃ s ∈ rendered, q ∈ qualifiers s := by
  unfold group
  split
  · simp [qualifiers_eq_nil]
  · simp
  · obtain ⟨hbalanced, hnames⟩ := qualifiers_intercalate hsep h
    rw [qualifiers_parens hbalanced, hnames, List.mem_flatMap]

theorem render_mem_renderMembers {items : List Predicate} {p : Predicate} (hp : p ∈ items)
    (h : p.isEmpty ≠ true) : p.render ∈ renderMembers items := by
  induction items with
  | nil => cases hp
  | cons item items ih =>
    rw [renderMembers]
    rcases List.mem_cons.mp hp with rfl | hp
    · rw [if_neg h]
      exact List.mem_cons_self
    · split
      · exact ih hp
      · exact List.mem_cons_of_mem _ (ih hp)

theorem mem_qualifiers_members {operator : String} (hsep : Separates (" " ++ operator ++ " "))
    {items : List Predicate} (hitems : ∀ p ∈ items, p.Clean)
    (ih : ∀ p ∈ items, q ∈ qualifiers p.render ↔ Refers q p) :
    q ∈ qualifiers (group operator (renderMembers items)) ↔ ∃ p ∈ items, Refers q p := by
  have hbalanced : ∀ s ∈ renderMembers items, Balanced s := by
    intro s hs
    obtain ⟨p, hp, rfl⟩ := mem_renderMembers hs
    exact balanced_render (hitems p hp)
  rw [mem_qualifiers_group hsep hbalanced]
  constructor
  · rintro ⟨s, hs, hq⟩
    obtain ⟨p, hp, rfl⟩ := mem_renderMembers hs
    exact ⟨p, hp, (ih p hp).mp hq⟩
  · rintro ⟨p, hp, h⟩
    exact ⟨p.render, render_mem_renderMembers hp h.not_isEmpty, (ih p hp).mpr h⟩

/-- A clean predicate is written with the qualifiers of its parts. -/
theorem mem_qualifiers_render {p : Predicate} (h : p.Clean) :
    q ∈ qualifiers p.render ↔ Refers q p := by
  have hspace : Separates " " := by decide
  induction h with
  | @compare column operator literal hcolumn hoperator hliteral =>
    have htext : (Predicate.compare column operator literal).render =
        "(" ++ (column ++ " " ++ operator ++ " " ++ literal) ++ ")" := by
      simp [render, String.append_assoc]
    have hfirst : Balanced (column ++ " " ++ operator) :=
      (hcolumn.balanced.append (by decide)).append hoperator.balanced
    have hall := (hfirst.append (b := " ") (by decide)).append hliteral.balanced
    rw [htext, qualifiers_parens hall, qualifiers_sep hfirst hspace,
      qualifiers_sep hcolumn.balanced hspace, List.mem_append, List.mem_append, or_assoc,
      refers_compare]
  | @like column pattern hcolumn hpattern =>
    have htext : (Predicate.like column pattern).render =
        "(" ++ (column ++ " LIKE " ++ ("'" ++ pattern ++ "'")) ++ ")" := by
      rw [render, ← String.toList_inj]
      simp
    have hall := (hcolumn.balanced.append (b := " LIKE ") (by decide)).append hpattern.safe.balanced
    rw [htext, qualifiers_parens hall, qualifiers_sep hcolumn.balanced (by decide), List.mem_append,
      refers_like]
  | @isNull column negated hcolumn =>
    have htext : (Predicate.isNull column negated).render =
        "(" ++ (column ++ (" IS " ++ (if negated then "NOT " else "") ++ "NULL")) ++ ")" := by
      rw [render, ← String.toList_inj]
      simp
    have hmark : closes (" IS " ++ (if negated then "NOT " else "") ++ "NULL") = true ∧
        Balanced (" IS " ++ (if negated then "NOT " else "") ++ "NULL") := by
      cases negated with
      | true => decide
      | false => decide
    rw [htext, qualifiers_parens (hcolumn.balanced.append hmark.2),
      qualifiers_closes hcolumn.balanced hmark.1]
    exact ⟨.isNull, fun | .isNull h => h⟩
  | @raw sql hsql =>
    rw [render, qualifiers_parens hsql.balanced]
    exact ⟨.raw, fun | .raw h => h⟩
  | all hitems ih =>
    rw [render, mem_qualifiers_members (by decide) hitems ih]
    exact ⟨fun ⟨p, hp, h⟩ => .all hp h, fun | .all hp h => ⟨_, hp, h⟩⟩
  | any hitems ih =>
    rw [render, mem_qualifiers_members (by decide) hitems ih]
    exact ⟨fun ⟨p, hp, h⟩ => .any hp h, fun | .any hp h => ⟨_, hp, h⟩⟩
  | @not item hitem ih =>
    have htext : (Predicate.not item).render = "(" ++ ("NOT " ++ item.render) ++ ")" := by
      rw [render, ← String.toList_inj]
      simp
    have hall : Balanced ("NOT " ++ item.render) :=
      Balanced.append (by decide) (balanced_render hitem)
    rw [htext, qualifiers_parens hall, qualifiers_opens (by decide)]
    exact ih.trans ⟨.not, fun | .not h => h⟩

end Predicate

theorem mem_qualifiers_joinGroups {q : String} {groups : List Predicate}
    (h : ∀ p ∈ groups, p.Clean) :
    q ∈ qualifiers (Compiler.joinGroups groups) ↔ ∃ p ∈ groups, p.Refers q := by
  have hand : Separates " AND " := by decide
  have hbalanced : ∀ s ∈ (groups.map (·.render)).filter (· != ""), Balanced s := by
    intro s hs
    obtain ⟨p, hp, rfl⟩ := List.mem_map.mp (List.mem_filter.mp hs).1
    exact Predicate.balanced_render (h p hp)
  rw [Compiler.joinGroups, (qualifiers_intercalate hand hbalanced).2, List.mem_flatMap,
    mem_qualifiers_filter]
  simp only [List.mem_map, exists_exists_and_eq_and]
  exact exists_congr fun p => and_congr_right fun hp => Predicate.mem_qualifiers_render (h p hp)

/-! ## Integers and literals -/

namespace Sql

theorem qualifiers_int (z : Int) : qualifiers (toString z) = [] := by
  have hdecimal : ∀ n : Nat, '.' ∉ (toString n).toList := by
    intro n hmem
    rw [Nat.toString_eq_repr, Nat.toList_repr] at hmem
    exact Text.not_mem_of_isDigits (Text.isDigits_decimal n) (by decide) hmem
  refine qualifiers_eq_nil ?_
  cases z with
  | ofNat n => exact hdecimal n
  | negSucc n =>
    show '.' ∉ ("-" ++ toString (n + 1)).toList
    rw [String.toList_append, List.mem_append, not_or]
    exact ⟨by decide, hdecimal (n + 1)⟩

end Sql

/-! ## Categories -/

namespace Category

open Predicate

theorem composes_spots : Composes fun p => ∀ q, Refers q p → q = "s" where
  head head q h := by
    have hnames : qualifiers "s.category" = ["s"] ∧ qualifiers "=" = [] := by decide
    rw [headPredicate, refers_compare, hnames.1, hnames.2, qualifiers_int] at h
    simpa using h
  code letter hletter code q h := by
    have hall : (singleLetters ++ multiLetters).all
        (fun c => qualifiers ("s.subcat" ++ String.singleton c) == ["s"]) = true := by decide
    have hcolumn := beq_iff_eq.mp (List.all_eq_true.mp hall letter hletter)
    have hequals : qualifiers "=" = [] := by decide
    have hescaped : Hidden (Dialect.escape code ++ "|") :=
      (hidden_escape code).append (hidden_of_not_mem (by decide))
    have hpattern : Hidden ("%" ++ Dialect.escape code ++ "|%") :=
      ((hidden_of_not_mem (by decide)).append (hidden_escape code)).append
        (hidden_of_not_mem (by decide))
    unfold hasCode at h
    split at h
    · rw [refers_compare, hcolumn, hequals, Dialect.quote, hescaped.quoted.2] at h
      simpa using h
    · rw [refers_like, hcolumn, hpattern.quoted.2] at h
      simpa using h
  all items ih q := fun | .all hp h => ih _ hp q h
  any items ih q := fun | .any hp h => ih _ hp q h
  not item ih q := fun | .not h => ih q h

end Category

end Sift
