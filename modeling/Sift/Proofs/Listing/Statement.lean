import Sift.Boundary.Almanac
import Sift.Listing.Query
import Sift.Proofs.Filter.Conditions
import Sift.Proofs.Predicate.Category
import Sift.Proofs.Shorthand.Recorded
import Sift.Taxonomy.Default

/-!
# Statements of compiled filters

Whatever a search holds, the parts of its descriptor are sound: the predicate is a conjunction of
groups, and its columns, joins and sort keys are read outside of parentheses without `WHERE`
(`sound_of_compile`). So both statements of a listing are read to their end, and their condition is
a conjunction of groups the last of which leaves out blacklisted spotters
(`guarded_of_compile`).
-/

namespace Sift

open Sql Predicate

/-! ## Descriptors -/

/-- Every part of a descriptor keeps its place in a statement. -/
structure Descriptor.Sound (descriptor : Descriptor) : Prop where
  predicate : ∃ units : List String, (∀ u ∈ units, Enclosed u) ∧
    descriptor.predicate = " AND ".intercalate units
  extraColumns : ∀ s ∈ descriptor.extraColumns, Fragment s
  extraTables : descriptor.extraTables = []
  extraJoins : ∀ join ∈ descriptor.extraJoins, Fragment join.sql
  sortKeys : ∀ key ∈ descriptor.sortKeys, Fragment key.column

theorem mem_sortingKeys {sort : Sorting.Request} {automatic : List SortKey} {key : SortKey}
    (h : key ∈ Sorting.keys sort automatic) :
    key ∈ automatic ∨ key.column ∈ Sorting.fields.map ("s." ++ ·) := by
  have hnewest : key ∈ automatic ++ [Sorting.newestFirst] →
      key ∈ automatic ∨ key.column ∈ Sorting.fields.map ("s." ++ ·) := by
    intro hkey
    refine (List.mem_append.mp hkey).imp_right fun hkey => ?_
    obtain rfl := List.mem_singleton.mp hkey
    decide
  unfold Sorting.keys at h
  split at h
  · split at h
    · rename_i hknown
      rcases List.mem_cons.mp h with rfl | h
      · exact .inr (List.mem_map_of_mem (List.contains_iff_mem.mp hknown))
      · exact .inl h
    · exact hnewest h
  · exact hnewest h

theorem fragment_sortingKeys (sort : Sorting.Request) {automatic : List SortKey}
    (h : ∀ key ∈ automatic, Fragment key.column) :
    ∀ key ∈ Sorting.keys sort automatic, Fragment key.column := by
  have hall : ∀ column ∈ Sorting.fields.map ("s." ++ ·),
      (lex column).any (fun pieces => !pieces.contains "WHERE") = true := by decide
  intro key hkey
  rcases mem_sortingKeys hkey with hkey | hcolumn
  · exact h key hkey
  · exact fragment_of_lex (hall _ hcolumn)

namespace Compiler

variable {compiler : Compiler} {search : Option Search} {sort : Sorting.Request}
  {session : Session} {reference : Moment} {descriptor : Descriptor}

theorem writable_of_categories {search : Search} {selection : Selection} {negations : Negations}
    (h : compiler.categories search = .ok (selection, negations)) : selection.Writable := by
  unfold categories at h
  split at h
  · obtain ⟨rfl, -⟩ := Prod.mk.inj (Except.ok.inj h)
    exact Selection.writable_empty
  · exact (Shorthand.writable_of_expand (mapError_eq_ok h)).1

theorem parts_of_compile {search : Search}
    (h : compiler.compile (some search) sort session reference = .ok descriptor) :
    ∃ conditions selection negations categories,
      Conditions.ofRecords compiler.almanac compiler.dialect session reference search.records =
        .ok conditions ∧
      compiler.categories search = .ok (selection, negations) ∧
      Category.ofSelection selection = .ok categories ∧
      descriptor = {
        predicate := joinGroups (groups categories conditions (Category.ofNegations negations))
        selection
        negations
        records := search.records
        extraColumns := conditions.extraColumns
        extraTables := conditions.extraTables
        extraJoins := conditions.extraJoins
        sortKeys := Sorting.keys sort conditions.sortKeys
        isUnfiltered := search.unfiltered } := by
  obtain ⟨conditions, hconditions, h⟩ := bind_eq_ok h
  obtain ⟨⟨selection, negations⟩, hcategories, h⟩ := bind_eq_ok h
  obtain ⟨categories, hselection, h⟩ := bind_eq_ok h
  exact ⟨conditions, selection, negations, categories, mapError_eq_ok hconditions, hcategories,
    mapError_eq_ok hselection, (Except.ok.inj h).symm⟩

theorem clean_groups (hdialect : compiler.dialect.Unquoted) {search : Search}
    {conditions : Conditions} {selection : Selection} {negations : Negations}
    {categories : List Predicate}
    (hconditions :
      Conditions.ofRecords compiler.almanac compiler.dialect session reference search.records =
        .ok conditions)
    (hcategories : compiler.categories search = .ok (selection, negations))
    (hselection : Category.ofSelection selection = .ok categories) :
    ∀ p ∈ groups categories conditions (Category.ofNegations negations), p.Clean := by
  have hsound := Conditions.sound_ofRecords hdialect hconditions
  have hclean := Category.composes_clean.ofSelection (writable_of_categories hcategories) hselection
  intro p hp
  simp only [groups, List.mem_cons, List.not_mem_nil, or_false] at hp
  rcases hp with rfl | rfl | rfl | rfl
  · exact .any hclean
  · exact .all hsound.andGroup
  · exact .any hsound.orGroup
  · exact .all (Category.composes_clean.ofNegations negations)

/-- Whatever is searched for, the descriptor is sound. -/
theorem sound_of_compile (hdialect : compiler.dialect.Unquoted)
    (h : compiler.compile search sort session reference = .ok descriptor) : descriptor.Sound := by
  cases search with
  | none =>
    obtain rfl := Except.ok.inj h
    refine ⟨⟨[], nofun, rfl⟩, nofun, rfl, nofun, fun key hkey => ?_⟩
    obtain rfl := List.mem_singleton.mp hkey
    exact fragment_of_chars (by decide)
  | some search =>
    obtain ⟨conditions, selection, negations, categories, hconditions, hcategories, hselection,
      rfl⟩ := parts_of_compile h
    have hsound := Conditions.sound_ofRecords hdialect hconditions
    exact ⟨joinGroups_eq (clean_groups hdialect hconditions hcategories hselection),
      hsound.extraColumns, hsound.extraTables, hsound.extraJoins,
      fragment_sortingKeys sort hsound.sortKeys⟩

end Compiler

/-! ## Clauses -/

namespace Listing

variable {descriptor : Descriptor}

theorem fragment_lines {items : List String} (h : ∀ item ∈ items, Fragment item) :
    Fragment ("\n".intercalate items) := by
  have hline : "\n" = String.singleton '\n' := by decide
  refine Fragment.intercalate (fun ha hb => ?_) h
  rw [hline]
  exact ha.append (.inr rfl) hb

theorem fragment_select {items : List String} (h : ∀ item ∈ items, Fragment item) :
    Fragment ("SELECT " ++ ", ".intercalate items) := by
  have hselect : Fragment "SELECT" := fragment_of_chars (by decide)
  have hword : "SELECT " = "SELECT" ++ String.singleton ' ' := by decide
  rw [hword]
  exact hselect.append (.inl rfl) (Fragment.intercalate Fragment.append_comma h)

theorem fragment_columns (h : descriptor.Sound) :
    ∀ s ∈ columns ++ descriptor.extraColumns, Fragment s := by
  have hall : columns.all (fun s => (lex s).any fun pieces => !pieces.contains "WHERE") = true := by
    decide
  intro s hs
  rcases List.mem_append.mp hs with hs | hs
  · exact fragment_of_lex (List.all_eq_true.mp hall s hs)
  · exact h.extraColumns s hs

theorem fragment_baseJoins : ∀ join ∈ baseJoins, Fragment join := by
  intro join hjoin
  rcases List.mem_cons.mp hjoin with rfl | hjoin
  · exact fragment_of_chars (by decide)
  · rcases List.mem_cons.mp hjoin with rfl | hjoin
    · exact fragment_of_append (by decide +kernel)
    · obtain rfl := List.mem_singleton.mp hjoin
      exact fragment_of_append (by decide +kernel)

theorem fragment_textJoin : Fragment textJoin := by
  unfold textJoin
  exact fragment_of_chars (by decide)

theorem fragment_fromClause (h : descriptor.Sound) (dialect : String) :
    Fragment (fromClause descriptor dialect) := by
  have hjoins : ∀ join ∈ baseJoins ++ (if dialect = "sqlite" then [textJoin] else []) ++
      descriptor.extraJoins.map Join.sql, Fragment join := by
    intro join hjoin
    rcases List.mem_append.mp hjoin with hjoin | hjoin
    · rcases List.mem_append.mp hjoin with hjoin | hjoin
      · exact fragment_baseJoins join hjoin
      · split at hjoin
        · obtain rfl := List.mem_singleton.mp hjoin
          exact fragment_textJoin
        · cases hjoin
    · obtain ⟨extra, hextra, rfl⟩ := List.mem_map.mp hjoin
      exact h.extraJoins extra hextra
  have hspots : Fragment "FROM spots AS s" := fragment_of_chars (by decide)
  have hword : "FROM spots AS s\n" = "FROM spots AS s" ++ String.singleton '\n' := by decide
  have htables : String.join (descriptor.extraTables.map (", " ++ ·)) = "" := by
    rw [h.extraTables]
    rfl
  unfold fromClause
  rw [htables, String.append_empty, hword]
  exact hspots.append (.inr rfl) (fragment_lines hjoins)

theorem fragment_orderTerms (h : descriptor.Sound) :
    Fragment (", ".intercalate (descriptor.sortKeys.map orderTerm)) := by
  refine Fragment.intercalate Fragment.append_comma fun term hterm => ?_
  obtain ⟨key, hkey, rfl⟩ := List.mem_map.mp hterm
  have hdirection : Fragment (Sorting.direction key.direction) := by
    unfold Sorting.direction
    split
    · exact fragment_of_chars (by decide)
    · exact fragment_of_chars (by decide)
  have hword : " " = String.singleton ' ' := by decide
  unfold orderTerm
  rw [hword]
  exact (h.sortKeys key hkey).append (.inl rfl) hdirection

theorem enclosed_notBlacklisted : Enclosed notBlacklisted :=
  ⟨"bl.spotterid IS NULL", rfl, safe_of_all (by decide)⟩

theorem lex_whereClause (h : descriptor.Sound) :
    ∃ conjuncts : List String, (∀ c ∈ conjuncts, Enclosed c) ∧
      lex (whereClause descriptor) =
        some ("WHERE" :: (conjuncts ++ [notBlacklisted]).intersperse "AND") := by
  obtain ⟨units, hunits, hpredicate⟩ := h.predicate
  have hall : ∀ u ∈ units ++ [notBlacklisted], Enclosed u := by
    intro u hu
    rcases List.mem_append.mp hu with hu | hu
    · exact hunits u hu
    · rw [List.mem_singleton.mp hu]
      exact enclosed_notBlacklisted
  have hjoined : " AND ".intercalate
      ((if descriptor.predicate = "" then [] else [descriptor.predicate]) ++ [notBlacklisted]) =
      " AND ".intercalate (units ++ [notBlacklisted]) := by
    have hlex : lex descriptor.predicate = some (units.intersperse "AND") := by
      rw [hpredicate]
      exact lex_conjunction hunits
    by_cases hempty : descriptor.predicate = ""
    · obtain rfl : units = [] := by
        rw [hempty] at hlex
        have hnone : units.intersperse "AND" = [] := (Option.some.inj hlex).symm
        cases units with
        | nil => rfl
        | cons u units => cases units <;> cases hnone
      rw [if_pos hempty]
    · have hne : units ≠ [] := by
        rintro rfl
        exact hempty hpredicate
      rw [if_neg hempty, hpredicate, String.intercalate_append_of_ne_nil hne (List.cons_ne_nil _ _)]
      exact String.intercalate_cons_cons
  have hword : "WHERE " = "WHERE" ++ String.singleton ' ' := by decide
  have hwhere : lex "WHERE" = some ["WHERE"] := by decide
  refine ⟨units, hunits, ?_⟩
  unfold whereClause
  simp only
  rw [hjoined, hword]
  exact lex_append (.inl rfl) hwhere (lex_conjunction hall)

theorem lex_orderClause (h : descriptor.Sound) :
    ∃ pieces : List String, lex (orderClause descriptor) = some pieces ∧
      ∀ p, pieces.head? = some p → p = "ORDER" := by
  unfold orderClause
  split
  · exact ⟨[], rfl, nofun⟩
  · obtain ⟨terms, hterms, -⟩ := fragment_orderTerms h
    have horder : lex "ORDER BY" = some ["ORDER", "BY"] := by decide
    have hword : "ORDER BY " = "ORDER BY" ++ String.singleton ' ' := by decide
    rw [hword]
    exact ⟨_, lex_append (.inl rfl) horder hterms, fun p hp => (Option.some.inj hp).symm⟩

/-! ## Statements -/

theorem lex_lines_cons {a : String} {items : List String} {pa ps : List String}
    (ha : lex a = some pa) (h : lex ("\n".intercalate items) = some ps) :
    lex ("\n".intercalate (a :: items)) = some (pa ++ ps) := by
  cases items with
  | nil =>
    rw [String.intercalate_nil] at h
    obtain rfl : [] = ps := Option.some.inj h
    rw [String.intercalate_singleton, List.append_nil]
    exact ha
  | cons b items =>
    have hline : "\n" = String.singleton '\n' := by decide
    rw [String.intercalate_cons_cons]
    rw [hline] at h ⊢
    exact lex_append (.inr rfl) ha h

theorem lex_lines_filter {a : String} {items : List String} {pa ps : List String}
    (ha : lex a = some pa) (h : lex ("\n".intercalate (items.filter (· != ""))) = some ps) :
    lex ("\n".intercalate ((a :: items).filter (· != ""))) = some (pa ++ ps) := by
  by_cases hempty : a = ""
  · subst hempty
    obtain rfl : [] = pa := Option.some.inj ha
    exact h
  · have hkept : (a :: items).filter (· != "") = a :: items.filter (· != "") :=
      List.filter_cons_of_pos (by simpa using hempty)
    rw [hkept]
    exact lex_lines_cons ha h

theorem ne_of_mem_condition {conjuncts : List String} (h : ∀ c ∈ conjuncts, Enclosed c) :
    ∀ p ∈ conjuncts.intersperse "AND", p ≠ "ORDER" ∧ p ≠ "LIMIT" := by
  have hgroup : ∀ c ∈ conjuncts, c ≠ "ORDER" ∧ c ≠ "LIMIT" := by
    intro c hc
    have hopen := (h c hc).isGroup
    constructor
    · rintro rfl
      exact absurd hopen (by decide)
    · rintro rfl
      exact absurd hopen (by decide)
  clear h
  induction conjuncts with
  | nil => exact nofun
  | cons c conjuncts ih =>
    have hrest := ih fun d hd => hgroup d (by simp [hd])
    cases conjuncts with
    | nil => simpa using hgroup c (by simp)
    | cons d conjuncts =>
      intro p hp
      rw [List.intersperse_cons_cons] at hp
      rcases List.mem_cons.mp hp with rfl | hp
      · exact hgroup p (by simp)
      · rcases List.mem_cons.mp hp with rfl | hp
        · decide
        · exact hrest p hp

/-- The statement is read to its end, and its condition is a conjunction of groups, the last of which
leaves out blacklisted spotters. -/
def Guarded (statement : String) : Prop :=
  ∃ pieces conjuncts : List String, lex statement = some pieces ∧ (∀ c ∈ conjuncts, IsGroup c) ∧
    Sql.whereClause pieces = (conjuncts ++ [notBlacklisted]).intersperse "AND"

theorem guarded_of_lex {statement : String} {before conjuncts rest : List String}
    (hlex : lex statement = some (before ++
      "WHERE" :: ((conjuncts ++ [notBlacklisted]).intersperse "AND" ++ rest)))
    (hbefore : "WHERE" ∉ before) (hconjuncts : ∀ c ∈ conjuncts, Enclosed c)
    (hrest : ∀ p, rest.head? = some p → p = "ORDER" ∨ p = "LIMIT") : Guarded statement := by
  have hall : ∀ c ∈ conjuncts ++ [notBlacklisted], Enclosed c := by
    intro c hc
    rcases List.mem_append.mp hc with hc | hc
    · exact hconjuncts c hc
    · rw [List.mem_singleton.mp hc]
      exact enclosed_notBlacklisted
  refine ⟨_, conjuncts, hlex, fun c hc => (hconjuncts c hc).isGroup, ?_⟩
  exact whereClause_eq hbefore (ne_of_mem_condition hall) hrest

theorem guarded_searchQuery (h : descriptor.Sound) (dialect : String) :
    Guarded (searchQuery descriptor dialect) := by
  obtain ⟨select, hselect, hselect'⟩ := fragment_select (fragment_columns h)
  obtain ⟨tables, htables, htables'⟩ := fragment_fromClause h dialect
  obtain ⟨conjuncts, hconjuncts, hwhere⟩ := lex_whereClause h
  obtain ⟨order, horder, horder'⟩ := lex_orderClause h
  have hlimit : lex "LIMIT $2 OFFSET $3" = some ["LIMIT", "$2", "OFFSET", "$3"] := by decide
  have hend : lex ("\n".intercalate (([] : List String).filter (· != ""))) = some [] := rfl
  have hlex : lex (searchQuery descriptor dialect) = some (select ++ tables ++
      "WHERE" :: ((conjuncts ++ [notBlacklisted]).intersperse "AND" ++
        (order ++ (["LIMIT", "$2", "OFFSET", "$3"] ++ [])))) := by
    rw [List.append_assoc]
    exact lex_lines_filter hselect (lex_lines_filter htables (lex_lines_filter hwhere
      (lex_lines_filter horder (lex_lines_filter hlimit hend))))
  refine guarded_of_lex hlex ?_ hconjuncts fun p hp => ?_
  · rw [List.mem_append, not_or]
    exact ⟨hselect', htables'⟩
  · cases order with
    | nil => exact .inr (Option.some.inj hp).symm
    | cons q order => exact .inl (horder' p hp)

theorem guarded_countQuery (h : descriptor.Sound) (dialect : String) :
    Guarded (countQuery descriptor dialect) := by
  obtain ⟨tables, htables, htables'⟩ := fragment_fromClause h dialect
  obtain ⟨conjuncts, hconjuncts, hwhere⟩ := lex_whereClause h
  have hselect : lex "SELECT COUNT(1)" = some ["SELECT", "COUNT", "(1)"] := by decide
  have hend : lex ("\n".intercalate ([] : List String)) = some [] := rfl
  have hlex : lex (countQuery descriptor dialect) = some (["SELECT", "COUNT", "(1)"] ++ tables ++
      "WHERE" :: ((conjuncts ++ [notBlacklisted]).intersperse "AND" ++ [])) := by
    rw [List.append_assoc]
    exact lex_lines_cons hselect (lex_lines_cons htables (lex_lines_cons hwhere hend))
  refine guarded_of_lex hlex ?_ hconjuncts nofun
  rw [List.mem_append, not_or]
  exact ⟨by simp, htables'⟩

/-- Whatever is searched for, no value leaves its place in the statements of a filter. -/
theorem guarded_of_compile {compiler : Compiler} (hdialect : compiler.dialect.Unquoted)
    {search : Option Search} {sort : Sorting.Request} {session : Session} {reference : Moment}
    {descriptor : Descriptor}
    (h : compiler.compile search sort session reference = .ok descriptor) (dialect : String) :
    Guarded (searchQuery descriptor dialect) ∧ Guarded (countQuery descriptor dialect) := by
  have hsound := Compiler.sound_of_compile hdialect h
  exact ⟨guarded_searchQuery hsound dialect, guarded_countQuery hsound dialect⟩

/-- A title that tries to leave its literal, beside a category and a negation. -/
theorem guarded_quoted_title :
    let compiler : Compiler := ⟨.default, .postgres "simple", none, .standard 2000⟩
    let search : Search := ⟨some "cat0_z0,~cat1", [.str "titel:=:O'Brien); --"], none, false⟩
    ∃ descriptor, compiler.compile (some search) .none ⟨1, 0⟩ ⟨0, 0, 0⟩ = .ok descriptor ∧
      Guarded (searchQuery descriptor "postgres") ∧ Guarded (countQuery descriptor "postgres") := by
  intro compiler search
  have hdialect : compiler.dialect.Unquoted := by
    intro config hconfig
    obtain rfl : "simple" = config := by simpa [compiler] using hconfig
    decide
  have hok : (compiler.compile (some search) .none ⟨1, 0⟩ ⟨0, 0, 0⟩).isOk = true := by decide
  cases hcompile : compiler.compile (some search) .none ⟨1, 0⟩ ⟨0, 0, 0⟩ with
  | error fault =>
    rw [hcompile] at hok
    cases hok
  | ok descriptor => exact ⟨descriptor, rfl, guarded_of_compile hdialect hcompile "postgres"⟩

end Listing

end Sift
