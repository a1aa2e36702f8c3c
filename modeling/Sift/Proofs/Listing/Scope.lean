import Sift.Boundary.Almanac
import Sift.Proofs.Filter.Qualifiers
import Sift.Proofs.Listing.Names
import Sift.Proofs.Sql.Numbers

/-!
# Names in scope

A statement may only refer to tables that its clause of tables names, a condition of a join only to
tables that are named before it, and a sort key without a table only to a column that is listed. The
listings of compiled filters do so, but for numbers in digits of other scripts: these stand bare in the
condition and are read as columns of tables that there are not. So both statements are in scope exactly
when no number of an understood record is read so (`inScope_of_compile`).
-/

namespace Sift

open Sql Conditions Predicate

variable {q : String}

namespace Listing

/-! ## Scopes of joins -/

/-- Every table that qualifies a column in the pieces is in the scope or was named before. -/
def resolves (scope : List String) : List String → Bool
  | [] => true
  | piece :: rest =>
    (qualifiers piece).all scope.contains &&
      resolves (if opensTable piece then scope ++ (tableName? rest).toList else scope) rest

theorem resolves_mono {scope scope' pieces : List String} (h : scope ⊆ scope')
    (hresolves : resolves scope pieces = true) : resolves scope' pieces = true := by
  induction pieces generalizing scope scope' with
  | nil => rfl
  | cons piece rest ih =>
    rw [resolves, Bool.and_eq_true, List.all_eq_true] at hresolves ⊢
    refine ⟨fun q hq => ?_, ih ?_ hresolves.2⟩
    · exact List.contains_iff_mem.mpr (h (List.contains_iff_mem.mp (hresolves.1 q hq)))
    · split
      · exact List.append_subset.mpr ⟨fun q hq => List.mem_append_left _ (h hq),
          List.subset_append_right _ _⟩
      · exact h

theorem resolves_append {pieces : List String} (h : Complete pieces = true)
    (scope rest : List String) : resolves scope (pieces ++ rest) =
      (resolves scope pieces && resolves (scope ++ tableNames pieces) rest) := by
  induction pieces generalizing scope with
  | nil => simp [resolves, tableNames]
  | cons piece pieces ih =>
    rw [Complete, Bool.and_eq_true, Bool.or_eq_true, Bool.not_eq_true', decide_eq_true_eq] at h
    obtain ⟨hpiece, hrest⟩ := h
    rw [List.cons_append, resolves, resolves, tableNames, ih hrest, Bool.and_assoc]
    cases hopens : opensTable piece with
    | true =>
      have hlength : 3 ≤ pieces.length := hpiece.resolve_left (by simp [hopens])
      simp only [if_true, tableName?_append hlength, List.append_assoc]
    | false => rfl

theorem mem_of_resolves {scope pieces : List String} (h : resolves scope pieces = true)
    (hq : q ∈ pieces.flatMap qualifiers) : q ∈ scope ++ tableNames pieces := by
  induction pieces generalizing scope with
  | nil => cases hq
  | cons piece rest ih =>
    rw [resolves, Bool.and_eq_true, List.all_eq_true] at h
    rw [List.flatMap_cons, List.mem_append] at hq
    rw [tableNames]
    rcases hq with hq | hq
    · exact List.mem_append_left _ (List.contains_iff_mem.mp (h.1 q hq))
    · have hrest := ih h.2 hq
      cases hopens : opensTable piece with
      | true => simpa [hopens] using hrest
      | false => simpa [hopens] using hrest

/-- The text joins tables to the spots: its conditions refer to these and to what it joins. -/
def JoinsToSpots (text : String) : Prop :=
  ∃ pieces, lex text = some pieces ∧ Complete pieces = true ∧ resolves ["s"] pieces = true

theorem joinsToSpots_of_lex {text : String}
    (h : (lex text).any (fun pieces => Complete pieces && resolves ["s"] pieces) = true) :
    JoinsToSpots text := by
  rw [Option.any_eq_true] at h
  obtain ⟨pieces, hpieces, h⟩ := h
  rw [Bool.and_eq_true] at h
  exact ⟨pieces, hpieces, h⟩

theorem resolves_lines {texts : List String} (h : ∀ text ∈ texts, JoinsToSpots text) :
    ∃ pieces, lex ("\n".intercalate texts) = some pieces ∧
      ∀ scope, "s" ∈ scope → resolves scope pieces = true := by
  induction texts with
  | nil => exact ⟨[], rfl, fun _ _ => rfl⟩
  | cons text texts ih =>
    obtain ⟨first, hlex, hcomplete, hfirst⟩ := h text (by simp)
    obtain ⟨rest, hlex', hrest⟩ := ih fun t ht => h t (by simp [ht])
    refine ⟨first ++ rest, lex_lines_cons hlex hlex', fun scope hscope => ?_⟩
    rw [resolves_append hcomplete, Bool.and_eq_true]
    have hsub : ["s"] ⊆ scope := by simpa using hscope
    exact ⟨resolves_mono hsub hfirst, hrest _ (List.mem_append_left _ hscope)⟩

theorem joinsToSpots_joins : (∀ join ∈ baseJoins, JoinsToSpots join) ∧ JoinsToSpots textJoin ∧
    ∀ list, ∀ join ∈ listJoins list, JoinsToSpots join.sql := by
  refine ⟨fun join h => ?_, ?_, fun list join h => ?_⟩
  · rcases List.mem_cons.mp h with rfl | h
    · exact joinsToSpots_of_lex (any_lex_of_chars (by decide +kernel))
    · rcases List.mem_cons.mp h with rfl | h
      · exact joinsToSpots_of_lex (any_lex_of_append (by decide +kernel))
      · obtain rfl := List.mem_singleton.mp h
        exact joinsToSpots_of_lex (any_lex_of_append (by decide +kernel))
  · unfold textJoin
    exact joinsToSpots_of_lex (any_lex_of_chars (by decide +kernel))
  · cases list with
    | myPosted =>
      obtain rfl := List.mem_singleton.mp h
      exact joinsToSpots_of_lex (by decide +kernel)
    | _ => cases h

variable {descriptor : Descriptor}

theorem resolves_fromClause (htables : descriptor.extraTables = [])
    (hjoins : ∀ join ∈ descriptor.extraJoins, JoinsToSpots join.sql) (dialect : String) :
    ∃ pieces, lex (fromClause descriptor dialect) = some pieces ∧ resolves [] pieces = true := by
  obtain ⟨hbase, htext, -⟩ := joinsToSpots_joins
  have hall : ∀ text ∈ baseJoins ++ (if dialect = "sqlite" then [textJoin] else []) ++
      descriptor.extraJoins.map Join.sql, JoinsToSpots text := by
    intro text hmem
    rcases List.mem_append.mp hmem with hmem | hmem
    · rcases List.mem_append.mp hmem with hmem | hmem
      · exact hbase text hmem
      · split at hmem
        · exact List.mem_singleton.mp hmem ▸ htext
        · cases hmem
    · obtain ⟨join, hjoin, rfl⟩ := List.mem_map.mp hmem
      exact hjoins join hjoin
  obtain ⟨pieces, hlex, hresolves⟩ := resolves_lines hall
  have hspots : lex "FROM spots AS s" = some ["FROM", "spots", "AS", "s"] := by decide
  have hword : "FROM spots AS s\n" = "FROM spots AS s" ++ String.singleton '\n' := by decide
  have hcomplete : Complete ["FROM", "spots", "AS", "s"] = true := by decide
  have hfirst : resolves [] ["FROM", "spots", "AS", "s"] = true := by decide
  refine ⟨["FROM", "spots", "AS", "s"] ++ pieces, ?_, ?_⟩
  · unfold fromClause
    rw [htables, List.map_nil, String.join_nil, String.append_empty, hword]
    exact lex_append (.inr rfl) hspots hlex
  · rw [resolves_append hcomplete, hfirst, Bool.true_and]
    exact hresolves _ (by decide)

/-! ## Statements -/

theorem mem_qualifiers_lines {clauses : List String} (h : ∀ clause ∈ clauses, Balanced clause) :
    q ∈ qualifiers ("\n".intercalate clauses) ↔ ∃ clause ∈ clauses, q ∈ qualifiers clause := by
  have hline : Separates "\n" := by decide
  rw [(qualifiers_intercalate hline h).2, List.mem_flatMap]

theorem balanced_predicate (h : descriptor.Sound) : Balanced descriptor.predicate := by
  obtain ⟨units, hunits, hpredicate⟩ := h.predicate
  have hand : Separates " AND " := by decide
  rw [hpredicate]
  exact (qualifiers_intercalate hand fun u hu => (hunits u hu).safe.balanced).1

theorem mem_qualifiers_whereClause (h : descriptor.Sound) :
    Balanced (whereClause descriptor) ∧ (q ∈ qualifiers (whereClause descriptor) ↔
      q ∈ qualifiers descriptor.predicate ∨ q = "bl") := by
  have hand : Separates " AND " := by decide
  have hblacklist : Balanced notBlacklisted ∧ qualifiers notBlacklisted = ["bl"] := by decide
  have hconditions : ∀ condition ∈ (if descriptor.predicate = "" then [] else
      [descriptor.predicate]) ++ [notBlacklisted], Balanced condition := by
    intro condition hmem
    rcases List.mem_append.mp hmem with hmem | hmem
    · split at hmem
      · cases hmem
      · exact List.mem_singleton.mp hmem ▸ balanced_predicate h
    · exact List.mem_singleton.mp hmem ▸ hblacklist.1
  obtain ⟨hbalanced, hnames⟩ := qualifiers_intercalate hand hconditions
  have hwhere : opens "WHERE " = true := by decide
  refine ⟨(balanced_of_opens hwhere).append hbalanced, ?_⟩
  unfold whereClause
  simp only
  rw [qualifiers_opens hwhere, hnames, List.flatMap_append, List.mem_append,
    List.flatMap_singleton, hblacklist.2, List.mem_singleton]
  refine or_congr_left ?_
  split
  · rename_i hempty
    rw [hempty]
    rfl
  · rw [List.flatMap_singleton]

theorem qualifiers_orderTerm {key : SortKey} (h : Balanced key.column) :
    Balanced (orderTerm key) ∧ qualifiers (orderTerm key) = qualifiers key.column := by
  have hmark : ∀ mark ∈ [" ASC", " DESC"], closes mark = true ∧ Balanced mark := by decide
  have hdirection : " " ++ Sorting.direction key.direction ∈ [" ASC", " DESC"] := by
    unfold Sorting.direction
    split <;> decide
  obtain ⟨hcloses, hbalanced⟩ := hmark _ hdirection
  rw [orderTerm, String.append_assoc]
  exact ⟨h.append hbalanced, qualifiers_closes h hcloses⟩

theorem mem_qualifiers_orderClause (h : descriptor.Sound) :
    Balanced (orderClause descriptor) ∧ (q ∈ qualifiers (orderClause descriptor) ↔
      ∃ key ∈ descriptor.sortKeys, q ∈ qualifiers key.column) := by
  have hcomma : Separates ", " := by decide
  have horder : opens "ORDER BY " = true := by decide
  have hterm : ∀ key ∈ descriptor.sortKeys,
      Balanced (orderTerm key) ∧ qualifiers (orderTerm key) = qualifiers key.column :=
    fun key hkey => qualifiers_orderTerm (h.sortKeys key hkey).balanced
  obtain ⟨hbalanced, hnames⟩ := qualifiers_intercalate hcomma
    (List.forall_mem_map.mpr fun key hkey => (hterm key hkey).1)
  unfold orderClause
  split
  · rename_i hempty
    rw [List.isEmpty_iff] at hempty
    rw [hempty]
    exact ⟨rfl, iff_of_false nofun nofun⟩
  · refine ⟨(balanced_of_opens horder).append hbalanced, ?_⟩
    rw [qualifiers_opens horder, hnames, List.flatMap_map, List.mem_flatMap]
    exact exists_congr fun key => and_congr_right fun hkey => by rw [(hterm key hkey).2]

theorem mem_qualifiers_select (h : descriptor.Sound) :
    Balanced ("SELECT " ++ ", ".intercalate (columns ++ descriptor.extraColumns)) ∧
      (q ∈ qualifiers ("SELECT " ++ ", ".intercalate (columns ++ descriptor.extraColumns)) ↔
        ∃ column ∈ columns ++ descriptor.extraColumns, q ∈ qualifiers column) := by
  have hcomma : Separates ", " := by decide
  have hselect : opens "SELECT " = true := by decide
  obtain ⟨hbalanced, hnames⟩ := qualifiers_intercalate hcomma fun column hmem =>
    (fragment_columns h column hmem).balanced
  refine ⟨(balanced_of_opens hselect).append hbalanced, ?_⟩
  rw [qualifiers_opens hselect, hnames, List.mem_flatMap]

theorem mem_qualifiers_searchQuery (h : descriptor.Sound) (dialect : String) :
    q ∈ qualifiers (searchQuery descriptor dialect) ↔
      (∃ column ∈ columns ++ descriptor.extraColumns, q ∈ qualifiers column) ∨
      q ∈ qualifiers (fromClause descriptor dialect) ∨
      (q ∈ qualifiers descriptor.predicate ∨ q = "bl") ∨
      ∃ key ∈ descriptor.sortKeys, q ∈ qualifiers key.column := by
  have hselect := @mem_qualifiers_select q descriptor h
  have hwhere := @mem_qualifiers_whereClause q descriptor h
  have horder := @mem_qualifiers_orderClause q descriptor h
  have hlimit : Balanced "LIMIT $2 OFFSET $3" ∧ qualifiers "LIMIT $2 OFFSET $3" = [] := by decide
  unfold searchQuery
  simp only
  rw [mem_qualifiers_lines, mem_qualifiers_filter]
  · simp only [List.mem_cons, List.not_mem_nil, or_false, exists_eq_or_imp, exists_eq_left,
      hselect.2, hwhere.2, horder.2, hlimit.2]
  · intro clause hmem
    obtain ⟨hmem, -⟩ := List.mem_filter.mp hmem
    simp only [List.mem_cons, List.not_mem_nil, or_false] at hmem
    rcases hmem with rfl | rfl | rfl | rfl | rfl
    · exact hselect.1
    · exact (fragment_fromClause h dialect).balanced
    · exact hwhere.1
    · exact horder.1
    · exact hlimit.1

theorem mem_qualifiers_countQuery (h : descriptor.Sound) (dialect : String) :
    q ∈ qualifiers (countQuery descriptor dialect) ↔
      q ∈ qualifiers (fromClause descriptor dialect) ∨
      q ∈ qualifiers descriptor.predicate ∨ q = "bl" := by
  have hwhere := @mem_qualifiers_whereClause q descriptor h
  have hselect : Balanced "SELECT COUNT(1)" ∧ qualifiers "SELECT COUNT(1)" = [] := by decide
  unfold countQuery
  rw [mem_qualifiers_lines]
  · simp only [List.mem_cons, List.not_mem_nil, or_false, exists_eq_or_imp, exists_eq_left,
      hwhere.2, hselect.2, false_or]
  · intro clause hmem
    simp only [List.mem_cons, List.not_mem_nil, or_false] at hmem
    rcases hmem with rfl | rfl | rfl
    · exact hselect.1
    · exact (fragment_fromClause h dialect).balanced
    · exact hwhere.1

theorem mem_qualifiers_statement (h : descriptor.Sound) (hq : q ∈ qualifiers descriptor.predicate)
    (dialect : String) :
    ∀ statement ∈ [searchQuery descriptor dialect, countQuery descriptor dialect],
      q ∈ qualifiers statement := by
  intro statement hstatement
  simp only [List.mem_cons, List.not_mem_nil, or_false] at hstatement
  rcases hstatement with rfl | rfl
  · exact (mem_qualifiers_searchQuery h dialect).mpr (.inr (.inr (.inl (.inl hq))))
  · exact (mem_qualifiers_countQuery h dialect).mpr (.inr (.inl hq))

/-! ## Compiled filters -/

variable {compiler : Compiler} {search : Option Search} {sort : Sorting.Request}
  {session : Session} {reference : Moment}

theorem mem_of_mem_predicate (hdialect : compiler.dialect.Unquoted)
    (h : compiler.compile search sort session reference = .ok descriptor)
    (hq : q ∈ qualifiers descriptor.predicate) :
    q ∈ ["s", "l", "wl", compiler.dialect.searchedTable] ++
        descriptor.extraJoins.map Join.tableAlias ∨
      ∃ record ∈ understood descriptor.records, q ∈ strayTables record := by
  cases search with
  | none =>
    obtain rfl := Except.ok.inj h
    cases hq
  | some search =>
    obtain ⟨conditions, selection, negations, categories, hconditions, hcategories, hselection,
      rfl⟩ := Compiler.parts_of_compile h
    have hspots := Category.composes_spots
    obtain ⟨p, hp, hrefers⟩ := (mem_qualifiers_joinGroups
      (Compiler.clean_groups hdialect hconditions hcategories hselection)).mp hq
    simp only [Compiler.groups, List.mem_cons, List.not_mem_nil, or_false] at hp
    rcases hp with rfl | rfl | rfl | rfl
    · have hall := hspots.ofSelection (Compiler.writable_of_categories hcategories) hselection
      rw [hspots.any _ hall q hrefers]
      simp
    · cases hrefers with
      | all hp hrefers =>
        exact mem_of_refers_conditions hdialect hconditions (List.mem_append_left _ hp) hrefers
    · cases hrefers with
      | any hp hrefers =>
        exact mem_of_refers_conditions hdialect hconditions (List.mem_append_right _ hp) hrefers
    · rw [hspots.all _ (hspots.ofNegations negations) q hrefers]
      simp

theorem mem_predicate_of_mem_strayTables (hdialect : compiler.dialect.Unquoted)
    (h : compiler.compile search sort session reference = .ok descriptor) {record : FilterRecord}
    (hrecord : record ∈ understood descriptor.records) (hq : q ∈ strayTables record) :
    q ∈ qualifiers descriptor.predicate := by
  cases search with
  | none =>
    obtain rfl := Except.ok.inj h
    cases hrecord
  | some search =>
    obtain ⟨conditions, selection, negations, categories, hconditions, hcategories, hselection,
      rfl⟩ := Compiler.parts_of_compile h
    refine (mem_qualifiers_joinGroups
      (Compiler.clean_groups hdialect hconditions hcategories hselection)).mpr ?_
    obtain ⟨p, hp, hrefers⟩ := exists_refers_conditions hconditions hrecord hq
    rcases List.mem_append.mp hp with hp | hp
    · exact ⟨.all conditions.andGroup, by simp [Compiler.groups], .all hp hrefers⟩
    · exact ⟨.any conditions.orGroup, by simp [Compiler.groups], .any hp hrefers⟩

theorem not_named_of_mem_strayTables {record : FilterRecord} (hq : q ∈ strayTables record)
    (dialect : String) (records : List FilterRecord) :
    q ∉ fixedNames dialect ++ (records.flatMap joinsOf).map Join.tableAlias := by
  obtain ⟨hnumeric, -, hq⟩ := mem_strayTables.mp hq
  -- All tables have one of two letters in their names that no number has.
  have hletter : 's' ∉ q.toList ∧ 'l' ∉ q.toList :=
    ⟨not_mem_of_mem_qualifiers hnumeric hq (by decide) (by decide) (by decide),
      not_mem_of_mem_qualifiers hnumeric hq (by decide) (by decide) (by decide)⟩
  have hnames : ∀ name ∈ ["s", "l", "wl", "bl", "idx_fts_spots", "spost"],
      's' ∈ name.toList ∨ 'l' ∈ name.toList := by decide
  have hfixed : fixedNames dialect ++ (records.flatMap joinsOf).map Join.tableAlias ⊆
      ["s", "l", "wl", "bl", "idx_fts_spots", "spost"] := by
    rw [names_joins, fixedNames]
    refine List.append_subset.mpr ⟨?_, fun name hname => ?_⟩
    · split <;> decide
    · rw [List.eq_of_mem_replicate hname]
      decide
  intro hmem
  rcases hnames q (hfixed hmem) with h | h
  · exact hletter.1 h
  · exact hletter.2 h

theorem strayTables_eq_nil {record : FilterRecord} (h : ∀ c ∈ record.value.toList, c.toNat ≤ 127) :
    strayTables record = [] := by
  refine List.eq_nil_iff_forall_not_mem.mpr fun q hq => ?_
  obtain ⟨hnumeric, -, hq⟩ := mem_strayTables.mp hq
  rw [qualifiers_eq_nil_of_isNumeric hnumeric h] at hq
  cases hq

/-! ## Sort keys -/

/-- The key is a column of a table that is named, or one that is listed. -/
structure Placed (descriptor : Descriptor) (key : SortKey) : Prop where
  tables : ∀ q ∈ qualifiers key.column, q ∈ "s" :: descriptor.extraJoins.map Join.tableAlias
  listed : qualifiers key.column = [] →
    key.column ∈ (columns ++ descriptor.extraColumns).map columnName

theorem placed_listSortKeys (list : SpotList) : ∀ key ∈ listSortKeys list,
    (∀ q ∈ qualifiers key.column, q ∈ (listJoins list).map Join.tableAlias) ∧
      (qualifiers key.column = [] → key.column ∈ columns.map columnName) := by
  cases list <;> decide

theorem placed_searchKeys (dialect : Dialect) (search : TextField × List String) :
    ∀ key ∈ (fieldQuery dialect search).sortKeys, qualifiers key.column = [] ∧
      key.column ∈ (fieldQuery dialect search).extraColumns.map columnName := by
  obtain ⟨field, values⟩ := search
  cases values with
  | nil => cases dialect <;> exact nofun
  | cons value values =>
    cases dialect with
    | sqlite => exact nofun
    | postgres config =>
      intro key hkey
      obtain rfl := List.mem_singleton.mp hkey
      have hnone : qualifiers (relevanceName field) = [] := by cases field <;> decide
      refine ⟨hnone, List.mem_singleton.mpr ?_⟩
      exact (columnName_relevance _ field).symm

theorem placed_of_compile (h : compiler.compile search sort session reference = .ok descriptor) :
    ∀ key ∈ descriptor.sortKeys, Placed descriptor key := by
  intro key hkey
  cases search with
  | none =>
    obtain rfl := Except.ok.inj h
    obtain rfl := List.mem_singleton.mp hkey
    have hstamp : qualifiers "stamp" = [] ∧ "stamp" ∈ columns.map columnName := by decide
    exact ⟨fun q hq => absurd (hstamp.1 ▸ hq : q ∈ []) nofun,
      fun _ => List.map_subset _ (List.subset_append_left _ _) hstamp.2⟩
  | some search =>
    obtain ⟨conditions, selection, negations, categories, hconditions, -, -, rfl⟩ :=
      Compiler.parts_of_compile h
    obtain ⟨⟨state, abortedAt⟩, hrun, hfinish⟩ := bind_eq_ok hconditions
    obtain rfl := Except.ok.inj hfinish
    have hjoins : state.joins = (understood search.records).flatMap joinsOf := collect_joins hrun
    have hkeys : state.sortKeys = (understood search.records).flatMap sortKeysOf :=
      collect_sortKeys hrun
    rcases mem_sortingKeys hkey with hkey | hcolumn
    · rcases List.mem_append.mp hkey with hkey | hkey
      · rw [hkeys] at hkey
        obtain ⟨record, hrecord, hkey⟩ := List.mem_flatMap.mp hkey
        obtain ⟨list, hkey, hown⟩ := mem_sortKeysOf hkey
        obtain ⟨htables, hlisted⟩ := placed_listSortKeys list key hkey
        have hsub : listJoins list ⊆ state.joins := by
          rw [hjoins, ← hown]
          exact fun join hjoin => List.mem_flatMap.mpr ⟨record, hrecord, hjoin⟩
        exact ⟨fun q hq => List.mem_cons_of_mem _ (List.map_subset _ hsub (htables q hq)),
          fun hnone => List.map_subset _ (List.subset_append_left _ _) (hlisted hnone)⟩
      · obtain ⟨query, hquery, hkey⟩ := List.mem_flatMap.mp hkey
        obtain ⟨search, hsearch, rfl⟩ := List.mem_map.mp hquery
        obtain ⟨hnone, hlisted⟩ := placed_searchKeys _ search key hkey
        have hsub : (fieldQuery compiler.dialect search).extraColumns ⊆
            (state.searches.map (fieldQuery compiler.dialect)).flatMap (·.extraColumns) :=
          fun column hcolumn => List.mem_flatMap.mpr ⟨_, hquery, hcolumn⟩
        exact ⟨fun q hq => absurd (hnone ▸ hq : q ∈ []) nofun, fun _ =>
          List.map_subset _ (fun column hcolumn => List.mem_append_right _ (hsub hcolumn)) hlisted⟩
    · have hspots : ∀ column ∈ Sorting.fields.map ("s." ++ ·), qualifiers column = ["s"] := by decide
      have hkey := hspots _ hcolumn
      refine ⟨fun q hq => ?_, fun hnone => ?_⟩
      · rw [hkey] at hq
        exact List.mem_singleton.mp hq ▸ List.mem_cons_self
      · exact absurd (hkey.symm.trans hnone) nofun

theorem extraColumns_of_compile (hdialect : compiler.dialect.Unquoted)
    (h : compiler.compile search sort session reference = .ok descriptor) :
    ∀ column ∈ descriptor.extraColumns, ∀ q ∈ qualifiers column, q = "s" := by
  obtain ⟨state, abortedAt, -, -, -, hcolumns⟩ := collected_of_compile h
  intro column hcolumn
  rw [hcolumns] at hcolumn
  obtain ⟨query, hquery, hcolumn⟩ := List.mem_flatMap.mp hcolumn
  obtain ⟨search, -, rfl⟩ := List.mem_map.mp hquery
  exact qualifiers_searchColumns hdialect column hcolumn

/-! ## Scopes of statements -/

/-- The names of the tables that a filter reads. -/
def namesOf (descriptor : Descriptor) (dialect : String) : List String :=
  fixedNames dialect ++ descriptor.extraJoins.map Join.tableAlias

theorem exists_tables_of_compile
    (h : compiler.compile search sort session reference = .ok descriptor) (dialect : String) :
    ∃ pieces, lex (fromClause descriptor dialect) = some pieces ∧ resolves [] pieces = true ∧
      tableNames pieces = namesOf descriptor dialect := by
  obtain ⟨htables, hadded⟩ := extraJoins_of_compile h
  have hjoins : ∀ join ∈ descriptor.extraJoins,
      BringsIn join.tableAlias join.sql ∧ JoinsToSpots join.sql := by
    intro join hjoin
    rw [hadded] at hjoin
    obtain ⟨record, -, hjoin⟩ := List.mem_flatMap.mp hjoin
    obtain ⟨list, hlist⟩ := mem_joinsOf hjoin
    exact ⟨bringsIn_joins.2.2 list join hlist, joinsToSpots_joins.2.2 list join hlist⟩
  obtain ⟨pieces, hlex, hnames⟩ := tableNames_fromClause htables (fun join hjoin =>
    (hjoins join hjoin).1) dialect
  obtain ⟨pieces', hlex', hresolves⟩ := resolves_fromClause htables (fun join hjoin =>
    (hjoins join hjoin).2) dialect
  obtain rfl := Option.some.inj (hlex.symm.trans hlex')
  exact ⟨pieces, hlex, hresolves, hnames⟩

theorem subset_fixedNames (dialect : Dialect) :
    ["s", "l", "wl", "bl", dialect.searchedTable] ⊆ fixedNames dialect.name := by
  cases dialect with
  | postgres config => exact show ["s", "l", "wl", "bl", "s"] ⊆ fixedNames "postgres" by decide
  | sqlite => decide

theorem subset_namesOf (descriptor : Descriptor) (dialect : String) :
    ["s", "l", "wl", "bl"] ++ descriptor.extraJoins.map Join.tableAlias ⊆
      namesOf descriptor dialect := by
  rw [namesOf, fixedNames, List.append_assoc]
  exact List.append_subset.mpr ⟨List.subset_append_left _ _, fun name hname =>
    List.mem_append_right _ (List.mem_append_right _ hname)⟩

theorem added_inScope (hdialect : compiler.dialect.Unquoted)
    (h : compiler.compile search sort session reference = .ok descriptor) (dialect : String) :
    ∀ text ∈ descriptor.extraColumns ++ descriptor.sortKeys.map (·.column),
      ∀ q ∈ qualifiers text, q ∈ namesOf descriptor dialect := by
  intro text htext q hq
  refine subset_namesOf descriptor dialect ?_
  rcases List.mem_append.mp htext with hcolumn | hkey
  · rw [extraColumns_of_compile hdialect h text hcolumn q hq]
    simp
  · obtain ⟨key, hmem, rfl⟩ := List.mem_map.mp hkey
    rcases List.mem_cons.mp ((placed_of_compile h key hmem).tables q hq) with rfl | hjoined
    · simp
    · exact List.mem_append_right _ hjoined

theorem inScope_iff_predicate (hdialect : compiler.dialect.Unquoted)
    (h : compiler.compile search sort session reference = .ok descriptor) (dialect : String) :
    ∀ statement ∈ [searchQuery descriptor dialect, countQuery descriptor dialect],
      (∀ q ∈ qualifiers statement, q ∈ namesOf descriptor dialect) ↔
        ∀ q ∈ qualifiers descriptor.predicate, q ∈ namesOf descriptor dialect := by
  have hsound := Compiler.sound_of_compile hdialect h
  have hadded := added_inScope hdialect h dialect
  obtain ⟨pieces, hlex, hresolves, hnames⟩ := exists_tables_of_compile h dialect
  have hfrom : ∀ q ∈ qualifiers (fromClause descriptor dialect), q ∈ namesOf descriptor dialect := by
    intro q hq
    rw [qualifiers_of_lex hlex] at hq
    exact hnames ▸ mem_of_resolves hresolves hq
  have hblacklist : "bl" ∈ namesOf descriptor dialect := subset_namesOf descriptor dialect (by simp)
  have hcolumns : ∀ column ∈ columns ++ descriptor.extraColumns, ∀ q ∈ qualifiers column,
      q ∈ namesOf descriptor dialect := by
    intro column hcolumn q hq
    rcases List.mem_append.mp hcolumn with hcolumn | hcolumn
    · have hfixed : ∀ column ∈ columns, ∀ q ∈ qualifiers column, q ∈ ["s", "l"] := by decide
      have hsub : ["s", "l"] ⊆ ["s", "l", "wl", "bl"] := by decide
      exact subset_namesOf descriptor dialect
        (List.mem_append_left _ (hsub (hfixed column hcolumn q hq)))
    · exact hadded column (List.mem_append_left _ hcolumn) q hq
  have hkeys : ∀ key ∈ descriptor.sortKeys, ∀ q ∈ qualifiers key.column,
      q ∈ namesOf descriptor dialect := fun key hkey =>
    hadded key.column (List.mem_append_right _ (List.mem_map_of_mem hkey))
  intro statement hstatement
  constructor
  · exact fun hall q hq => hall q (mem_qualifiers_statement hsound hq dialect statement hstatement)
  · intro hpredicate q hq
    simp only [List.mem_cons, List.not_mem_nil, or_false] at hstatement
    rcases hstatement with rfl | rfl
    · rcases (mem_qualifiers_searchQuery hsound dialect).mp hq with
        ⟨column, hcolumn, hq⟩ | hq | (hq | rfl) | ⟨key, hkey, hq⟩
      · exact hcolumns column hcolumn q hq
      · exact hfrom q hq
      · exact hpredicate q hq
      · exact hblacklist
      · exact hkeys key hkey q hq
    · rcases (mem_qualifiers_countQuery hsound dialect).mp hq with hq | hq | rfl
      · exact hfrom q hq
      · exact hpredicate q hq
      · exact hblacklist

/-- The condition is in scope when no number is read as columns of tables. -/
theorem predicate_inScope_iff (hdialect : compiler.dialect.Unquoted)
    (h : compiler.compile search sort session reference = .ok descriptor) :
    (∀ q ∈ qualifiers descriptor.predicate, q ∈ namesOf descriptor compiler.dialect.name) ↔
      ∀ record ∈ understood descriptor.records, strayTables record = [] := by
  constructor
  · intro hall record hrecord
    refine List.eq_nil_iff_forall_not_mem.mpr fun q hq => ?_
    have hnamed := hall q (mem_predicate_of_mem_strayTables hdialect h hrecord hq)
    rw [namesOf, (extraJoins_of_compile h).2] at hnamed
    exact not_named_of_mem_strayTables hq _ _ hnamed
  · intro hnone q hq
    rcases mem_of_mem_predicate hdialect h hq with hmem | ⟨record, hrecord, hstray⟩
    · have hfixed : ["s", "l", "wl", compiler.dialect.searchedTable] ⊆
          fixedNames compiler.dialect.name := by
        have hsub := subset_fixedNames compiler.dialect
        simp only [List.cons_subset, List.nil_subset, and_true] at hsub ⊢
        exact ⟨hsub.1, hsub.2.1, hsub.2.2.1, hsub.2.2.2.2⟩
      exact List.mem_append.mpr ((List.mem_append.mp hmem).imp_left (hfixed ·))
    · rw [hnone record hrecord] at hstray
      cases hstray

/-- A compiled filter refers to what its tables are named and its columns are listed as, but for the
tables that are read in numbers. -/
theorem inScope_of_compile (hdialect : compiler.dialect.Unquoted)
    (h : compiler.compile search sort session reference = .ok descriptor) :
    ∃ pieces, lex (fromClause descriptor compiler.dialect.name) = some pieces ∧
      resolves [] pieces = true ∧
      (∀ text ∈ descriptor.extraColumns ++ descriptor.sortKeys.map (·.column),
        ∀ q ∈ qualifiers text, q ∈ tableNames pieces) ∧
      (∀ key ∈ descriptor.sortKeys, qualifiers key.column = [] →
        key.column ∈ (columns ++ descriptor.extraColumns).map columnName) ∧
      ∀ statement ∈ [searchQuery descriptor compiler.dialect.name,
          countQuery descriptor compiler.dialect.name],
        (∀ q ∈ qualifiers statement, q ∈ tableNames pieces) ↔
          ∀ record ∈ understood descriptor.records, strayTables record = [] := by
  obtain ⟨pieces, hlex, hresolves, hnames⟩ := exists_tables_of_compile h compiler.dialect.name
  refine ⟨pieces, hlex, hresolves, ?_, fun key hkey => (placed_of_compile h key hkey).listed, ?_⟩
  · rw [hnames]
    exact added_inScope hdialect h _
  · intro statement hstatement
    rw [hnames, inScope_iff_predicate hdialect h _ statement hstatement]
    exact predicate_inScope_iff hdialect h

/-- Posted spots with a word in the title and a number of comments. -/
theorem inScope_posted_titles :
    let compiler : Compiler := ⟨.default, .postgres "simple", none, .standard 2000⟩
    let search : Search := ⟨some "cat0_z1,~cat1",
      [.str "titel:ubuntu", .str "mypostedspots:0", .str "commentcount:>:2.5"], none, false⟩
    compiler.dialect.Unquoted ∧
    ∃ descriptor, compiler.compile (some search) .none ⟨1, 0⟩ ⟨0, 0, 0⟩ = .ok descriptor ∧
      ∃ pieces, lex (fromClause descriptor compiler.dialect.name) = some pieces ∧
        resolves [] pieces = true ∧
        (∀ text ∈ descriptor.extraColumns ++ descriptor.sortKeys.map (·.column),
          ∀ q ∈ qualifiers text, q ∈ tableNames pieces) ∧
        (∀ key ∈ descriptor.sortKeys, qualifiers key.column = [] →
          key.column ∈ (columns ++ descriptor.extraColumns).map columnName) ∧
        ∀ statement ∈ [searchQuery descriptor compiler.dialect.name,
            countQuery descriptor compiler.dialect.name],
          ∀ q ∈ qualifiers statement, q ∈ tableNames pieces := by
  intro compiler search
  have hdialect : compiler.dialect.Unquoted := by
    intro config hconfig
    obtain rfl : "simple" = config := by simpa [compiler] using hconfig
    decide
  have hok : (compiler.compile (some search) .none ⟨1, 0⟩ ⟨0, 0, 0⟩).isOk = true := by decide
  obtain ⟨descriptor, hcompile⟩ := exists_of_isOk hok
  obtain ⟨pieces, hlex, hresolves, hadded, hlisted, hstatements⟩ :=
    inScope_of_compile hdialect hcompile
  refine ⟨hdialect, descriptor, hcompile, pieces, hlex, hresolves, hadded, hlisted, ?_⟩
  have hnone : ∀ record ∈ understood descriptor.records, strayTables record = [] := by
    have hascii : ∀ record ∈ understood search.records,
        record.value.toList.all (·.toNat ≤ 127) = true := by decide
    rw [records_of_compile hcompile]
    intro record hrecord
    refine strayTables_eq_nil fun c hc => ?_
    exact of_decide_eq_true (List.all_eq_true.mp (hascii record hrecord) c hc)
  exact fun statement hstatement => (hstatements statement hstatement).mpr hnone

/-- A number in Arabic digits stands bare in the condition of both statements. SQL reads it as column
`٥` of table `٣`, and there is no such table. -/
theorem not_inScope_arabic_digits :
    let search : Search := ⟨none, [.str "commentcount:>:٣.٥"], none, false⟩
    ∀ dialect ∈ [Dialect.postgres "simple", .sqlite],
      let compiler : Compiler := ⟨.default, dialect, none, .standard 2000⟩
      ∃ descriptor, compiler.compile (some search) .none ⟨1, 0⟩ ⟨0, 0, 0⟩ = .ok descriptor ∧
        ∃ pieces, lex (fromClause descriptor dialect.name) = some pieces ∧
          ∀ statement ∈ [searchQuery descriptor dialect.name, countQuery descriptor dialect.name],
            "٣" ∈ qualifiers statement ∧ "٣" ∉ tableNames pieces := by
  intro search dialect hdialect compiler
  have hunquoted : compiler.dialect.Unquoted := by
    simp only [List.mem_cons, List.not_mem_nil, or_false] at hdialect
    rcases hdialect with rfl | rfl
    · intro config hconfig
      obtain rfl := Dialect.postgres.inj hconfig
      decide
    · exact nofun
  have hok : (compiler.compile (some search) .none ⟨1, 0⟩ ⟨0, 0, 0⟩).isOk = true := by
    simp only [List.mem_cons, List.not_mem_nil, or_false] at hdialect
    rcases hdialect with rfl | rfl <;> decide
  obtain ⟨descriptor, hcompile⟩ := exists_of_isOk hok
  have hrecord : ⟨"commentcount", ">", "٣.٥"⟩ ∈ understood descriptor.records := by
    rw [records_of_compile hcompile]
    decide
  have hstray : "٣" ∈ strayTables ⟨"commentcount", ">", "٣.٥"⟩ := by decide
  obtain ⟨pieces, hlex, -, hnames⟩ := exists_tables_of_compile hcompile dialect.name
  refine ⟨descriptor, hcompile, pieces, hlex, fun statement hstatement => ⟨?_, ?_⟩⟩
  · have hpredicate := mem_predicate_of_mem_strayTables hunquoted hcompile hrecord hstray
    exact mem_qualifiers_statement (Compiler.sound_of_compile hunquoted hcompile) hpredicate _
      statement hstatement
  · rw [hnames, namesOf, (extraJoins_of_compile hcompile).2]
    exact not_named_of_mem_strayTables hstray _ _

end Listing

end Sift
