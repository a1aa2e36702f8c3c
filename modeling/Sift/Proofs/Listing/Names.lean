import Mathlib.Data.List.Forall2
import Mathlib.Data.List.Nodup
import Sift.Boundary.Almanac
import Sift.Proofs.Filter.Understood
import Sift.Proofs.Listing.Statement

/-!
# Names in statements of filters

The tables of a statement go by names, and so do the columns that it lists. The tables of every
listing have names of their own; what a filter adds is read record by record. Searches of a text field
are gathered, so no relevance column is listed twice. Records that ask for the spots a user posted are
not gathered: each of them joins the same table under the same name. So the columns never share a
name, and the tables do exactly when two of the records ask for posted spots (`names_of_compile`).
-/

namespace Sift.Listing

open Sql Conditions

/-! ## Names of tables -/

/-- A table stands behind the piece. -/
def opensTable (piece : String) : Bool := ["FROM", "JOIN", ","].contains piece

/-- The name of the table that stands first: what it is renamed to, or else itself. -/
def tableName? : List String → Option String
  | table :: word :: name :: _ => some (if word = "AS" then name else table)
  | table :: _ => some table
  | [] => none

/-- The names that the tables in the pieces of a clause go by. -/
def tableNames : List String → List String
  | [] => []
  | piece :: rest =>
    if opensTable piece then (tableName? rest).toList ++ tableNames rest else tableNames rest

/-- No table is named by what follows the pieces. -/
def Complete : List String → Bool
  | [] => true
  | piece :: rest => (!opensTable piece || 3 ≤ rest.length) && Complete rest

theorem tableName?_append {pieces : List String} (h : 3 ≤ pieces.length) (rest : List String) :
    tableName? (pieces ++ rest) = tableName? pieces := by
  match pieces, h with
  | _ :: _ :: _ :: _, _ => rfl

theorem tableNames_append {pieces : List String} (h : Complete pieces = true) (rest : List String) :
    tableNames (pieces ++ rest) = tableNames pieces ++ tableNames rest := by
  induction pieces with
  | nil => rfl
  | cons piece pieces ih =>
    rw [Complete, Bool.and_eq_true, Bool.or_eq_true, Bool.not_eq_true', decide_eq_true_eq] at h
    obtain ⟨hpiece, hrest⟩ := h
    rw [List.cons_append, tableNames, tableNames, ih hrest]
    split
    · rename_i hopens
      have hlength : 3 ≤ pieces.length := by
        rcases hpiece with hnot | hlength
        · rw [hnot] at hopens
          cases hopens
        · exact hlength
      rw [tableName?_append hlength, List.append_assoc]
    · rfl

/-- The text brings in one table, under a name. -/
def BringsIn (name text : String) : Prop :=
  ∃ pieces, lex text = some pieces ∧ Complete pieces = true ∧ tableNames pieces = [name]

theorem bringsIn_of_lex {name text : String}
    (h : (lex text).any (fun pieces => Complete pieces && tableNames pieces == [name]) = true) :
    BringsIn name text := by
  rw [Option.any_eq_true] at h
  obtain ⟨pieces, hpieces, h⟩ := h
  rw [Bool.and_eq_true, beq_iff_eq] at h
  exact ⟨pieces, hpieces, h⟩

theorem bringsIn_of_chars {name : String} {cs : List Char}
    (h : (lexChars cs).any (fun pieces => Complete pieces && tableNames pieces == [name]) = true) :
    BringsIn name (String.ofList cs) :=
  bringsIn_of_lex (any_lex_of_chars h)

theorem bringsIn_of_append {name : String} {cs ds : List Char}
    (h : (lexChars (cs ++ ds)).any (fun pieces => Complete pieces && tableNames pieces == [name]) =
      true) : BringsIn name (String.ofList cs ++ String.ofList ds) :=
  bringsIn_of_lex (any_lex_of_append h)

theorem tableNames_lines {names texts : List String} (h : List.Forall₂ BringsIn names texts) :
    ∃ pieces, lex ("\n".intercalate texts) = some pieces ∧ tableNames pieces = names := by
  induction h with
  | nil => exact ⟨[], rfl, rfl⟩
  | cons hfirst hrest ih =>
    obtain ⟨first, hlex, hcomplete, hname⟩ := hfirst
    obtain ⟨rest, hlex', hnames⟩ := ih
    refine ⟨first ++ rest, lex_lines_cons hlex hlex', ?_⟩
    rw [tableNames_append hcomplete, hname, hnames]
    rfl

theorem bringsIn_joins : List.Forall₂ BringsIn ["l", "wl", "bl"] baseJoins ∧
    BringsIn "idx_fts_spots" textJoin ∧
    ∀ list, ∀ join ∈ listJoins list, BringsIn join.tableAlias join.sql := by
  refine ⟨.cons ?_ (.cons ?_ (.cons ?_ .nil)), ?_, fun list join h => ?_⟩
  · exact bringsIn_of_chars (by decide)
  · exact bringsIn_of_append (by decide +kernel)
  · exact bringsIn_of_append (by decide +kernel)
  · unfold textJoin
    exact bringsIn_of_chars (by decide)
  · cases list with
    | myPosted =>
      obtain rfl := List.mem_singleton.mp h
      exact bringsIn_of_lex (by decide)
    | _ => cases h

theorem bringsIn_joinsOf {record : FilterRecord} :
    ∀ join ∈ joinsOf record, BringsIn join.tableAlias join.sql := by
  intro join h
  obtain ⟨list, h⟩ := mem_joinsOf h
  exact bringsIn_joins.2.2 list join h

/-! ## The clause of the tables -/

/-- The names of the tables that every statement in a dialect reads. -/
def fixedNames (dialect : String) : List String :=
  ["s", "l", "wl", "bl"] ++ if dialect = "sqlite" then ["idx_fts_spots"] else []

theorem tableNames_fromClause {descriptor : Descriptor} (htables : descriptor.extraTables = [])
    (hjoins : ∀ join ∈ descriptor.extraJoins, BringsIn join.tableAlias join.sql) (dialect : String) :
    ∃ pieces, lex (fromClause descriptor dialect) = some pieces ∧
      tableNames pieces = fixedNames dialect ++ descriptor.extraJoins.map Join.tableAlias := by
  have htext : List.Forall₂ BringsIn (if dialect = "sqlite" then ["idx_fts_spots"] else [])
      (if dialect = "sqlite" then [textJoin] else []) := by
    split
    · exact .cons bringsIn_joins.2.1 .nil
    · exact .nil
  have hextra : List.Forall₂ BringsIn (descriptor.extraJoins.map Join.tableAlias)
      (descriptor.extraJoins.map Join.sql) :=
    List.forall₂_map_left_iff.mpr (List.forall₂_map_right_iff.mpr (List.forall₂_same.mpr hjoins))
  have hall := List.rel_append (List.rel_append bringsIn_joins.1 htext) hextra
  obtain ⟨pieces, hlex, hnames⟩ := tableNames_lines hall
  have hspots : lex "FROM spots AS s" = some ["FROM", "spots", "AS", "s"] := by decide
  have hword : "FROM spots AS s\n" = "FROM spots AS s" ++ String.singleton '\n' := by decide
  have hcomplete : Complete ["FROM", "spots", "AS", "s"] = true := by decide
  have hname : tableNames ["FROM", "spots", "AS", "s"] = ["s"] := by decide
  refine ⟨["FROM", "spots", "AS", "s"] ++ pieces, ?_, ?_⟩
  · unfold fromClause
    rw [htables, List.map_nil, String.join_nil, String.append_empty, hword]
    exact lex_append (.inr rfl) hspots hlex
  · rw [tableNames_append hcomplete, hname, hnames, fixedNames]
    rfl

/-! ## Names of columns -/

/-- The name that a listed column goes by: what stands behind its last blank, without its table. -/
def columnName (item : String) : String :=
  Dialect.bareColumn (String.ofList ((Text.fields ' ' item.toList).getLastD []))

/-- The column that holds how well a text field was found. -/
def relevanceName (field : TextField) : String :=
  "searchrelevancy_" ++ Dialect.bareColumn field.column

theorem columnName_renamed {name : String} (hblank : ' ' ∉ name.toList) (hdot : '.' ∉ name.toList)
    (text : String) : columnName (text ++ " " ++ name) = name := by
  have hfields : Text.fields ' ' (text ++ " " ++ name).toList =
      Text.fields ' ' text.toList ++ [name.toList] := by
    rw [String.append_assoc, String.toList_append, String.toList_append]
    show Text.fields ' ' (text.toList ++ ' ' :: name.toList) = _
    rw [Text.fields_append, Text.fields_of_not_mem ' ' _ hblank]
  rw [columnName, hfields, List.getLastD_concat, Dialect.bareColumn, String.toList_ofList,
    Text.fields_of_not_mem '.' _ hdot]
  exact String.ofList_toList

theorem columnName_relevance (text : String) (field : TextField) :
    columnName (text ++ ") AS " ++ relevanceName field) = relevanceName field := by
  have hname : ' ' ∉ (relevanceName field).toList ∧ '.' ∉ (relevanceName field).toList := by
    cases field <;> decide
  have hword : ") AS " = ") AS" ++ " " := by decide
  rw [hword, ← String.append_assoc]
  exact columnName_renamed hname.1 hname.2 _

theorem names_extraColumns (dialect : Dialect) (search : TextField × List String) :
    ((fieldQuery dialect search).extraColumns.map columnName).Sublist [relevanceName search.1] := by
  obtain ⟨field, values⟩ := search
  cases values with
  | nil => cases dialect <;> exact List.nil_sublist _
  | cons value values =>
    cases dialect with
    | sqlite => exact List.nil_sublist _
    | postgres config =>
      show [columnName (_ ++ ") AS " ++ relevanceName field)].Sublist _
      rw [columnName_relevance]

theorem names_searchColumns (dialect : Dialect) (searches : List (TextField × List String)) :
    (((searches.map (fieldQuery dialect)).flatMap (·.extraColumns)).map columnName).Sublist
      (searches.map fun search => relevanceName search.1) := by
  induction searches with
  | nil => exact List.Sublist.refl _
  | cons search searches ih =>
    rw [List.map_cons, List.flatMap_cons, List.map_append, List.map_cons]
    exact (names_extraColumns dialect search).append ih

theorem nodup_allNames :
    (columns.map columnName ++ [.poster, .title, .tag].map relevanceName).Nodup := by decide

theorem relevanceName_injective : Function.Injective relevanceName := by
  intro f g h
  have hnodup : ([.poster, .title, .tag].map relevanceName).Nodup :=
    (List.nodup_append.mp nodup_allNames).2.1
  have hall (field : TextField) : field ∈ [TextField.poster, .title, .tag] := by
    cases field <;> decide
  exact List.inj_on_of_nodup_map hnodup (hall f) (hall g) h

theorem relevanceName_not_mem (field : TextField) :
    relevanceName field ∉ columns.map columnName := by
  intro hmem
  have hlisted : relevanceName field ∈ [.poster, .title, .tag].map relevanceName := by
    cases field <;> simp
  exact (List.nodup_append.mp nodup_allNames).2.2 _ hmem _ hlisted rfl

/-- Fields that are searched once each give columns that differ from each other and from those of
every listing. -/
theorem nodup_columnNames {searches : List (TextField × List String)}
    (h : (searches.map Prod.fst).Nodup) (dialect : Dialect) :
    ((columns ++ (searches.map (fieldQuery dialect)).flatMap (·.extraColumns)).map
      columnName).Nodup := by
  have hfixed : (columns.map columnName).Nodup := (List.nodup_append.mp nodup_allNames).1
  have hsub := names_searchColumns dialect searches
  have hrelevance : (searches.map fun search => relevanceName search.1).Nodup := by
    have hmap := h.map relevanceName_injective
    rwa [List.map_map] at hmap
  rw [List.map_append, List.nodup_append]
  refine ⟨hfixed, hrelevance.sublist hsub, ?_⟩
  rintro name hname _ hname' rfl
  obtain ⟨search, -, rfl⟩ := List.mem_map.mp (hsub.subset hname')
  exact relevanceName_not_mem search.1 hname

/-! ## Records that ask for posted spots -/

/-- The record asks for the spots that the user posted. -/
def asksForPosted (record : FilterRecord) : Bool :=
  record.value != "" && fieldOf? record == some (.list .myPosted)

theorem names_joinsOf (record : FilterRecord) :
    (joinsOf record).map Join.tableAlias = if asksForPosted record then ["spost"] else [] := by
  rw [joinsOf, asksForPosted]
  by_cases hempty : record.value = ""
  · simp [hempty]
  · cases hfield : fieldOf? record with
    | none => simp [hempty]
    | some field =>
      cases field with
      | list list => cases list <;> simp [hempty, listJoins]
      | plain field => simp [hempty]
      | text field => simp [hempty]

theorem names_joins (records : List FilterRecord) :
    (records.flatMap joinsOf).map Join.tableAlias =
      List.replicate (records.countP asksForPosted) "spost" := by
  induction records with
  | nil => rfl
  | cons record records ih =>
    rw [List.flatMap_cons, List.map_append, ih, names_joinsOf, List.countP_cons]
    split
    · rw [List.replicate_succ, List.singleton_append]
    · rfl

/-! ## Compiled filters -/

section

variable {compiler : Compiler} {search : Option Search} {sort : Sorting.Request}
  {session : Session} {reference : Moment} {descriptor : Descriptor}

theorem records_of_compile {search : Search}
    (h : compiler.compile (some search) sort session reference = .ok descriptor) :
    descriptor.records = search.records := by
  obtain ⟨conditions, selection, negations, categories, -, -, -, rfl⟩ :=
    Compiler.parts_of_compile h
  rfl

theorem collected_of_compile
    (h : compiler.compile search sort session reference = .ok descriptor) :
    ∃ state abortedAt,
      collect compiler.almanac session reference .start descriptor.records =
        .ok (state, abortedAt) ∧
      descriptor.extraTables = [] ∧ descriptor.extraJoins = state.joins ∧
      descriptor.extraColumns =
        (state.searches.map (fieldQuery compiler.dialect)).flatMap (·.extraColumns) := by
  cases search with
  | none =>
    obtain rfl := Except.ok.inj h
    exact ⟨.start, none, rfl, rfl, rfl, rfl⟩
  | some search =>
    obtain ⟨conditions, selection, negations, categories, hconditions, -, -, rfl⟩ :=
      Compiler.parts_of_compile h
    obtain ⟨⟨state, abortedAt⟩, hrun, hfinish⟩ := bind_eq_ok hconditions
    obtain rfl := Except.ok.inj hfinish
    exact ⟨state, abortedAt, hrun, rfl, rfl, rfl⟩

theorem extraJoins_of_compile
    (h : compiler.compile search sort session reference = .ok descriptor) :
    descriptor.extraTables = [] ∧
      descriptor.extraJoins = (understood descriptor.records).flatMap joinsOf := by
  obtain ⟨state, abortedAt, hrun, htables, hjoins, -⟩ := collected_of_compile h
  exact ⟨htables, hjoins.trans (collect_joins hrun)⟩

/-- The tables that a filter names: those of every listing, and once for each record that asks for
posted spots the table of these. -/
theorem tableNames_of_compile
    (h : compiler.compile search sort session reference = .ok descriptor) (dialect : String) :
    ∃ pieces, lex (fromClause descriptor dialect) = some pieces ∧
      tableNames pieces = fixedNames dialect ++
        List.replicate ((understood descriptor.records).countP asksForPosted) "spost" := by
  obtain ⟨htables, hadded⟩ := extraJoins_of_compile h
  rw [← names_joins, ← hadded]
  refine tableNames_fromClause htables (fun join hjoin => ?_) dialect
  rw [hadded] at hjoin
  obtain ⟨record, -, hjoin⟩ := List.mem_flatMap.mp hjoin
  exact bringsIn_joinsOf join hjoin

/-- No two columns of a listing share a name, and no two tables do exactly when at most one of the
records that are read asks for posted spots. The clause of the tables is that of both statements. -/
theorem names_of_compile
    (h : compiler.compile search sort session reference = .ok descriptor) (dialect : String) :
    (∃ pieces, lex (fromClause descriptor dialect) = some pieces ∧
      ((tableNames pieces).Nodup ↔
        (understood descriptor.records).countP asksForPosted ≤ 1)) ∧
    ((columns ++ descriptor.extraColumns).map columnName).Nodup := by
  constructor
  · obtain ⟨pieces, hlex, hnames⟩ := tableNames_of_compile h dialect
    have hfixed : (fixedNames dialect).Nodup ∧ "spost" ∉ fixedNames dialect := by
      unfold fixedNames
      split <;> decide
    refine ⟨pieces, hlex, ?_⟩
    -- No fixed name is repeated or given to posted spots, so only copies of that one name can clash.
    rw [hnames, List.nodup_append, List.nodup_replicate]
    constructor
    · exact fun hall => hall.2.1
    · intro hcount
      refine ⟨hfixed.1, hcount, ?_⟩
      rintro name hname _ hname' rfl
      obtain rfl := List.eq_of_mem_replicate hname'
      exact hfixed.2 hname
  · obtain ⟨state, abortedAt, hrun, -, -, hcolumns⟩ := collected_of_compile h
    rw [hcolumns]
    have hstart : (State.start.searches.map Prod.fst).Nodup := List.nodup_nil
    exact nodup_columnNames (nodup_searches_of_collect hstart hrun) compiler.dialect

end

/-- Posted spots with two words in the title. -/
theorem names_posted_titles :
    let compiler : Compiler := ⟨.default, .postgres "simple", none, .standard 2000⟩
    let search : Search :=
      ⟨none, [.str "titel:ubuntu", .str "mypostedspots:0", .str "titel:desktop"], none, false⟩
    ∃ descriptor, compiler.compile (some search) .none ⟨1, 0⟩ ⟨0, 0, 0⟩ = .ok descriptor ∧
      (∃ pieces, lex (fromClause descriptor "postgres") = some pieces ∧
        ((tableNames pieces).Nodup ↔
          (understood descriptor.records).countP asksForPosted ≤ 1)) ∧
      ((columns ++ descriptor.extraColumns).map columnName).Nodup := by
  intro compiler search
  have hok : (compiler.compile (some search) .none ⟨1, 0⟩ ⟨0, 0, 0⟩).isOk = true := by decide
  obtain ⟨descriptor, hcompile⟩ := exists_of_isOk hok
  exact ⟨descriptor, hcompile, names_of_compile hcompile "postgres"⟩

/-- Two different values ask for posted spots, and their table is joined twice under one name. -/
theorem not_nodup_posted_twice :
    let search : Search := ⟨none, [.str "mypostedspots:0", .str "mypostedspots:1"], none, false⟩
    ∀ dialect ∈ [Dialect.postgres "simple", .sqlite],
      let compiler : Compiler := ⟨.default, dialect, none, .standard 2000⟩
      ∃ descriptor, compiler.compile (some search) .none ⟨1, 0⟩ ⟨0, 0, 0⟩ = .ok descriptor ∧
        ∃ pieces, lex (fromClause descriptor dialect.name) = some pieces ∧
          ¬(tableNames pieces).Nodup := by
  intro search dialect hdialect compiler
  have hok : (compiler.compile (some search) .none ⟨1, 0⟩ ⟨0, 0, 0⟩).isOk = true := by
    simp only [List.mem_cons, List.not_mem_nil, or_false] at hdialect
    rcases hdialect with rfl | rfl <;> decide
  have htwice : (understood search.records).countP asksForPosted = 2 := by decide
  obtain ⟨descriptor, hcompile⟩ := exists_of_isOk hok
  obtain ⟨pieces, hlex, hnames⟩ := tableNames_of_compile hcompile dialect.name
  refine ⟨descriptor, hcompile, pieces, hlex, fun hnodup => ?_⟩
  rw [hnames, records_of_compile hcompile, htwice] at hnodup
  exact absurd (List.nodup_replicate.mp (List.nodup_append.mp hnodup).2.1) (by decide)

end Sift.Listing
