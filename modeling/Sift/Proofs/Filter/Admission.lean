import Mathlib.Data.List.TakeWhile
import Sift.Boundary.Almanac
import Sift.Proofs.Filter.Understood
import Sift.Proofs.OrderedMap
import Sift.Proofs.Predicate.Meaning

/-!
# Rows that conditions admit

Conditions admit a row of which all of the one group holds, and one of the alternatives if there are
any. In terms of the records that are read (`admits_iff`): every demand holds, every text field is found
by what is searched for in it, and one of the alternatives holds.

So a comparison with `!=` keeps out the rows that are equal, but one of several alternatives only as long
as no other lets them in. A search has no operator: it looks for the value whichever operator the record
has (`excludes`).
-/

namespace Sift

open Predicate

/-! ## Searches -/

/-- The fragment that searches a column for one value. -/
def Dialect.matching (dialect : Dialect) (column value : String) : String :=
  match dialect with
  | .postgres config => textVector config column ++ " @@ " ++ textTerms config value
  | .sqlite =>
    "idx_fts_spots." ++ bareColumn column ++ " MATCH " ++ quote (escape (phrase value))

theorem not_blank_append {s : String} (hs : s.toList.all Text.isBlank = false) (t : String) :
    (s ++ t).toList.all Text.isBlank = false := by
  rw [String.toList_append, List.all_append, hs, Bool.false_and]

theorem Dialect.isEmpty_matching (dialect : Dialect) (column value : String) :
    (raw (dialect.matching column value)).isEmpty = false := by
  rw [isEmpty]
  cases dialect with
  | postgres config =>
    have hname : "to_tsvector('".toList.all Text.isBlank = false := by decide
    have hvector : (textVector config column).toList.all Text.isBlank = false :=
      not_blank_append (not_blank_append (not_blank_append (not_blank_append hname _) _) _) _
    exact not_blank_append (not_blank_append hvector _) _
  | sqlite =>
    have htable : "idx_fts_spots.".toList.all Text.isBlank = false := by decide
    exact not_blank_append (not_blank_append (not_blank_append htable _) _) _

namespace Valuation

/-- The row is found by searching a text field for a value. -/
def Finds (v : Valuation) (dialect : Dialect) (field : TextField) (value : String) : Prop :=
  (Conditions.searchPredicate dialect (field, [value])).Holds v.leaf

instance (v : Valuation) (dialect : Dialect) (field : TextField) (value : String) :
    Decidable (v.Finds dialect field value) :=
  inferInstanceAs (Decidable (Predicate.Holds _ _))

/-- The row is found by searching a text field for values, for any of them or for each as the field has
it. -/
def Searched (v : Valuation) (dialect : Dialect) (field : TextField) (values : List String) : Prop :=
  if field.matchesAny then ∃ value ∈ values, v.Finds dialect field value
  else ∀ value ∈ values, v.Finds dialect field value

end Valuation

namespace Conditions

variable {v : Valuation} {dialect : Dialect} {field : TextField} {value : String}
  {values : List String}

theorem predicates_fieldQuery : (fieldQuery dialect (field, values)).predicates =
    values.map (dialect.matching field.column) := by
  cases values with
  | nil => cases dialect <;> rfl
  | cons value values =>
    cases dialect with
    | postgres config =>
      simp only [fieldQuery, Dialect.textQuery, List.map_cons, List.map_map]
      rfl
    | sqlite =>
      simp only [fieldQuery, Dialect.textQuery, List.map_cons, List.map_map]
      rfl

/-- The predicates that search a text field for values. -/
def fragments (dialect : Dialect) (field : TextField) (values : List String) : List Predicate :=
  values.map fun value => raw (dialect.matching field.column value)

theorem searchPredicate_eq : searchPredicate dialect (field, values) =
    if field.matchesAny then any (fragments dialect field values)
    else all (fragments dialect field values) := by
  simp only [searchPredicate, predicates_fieldQuery, fragments, List.map_map, Function.comp_def]

theorem forall_mem_fragments {q : Predicate → Prop} :
    (∀ p ∈ fragments dialect field values, p.isEmpty = false → q p) ↔
      ∀ value ∈ values, q (raw (dialect.matching field.column value)) := by
  simp only [fragments, List.forall_mem_map, Dialect.isEmpty_matching, forall_const]

theorem exists_mem_fragments {q : Predicate → Prop} :
    (∃ p ∈ fragments dialect field values, p.isEmpty = false ∧ q p) ↔
      ∃ value ∈ values, q (raw (dialect.matching field.column value)) := by
  constructor
  · rintro ⟨p, hp, -, hq⟩
    obtain ⟨value, hvalue, rfl⟩ := List.mem_map.mp hp
    exact ⟨value, hvalue, hq⟩
  · rintro ⟨value, hvalue, hq⟩
    exact ⟨_, List.mem_map_of_mem hvalue, Dialect.isEmpty_matching .., hq⟩

theorem areEmpty_fragments : areEmpty (fragments dialect field values) = true ↔ values = [] := by
  cases values with
  | nil => exact iff_of_true rfl rfl
  | cons value values => simp [fragments, areEmpty, Dialect.isEmpty_matching]

theorem isEmpty_searchPredicate :
    (searchPredicate dialect (field, values)).isEmpty = true ↔ values = [] := by
  rw [searchPredicate_eq, ← @areEmpty_fragments dialect field values]
  split <;> rfl

theorem finds_iff :
    v.Finds dialect field value ↔ (raw (dialect.matching field.column value)).Holds v.leaf := by
  rw [Valuation.Finds, searchPredicate_eq]
  split
  · rw [holds_any, ← areEmpty_iff, areEmpty_fragments, exists_mem_fragments]
    simp
  · rw [holds_all, forall_mem_fragments]
    simp

theorem holds_searchPredicate : (searchPredicate dialect (field, values)).Holds v.leaf ↔
    values = [] ∨ v.Searched dialect field values := by
  simp only [searchPredicate_eq, Valuation.Searched, finds_iff]
  split
  · rw [holds_any, ← areEmpty_iff, areEmpty_fragments, exists_mem_fragments]
  · rw [holds_all, forall_mem_fragments, or_iff_right_of_imp]
    rintro rfl
    exact nofun

/-! ## Runs -/

variable {almanac : Almanac} {session : Session} {reference : Moment} {record : FilterRecord}
  {records : List FilterRecord}

/-- The values that a record searches a text field for. -/
def valuesFor (field : TextField) (record : FilterRecord) : List String :=
  if searched? record = some field then [record.value] else []

theorem mem_flatMap_valuesFor : value ∈ records.flatMap (valuesFor field) ↔
    ∃ record ∈ records, searched? record = some field ∧ record.value = value := by
  refine List.mem_flatMap.trans (exists_congr fun record => and_congr_right fun _ => ?_)
  rw [valuesFor]
  split
  · rename_i hfield
    rw [List.mem_singleton, and_iff_right hfield, eq_comm]
  · rename_i hother
    exact iff_of_false nofun fun h => hother h.1

theorem lookup_addSearch {f : TextField} {searches : List (TextField × List String)} :
    ((addSearch f value searches).lookup field).getD [] =
      (searches.lookup field).getD [] ++ if f = field then [value] else [] := by
  induction searches with
  | nil =>
    rw [addSearch, List.lookup_cons]
    by_cases h : f = field
    · simp [h]
    · simp [h, beq_false_of_ne (Ne.symm h)]
  | cons search searches ih =>
    obtain ⟨g, values⟩ := search
    rw [addSearch]
    split
    · rename_i hg
      subst hg
      by_cases h : g = field
      · simp [h]
      · simp [h, List.lookup_cons, beq_false_of_ne (Ne.symm h)]
    · rename_i hg
      by_cases h : g = field
      · subst h
        simp [Ne.symm hg]
      · simp [List.lookup_cons, beq_false_of_ne (Ne.symm h), ih]

theorem collect_values {state state' : State} {abortedAt : Option FilterRecord}
    (h : collect almanac session reference state records = .ok (state', abortedAt)) :
    (state'.searches.lookup field).getD [] = (state.searches.lookup field).getD [] ++
      (understood records).flatMap (valuesFor field) := by
  refine collect_flatMap (fun state => (state.searches.lookup field).getD []) ?_ h
  intro state record f state' hfield hadd
  rw [add_eq_ok hfield hadd, valuesFor]
  cases searched? record with
  | none => simp
  | some f => simp [lookup_addSearch]

theorem collect_abortedAt {state state' : State} {abortedAt : Option FilterRecord}
    (h : collect almanac session reference state records = .ok (state', abortedAt)) :
    abortedAt = records.find? fun record => (fieldOf? record).isNone := by
  induction records generalizing state with
  | nil =>
    obtain ⟨-, rfl⟩ := Prod.mk.inj (Except.ok.inj h)
    rfl
  | cons record rest ih =>
    rw [collect] at h
    cases hfield : fieldOf? record with
    | none =>
      rw [hfield] at h
      obtain ⟨-, rfl⟩ := Prod.mk.inj (Except.ok.inj h)
      rw [List.find?_cons_of_pos (by simp [hfield])]
    | some field =>
      rw [hfield] at h
      obtain ⟨next, -, h⟩ := bind_eq_ok h
      rw [List.find?_cons_of_neg (by simp [hfield])]
      exact ih h

/-! ## Rows -/

/-- The row passes both groups. -/
def Admits (conditions : Conditions) (v : Valuation) : Prop :=
  (all conditions.andGroup).Holds v.leaf ∧ (any conditions.orGroup).Holds v.leaf

instance (conditions : Conditions) (v : Valuation) : Decidable (conditions.Admits v) :=
  inferInstanceAs (Decidable (_ ∧ _))

variable {p : Predicate}

theorem isEmpty_of_mem_comparisons {f : PlainField} (h : p ∈ comparisons almanac reference f record) :
    p.isEmpty = false := by
  obtain ⟨s, -, rfl⟩ := mem_comparisons h
  rfl

theorem isEmpty_of_mem_demands (h : p ∈ demands almanac session reference record) :
    p.isEmpty = false := by
  rcases (mem_demands h).2 with ⟨f, -, hp⟩ | ⟨list, -, rfl⟩
  · exact isEmpty_of_mem_comparisons hp
  · cases list <;> rfl

theorem isEmpty_of_mem_alternatives (h : p ∈ alternatives almanac reference record) :
    p.isEmpty = false := by
  obtain ⟨f, -, hp⟩ := mem_alternatives h
  exact isEmpty_of_mem_comparisons hp

theorem holds_searches {searches : List (TextField × List String)}
    (hnodup : (searches.map Prod.fst).Nodup) :
    (all (searches.map (searchPredicate dialect))).Holds v.leaf ↔
      ∀ field, (searches.lookup field).getD [] = [] ∨
        v.Searched dialect field ((searches.lookup field).getD []) := by
  have hlookup : ∀ {field values},
      searches.lookup field = some values ↔ (field, values) ∈ searches :=
    OrderedMap.get?_eq_some_iff (m := ⟨searches, hnodup⟩)
  rw [holds_all, List.forall_mem_map]
  constructor
  · intro h field
    cases hvalues : searches.lookup field with
    | none => exact .inl rfl
    | some values =>
      by_cases hnil : values = []
      · exact .inl hnil
      · have hsome : (searchPredicate dialect (field, values)).isEmpty = false :=
          Bool.eq_false_iff.mpr fun hempty => hnil (isEmpty_searchPredicate.mp hempty)
        exact holds_searchPredicate.mp (h _ (hlookup.mp hvalues) hsome)
  · rintro h ⟨field, values⟩ hmem -
    have hfield := h field
    rw [hlookup.mpr hmem] at hfield
    exact holds_searchPredicate.mpr hfield

theorem holds_all_demands :
    (all (records.flatMap (demands almanac session reference))).Holds v.leaf ↔
      ∀ p ∈ records.flatMap (demands almanac session reference), p.Holds v.leaf := by
  rw [holds_all]
  refine forall₂_congr fun p hp => ?_
  obtain ⟨record, -, hp⟩ := List.mem_flatMap.mp hp
  exact forall_prop_of_true (isEmpty_of_mem_demands hp)

theorem holds_any_alternatives :
    (any (records.flatMap (alternatives almanac reference))).Holds v.leaf ↔
      records.flatMap (alternatives almanac reference) = [] ∨
        ∃ p ∈ records.flatMap (alternatives almanac reference), p.Holds v.leaf := by
  have hempty : ∀ p ∈ records.flatMap (alternatives almanac reference), p.isEmpty = false := by
    intro p hp
    obtain ⟨record, -, hp⟩ := List.mem_flatMap.mp hp
    exact isEmpty_of_mem_alternatives hp
  rw [holds_any]
  refine or_congr ⟨fun h => ?_, fun h => ?_⟩ ?_
  · refine List.eq_nil_iff_forall_not_mem.mpr fun p hp => ?_
    exact Bool.eq_false_iff.mp (hempty p hp) (h p hp)
  · rw [h]
    exact nofun
  · exact exists_congr fun p => and_congr_right fun hp => and_iff_right (hempty p hp)

/-- The rows that conditions admit, in terms of the records that are read. -/
theorem admits_iff {conditions : Conditions}
    (h : ofRecords almanac dialect session reference records = .ok conditions) :
    conditions.Admits v ↔
      (∀ p ∈ (understood records).flatMap (demands almanac session reference), p.Holds v.leaf) ∧
      (∀ field, (understood records).flatMap (valuesFor field) = [] ∨
        v.Searched dialect field ((understood records).flatMap (valuesFor field))) ∧
      ((understood records).flatMap (alternatives almanac reference) = [] ∨
        ∃ p ∈ (understood records).flatMap (alternatives almanac reference), p.Holds v.leaf) := by
  obtain ⟨⟨state, abortedAt⟩, hrun, h⟩ := bind_eq_ok h
  obtain rfl := Except.ok.inj h
  have hand : state.andGroup = (understood records).flatMap (demands almanac session reference) :=
    collect_andGroup hrun
  have hor : state.orGroup = (understood records).flatMap (alternatives almanac reference) :=
    collect_orGroup hrun
  have hvalues : ∀ field, (state.searches.lookup field).getD [] =
      (understood records).flatMap (valuesFor field) := fun _ => collect_values hrun
  have hstart : (State.start.searches.map Prod.fst).Nodup := .nil
  have hnodup := nodup_searches_of_collect hstart hrun
  have hsearches : (all (state.searches.map (searchPredicate dialect))).Holds v.leaf ↔
      ∀ field, (understood records).flatMap (valuesFor field) = [] ∨
        v.Searched dialect field ((understood records).flatMap (valuesFor field)) := by
    simp only [← hvalues]
    exact holds_searches hnodup
  have hgroups : (all (state.andGroup ++ state.searches.map (searchPredicate dialect))).Holds v.leaf ↔
      (all state.andGroup).Holds v.leaf ∧
        (all (state.searches.map (searchPredicate dialect))).Holds v.leaf := by
    simp only [holds_all, List.forall_mem_append]
  show (all (state.andGroup ++ _)).Holds v.leaf ∧ (any state.orGroup).Holds v.leaf ↔ _
  rw [hgroups, hsearches, hand, hor, holds_all_demands, holds_any_alternatives, and_assoc]

/-! ## What a record keeps out -/

theorem understood_of_ofRecords {conditions : Conditions}
    (h : ofRecords almanac dialect session reference records = .ok conditions)
    (hwhole : conditions.abortedAt = none) : understood records = records := by
  obtain ⟨⟨state, abortedAt⟩, hrun, h⟩ := bind_eq_ok h
  obtain rfl := Except.ok.inj h
  have hnone : records.find? (fun record => (fieldOf? record).isNone) = none :=
    (collect_abortedAt hrun).symm.trans hwhole
  refine List.takeWhile_eq_self_iff.mpr fun record hrecord => ?_
  rw [Option.isSome_iff_ne_none]
  simpa using List.find?_eq_none.mp hnone record hrecord

theorem demands_of_plain {f : PlainField} (hfield : fieldOf? record = some (.plain f))
    (hvalue : record.value ≠ "") (hcoerce : coerce almanac f record.value reference = .ok value) :
    demands almanac session reference record = if f.isAlternative then []
      else [compare f.column record.operator (literal value)] := by
  simp only [demands, if_neg hvalue, hfield, comparisons, hcoerce]

theorem alternatives_of_plain {f : PlainField} (hfield : fieldOf? record = some (.plain f))
    (hvalue : record.value ≠ "") (hcoerce : coerce almanac f record.value reference = .ok value) :
    alternatives almanac reference record = if f.isAlternative then
      [compare f.column record.operator (literal value)] else [] := by
  simp only [alternatives, if_neg hvalue, hfield, comparisons, hcoerce]

theorem searched?_of_text {f : TextField} (hfield : fieldOf? record = some (.text f))
    (hvalue : record.value ≠ "") : searched? record = some f := by
  rw [searched?, if_neg hvalue, hfield]

theorem not_equal_of_admits {conditions : Conditions}
    (h : ofRecords almanac dialect session reference records = .ok conditions)
    (hrecord : record ∈ understood records) (hoperator : record.operator = "!=")
    (hvalue : record.value ≠ "") (hadmits : conditions.Admits v) {f : PlainField}
    (hfield : fieldOf? record = some (.plain f)) :
    ∃ value, coerce almanac f record.value reference = .ok value ∧
      (v.leaf (compare f.column "=" (literal value)) = some true → f.isAlternative = true ∧
        ∃ other ∈ understood records, other ≠ record ∧
          ∃ p ∈ alternatives almanac reference other, p.Holds v.leaf) := by
  have hconvertible := exists_ofRecords_iff.mp ⟨_, h⟩ record hrecord
  obtain ⟨value, hcoerce⟩ := (exists_coerce_iff hfield hvalue).mpr hconvertible
  obtain ⟨hdemands, -, halternatives⟩ := (admits_iff h).mp hadmits
  refine ⟨value, hcoerce, fun hequal => ?_⟩
  -- The record's own comparison fails, so it has to be an alternative, and another one holds.
  have hunequal : ¬(compare f.column record.operator (literal value)).Holds v.leaf := by
    rw [hoperator]
    exact v.exclusive _ _ hequal
  have hdemand : demands almanac session reference record = _ := demands_of_plain hfield hvalue hcoerce
  have halternative := alternatives_of_plain hfield hvalue hcoerce
  cases hf : f.isAlternative with
  | false =>
    rw [hf] at hdemand
    refine absurd (hdemands _ (List.mem_flatMap.mpr ⟨record, hrecord, ?_⟩)) hunequal
    rw [hdemand]
    exact List.mem_singleton_self _
  | true =>
    rw [hf] at halternative
    refine ⟨rfl, ?_⟩
    rcases halternatives with hnil | ⟨p, hp, hholds⟩
    · rw [List.flatMap_eq_nil_iff.mp hnil record hrecord] at halternative
      cases halternative
    · obtain ⟨other, hother, hp⟩ := List.mem_flatMap.mp hp
      refine ⟨other, hother, ?_, p, hp, hholds⟩
      rintro rfl
      rw [halternative] at hp
      obtain rfl := List.mem_singleton.mp hp
      exact hunequal hholds

theorem searched_of_admits {conditions : Conditions}
    (h : ofRecords almanac dialect session reference records = .ok conditions)
    (hrecord : record ∈ understood records) (hvalue : record.value ≠ "")
    (hadmits : conditions.Admits v) {f : TextField} (hfield : fieldOf? record = some (.text f)) :
    record.value ∈ (understood records).flatMap (valuesFor f) ∧
      v.Searched dialect f ((understood records).flatMap (valuesFor f)) := by
  obtain ⟨-, hsearches, -⟩ := (admits_iff h).mp hadmits
  have hmem : record.value ∈ (understood records).flatMap (valuesFor f) :=
    mem_flatMap_valuesFor.mpr ⟨record, hrecord, searched?_of_text hfield hvalue, rfl⟩
  rcases hsearches f with hnil | hsearched
  · rw [hnil] at hmem
    cases hmem
  · exact ⟨hmem, hsearched⟩

/-- What a record with `!=` keeps out of conditions that read all records. A comparison keeps out the
rows that are equal to its value; one of several alternatives does so unless another holds. On a text
field the operator plays no part: rows that are admitted are found by searching for the values of the
field, the record's among them. -/
theorem excludes {conditions : Conditions}
    (h : ofRecords almanac dialect session reference records = .ok conditions)
    (hwhole : conditions.abortedAt = none) (hrecord : record ∈ records)
    (hoperator : record.operator = "!=") (hvalue : record.value ≠ "")
    (hadmits : conditions.Admits v) :
    (∀ f, fieldOf? record = some (.plain f) → ∃ value,
      coerce almanac f record.value reference = .ok value ∧
        (v.leaf (compare f.column "=" (literal value)) = some true → f.isAlternative = true ∧
          ∃ other ∈ records, other ≠ record ∧
            ∃ p ∈ alternatives almanac reference other, p.Holds v.leaf)) ∧
    ∀ f, fieldOf? record = some (.text f) →
      record.value ∈ records.flatMap (valuesFor f) ∧
        v.Searched dialect f (records.flatMap (valuesFor f)) := by
  have hall := understood_of_ofRecords h hwhole
  rw [← hall] at hrecord
  constructor
  · intro f hfield
    have hplain := not_equal_of_admits h hrecord hoperator hvalue hadmits hfield
    rwa [hall] at hplain
  · intro f hfield
    have htext := searched_of_admits h hrecord hvalue hadmits hfield
    rwa [hall] at htext

/-- A row with other comments than are named is admitted, for all that its title is what a record with
`!=` names. -/
theorem excludes_comments :
    let records : List FilterRecord := [⟨"CommentCount", "!=", "5"⟩, ⟨"titel", "!=", "ubuntu"⟩]
    let row : Row := [("title", .str "ubuntu"), ("commentcount", .int 4)]
    let v := row.valuation fun sql =>
      some (sql == "to_tsvector('simple', s.title) @@ plainto_tsquery('simple', 'ubuntu')")
    ∃ conditions,
      ofRecords (.standard 2000) (.postgres "simple") ⟨42, 0⟩ default records = .ok conditions ∧
      conditions.abortedAt = none ∧ conditions.Admits v ∧
      v.leaf (compare "s.commentcount" "=" "5") ≠ some true ∧
      v.Searched (.postgres "simple") .title ["ubuntu"] := by
  intro records row v
  have hread : ∀ conditions,
      ofRecords (.standard 2000) (.postgres "simple") ⟨42, 0⟩ default records = .ok conditions →
      conditions.abortedAt = none ∧ conditions.Admits v := by
    rintro _ ⟨⟩
    decide
  obtain ⟨conditions, h⟩ :
      ∃ conditions, ofRecords (.standard 2000) (.postgres "simple") ⟨42, 0⟩ default records =
        .ok conditions :=
    ⟨_, rfl⟩
  obtain ⟨hwhole, hadmits⟩ := hread conditions h
  have hcomments : ⟨"CommentCount", "!=", "5"⟩ ∈ records := by decide
  have htitle : ⟨"titel", "!=", "ubuntu"⟩ ∈ records := by decide
  refine ⟨conditions, h, hwhole, hadmits, fun hequal => ?_, ?_⟩
  · have hplain := (excludes h hwhole hcomments rfl (by decide) hadmits).1 .commentCount (by decide)
    obtain ⟨value, hcoerce, hkept⟩ := hplain
    obtain rfl := Except.ok.inj hcoerce
    exact absurd (hkept hequal).1 (by decide)
  · exact ((excludes h hwhole htitle rfl (by decide) hadmits).2 .title (by decide)).2

/-- A row that is what the records name, and is admitted: the search for a title looks for it, and of
two spotters that are unequal one always is. -/
theorem admits_named :
    let row : Row := [("title", .str "ubuntu"), ("spotterid", .str "abc")]
    let v := row.valuation fun sql =>
      some (sql == "to_tsvector('simple', s.title) @@ plainto_tsquery('simple', 'ubuntu')")
    (∃ conditions, ofRecords (.standard 2000) (.postgres "simple") ⟨42, 0⟩ default
        [⟨"titel", "!=", "ubuntu"⟩] = .ok conditions ∧ conditions.abortedAt = none ∧
      v.Finds (.postgres "simple") .title "ubuntu" ∧ conditions.Admits v) ∧
    ∃ conditions, ofRecords (.standard 2000) (.postgres "simple") ⟨42, 0⟩ default
        [⟨"spotterid", "!=", "abc"⟩, ⟨"userid", "!=", "def"⟩] = .ok conditions ∧
      conditions.abortedAt = none ∧
      v.leaf (compare "s.spotterid" "=" (literal "abc")) = some true ∧ conditions.Admits v := by
  intro row v
  exact ⟨⟨_, rfl, rfl, by decide, by decide⟩, _, rfl, rfl, by decide, by decide⟩

end Conditions

end Sift
