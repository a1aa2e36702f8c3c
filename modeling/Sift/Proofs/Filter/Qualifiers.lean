import Sift.Proofs.Filter.Admission
import Sift.Proofs.Filter.Conditions
import Sift.Proofs.Predicate.Qualifiers

/-!
# Tables that conditions refer to

The lists of spots refer to the tables of every listing and to those that they join themselves, and
the searches to one table of the dialect. A comparison refers to the spots; but a number stands in it as
it was written, and digits of other scripts start names in SQL. So what is read as a column of a
table in such a number is one more table (`mem_of_refers_conditions`, `exists_refers_conditions`).
-/

namespace Sift

open Sql Predicate

variable {q : String}

/-! ## Searches -/

namespace Dialect

/-- The table of the columns that are searched. -/
def searchedTable : Dialect → String
  | postgres _ => "s"
  | sqlite => "idx_fts_spots"

theorem qualifiers_call (name : String) {a b : String} (hname : opens name = true) (ha : Balanced a)
    (hb : Balanced b) : Balanced (name ++ (a ++ ", " ++ b) ++ ")") ∧
      qualifiers (name ++ (a ++ ", " ++ b) ++ ")") = qualifiers a ++ qualifiers b := by
  have harguments : Balanced (name ++ (a ++ ", " ++ b)) :=
    (balanced_of_opens hname).append ((ha.append (by decide)).append hb)
  refine ⟨harguments.append (by decide), ?_⟩
  rw [qualifiers_closes harguments (by decide), qualifiers_opens hname,
    qualifiers_sep ha (by decide)]

variable {config : String}

theorem qualifiers_column (field : TextField) :
    Balanced field.column ∧ qualifiers field.column = ["s"] := by
  cases field <;> decide

theorem qualifiers_textVector (hconfig : '\'' ∉ config.toList) (field : TextField) :
    Balanced (textVector config field.column) ∧
      qualifiers (textVector config field.column) = ["s"] := by
  have hliteral := (hidden_of_not_mem hconfig).quoted
  have hcall := qualifiers_call "to_tsvector(" (by decide) hliteral.1
    (qualifiers_column field).1
  have htext : textVector config field.column =
      "to_tsvector(" ++ ("'" ++ config ++ "'" ++ ", " ++ field.column) ++ ")" := by
    unfold textVector
    rw [← String.toList_inj]
    simp
  rw [htext]
  rwa [hliteral.2, (qualifiers_column field).2] at hcall

theorem qualifiers_textTerms (hconfig : '\'' ∉ config.toList) (value : String) :
    Balanced (textTerms config value) ∧ qualifiers (textTerms config value) = [] := by
  have hliteral := (hidden_of_not_mem hconfig).quoted
  have hvalue := (hidden_escape value).quoted
  have hcall := qualifiers_call "plainto_tsquery(" (by decide) hliteral.1 hvalue.1
  have htext : textTerms config value =
      "plainto_tsquery(" ++ ("'" ++ config ++ "'" ++ ", " ++ ("'" ++ escape value ++ "'")) ++ ")" := by
    unfold textTerms quote
    rw [← String.toList_inj]
    simp
  rw [htext]
  rwa [hliteral.2, hvalue.2] at hcall

theorem qualifiers_matching {dialect : Dialect} (hdialect : dialect.Unquoted) (field : TextField)
    (value : String) :
    qualifiers (dialect.matching field.column value) = [dialect.searchedTable] := by
  cases dialect with
  | postgres config =>
    have hvector := qualifiers_textVector (hdialect config rfl) field
    show qualifiers (_ ++ " @@ " ++ _) = _
    rw [qualifiers_sep hvector.1 (by decide), hvector.2,
      (qualifiers_textTerms (hdialect config rfl) value).2]
    rfl
  | sqlite =>
    have hcolumn : Balanced ("idx_fts_spots." ++ bareColumn field.column) ∧
        qualifiers ("idx_fts_spots." ++ bareColumn field.column) = ["idx_fts_spots"] := by
      cases field <;> decide
    show qualifiers (_ ++ " MATCH " ++ ("'" ++ _ ++ "'")) = _
    rw [qualifiers_sep hcolumn.1 (by decide), hcolumn.2, (hidden_escape _).quoted.2]
    rfl

end Dialect

namespace Conditions

variable {dialect : Dialect} {search : TextField × List String}

theorem refers_searchPredicate (hdialect : dialect.Unquoted)
    (h : Refers q (searchPredicate dialect search)) : q = dialect.searchedTable := by
  have hfragments : ∀ p ∈ fragments dialect search.1 search.2, Refers q p →
      q = dialect.searchedTable := by
    intro p hp hq
    obtain ⟨value, -, rfl⟩ := List.mem_map.mp hp
    cases hq with
    | raw hq => exact List.mem_singleton.mp (Dialect.qualifiers_matching hdialect _ _ ▸ hq)
  rw [searchPredicate_eq] at h
  split at h
  · cases h with
    | any hp hq => exact hfragments _ hp hq
  · cases h with
    | all hp hq => exact hfragments _ hp hq

theorem qualifiers_ranks {vector : String} (hvector : Balanced vector)
    (hspots : qualifiers vector = ["s"]) {terms : List String}
    (hterms : ∀ term ∈ terms, Balanced term ∧ qualifiers term = []) :
    Balanced (" + ".intercalate (terms.map fun term => "ts_rank(" ++ vector ++ ", " ++ term ++ ")")) ∧
      ∀ q ∈ qualifiers (" + ".intercalate
        (terms.map fun term => "ts_rank(" ++ vector ++ ", " ++ term ++ ")")), q = "s" := by
  have hrank : ∀ rank ∈ terms.map fun term => "ts_rank(" ++ vector ++ ", " ++ term ++ ")",
      Balanced rank ∧ qualifiers rank = ["s"] := by
    intro rank hrank
    obtain ⟨term, hterm, rfl⟩ := List.mem_map.mp hrank
    have hcall := Dialect.qualifiers_call "ts_rank(" (by decide) hvector (hterms term hterm).1
    rw [hspots, (hterms term hterm).2, List.append_nil] at hcall
    simpa only [String.append_assoc] using hcall
  have hplus : Separates " + " := by decide
  obtain ⟨hbalanced, hnames⟩ := qualifiers_intercalate hplus fun rank hmem => (hrank rank hmem).1
  refine ⟨hbalanced, fun q hq => ?_⟩
  rw [hnames, List.mem_flatMap] at hq
  obtain ⟨rank, hmem, hq⟩ := hq
  rw [(hrank rank hmem).2] at hq
  exact List.mem_singleton.mp hq

theorem qualifiers_searchColumns (hdialect : dialect.Unquoted) :
    ∀ s ∈ (fieldQuery dialect search).extraColumns, ∀ q ∈ qualifiers s, q = "s" := by
  obtain ⟨field, values⟩ := search
  cases values with
  | nil => cases dialect <;> exact nofun
  | cons value values =>
    cases dialect with
    | sqlite => exact nofun
    | postgres config =>
      have hvector := Dialect.qualifiers_textVector (hdialect config rfl) field
      have hterms : ∀ term ∈ (value :: (values.map (field.column, ·)).map Prod.snd).map
          (Dialect.textTerms config), Balanced term ∧ qualifiers term = [] := by
        intro term hterm
        obtain ⟨v, -, rfl⟩ := List.mem_map.mp hterm
        exact Dialect.qualifiers_textTerms (hdialect config rfl) v
      have hname : closes (") AS " ++ ("searchrelevancy_" ++ Dialect.bareColumn field.column)) := by
        cases field <;> decide
      obtain ⟨hbalanced, hspots⟩ := qualifiers_ranks hvector.1 hvector.2 hterms
      intro s hs q hq
      obtain rfl := List.mem_singleton.mp hs
      rw [String.append_assoc, qualifiers_closes (Balanced.append (by decide) hbalanced) hname,
        qualifiers_opens (by decide)] at hq
      exact hspots q hq

/-! ## Records -/

/-- The tables that SQL reads in a number that stands in a comparison as the record has it. Dates and
stamps are converted first. -/
def strayTables (record : FilterRecord) : List String :=
  if isNumeric record.value then
    match fieldOf? record with
    | some (.plain .date) | some (.plain .stamp) => []
    | some (.plain _) => qualifiers record.value
    | _ => []
  else []

theorem mem_strayTables {record : FilterRecord} : q ∈ strayTables record ↔
    isNumeric record.value = true ∧
      (∃ field, fieldOf? record = some (.plain field) ∧ field ≠ .date ∧ field ≠ .stamp) ∧
      q ∈ qualifiers record.value := by
  rw [strayTables]
  split
  · rename_i hnumeric
    rw [and_iff_right hnumeric]
    split
    · rename_i hfield
      simp [hfield]
    · rename_i hfield
      simp [hfield]
    · rename_i f hdate hstamp hfield
      have hread : ∃ field, fieldOf? record = some (.plain field) ∧ field ≠ .date ∧ field ≠ .stamp :=
        ⟨f, hfield, fun heq => hdate (heq ▸ rfl), fun heq => hstamp (heq ▸ rfl)⟩
      exact (and_iff_right hread).symm
    · rename_i hother
      refine iff_of_false nofun ?_
      rintro ⟨⟨f, hfield, -, -⟩, -⟩
      exact hother f hfield
  · rename_i hother
    exact iff_of_false nofun fun h => hother h.1

theorem qualifiers_literal (value : String) :
    qualifiers (literal value) = if isNumeric value then qualifiers value else [] := by
  rw [literal]
  split
  · rename_i hnumeric
    rw [escape_of_bare (bare_of_isNumeric hnumeric)]
  · exact (hidden_escape value).quoted.2

theorem qualifiers_plainColumn (field : PlainField) : qualifiers field.column = ["s"] := by
  cases field <;> decide

variable {almanac : Almanac} {session : Session} {reference : Moment} {record : FilterRecord}
  {p : Predicate}

theorem qualifiers_operator {field : Field} (h : fieldOf? record = some field) :
    qualifiers record.operator = [] := by
  have hall : ∀ operator ∈ operators, qualifiers operator = [] := by decide
  exact hall _ (mem_operators_of_fieldOf? h)

theorem coerce_eq_ok {field : PlainField} {value s : String}
    (h : coerce almanac field value reference = .ok s) :
    (∃ n : Int, s = toString n ∧ (field = .date ∨ field = .stamp ∨ isNumeric value = false)) ∨
      s = value ∧ field ≠ .date ∧ field ≠ .stamp := by
  cases field with
  | date =>
    rw [coerce] at h
    obtain ⟨n, -, rfl⟩ := map_eq_ok (mapError_eq_ok h)
    exact .inl ⟨n, rfl, .inl rfl⟩
  | stamp =>
    rw [coerce] at h
    obtain ⟨n, -, rfl⟩ := map_eq_ok (mapError_eq_ok h)
    exact .inl ⟨n, rfl, .inr (.inl rfl)⟩
  | fileSize =>
    rw [coerce] at h
    split at h
    · exact .inr ⟨(Except.ok.inj h).symm, by decide, by decide⟩
    · rename_i hother
      obtain ⟨n, -, rfl⟩ := map_eq_ok (mapError_eq_ok h)
      exact .inl ⟨n, rfl, .inr (.inr (Bool.eq_false_iff.mpr hother))⟩
  | _ => exact .inr ⟨(Except.ok.inj h).symm, by decide, by decide⟩

theorem qualifiers_coerced {field : PlainField} (hfield : fieldOf? record = some (.plain field))
    {s : String} (h : coerce almanac field record.value reference = .ok s) :
    qualifiers (literal s) = strayTables record := by
  rw [qualifiers_literal, strayTables, hfield]
  rcases coerce_eq_ok h with ⟨n, rfl, hread⟩ | ⟨rfl, hdate, hstamp⟩
  · rw [qualifiers_int, ite_self]
    rcases hread with rfl | rfl | hother
    · exact (ite_self _).symm
    · exact (ite_self _).symm
    · rw [hother]
      rfl
  · cases field with
    | date => exact absurd rfl hdate
    | stamp => exact absurd rfl hstamp
    | _ => rfl

theorem refers_comparison {field : PlainField} (hfield : fieldOf? record = some (.plain field))
    {s : String} (h : coerce almanac field record.value reference = .ok s) :
    Refers q (compare field.column record.operator (literal s)) ↔
      q = "s" ∨ q ∈ strayTables record := by
  rw [refers_compare, qualifiers_plainColumn, qualifiers_operator hfield,
    qualifiers_coerced hfield h]
  simp

theorem refers_listPredicate {list : SpotList} (h : Refers q (listPredicate session list)) :
    q ∈ ["s", "l", "wl"] ++ (listJoins list).map Join.tableAlias := by
  have hnull : ∀ column ∈ ["l.seen", "l.download", "l.watch", "wl.spotterid"],
      ∀ q ∈ qualifiers column, q ∈ ["s", "l", "wl"] := by decide
  have hcompared : qualifiers "s.stamp" = ["s"] ∧ qualifiers ">" = [] ∧
      qualifiers "spost.ouruserid" = ["spost"] ∧ qualifiers "=" = [] := by decide
  cases list with
  | new =>
    cases h with
    | all hp h =>
      rcases List.mem_cons.mp hp with rfl | hp
      · rw [refers_compare, hcompared.1, hcompared.2.1, qualifiers_int] at h
        obtain rfl : q = "s" := by simpa using h
        simp
      · obtain rfl := List.mem_singleton.mp hp
        cases h with
        | isNull h => exact List.mem_append_left _ (hnull _ (by simp) q h)
  | myPosted =>
    have h : Refers q (compare "spost.ouruserid" "=" (toString session.userId)) := h
    rw [refers_compare, hcompared.2.2.1, hcompared.2.2.2, qualifiers_int] at h
    obtain rfl : q = "spost" := by simpa using h
    simp [listJoins]
  | _ =>
    cases h with
    | isNull h => exact List.mem_append_left _ (hnull _ (by simp) q h)

theorem mem_of_refers
    (hp : p ∈ demands almanac session reference record ++ alternatives almanac reference record)
    (h : Refers q p) :
    q ∈ ["s", "l", "wl"] ++ (joinsOf record).map Join.tableAlias ∨ q ∈ strayTables record := by
  have hplain : ∀ field, fieldOf? record = some (.plain field) →
      p ∈ comparisons almanac reference field record →
      q ∈ ["s", "l", "wl"] ++ (joinsOf record).map Join.tableAlias ∨ q ∈ strayTables record := by
    intro field hfield hp
    obtain ⟨s, hcoerce, rfl⟩ := mem_comparisons hp
    refine ((refers_comparison hfield hcoerce).mp h).imp_left ?_
    rintro rfl
    simp
  rcases List.mem_append.mp hp with hp | hp
  · -- Only lists of spots join tables, and they are never alternatives.
    obtain ⟨hvalue, ⟨field, hfield, hp⟩ | ⟨list, hfield, rfl⟩⟩ := mem_demands hp
    · exact hplain field hfield hp
    · simp only [joinsOf, if_neg hvalue, hfield]
      exact .inl (refers_listPredicate h)
  · obtain ⟨field, hfield, hp⟩ := mem_alternatives hp
    exact hplain field hfield hp

theorem exists_refers (almanac : Almanac) (session : Session) (reference : Moment)
    (hq : q ∈ strayTables record) :
    ∃ p ∈ demands almanac session reference record ++ alternatives almanac reference record,
      Refers q p := by
  obtain ⟨hnumeric, ⟨field, hfield, hdate, hstamp⟩, -⟩ := mem_strayTables.mp hq
  have hvalue : record.value ≠ "" := by
    intro hempty
    rw [hempty] at hnumeric
    exact absurd hnumeric (by decide)
  have hcoerce : coerce almanac field record.value reference = .ok record.value := by
    cases field with
    | date => exact absurd rfl hdate
    | stamp => exact absurd rfl hstamp
    | fileSize => rw [coerce, if_pos hnumeric]
    | _ => rfl
  refine ⟨_, ?_, (refers_comparison hfield hcoerce).mpr (.inr hq)⟩
  rw [demands_of_plain hfield hvalue hcoerce, alternatives_of_plain hfield hvalue hcoerce]
  split
  · simp
  · simp

/-! ## Conditions -/

variable {records : List FilterRecord} {conditions : Conditions}

theorem mem_groups {state : State} {abortedAt : Option FilterRecord}
    (h : collect almanac session reference .start records = .ok (state, abortedAt)) :
    p ∈ (state.finish dialect abortedAt).andGroup ++ (state.finish dialect abortedAt).orGroup ↔
      (∃ record ∈ understood records,
        p ∈ demands almanac session reference record ++ alternatives almanac reference record) ∨
      ∃ search ∈ state.searches, searchPredicate dialect search = p := by
  have hand : state.andGroup = (understood records).flatMap (demands almanac session reference) :=
    collect_andGroup h
  have hor : state.orGroup = (understood records).flatMap (alternatives almanac reference) :=
    collect_orGroup h
  show p ∈ state.andGroup ++ state.searches.map (searchPredicate dialect) ++ state.orGroup ↔ _
  simp only [hand, hor, List.mem_append, List.mem_flatMap, List.mem_map, and_or_left, exists_or]
  exact or_right_comm

/-- Conditions refer to the tables of every listing, to those that they join, and to what is read in
numbers. -/
theorem mem_of_refers_conditions (hdialect : dialect.Unquoted)
    (h : ofRecords almanac dialect session reference records = .ok conditions)
    (hp : p ∈ conditions.andGroup ++ conditions.orGroup) (hq : Refers q p) :
    q ∈ ["s", "l", "wl", dialect.searchedTable] ++ conditions.extraJoins.map Join.tableAlias ∨
      ∃ record ∈ understood records, q ∈ strayTables record := by
  obtain ⟨⟨state, abortedAt⟩, hrun, h⟩ := bind_eq_ok h
  obtain rfl := Except.ok.inj h
  rcases (mem_groups hrun).mp hp with ⟨record, hrecord, hp⟩ | ⟨search, -, rfl⟩
  · refine (mem_of_refers hp hq).imp (fun hmem => ?_) fun hstray => ⟨record, hrecord, hstray⟩
    have hjoins : joinsOf record ⊆ state.joins := by
      rw [collect_joins hrun]
      exact fun join hjoin =>
        List.mem_append_right _ (List.mem_flatMap.mpr ⟨record, hrecord, hjoin⟩)
    have hfixed : ["s", "l", "wl"] ⊆ ["s", "l", "wl", dialect.searchedTable] := by simp
    rcases List.mem_append.mp hmem with hmem | hmem
    · exact List.mem_append_left _ (hfixed hmem)
    · exact List.mem_append_right _ (List.map_subset _ hjoins hmem)
  · rw [refers_searchPredicate hdialect hq]
    exact .inl (by simp)

theorem exists_refers_conditions
    (h : ofRecords almanac dialect session reference records = .ok conditions)
    (hrecord : record ∈ understood records) (hq : q ∈ strayTables record) :
    ∃ p ∈ conditions.andGroup ++ conditions.orGroup, Refers q p := by
  obtain ⟨⟨state, abortedAt⟩, hrun, h⟩ := bind_eq_ok h
  obtain rfl := Except.ok.inj h
  obtain ⟨p, hp, hrefers⟩ := exists_refers almanac session reference hq
  exact ⟨p, (mem_groups hrun).mpr (.inl ⟨record, hrecord, hp⟩), hrefers⟩

end Conditions

end Sift
