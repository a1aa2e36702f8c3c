import Sift.Proofs.Filter.Understood
import Sift.Proofs.Predicate.Rendering

/-!
# Conditions keep values in their place

What a filter record adds is clean: a comparison has one of the known operators and a literal that is
a bare number or stands in quotes, and a text search puts its values through the escape of the
dialect. So the conditions of any records are sound, however their values are written
(`sound_ofRecords`).
-/

namespace Sift

open Sql Predicate

/-! ## Text searches -/

namespace Dialect

/-- The text search configuration holds no quote. -/
def Unquoted (dialect : Dialect) : Prop :=
  ∀ config, dialect = .postgres config → '\'' ∉ config.toList

theorem safe_configured {config : String} (hconfig : '\'' ∉ config.toList) {argument : String}
    (hargument : Safe argument) {name : String} (hname : Safe name) :
    Safe (name ++ ("(" ++ ("'" ++ config ++ "'" ++ ", " ++ argument) ++ ")")) := by
  have hcomma : Safe ", " := safe_of_all (by decide)
  have harguments := ((quoted_of_not_mem hconfig).safe.append hcomma).append hargument
  exact hname.append harguments.parens

theorem safe_textVector {config : String} (hconfig : '\'' ∉ config.toList) {column : String}
    (hcolumn : Safe column) : Safe (textVector config column) := by
  have htext : textVector config column =
      "to_tsvector" ++ ("(" ++ ("'" ++ config ++ "'" ++ ", " ++ column) ++ ")") := by
    unfold textVector
    apply String.toList_inj.mp
    simp
  rw [htext]
  exact safe_configured hconfig hcolumn (safe_of_all (by decide))

theorem safe_textTerms {config : String} (hconfig : '\'' ∉ config.toList) (value : String) :
    Safe (textTerms config value) := by
  have htext : textTerms config value = "plainto_tsquery" ++
      ("(" ++ ("'" ++ config ++ "'" ++ ", " ++ quote (escape value)) ++ ")") := by
    unfold textTerms
    apply String.toList_inj.mp
    simp only [String.toList_append]
    simp
  rw [htext]
  exact safe_configured hconfig (safe_quote value) (safe_of_all (by decide))

end Dialect

namespace TextField

theorem safe_column (field : TextField) : Safe field.column := by
  cases field <;> exact safe_of_all (by decide)

theorem safe_bareColumn (field : TextField) : Safe (Dialect.bareColumn field.column) := by
  cases field <;> exact safe_of_all (by decide)

theorem fragment_relevance (field : TextField) :
    Fragment ("searchrelevancy_" ++ Dialect.bareColumn field.column) := by
  cases field <;> exact fragment_of_lex (by decide)

end TextField

/-- What a text search needs can be put into a statement. -/
structure TextQuery.Sound (query : TextQuery) : Prop where
  predicates : ∀ s ∈ query.predicates, Safe s
  extraColumns : ∀ s ∈ query.extraColumns, Fragment s
  sortKeys : ∀ key ∈ query.sortKeys, Fragment key.column

namespace Conditions

theorem safe_ranks {vector : String} (hvector : Safe vector) {terms : List String}
    (hterms : ∀ term ∈ terms, Safe term) :
    Safe (" + ".intercalate (terms.map fun term => "ts_rank(" ++ vector ++ ", " ++ term ++ ")")) := by
  refine Safe.intercalate (safe_of_all (by decide)) fun rank hrank => ?_
  obtain ⟨term, hterm, rfl⟩ := List.mem_map.mp hrank
  have hcomma : Safe ", " := safe_of_all (by decide)
  have harguments := ((hvector.append hcomma).append (hterms term hterm)).parens
  have htext : "ts_rank(" ++ vector ++ ", " ++ term ++ ")" =
      "ts_rank" ++ ("(" ++ (vector ++ ", " ++ term) ++ ")") := by
    apply String.toList_inj.mp
    simp
  rw [htext]
  exact Safe.append (safe_of_all (by decide)) harguments

theorem fragment_renamed {s name : String} (hs : Safe s) (hname : Fragment name) :
    Fragment ("(" ++ s ++ ") AS " ++ name) := by
  have hgroup : Fragment ("(" ++ s ++ ")") := by
    refine ⟨_, hs.lex_group, fun hmem => ?_⟩
    have hhead := congrArg (·.toList.head?) (List.mem_singleton.mp hmem)
    simp at hhead
  have has : Fragment "AS" := fragment_of_chars (by decide)
  have hspace : ") AS " = ")" ++ String.singleton ' ' ++ "AS" ++ String.singleton ' ' := by decide
  rw [hspace]
  have hall := (hgroup.append (.inl rfl) has).append (.inl rfl) hname
  simpa only [String.append_assoc] using hall

theorem sound_fieldQuery {dialect : Dialect} (hdialect : dialect.Unquoted)
    (search : TextField × List String) : (fieldQuery dialect search).Sound := by
  obtain ⟨field, values⟩ := search
  cases values with
  | nil =>
    cases dialect with
    | postgres config => exact ⟨nofun, nofun, nofun⟩
    | sqlite => exact ⟨nofun, nofun, nofun⟩
  | cons value values =>
    cases dialect with
    | postgres config =>
      have hconfig := hdialect config rfl
      have hvector := Dialect.safe_textVector hconfig field.safe_column
      have hterms : ∀ term ∈ (value :: (values.map (field.column, ·)).map Prod.snd).map
          (Dialect.textTerms config), Safe term := by
        intro term hterm
        obtain ⟨v, -, rfl⟩ := List.mem_map.mp hterm
        exact Dialect.safe_textTerms hconfig v
      have hmatch : Safe " @@ " := safe_of_all (by decide)
      refine ⟨fun s hs => ?_, fun s hs => ?_, fun key hkey => ?_⟩
      · obtain ⟨term, hterm, rfl⟩ := List.mem_map.mp hs
        exact (hvector.append hmatch).append (hterms term hterm)
      · obtain rfl := List.mem_singleton.mp hs
        exact fragment_renamed (safe_ranks hvector hterms) field.fragment_relevance
      · obtain rfl := List.mem_singleton.mp hkey
        exact field.fragment_relevance
    | sqlite =>
      refine ⟨fun s hs => ?_, nofun, nofun⟩
      obtain ⟨item, hitem, rfl⟩ := List.mem_map.mp hs
      change item ∈ (value :: values).map (field.column, ·) at hitem
      obtain ⟨v, -, rfl⟩ := List.mem_map.mp hitem
      have htable : Safe "idx_fts_spots." := safe_of_all (by decide)
      have hmatch : Safe " MATCH " := safe_of_all (by decide)
      exact ((htable.append field.safe_bareColumn).append hmatch).append (safe_quote _)

theorem clean_searchPredicate {dialect : Dialect} (hdialect : dialect.Unquoted)
    (search : TextField × List String) : (searchPredicate dialect search).Clean := by
  have hterms : ∀ p ∈ (fieldQuery dialect search).predicates.map raw, p.Clean := by
    intro p hp
    obtain ⟨s, hs, rfl⟩ := List.mem_map.mp hp
    exact .raw ((sound_fieldQuery hdialect search).predicates s hs)
  unfold searchPredicate
  split
  · exact .any hterms
  · exact .all hterms

/-! ## Comparisons -/

theorem safe_literal (value : String) : Safe (literal value) := by
  unfold literal
  split
  · rename_i hnumeric
    have hbare := bare_of_isNumeric hnumeric
    rw [escape_of_bare hbare]
    exact hbare.safe
  · exact safe_quote value

theorem safe_of_mem_operators {operator : String} (h : operator ∈ operators) : Safe operator := by
  have hall : operators.all (fun s => s.toList.all isPlain) = true := by decide
  exact safe_of_plain fun c hc => List.all_eq_true.mp (List.all_eq_true.mp hall operator h) c hc

theorem safe_plainColumn (field : PlainField) : Safe field.column := by
  cases field <;> exact safe_of_all (by decide)

theorem clean_listPredicate (session : Session) (list : SpotList) :
    (listPredicate session list).Clean := by
  cases list with
  | new =>
    refine .all fun p hp => ?_
    rcases List.mem_cons.mp hp with rfl | hp
    · exact .compare (safe_of_all (by decide)) (safe_of_all (by decide)) (safe_int _)
    · obtain rfl := List.mem_singleton.mp hp
      exact .isNull (safe_of_all (by decide))
  | myPosted => exact .compare (safe_of_all (by decide)) (safe_of_all (by decide)) (safe_int _)
  | downloaded => exact .isNull (safe_of_all (by decide))
  | watch => exact .isNull (safe_of_all (by decide))
  | seen => exact .isNull (safe_of_all (by decide))
  | whitelisted => exact .isNull (safe_of_all (by decide))

theorem fragment_listJoins (list : SpotList) : ∀ join ∈ listJoins list, Fragment join.sql := by
  have hjoin : ∀ join ∈ listJoins .myPosted, Fragment join.sql := by
    intro join h
    obtain rfl := List.mem_singleton.mp h
    exact fragment_of_lex (by decide)
  cases list with
  | myPosted => exact hjoin
  | _ => exact nofun

theorem fragment_listSortKeys (list : SpotList) :
    ∀ key ∈ listSortKeys list, Fragment key.column := by
  intro key h
  cases list with
  | myPosted | downloaded =>
    obtain rfl := List.mem_singleton.mp h
    exact fragment_of_chars (by decide)
  | _ => cases h

/-! ## Records -/

/-- What records came to so far is clean. -/
structure State.Sound (state : State) : Prop where
  andGroup : ∀ p ∈ state.andGroup, p.Clean
  orGroup : ∀ p ∈ state.orGroup, p.Clean
  joins : ∀ join ∈ state.joins, Fragment join.sql
  sortKeys : ∀ key ∈ state.sortKeys, Fragment key.column

theorem State.sound_start : State.start.Sound :=
  ⟨nofun, nofun, nofun, nofun⟩

variable {almanac : Almanac} {session : Session} {reference : Moment}

theorem State.Sound.add {state state' : State} (h : state.Sound) {field : Field}
    {record : FilterRecord} (hoperator : record.operator ∈ operators)
    (hadd : state.add almanac session reference field record = .ok state') : state'.Sound := by
  unfold State.add at hadd
  split at hadd
  · obtain rfl := Except.ok.inj hadd
    exact h
  · cases field with
    | text f =>
      obtain rfl := Except.ok.inj hadd
      exact ⟨h.andGroup, h.orGroup, h.joins, h.sortKeys⟩
    | list l =>
      obtain rfl := Except.ok.inj hadd
      refine ⟨fun p hp => ?_, h.orGroup, fun join hjoin => ?_, fun key hkey => ?_⟩
      · rcases List.mem_append.mp hp with hp | hp
        · exact h.andGroup p hp
        · obtain rfl := List.mem_singleton.mp hp
          exact clean_listPredicate session l
      · rcases List.mem_append.mp hjoin with hjoin | hjoin
        · exact h.joins join hjoin
        · exact fragment_listJoins l join hjoin
      · rcases List.mem_append.mp hkey with hkey | hkey
        · exact h.sortKeys key hkey
        · exact fragment_listSortKeys l key hkey
    | plain f =>
      obtain ⟨value, -, hadd⟩ := bind_eq_ok hadd
      have hclean : (compare f.column record.operator (literal value)).Clean :=
        .compare (safe_plainColumn f) (safe_of_mem_operators hoperator) (safe_literal value)
      obtain rfl := Except.ok.inj hadd
      split
      · refine ⟨h.andGroup, fun p hp => ?_, h.joins, h.sortKeys⟩
        rcases List.mem_append.mp hp with hp | hp
        · exact h.orGroup p hp
        · obtain rfl := List.mem_singleton.mp hp
          exact hclean
      · refine ⟨fun p hp => ?_, h.orGroup, h.joins, h.sortKeys⟩
        rcases List.mem_append.mp hp with hp | hp
        · exact h.andGroup p hp
        · obtain rfl := List.mem_singleton.mp hp
          exact hclean

theorem mem_operators_of_fieldOf? {record : FilterRecord} {field : Field}
    (h : fieldOf? record = some field) : record.operator ∈ operators := by
  unfold fieldOf? at h
  split at h
  · rename_i hcontains
    exact List.contains_iff_mem.mp hcontains
  · cases h

theorem State.Sound.collect {records : List FilterRecord} {state state' : State}
    {abortedAt : Option FilterRecord} (h : state.Sound)
    (hrun : collect almanac session reference state records = .ok (state', abortedAt)) :
    state'.Sound :=
  collect_preserves (fun _ _ _ _ hsound hfield hadd =>
    hsound.add (mem_operators_of_fieldOf? hfield) hadd) h hrun

/-- Everything that conditions add to a statement is clean. -/
structure Sound (conditions : Conditions) : Prop where
  andGroup : ∀ p ∈ conditions.andGroup, p.Clean
  orGroup : ∀ p ∈ conditions.orGroup, p.Clean
  extraColumns : ∀ s ∈ conditions.extraColumns, Fragment s
  extraTables : conditions.extraTables = []
  extraJoins : ∀ join ∈ conditions.extraJoins, Fragment join.sql
  sortKeys : ∀ key ∈ conditions.sortKeys, Fragment key.column

theorem State.Sound.finish {dialect : Dialect} (hdialect : dialect.Unquoted) {state : State}
    (h : state.Sound) (abortedAt : Option FilterRecord) :
    (state.finish dialect abortedAt).Sound where
  andGroup p hp := by
    rcases List.mem_append.mp hp with hp | hp
    · exact h.andGroup p hp
    · obtain ⟨search, -, rfl⟩ := List.mem_map.mp hp
      exact clean_searchPredicate hdialect search
  orGroup := h.orGroup
  extraColumns s hs := by
    obtain ⟨query, hquery, hs⟩ := List.mem_flatMap.mp hs
    obtain ⟨search, -, rfl⟩ := List.mem_map.mp hquery
    exact (sound_fieldQuery hdialect search).extraColumns s hs
  extraTables := rfl
  extraJoins := h.joins
  sortKeys key hkey := by
    rcases List.mem_append.mp hkey with hkey | hkey
    · exact h.sortKeys key hkey
    · obtain ⟨query, hquery, hkey⟩ := List.mem_flatMap.mp hkey
      obtain ⟨search, -, rfl⟩ := List.mem_map.mp hquery
      exact (sound_fieldQuery hdialect search).sortKeys key hkey

/-- The conditions of any records are sound. -/
theorem sound_ofRecords {dialect : Dialect} (hdialect : dialect.Unquoted)
    {records : List FilterRecord} {conditions : Conditions}
    (h : ofRecords almanac dialect session reference records = .ok conditions) : conditions.Sound := by
  obtain ⟨⟨state, abortedAt⟩, hrun, h⟩ := bind_eq_ok h
  obtain rfl := Except.ok.inj h
  exact (State.sound_start.collect hrun).finish hdialect abortedAt

end Conditions

end Sift
