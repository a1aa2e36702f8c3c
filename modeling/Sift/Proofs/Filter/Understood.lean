import Sift.Filter.Conditions
import Sift.Proofs.Outcome
import Sift.Proofs.Shorthand.Grammar

/-!
# Records that are understood

Records are read up to the first with an unknown field or operator. Reading fails only on a value that
cannot be converted for its field (`exists_collect_iff`), and of dates only on those that are left to
the reader of free-form dates (`DateExpr.exists_timestamp_iff`). Every record that is read adds what is
its own to each part of the state (`add_eq_ok`), so two records of one field add its joins twice
(`collect_joins`), while the values that are searched for are gathered by field
(`nodup_searches_of_collect`).
-/

namespace Sift

/-! ## Dates that are read -/

namespace DateExpr

/-- The text of an expression as it is read. -/
def written (expr : String) : List Char :=
  (Text.lower (String.ofList (Text.trim expr.toList))).toList

/-- Reads a keyword, a number of seconds, a distance or a neighbour. -/
def form? (almanac : Almanac) (text : List Char) (reference : Moment) : Reading :=
  keyword? text reference <|> epoch? text <|> distance? almanac text reference <|>
    neighbour? almanac text reference

/-- If the expression says anything and is left to the reader of free-form dates, that one does not meet
a number that it cannot split. -/
def Readable (almanac : Almanac) (expr : String) (reference : Moment) : Prop :=
  written expr ≠ [] → form? almanac (written expr) reference = none →
    ∀ digits, almanac.read (written expr) reference.midnight ≠ .error (.overlong digits)

variable {almanac : Almanac} {expr : String} {reference : Moment}

theorem exists_timestamp_iff_moment :
    (∃ seconds, timestamp almanac expr reference = .ok seconds) ↔
      ∀ digits, moment almanac expr reference ≠ .error (.overlong digits) := by
  rw [timestamp]
  cases moment almanac expr reference with
  | ok m => exact iff_of_true ⟨_, rfl⟩ nofun
  | error fault =>
    cases fault with
    | unreadable => exact iff_of_true ⟨_, rfl⟩ nofun
    | overlong digits => exact iff_of_false nofun fun h => h digits rfl

/-- All but free-form dates stand for a number of seconds, however far away they are. -/
theorem exists_timestamp_iff :
    (∃ seconds, timestamp almanac expr reference = .ok seconds) ↔ Readable almanac expr reference := by
  rw [exists_timestamp_iff_moment, moment]
  split
  · rename_i hempty
    have hnil : written expr = [] := List.isEmpty_iff.mp hempty
    exact iff_of_true nofun fun hne => absurd hnil hne
  · rename_i hempty
    have hne : written expr ≠ [] := fun hnil => hempty (List.isEmpty_iff.mpr hnil)
    rw [Readable, forall_prop_of_true hne]
    split
    · rename_i moment hform
      have hsome : form? almanac (written expr) reference = some moment := hform
      rw [hsome]
      cases moment with
      | none => exact iff_of_true nofun nofun
      | some m => exact iff_of_true nofun nofun
    · rename_i hform
      exact ⟨fun h _ => h, fun h => h hform⟩

end DateExpr

namespace Conditions

variable {almanac : Almanac} {session : Session} {reference : Moment} {record : FilterRecord}

/-- The records that are read. -/
def understood (records : List FilterRecord) : List FilterRecord :=
  records.takeWhile fun record => (fieldOf? record).isSome

/-! ## Values that can be converted -/

/-- The digits that a stamp starts with, behind white space and a sign. -/
def stampDigits (value : String) : List Char :=
  (Integer.splitSign (value.toList.dropWhile Text.isBlank)).2.takeWhile Text.isDigit

/-- The number of bytes of a size before it is rounded. -/
def sizeNumber (value : String) : Binary64 :=
  (leadingNumber (Text.trim value.toList.dropLast)).scale
    (Size.unit (value.toList.drop (value.toList.length - 1)))

/-- The value of a record can be converted for its field: a stamp has no more digits than are read, a
size that is no plain number is finite, and a date can be read. -/
def Convertible (almanac : Almanac) (reference : Moment) (record : FilterRecord) : Prop :=
  record.value ≠ "" → match fieldOf? record with
    | some (.plain .date) => DateExpr.Readable almanac record.value reference
    | some (.plain .stamp) => (stampDigits record.value).length ≤ Integer.maxDigits
    | some (.plain .fileSize) => isNumeric record.value = true ∨
        ∃ negative mantissa exponent, sizeNumber record.value = .finite negative mantissa exponent
    | _ => True

theorem exists_leadingInteger_iff {value : String} :
    (∃ n, leadingInteger value = .ok n) ↔ (stampDigits value).length ≤ Integer.maxDigits := by
  rw [leadingInteger, stampDigits, ← Shorthand.exists_ofRun_iff]
  split
  rename_i negative body hsign
  rw [hsign]
  exact exists_bind_iff fun _ => ⟨_, rfl⟩

theorem exists_round_iff {x : Binary64} : x.round?.isSome = true ↔
    ∃ negative mantissa exponent, x = .finite negative mantissa exponent := by
  cases x with
  | finite negative mantissa exponent => exact iff_of_true rfl ⟨_, _, _, rfl⟩
  | infinite negative => exact iff_of_false nofun nofun
  | nan => exact iff_of_false nofun nofun

theorem bytes_eq_ok_iff {value : String} {n : Int} :
    Size.bytes value = .ok n ↔ (sizeNumber value).round? = some n := by
  rw [Size.bytes]
  split
  · rename_i m hround
    rw [sizeNumber, hround, Except.ok.injEq, Option.some.injEq]
  · rename_i hround
    rw [sizeNumber, hround]
    simp

theorem exists_bytes_iff {value : String} : (∃ n, Size.bytes value = .ok n) ↔
    ∃ negative mantissa exponent, sizeNumber value = .finite negative mantissa exponent := by
  rw [← exists_round_iff, Option.isSome_iff_exists]
  exact exists_congr fun n => bytes_eq_ok_iff

theorem exists_coerce_iff {field : PlainField} (hfield : fieldOf? record = some (.plain field))
    (hvalue : record.value ≠ "") :
    (∃ s, coerce almanac field record.value reference = .ok s) ↔
      Convertible almanac reference record := by
  rw [Convertible, hfield, forall_prop_of_true hvalue]
  cases field with
  | date => rw [coerce, exists_mapError_iff, exists_map_iff, DateExpr.exists_timestamp_iff]
  | stamp => rw [coerce, exists_mapError_iff, exists_map_iff, exists_leadingInteger_iff]
  | fileSize =>
    rw [coerce]
    split
    · rename_i hnumeric
      exact iff_of_true ⟨_, rfl⟩ (.inl hnumeric)
    · rename_i hother
      rw [exists_mapError_iff, exists_map_iff, exists_bytes_iff]
      exact (or_iff_right hother).symm
  | _ => exact iff_of_true ⟨_, rfl⟩ trivial

theorem not_convertible_of_infinite {negative : Bool}
    (hfield : fieldOf? record = some (.plain .fileSize)) (hnumeric : isNumeric record.value = false)
    (hinfinite : sizeNumber record.value = .infinite negative) :
    ¬Convertible almanac reference record := by
  have hempty : ∀ b, sizeNumber "" ≠ .infinite b := by decide
  have hvalue : record.value ≠ "" := by
    intro h
    rw [h] at hinfinite
    exact hempty negative hinfinite
  rw [Convertible, hfield, forall_prop_of_true hvalue]
  simp [hnumeric, hinfinite]

/-! ## Reading records -/

theorem exists_add_iff {state : State} {field : Field} (hfield : fieldOf? record = some field) :
    (∃ state', state.add almanac session reference field record = .ok state') ↔
      Convertible almanac reference record := by
  unfold State.add
  split
  · rename_i hempty
    exact iff_of_true ⟨_, rfl⟩ fun hne => absurd hempty hne
  · rename_i hvalue
    cases field with
    | plain f =>
      rw [← exists_coerce_iff hfield hvalue]
      exact exists_bind_iff fun _ => ⟨_, rfl⟩
    | text f =>
      refine iff_of_true ⟨_, rfl⟩ fun _ => ?_
      rw [hfield]
      trivial
    | list l =>
      refine iff_of_true ⟨_, rfl⟩ fun _ => ?_
      rw [hfield]
      trivial

/-- Reading fails only on a value that cannot be converted. -/
theorem exists_collect_iff {state : State} {records : List FilterRecord} :
    (∃ result, collect almanac session reference state records = .ok result) ↔
      ∀ record ∈ understood records, Convertible almanac reference record := by
  induction records generalizing state with
  | nil => exact iff_of_true ⟨_, rfl⟩ nofun
  | cons record rest ih =>
    rw [collect, understood]
    cases hfield : fieldOf? record with
    | none =>
      rw [List.takeWhile_cons_of_neg (by simp [hfield])]
      exact iff_of_true ⟨_, rfl⟩ nofun
    | some field =>
      have hadds : (∃ next, state.add almanac session reference field record = .ok next) ↔
          Convertible almanac reference record := exists_add_iff hfield
      rw [List.takeWhile_cons_of_pos (by simp [hfield]), List.forall_mem_cons, ← hadds]
      constructor
      · rintro ⟨result, h⟩
        obtain ⟨next, hadd, h⟩ := bind_eq_ok h
        exact ⟨⟨next, hadd⟩, ih.mp ⟨result, h⟩⟩
      · rintro ⟨⟨next, hadd⟩, hrest⟩
        simp only [hadd]
        exact ih.mpr hrest

theorem collect_preserves {p : State → Prop}
    (hadd : ∀ state record field state', p state → fieldOf? record = some field →
      state.add almanac session reference field record = .ok state' → p state')
    {records : List FilterRecord} {state state' : State} {abortedAt : Option FilterRecord}
    (hstate : p state) (h : collect almanac session reference state records = .ok (state', abortedAt)) :
    p state' := by
  induction records generalizing state with
  | nil =>
    obtain ⟨rfl, -⟩ := Prod.mk.inj (Except.ok.inj h)
    exact hstate
  | cons record rest ih =>
    rw [collect] at h
    split at h
    · obtain ⟨rfl, -⟩ := Prod.mk.inj (Except.ok.inj h)
      exact hstate
    · rename_i field hfield
      obtain ⟨next, hnext, h⟩ := bind_eq_ok h
      exact ih (hadd state record field next hstate hfield hnext) h

theorem exists_ofRecords_iff {dialect : Dialect} {records : List FilterRecord} :
    (∃ conditions, ofRecords almanac dialect session reference records = .ok conditions) ↔
      ∀ record ∈ understood records, Convertible almanac reference record := by
  have hcollect : (∃ result, collect almanac session reference .start records = .ok result) ↔
      ∀ record ∈ understood records, Convertible almanac reference record := exists_collect_iff
  rw [← hcollect]
  exact exists_bind_iff fun _ => ⟨_, rfl⟩

/-! ## What records add -/

theorem collect_flatMap {β : Type} (part : State → List β) {own : FilterRecord → List β}
    (hadd : ∀ {state record field state'}, fieldOf? record = some field →
      state.add almanac session reference field record = .ok state' →
      part state' = part state ++ own record)
    {records : List FilterRecord} {state state' : State} {abortedAt : Option FilterRecord}
    (h : collect almanac session reference state records = .ok (state', abortedAt)) :
    part state' = part state ++ (understood records).flatMap own := by
  induction records generalizing state with
  | nil =>
    obtain ⟨rfl, -⟩ := Prod.mk.inj (Except.ok.inj h)
    exact (List.append_nil _).symm
  | cons record rest ih =>
    rw [collect] at h
    rw [understood]
    cases hfield : fieldOf? record with
    | none =>
      rw [hfield] at h
      obtain ⟨rfl, -⟩ := Prod.mk.inj (Except.ok.inj h)
      rw [List.takeWhile_cons_of_neg (by simp [hfield])]
      exact (List.append_nil _).symm
    | some field =>
      rw [hfield] at h
      obtain ⟨next, hnext, h⟩ := bind_eq_ok h
      rw [List.takeWhile_cons_of_pos (by simp [hfield]), List.flatMap_cons, ih h,
        hadd hfield hnext, List.append_assoc, understood]

/-- What a record with a plain field asks for, if its value can be converted. -/
def comparisons (almanac : Almanac) (reference : Moment) (field : PlainField)
    (record : FilterRecord) : List Predicate :=
  match coerce almanac field record.value reference with
  | .ok value => [.compare field.column record.operator (literal value)]
  | .error _ => []

/-- What a record asks of every row. -/
def demands (almanac : Almanac) (session : Session) (reference : Moment) (record : FilterRecord) :
    List Predicate :=
  if record.value = "" then []
  else match fieldOf? record with
    | some (.plain f) => if f.isAlternative then [] else comparisons almanac reference f record
    | some (.list l) => [listPredicate session l]
    | _ => []

/-- What a record asks for as one of several. -/
def alternatives (almanac : Almanac) (reference : Moment) (record : FilterRecord) :
    List Predicate :=
  if record.value = "" then []
  else match fieldOf? record with
    | some (.plain f) => if f.isAlternative then comparisons almanac reference f record else []
    | _ => []

/-- The text field that a record searches. -/
def searched? (record : FilterRecord) : Option TextField :=
  if record.value = "" then none
  else match fieldOf? record with
    | some (.text f) => some f
    | _ => none

/-- The joins that a record adds. -/
def joinsOf (record : FilterRecord) : List Join :=
  if record.value = "" then []
  else match fieldOf? record with
    | some (.list l) => listJoins l
    | _ => []

/-- The sort keys that a record adds. -/
def sortKeysOf (record : FilterRecord) : List SortKey :=
  if record.value = "" then []
  else match fieldOf? record with
    | some (.list l) => listSortKeys l
    | _ => []

section

variable {p : Predicate}

theorem mem_comparisons {field : PlainField} (h : p ∈ comparisons almanac reference field record) :
    ∃ s, coerce almanac field record.value reference = .ok s ∧
      p = .compare field.column record.operator (literal s) := by
  unfold comparisons at h
  split at h
  · rename_i s hcoerce
    exact ⟨s, hcoerce, List.mem_singleton.mp h⟩
  · cases h

theorem mem_demands (h : p ∈ demands almanac session reference record) : record.value ≠ "" ∧
    ((∃ field, fieldOf? record = some (.plain field) ∧ p ∈ comparisons almanac reference field record) ∨
      ∃ list, fieldOf? record = some (.list list) ∧ p = listPredicate session list) := by
  unfold demands at h
  split at h
  · cases h
  · rename_i hvalue
    refine ⟨hvalue, ?_⟩
    split at h
    · rename_i field hfield
      split at h
      · cases h
      · exact .inl ⟨field, hfield, h⟩
    · rename_i list hfield
      exact .inr ⟨list, hfield, List.mem_singleton.mp h⟩
    · cases h

theorem mem_alternatives (h : p ∈ alternatives almanac reference record) :
    ∃ field, fieldOf? record = some (.plain field) ∧ p ∈ comparisons almanac reference field record := by
  unfold alternatives at h
  split at h
  · cases h
  · split at h
    · rename_i field hfield
      split at h
      · exact ⟨field, hfield, h⟩
      · cases h
    · cases h

end

theorem mem_joinsOf {join : Join} (h : join ∈ joinsOf record) :
    ∃ list, join ∈ listJoins list := by
  unfold joinsOf at h
  split at h
  · cases h
  · split at h
    · exact ⟨_, h⟩
    · cases h

theorem mem_sortKeysOf {key : SortKey} (h : key ∈ sortKeysOf record) :
    ∃ list, key ∈ listSortKeys list ∧ joinsOf record = listJoins list := by
  unfold sortKeysOf at h
  split at h
  · cases h
  · rename_i hvalue
    split at h
    · rename_i list hfield
      exact ⟨list, h, by simp only [joinsOf, if_neg hvalue, hfield]⟩
    · cases h

theorem add_eq_ok {state state' : State} {field : Field} (hfield : fieldOf? record = some field)
    (h : state.add almanac session reference field record = .ok state') :
    state' = {
      andGroup := state.andGroup ++ demands almanac session reference record
      orGroup := state.orGroup ++ alternatives almanac reference record
      searches := (searched? record).elim state.searches (addSearch · record.value state.searches)
      joins := state.joins ++ joinsOf record
      sortKeys := state.sortKeys ++ sortKeysOf record } := by
  unfold State.add at h
  simp only [demands, alternatives, searched?, joinsOf, sortKeysOf, hfield]
  split at h
  · rename_i hempty
    obtain rfl := Except.ok.inj h
    simp [hempty]
  · rename_i hvalue
    simp only [if_neg hvalue]
    cases field with
    | text f =>
      obtain rfl := Except.ok.inj h
      simp
    | list l =>
      obtain rfl := Except.ok.inj h
      simp
    | plain f =>
      obtain ⟨value, hcoerce, h⟩ := bind_eq_ok h
      obtain rfl := Except.ok.inj h
      cases halternative : f.isAlternative with
      | true => simp [comparisons, hcoerce, halternative]
      | false => simp [comparisons, hcoerce, halternative]

section

variable {records : List FilterRecord} {state state' : State} {abortedAt : Option FilterRecord}

theorem collect_andGroup
    (h : collect almanac session reference state records = .ok (state', abortedAt)) :
    state'.andGroup =
      state.andGroup ++ (understood records).flatMap (demands almanac session reference) :=
  collect_flatMap State.andGroup
    (fun hfield hadd => congrArg State.andGroup (add_eq_ok hfield hadd)) h

theorem collect_orGroup
    (h : collect almanac session reference state records = .ok (state', abortedAt)) :
    state'.orGroup = state.orGroup ++ (understood records).flatMap (alternatives almanac reference) :=
  collect_flatMap State.orGroup (fun hfield hadd => congrArg State.orGroup (add_eq_ok hfield hadd)) h

theorem collect_joins
    (h : collect almanac session reference state records = .ok (state', abortedAt)) :
    state'.joins = state.joins ++ (understood records).flatMap joinsOf :=
  collect_flatMap State.joins (fun hfield hadd => congrArg State.joins (add_eq_ok hfield hadd)) h

theorem collect_sortKeys
    (h : collect almanac session reference state records = .ok (state', abortedAt)) :
    state'.sortKeys = state.sortKeys ++ (understood records).flatMap sortKeysOf :=
  collect_flatMap State.sortKeys
    (fun hfield hadd => congrArg State.sortKeys (add_eq_ok hfield hadd)) h

end

theorem mem_fields_addSearch {field f : TextField} {value : String}
    {searches : List (TextField × List String)} :
    f ∈ (addSearch field value searches).map Prod.fst ↔ f = field ∨ f ∈ searches.map Prod.fst := by
  induction searches with
  | nil => simp [addSearch]
  | cons search searches ih =>
    obtain ⟨g, values⟩ := search
    rw [addSearch]
    split
    · rename_i hg
      simp [hg]
    · rw [List.map_cons, List.map_cons, List.mem_cons, List.mem_cons, ih]
      exact or_left_comm

theorem nodup_addSearch {field : TextField} {value : String}
    {searches : List (TextField × List String)} (h : (searches.map Prod.fst).Nodup) :
    ((addSearch field value searches).map Prod.fst).Nodup := by
  induction searches with
  | nil => simp [addSearch]
  | cons search searches ih =>
    obtain ⟨g, values⟩ := search
    rw [List.map_cons, List.nodup_cons] at h
    rw [addSearch]
    split
    · exact List.nodup_cons.mpr h
    · rename_i hg
      rw [List.map_cons, List.nodup_cons, mem_fields_addSearch, not_or]
      exact ⟨⟨hg, h.1⟩, ih h.2⟩

theorem nodup_searches_of_add {state state' : State} {field : Field}
    (hfield : fieldOf? record = some field) (hstate : (state.searches.map Prod.fst).Nodup)
    (h : state.add almanac session reference field record = .ok state') :
    (state'.searches.map Prod.fst).Nodup := by
  rw [add_eq_ok hfield h]
  cases searched? record with
  | none => exact hstate
  | some f => exact nodup_addSearch hstate

theorem nodup_searches_of_collect {records : List FilterRecord} {state state' : State}
    {abortedAt : Option FilterRecord} (hstate : (state.searches.map Prod.fst).Nodup)
    (h : collect almanac session reference state records = .ok (state', abortedAt)) :
    (state'.searches.map Prod.fst).Nodup :=
  collect_preserves (p := fun state => (state.searches.map Prod.fst).Nodup)
    (fun _ _ _ _ hstate hfield hadd => nodup_searches_of_add hfield hstate hadd) hstate h

end Conditions

end Sift
