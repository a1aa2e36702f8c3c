import Sift.Boundary.Almanac
import Sift.Filter.Storage
import Sift.Proofs.Filter.Understood

/-!
# Conditions of any storage

The conditions of a dialect are those of its storage (`conditions_ofDialect`). Whatever the storage
answers, the first record that is not understood ends the reading and leaves no trace but its mark:
the searches that were gathered before it are still made, and neither it nor what stands behind it
adds anything (`conditions_append`).
-/

namespace Sift.Storage

open Predicate Conditions

variable {ε : Type}

/-! ## Dialects -/

variable (dialect : Dialect)

theorem literal_ofDialect (value : String) :
    (ofDialect dialect).literal value = .ok (Conditions.literal value) := by
  rw [literal, Conditions.literal]
  split <;> rfl

theorem add_ofDialect (almanac : Almanac) (session : Session) (reference : Moment) (state : State)
    (field : Field) (record : FilterRecord) :
    (ofDialect dialect).add almanac session reference state field record =
      (state.add almanac session reference field record).mapError .value := by
  cases field with
  | plain f =>
    rw [add, State.add]
    split
    · rfl
    · cases coerce almanac f record.value reference with
      | error fault => rfl
      | ok value =>
        show ((ofDialect dialect).literal value).mapError Fault.refused >>= _ = _
        rw [literal_ofDialect]
        rfl
  | text f => rfl
  | list l => rfl

theorem collect_ofDialect (almanac : Almanac) (session : Session) (reference : Moment) (state : State)
    (records : List FilterRecord) : (ofDialect dialect).collect almanac session reference state records =
      (Conditions.collect almanac session reference state records).mapError .value := by
  induction records generalizing state with
  | nil => rfl
  | cons record rest ih =>
    rw [collect, Conditions.collect]
    cases fieldOf? record with
    | none => rfl
    | some field =>
      show (ofDialect dialect).add almanac session reference state field record >>= _ =
        (state.add almanac session reference field record >>= _).mapError .value
      rw [add_ofDialect]
      cases state.add almanac session reference field record with
      | error fault => rfl
      | ok next => exact ih next

theorem finish_ofDialect (state : State) (abortedAt : Option FilterRecord) :
    (ofDialect dialect).finish state abortedAt = .ok (state.finish dialect abortedAt) := by
  have hsearch : ∀ searched ∈ state.searches, (ofDialect dialect).search searched =
      .ok (searchPredicate dialect searched,
        { fieldQuery dialect searched with extraTables := [] }) := fun _ _ => rfl
  rw [finish, mapM_eq_map hsearch]
  show Except.ok _ = Except.ok _
  simp [State.finish, List.map_map, List.flatMap_map, Function.comp_def]

/-- The conditions of a dialect are those of its storage. -/
theorem conditions_ofDialect (almanac : Almanac) (session : Session) (reference : Moment)
    (records : List FilterRecord) : (ofDialect dialect).conditions almanac session reference records =
      (Conditions.ofRecords almanac dialect session reference records).mapError .value := by
  rw [conditions, Conditions.ofRecords, collect_ofDialect]
  cases Conditions.collect almanac session reference .start records with
  | error fault => rfl
  | ok result =>
    show ((ofDialect dialect).finish result.1 result.2).mapError Fault.refused = _
    rw [finish_ofDialect]
    rfl

/-! ## Readings that end early -/

variable {storage : Storage ε} {almanac : Almanac} {session : Session} {reference : Moment}
  {bad : FilterRecord}

theorem collect_append {pre : List FilterRecord}
    (hpre : ∀ record ∈ pre, (fieldOf? record).isSome = true) (hbad : fieldOf? bad = none)
    (post : List FilterRecord) (state : State) :
    storage.collect almanac session reference state (pre ++ bad :: post) =
      (storage.collect almanac session reference state pre).map fun result => (result.1, some bad) := by
  induction pre generalizing state with
  | nil =>
    rw [List.nil_append, collect, collect, hbad]
    rfl
  | cons record pre ih =>
    obtain ⟨field, hfield⟩ := Option.isSome_iff_exists.mp (hpre record List.mem_cons_self)
    rw [List.cons_append, collect, collect, hfield]
    show storage.add almanac session reference state field record >>= _ =
      (storage.add almanac session reference state field record >>= _).map _
    cases storage.add almanac session reference state field record with
    | error fault => rfl
    | ok next => exact ih (fun record h => hpre record (List.mem_cons_of_mem _ h)) next

theorem finish_abortedAt (state : State) (abortedAt : Option FilterRecord) :
    storage.finish state (some bad) = (storage.finish state abortedAt).map fun conditions =>
      { conditions with abortedAt := some bad } := by
  rw [finish, finish]
  cases state.searches.mapM storage.search with
  | error fault => rfl
  | ok searches => rfl

/-- Behind records that are understood, one that is not ends the reading: the conditions are those of
the records before it, with its mark, whatever stands behind it. -/
theorem conditions_append {pre : List FilterRecord}
    (hpre : ∀ record ∈ pre, (fieldOf? record).isSome = true) (hbad : fieldOf? bad = none)
    (post : List FilterRecord) : storage.conditions almanac session reference (pre ++ bad :: post) =
      (storage.conditions almanac session reference pre).map fun conditions =>
        { conditions with abortedAt := some bad } := by
  rw [conditions, conditions, collect_append hpre hbad]
  cases storage.collect almanac session reference .start pre with
  | error fault => rfl
  | ok result =>
    show (storage.finish result.1 (some bad)).mapError Fault.refused =
      ((storage.finish result.1 result.2).mapError Fault.refused).map _
    rw [finish_abortedAt result.1 result.2]
    cases storage.finish result.1 result.2 with
    | error fault => rfl
    | ok conditions => rfl

theorem ofRecords_append (dialect : Dialect) {pre : List FilterRecord}
    (hpre : ∀ record ∈ pre, (fieldOf? record).isSome = true) (hbad : fieldOf? bad = none)
    (post : List FilterRecord) : ofRecords almanac dialect session reference (pre ++ bad :: post) =
      (ofRecords almanac dialect session reference pre).map fun conditions =>
        { conditions with abortedAt := some bad } := by
  have happend : (ofDialect dialect).conditions almanac session reference (pre ++ bad :: post) = _ :=
    conditions_append hpre hbad post
  rw [conditions_ofDialect, conditions_ofDialect] at happend
  cases hbefore : ofRecords almanac dialect session reference pre with
  | error fault =>
    rw [hbefore] at happend
    cases hall : ofRecords almanac dialect session reference (pre ++ bad :: post) with
    | error fault' =>
      rw [hall] at happend
      obtain rfl := Fault.value.inj (Except.error.inj happend)
      rfl
    | ok conditions =>
      rw [hall] at happend
      cases happend
  | ok conditions =>
    rw [hbefore] at happend
    exact mapError_eq_ok happend

/-- The first record that is not understood ends the reading with any storage, and so with any
dialect: the conditions are those of the records before it, with its mark. -/
theorem ends_at_first_unknown {pre : List FilterRecord}
    (hpre : ∀ record ∈ pre, (fieldOf? record).isSome = true) (hbad : fieldOf? bad = none)
    (post : List FilterRecord) :
    storage.conditions almanac session reference (pre ++ bad :: post) =
        (storage.conditions almanac session reference pre).map
          (fun conditions => { conditions with abortedAt := some bad }) ∧
      ∀ dialect, ofRecords almanac dialect session reference (pre ++ bad :: post) =
        (ofRecords almanac dialect session reference pre).map
          fun conditions => { conditions with abortedAt := some bad } :=
  ⟨conditions_append hpre hbad post, fun dialect => ofRecords_append dialect hpre hbad post⟩

/-- A storage that matches titles in a table of its own, with a search that is gathered before a
record of an unknown field and one that is not after it. -/
theorem ends_at_bogus :
    let storage : Storage Unit := ⟨.ok, fun searches => .ok
      ⟨⟨searches.map fun (column, value) => column ++ " ~ " ++ value, [], []⟩, ["titles"]⟩⟩
    let pre : List FilterRecord := [⟨"titel", "=", "ubuntu"⟩, ⟨"Downloaded", "=", "1"⟩]
    let bad : FilterRecord := ⟨"bogus", "=", "1"⟩
    ∃ conditions, storage.conditions (.standard 2000) ⟨42, 0⟩ default pre = .ok conditions ∧
      conditions.extraTables = ["titles"] ∧ conditions.abortedAt = none ∧
      storage.conditions (.standard 2000) ⟨42, 0⟩ default
          (pre ++ bad :: [⟨"tag", "!=", "iso"⟩]) =
        .ok { conditions with abortedAt := some bad } := by
  intro storage pre bad
  have hpre : ∀ record ∈ pre, (fieldOf? record).isSome = true := by decide
  have hbad : fieldOf? bad = none := by decide
  exact ⟨_, rfl, rfl, rfl, (ends_at_first_unknown hpre hbad _).1⟩

end Sift.Storage
