import Sift.Filter.Conditions

/-!
# Storages

Two things of a filter are up to the storage: how a value is escaped, and how the text of a column is
searched. A storage may refuse either, and what it answers to a search may need tables beside the one
that is listed. The dialects are storages that never refuse and need no tables.
-/

namespace Sift

/-- The fragments that search one column, with the tables that they need. -/
structure Storage.Answer extends TextQuery where
  extraTables : List String
  deriving DecidableEq, Repr

/-- What a filter needs from a storage, which may refuse with a fault of its own. -/
structure Storage (ε : Type) where
  /-- A value that may stand between single quotes. -/
  escape : String → Except ε String
  /-- The fragments that search for values, each in its column. -/
  textQuery : List (String × String) → Except ε Storage.Answer

namespace Storage

open Predicate Conditions

variable {ε : Type}

/-- Why records have no conditions: a value that cannot be converted, or the storage refuses. -/
inductive Fault (ε : Type)
  | value (fault : Conditions.Fault)
  | refused (fault : ε)

/-- A value in SQL: numbers stand bare, all else in quotes. -/
def literal (storage : Storage ε) (value : String) : Except ε String :=
  if isNumeric value then storage.escape value else (storage.escape value).map Dialect.quote

/-- Adds a record with a known field and operator. Only a comparison is up to the storage here. -/
def add (storage : Storage ε) (almanac : Almanac) (session : Session) (reference : Moment)
    (state : State) (field : Field) (record : FilterRecord) : Except (Fault ε) State :=
  match field with
  | .plain f =>
    if record.value = "" then .ok state
    else do
      let value ← (coerce almanac f record.value reference).mapError .value
      let comparison := compare f.column record.operator
        (← (storage.literal value).mapError .refused)
      return if f.isAlternative then { state with orGroup := state.orGroup ++ [comparison] }
        else { state with andGroup := state.andGroup ++ [comparison] }
  | field => (state.add almanac session reference field record).mapError .value

/-- Adds records up to the first that is not understood, which is given with what came before. -/
def collect (storage : Storage ε) (almanac : Almanac) (session : Session) (reference : Moment)
    (state : State) : List FilterRecord → Except (Fault ε) (State × Option FilterRecord)
  | [] => .ok (state, none)
  | record :: rest =>
    match fieldOf? record with
    | none => .ok (state, some record)
    | some field => do
      storage.collect almanac session reference
        (← storage.add almanac session reference state field record) rest

/-- The predicate that searches a text field, and the fragments that it is made of. -/
def search (storage : Storage ε) (searched : TextField × List String) :
    Except ε (Predicate × Answer) := do
  let answer ← storage.textQuery (searched.2.map (searched.1.column, ·))
  let terms := answer.predicates.map raw
  return (if searched.1.matchesAny then any terms else all terms, answer)

/-- The conditions with the searches behind the comparisons. -/
def finish (storage : Storage ε) (state : State) (abortedAt : Option FilterRecord) :
    Except ε Conditions := do
  let searches ← state.searches.mapM storage.search
  return {
    andGroup := state.andGroup ++ searches.map Prod.fst
    orGroup := state.orGroup
    extraColumns := searches.flatMap (·.2.extraColumns)
    extraTables := searches.flatMap (·.2.extraTables)
    extraJoins := state.joins
    sortKeys := state.sortKeys ++ searches.flatMap (·.2.sortKeys)
    abortedAt }

/-- The conditions of filter records. -/
def conditions (storage : Storage ε) (almanac : Almanac) (session : Session) (reference : Moment)
    (records : List FilterRecord) : Except (Fault ε) Conditions := do
  let (state, abortedAt) ← storage.collect almanac session reference .start records
  (storage.finish state abortedAt).mapError .refused

/-- The storage of a dialect. -/
def ofDialect (dialect : Dialect) : Storage Empty where
  escape value := .ok (Dialect.escape value)
  textQuery searches := .ok { dialect.textQuery searches with extraTables := [] }

end Storage

end Sift
