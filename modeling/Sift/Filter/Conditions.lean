import Sift.Dialect
import Sift.Filter.Field
import Sift.Filter.Numeral
import Sift.Filter.Record
import Sift.Predicate
import Sift.Time.Expression

/-!
# Filter conditions

Filter records become predicates. Comparisons hold together, except those on spotters, which are
alternatives. The searches of one text column are gathered and handed to the dialect at once. A list
of spots adds a predicate on the user's own columns, and may add a join and a sort key.

The first record with an unknown field or operator ends the reading: what comes before it is kept
and what comes after it is dropped. A record with an empty value says nothing.
-/

namespace Sift

/-- The user whose lists are asked for, and when the spots were last read. -/
structure Session where
  userId : Int
  lastRead : Int
  deriving DecidableEq, Repr

/-- A join of another table. -/
structure Join where
  table : String
  tableAlias : String
  joinType : String
  condition : String
  deriving DecidableEq, Repr

def Join.sql (join : Join) : String :=
  join.joinType ++ " JOIN " ++ join.table ++ " AS " ++ join.tableAlias ++ " ON " ++ join.condition

namespace Conditions

open Predicate

/-- Why a value has no comparison. -/
inductive Fault
  | number (fault : Integer.Fault)
  | size (fault : Size.Fault)
  | date (fault : DateExpr.Overlong)
  deriving DecidableEq, Repr

def Fault.message : Fault → String
  | .number fault => fault.message
  | .size fault => fault.message
  | .date fault => fault.message

/-- The value that a column is compared with: a date in seconds, the number that a stamp starts
with, a size in bytes, and else the value itself. -/
def coerce (almanac : Almanac) (field : PlainField) (value : String) (reference : Moment) :
    Except Fault String :=
  match field with
  | .date => (DateExpr.timestamp almanac value reference).map toString |>.mapError .date
  | .stamp => (leadingInteger value).map toString |>.mapError .number
  | .fileSize =>
    if isNumeric value then .ok value else (Size.bytes value).map toString |>.mapError .size
  | _ => .ok value

/-- A value in SQL: numbers stand bare, all else in quotes. -/
def literal (value : String) : String :=
  if isNumeric value then Dialect.escape value else Dialect.quote (Dialect.escape value)

/-- What a list of spots demands. -/
def listPredicate (session : Session) : SpotList → Predicate
  | .new => all [compare "s.stamp" ">" (toString session.lastRead), isNull "l.seen" false]
  | .downloaded => isNull "l.download" true
  | .watch => isNull "l.watch" true
  | .seen => isNull "l.seen" true
  | .myPosted => compare "spost.ouruserid" "=" (toString session.userId)
  | .whitelisted => isNull "wl.spotterid" true

/-- The joins of a list of spots. -/
def listJoins : SpotList → List Join
  | .myPosted => [⟨"spotsposted", "spost", "LEFT", "spost.messageid = s.messageid"⟩]
  | _ => []

/-- The sort keys of a list of spots. -/
def listSortKeys : SpotList → List SortKey
  | .myPosted => [.automatic "spost.stamp"]
  | .downloaded => [.automatic "downloadstamp"]
  | _ => []

/-- What records come to so far. -/
structure State where
  /-- Predicates that hold together. -/
  andGroup : List Predicate
  /-- Predicates that are alternatives. -/
  orGroup : List Predicate
  /-- The values searched for in each text field. -/
  searches : List (TextField × List String)
  joins : List Join
  sortKeys : List SortKey
  deriving Inhabited

/-- Nothing so far. -/
def State.start : State := ⟨[], [], [], [], []⟩

/-- Adds a value to the searches of its field. -/
def addSearch (field : TextField) (value : String) :
    List (TextField × List String) → List (TextField × List String)
  | [] => [(field, [value])]
  | (f, values) :: rest =>
    if f = field then (f, values ++ [value]) :: rest else (f, values) :: addSearch field value rest

/-- Adds a record with a known field and operator. -/
def State.add (almanac : Almanac) (session : Session) (reference : Moment) (state : State)
    (field : Field) (record : FilterRecord) : Except Fault State :=
  if record.value = "" then .ok state
  else match field with
    | .text f => .ok { state with searches := addSearch f record.value state.searches }
    | .list l => .ok { state with
        andGroup := state.andGroup ++ [listPredicate session l]
        joins := state.joins ++ listJoins l
        sortKeys := state.sortKeys ++ listSortKeys l }
    | .plain f => do
      let comparison := compare f.column record.operator
        (literal (← coerce almanac f record.value reference))
      return if f.isAlternative then { state with orGroup := state.orGroup ++ [comparison] }
        else { state with andGroup := state.andGroup ++ [comparison] }

/-- The field of a record, if its field and its operator are known. -/
def fieldOf? (record : FilterRecord) : Option Field :=
  if operators.contains record.operator then Field.ofName? (Text.lower record.field) else none

/-- Adds records up to the first that is not understood, which is given with what came before. -/
def collect (almanac : Almanac) (session : Session) (reference : Moment) (state : State) :
    List FilterRecord → Except Fault (State × Option FilterRecord)
  | [] => .ok (state, none)
  | record :: rest =>
    match fieldOf? record with
    | none => .ok (state, some record)
    | some field => do
      collect almanac session reference (← state.add almanac session reference field record) rest

end Conditions

/-- What filter records come to in SQL. -/
structure Conditions where
  andGroup : List Predicate
  orGroup : List Predicate
  extraColumns : List String
  extraTables : List String
  extraJoins : List Join
  sortKeys : List SortKey
  /-- The record that ended the reading. -/
  abortedAt : Option FilterRecord
  deriving Inhabited

namespace Conditions

open Predicate

/-- The fragments that search a text field. -/
def fieldQuery (dialect : Dialect) (search : TextField × List String) : TextQuery :=
  dialect.textQuery (search.2.map (search.1.column, ·))

/-- The predicate that searches a text field. -/
def searchPredicate (dialect : Dialect) (search : TextField × List String) : Predicate :=
  let terms := (fieldQuery dialect search).predicates.map raw
  if search.1.matchesAny then any terms else all terms

/-- The conditions with the searches behind the comparisons. -/
def State.finish (dialect : Dialect) (state : State) (abortedAt : Option FilterRecord) :
    Conditions :=
  let queries := state.searches.map (fieldQuery dialect)
  { andGroup := state.andGroup ++ state.searches.map (searchPredicate dialect)
    orGroup := state.orGroup
    extraColumns := queries.flatMap (·.extraColumns)
    extraTables := []
    extraJoins := state.joins
    sortKeys := state.sortKeys ++ queries.flatMap (·.sortKeys)
    abortedAt }

/-- The conditions of filter records. -/
def ofRecords (almanac : Almanac) (dialect : Dialect) (session : Session) (reference : Moment)
    (records : List FilterRecord) : Except Fault Conditions := do
  let (state, abortedAt) ← collect almanac session reference .start records
  return state.finish dialect abortedAt

end Conditions

end Sift
