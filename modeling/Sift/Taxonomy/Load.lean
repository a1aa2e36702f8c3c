import Sift.Json.Writer
import Sift.Taxonomy
import Sift.Text.Integer

/-!
# Loading a taxonomy

A taxonomy is read from nested tables: heads by number, each with a table of types and possibly a
table of dimensions, whose leaves are pairs of a label and the types it applies to. A number that
is given twice keeps its place and takes the later head.

Numbers are given as texts or as JSON, where none has more than `Integer.maxDigits` digits. A longer
one cannot be printed, so that no message about its head could be written; messages are given here as
if it could.
-/

namespace Sift.Taxonomy

/-- Data for a taxonomy: a plain value, a list or a table with its keys in order. -/
inductive Source
  | value (v : Json)
  | list (items : List Source)
  | table (entries : List (Json × Source))
  deriving Inhabited

inductive Fault
  /-- The key of a head, as it is shown, is no integer. -/
  | invalidHead (shown : String)
  /-- The key of a head is infinite. -/
  | infiniteHead
  | typesMissing (head : Int)
  | invalidType (key : String) (head : Int)
  /-- The key of a dimension, as it is shown, is none of the four letters. -/
  | invalidDimension (shown : String) (head : Int)
  /-- A leaf has fewer than two parts. -/
  | leafTooShort (parts : Nat)
  /-- A leaf has more than two parts. -/
  | leafTooLong
  /-- A value that is no table, shown by its kind, with what was asked of it. -/
  | notTable (kind operation : String)
  /-- A leaf that has no parts at all, shown by its kind. -/
  | notPair (kind : String)
  /-- The types of a leaf are of a kind that has no members. -/
  | notCollection (kind : String)
  /-- A member of the types of a leaf is a list or a table. -/
  | notScalar (kind : String)
  deriving DecidableEq, Repr

def Fault.message : Fault → String
  | .invalidHead shown => "Invalid head category id: " ++ shown
  | .infiniteHead => "cannot convert float infinity to integer"
  | .typesMissing head => "Head category " ++ toString head ++ " requires 'types'"
  | .invalidType key head =>
    "Invalid type key " ++ Text.quoted key ++ " in head category " ++ toString head
  | .invalidDimension shown head =>
    "Invalid dimension " ++ shown ++ " in head category " ++ toString head
  | .leafTooShort parts =>
    "not enough values to unpack (expected 2, got " ++ toString parts ++ ")"
  | .leafTooLong => "too many values to unpack (expected 2)"
  | .notTable kind operation =>
    Text.quoted kind ++ " object has no attribute " ++ Text.quoted operation
  | .notPair kind => "cannot unpack non-iterable " ++ kind ++ " object"
  | .notCollection kind => Text.quoted kind ++ " object is not iterable"
  | .notScalar kind => "unhashable type: " ++ Text.quoted kind

/-- The name of a field for a key, which is written as JSON unless it is a string. -/
def fieldName : Json → String
  | .str s => s
  | key => key.write

namespace Source

mutual

def toJson : Source → Json
  | value v => v
  | list items => .arr (itemsToJson items)
  | table entries => .obj (entriesToJson entries)

def itemsToJson : List Source → List Json
  | [] => []
  | item :: rest => item.toJson :: itemsToJson rest

/-- The entries of a table as fields. -/
def entriesToJson : List (Json × Source) → List (String × Json)
  | [] => []
  | (key, item) :: rest => (fieldName key, item.toJson) :: entriesToJson rest

end

mutual

/-- The text of data inside brackets. -/
def shown : Source → String
  | value v => v.shown
  | list items => "[" ++ ", ".intercalate (shownItems items) ++ "]"
  | table entries => "\x7b" ++ ", ".intercalate (shownEntries entries) ++ "\x7d"

/-- The texts of the items of a list. -/
def shownItems : List Source → List String
  | [] => []
  | item :: rest => item.shown :: shownItems rest

/-- The texts of the entries of a table. -/
def shownEntries : List (Json × Source) → List String
  | [] => []
  | (key, item) :: rest => (key.shown ++ ": " ++ item.shown) :: shownEntries rest

end

/-- The text of data on its own. -/
def display : Source → String
  | value v => v.display
  | source => source.shown

def kind : Source → String
  | value v => v.kind
  | list _ => "list"
  | table _ => "dict"

/-- The entries of a table that is asked for them. -/
def entries (operation : String) : Source → Except Fault (List (Json × Source))
  | table entries => .ok entries
  | value (.obj fields) => .ok (fields.map fun f => (.str f.1, value f.2))
  | source => .error (.notTable source.kind operation)

/-- The entry of a table for a name. -/
def find? (name : String) (entries : List (Json × Source)) : Option Source :=
  (entries.find? fun e => e.1.text? == some name).map Prod.snd

/-- The parts of a list, the characters of a string or the keys of a table. -/
def parts? : Source → Option (List Source)
  | list items => some items
  | value (.arr items) => some (items.map value)
  | value (.str s) => some (s.toList.map fun c => value (.str (String.singleton c)))
  | table entries => some (entries.map fun e => value e.1)
  | value (.obj fields) => some (fields.map fun f => value (.str f.1))
  | _ => none

/-- A value that is neither a list nor a table. -/
def scalar (source : Source) : Except Fault Json :=
  match source with
  | list _ | table _ | value (.arr _) | value (.obj _) => .error (.notScalar source.kind)
  | value v => .ok v

end Source

/-- The number of a head from its key. -/
def headNumber (key : Json) : Except Fault Int :=
  match key with
  | .str s => (Integer.read s).mapError fun _ => .invalidHead key.shown
  | .int n => .ok n
  | .bool b => .ok (if b then 1 else 0)
  | .float (.infinite _) => .error .infiniteHead
  | .float x => match x.truncate? with
    | some n => .ok n
    | none => .error (.invalidHead key.shown)
  | _ => .error (.invalidHead key.shown)

/-- A type key is `z` and one more character. -/
def isTypeKey (key : String) : Bool :=
  match key.toList with
  | ['z', _] => true
  | _ => false

/-- The types of a head. -/
def loadTypes (id : Int) (source : Source) : Except Fault (OrderedMap String String) := do
  let types := OrderedMap.ofList
    ((← source.entries "items").map fun e => (e.1.display, e.2.display))
  match types.keys.find? (! isTypeKey ·) with
  | some key => throw (.invalidType key id)
  | none => return types

/-- What is given as the types of a leaf. -/
def members (source : Source) : Except Fault (List Json) :=
  match source.parts? with
  | some members => members.mapM Source.scalar
  | none => .error (.notCollection source.kind)

/-- A leaf from its two parts. -/
def loadLeaf (source : Source) : Except Fault Leaf :=
  match source.parts? with
  | some [label, types] => do
    let given ← members types
    return {
      label := label.toJson
      types := given.filterMap (·.text?)
      others := given.filter (·.text?.isNone) }
  | some (_ :: _ :: _) => .error .leafTooLong
  | some parts => .error (.leafTooShort parts.length)
  | none => .error (.notPair source.kind)

/-- A dimension with its letter. -/
def loadDimension (id : Int) (key : Json) (source : Source) :
    Except Fault (String × Dimension) := do
  match key.text? with
  | none => throw (.invalidDimension key.shown id)
  | some dim =>
    if !dimensions.contains dim then throw (.invalidDimension key.shown id)
    let data ← source.entries "get"
    let label := ((Source.find? "label" data).map Source.toJson).getD (.str dim)
    let values ← match Source.find? "values" data with
      | some values => values.entries "items"
      | none => pure []
    let leaves ← values.mapM fun e => return (e.1.display, ← loadLeaf e.2)
    return (dim, { label, leaves := OrderedMap.ofList leaves })

def loadHead (key : Json) (source : Source) : Except Fault Head := do
  let id ← headNumber key
  let data ← (source.entries "get").mapError fun _ => .typesMissing id
  match Source.find? "types" data with
  | none => throw (.typesMissing id)
  | some typeData =>
    let types ← loadTypes id typeData
    let dimensionData ← match Source.find? "dimensions" data with
      | some dimensions => dimensions.entries "items"
      | none => pure []
    let dimensions ← dimensionData.mapM fun e => loadDimension id e.1 e.2
    let label := ((Source.find? "label" data).map Source.toJson).getD (.str ("cat" ++ toString id))
    return { id, label, types, dimensions := OrderedMap.ofList dimensions }

/-- A taxonomy from data. -/
def load (source : Source) : Except Fault Taxonomy := do
  let heads ← (← source.entries "items").mapM fun e => loadHead e.1 e.2
  return { heads := OrderedMap.ofList (heads.map fun head => (head.id, head)) }

end Sift.Taxonomy
