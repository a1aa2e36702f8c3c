import Sift.Json.Writer
import Sift.Text.Case
import Sift.Text.Fields

/-!
# Filter records

A filter is written `field:operator:value`, where the value may hold colons, or `field:value` for
equality. The field is read in lower case. A search lists such entries, and may give one more as a
type and a text; the records of a search are those entries in order, each once.
-/

namespace Sift

/-- A field, an operator and a value. -/
structure FilterRecord where
  field : String
  operator : String
  value : String
  deriving DecidableEq, Repr

namespace FilterRecord

def parse (entry : String) : FilterRecord :=
  match Text.split ':' entry with
  | field :: operator :: value :: more =>
    ⟨Text.lower field, operator, Text.join ':' (value :: more)⟩
  | [field, value] => ⟨Text.lower field, "=", value⟩
  | [field] => ⟨Text.lower field, "=", ""⟩
  | [] => ⟨"", "=", ""⟩

def format (record : FilterRecord) : String :=
  record.field ++ ":" ++ record.operator ++ ":" ++ record.value

end FilterRecord

structure Search where
  /-- The shorthand of the categories. -/
  tree : Option String
  /-- The filter entries. Those that count as false are passed over. -/
  values : List Json
  /-- The field of one more entry, and its value. -/
  single : Option (Json × Json)
  /-- The categories of the default filter take the place of the given ones. -/
  unfiltered : Bool
  deriving Inhabited

namespace Search

/-- The entries of a search, the single one last. -/
def entries (search : Search) : List Json :=
  search.values ++ match search.single with
    | some (field, text) =>
      [.str (field.display ++ ":=:" ++ if text.isTrue then text.display else "")]
    | none => []

/-- Adds a record at the end unless it is there. -/
def addRecord (records : List FilterRecord) (record : FilterRecord) : List FilterRecord :=
  if record ∈ records then records else records ++ [record]

def records (search : Search) : List FilterRecord :=
  (search.entries.filter Json.isTrue).foldl
    (fun records entry => addRecord records (.parse entry.display)) []

/-- Reads a search from a request. Nothing is searched for without any field. -/
def ofJson (value : Json) : Option Search :=
  match value with
  | .obj (field :: fields) =>
    let request := Json.obj (field :: fields)
    some {
      tree := (request.field "tree").text?
      values := match request.field "value" with
        | .arr items => items
        | _ => []
      single := (request.field? "type").map (·, request.field "text")
      unfiltered := (request.field "unfiltered").text? == some "true" }
  | _ => none

end Search

end Sift
