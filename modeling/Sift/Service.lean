import Sift.Descriptor
import Sift.Listing.Spot
import Sift.Picker
import Sift.Request.Filter
import Sift.Settings
import Sift.Taxonomy.Default

/-!
# The filter service

What the service does for its clients, on the default taxonomy: it compiles filters, writes
selections in shorthand and shows the category picker. Its answers are JSON objects.
-/

namespace Sift

namespace Compiler

/-- The compiler that settings ask for, unless they name no dialect. -/
def ofSettings? (settings : Settings) (almanac : Almanac) : Option Compiler :=
  (Dialect.ofName? settings.dialect).map fun dialect => {
    taxonomy := Taxonomy.default
    dialect := dialect.withConfig settings.textConfig
    baseline := if settings.defaultTree = "" then none else some settings.defaultTree
    almanac }

/-- Compiles the filter of a request. -/
def answer (compiler : Compiler) (request : FilterRequest) (reference : Moment) :
    Except Fault Descriptor :=
  compiler.compile (request.search.bind (·.toSearch)) (request.sort.getD .none)
    ⟨request.userId, request.lastRead⟩ reference

/-- Writes the selection of a request in shorthand. -/
def shorthand (compiler : Compiler) (request : ShorthandRequest) : Except Integer.Fault String := do
  let selection ← Selection.ofData request.selection
  let negations ← Negations.ofData request.negations
  return Shorthand.compress compiler.taxonomy selection negations

/-- The picker under the selection that a shorthand stands for. -/
def picker (compiler : Compiler) (tree : String) : Except Integer.Fault (List Picker.Node) := do
  let (selection, negations) ←
    if tree = "" then pure (.empty, .empty) else Shorthand.expandTree compiler.taxonomy tree
  return Picker.tree compiler.taxonomy selection negations

end Compiler

/-! ## Answers -/

def Selection.toJson (sel : Selection) : Json :=
  .obj (sel.toData.map fun (head, types) =>
    (head, .obj (types.map fun (type, dims) =>
      (type, .obj (dims.map fun (dim, values) => (dim, .texts values))))))

def Negations.toJson (neg : Negations) : Json :=
  .obj (neg.toData.map fun (head, selectors) => (head, .texts selectors))

def FilterRecord.toJson (record : FilterRecord) : Json :=
  .obj [("field", .str record.field), ("operator", .str record.operator),
    ("value", .str record.value)]

def SortKey.toJson (key : SortKey) : Json :=
  .obj [("column", .str key.column), ("direction", .str key.direction),
    ("auto_added", .bool key.autoAdded), ("display_name", .orNull .str key.displayName)]

/-- A compiled filter as an object, with the shorthand for links to its other pages. -/
def Descriptor.toJson (descriptor : Descriptor) (pagingTree : String) : Json :=
  .obj [("predicate", .str descriptor.predicate),
    ("category_selection", descriptor.selection.toJson),
    ("strong_negations", descriptor.negations.toJson),
    ("filter_records", .arr (descriptor.records.map (·.toJson))),
    ("extra_columns", .texts descriptor.extraColumns),
    ("extra_tables", .texts descriptor.extraTables),
    ("extra_joins", .texts (descriptor.extraJoins.map (·.sql))),
    ("sort_keys", .arr (descriptor.sortKeys.map (·.toJson))),
    ("is_unfiltered", .bool descriptor.isUnfiltered),
    ("paging_tree", .str pagingTree)]

namespace Picker.Node

mutual

def toJson : Node → Json
  | mk key title selected negated children =>
    .obj [("key", .str key), ("title", title), ("select", .bool selected),
      ("negated", .bool negated), ("children", .arr (allToJson children))]

def allToJson : List Node → List Json
  | [] => []
  | node :: rest => toJson node :: allToJson rest

end

end Picker.Node

end Sift
