import Sift.OrderedMap
import Sift.Text.Integer

/-!
# Selections and strong negations

A selection lists values by head, type and dimension. A type without any dimension selects every
value of every dimension, and a dimension that is present narrows its type to the listed values, so
an absent dimension is not the same as an empty one.

Strong negations list, by head, selectors that must never match: the empty selector for the whole
head, a type, a dimension value, or a type and a dimension value with an underscore between.
-/

namespace Sift

/-- Adds a value at the end unless it is listed. -/
def insertNew (value : String) (values : List String) : List String :=
  if value ∈ values then values else values ++ [value]

/-- The values of a type by dimension. -/
abbrev Dims := OrderedMap String (List String)

/-- The types of a head with their dimensions. -/
abbrev Types := OrderedMap String Dims

/-- Selected values by head, type and dimension, all in first-given order. -/
structure Selection where
  heads : OrderedMap Int Types
  deriving DecidableEq

namespace Selection

/-- Nothing is selected, which restricts nothing. -/
def empty : Selection := ⟨.empty⟩

instance : Inhabited Selection := ⟨empty⟩

/-- No head is selected. -/
def isEmpty (sel : Selection) : Bool := sel.heads.isEmpty

def headIds (sel : Selection) : List Int := sel.heads.keys

def hasHead (sel : Selection) (head : Int) : Bool := sel.heads.contains head

/-- The types of a head with their dimensions. -/
def typesOf (sel : Selection) (head : Int) : Types := (sel.heads.get? head).getD .empty

def types (sel : Selection) (head : Int) : List String := (sel.typesOf head).keys

def hasType (sel : Selection) (head : Int) (type : String) : Bool :=
  (sel.typesOf head).contains type

/-- The dimensions of a selected type. -/
def dims (sel : Selection) (head : Int) (type : String) : Dims :=
  ((sel.typesOf head).get? type).getD .empty

/-- The values of a dimension, none when the dimension is absent. -/
def values? (sel : Selection) (head : Int) (type dim : String) : Option (List String) :=
  (sel.dims head type).get? dim

/-- Changes the dimensions of a type, which is selected if it was not. -/
def alterType (sel : Selection) (head : Int) (type : String) (f : Dims → Dims) : Selection :=
  ⟨sel.heads.alter head fun types =>
    (types.getD .empty).alter type fun dims => f (dims.getD .empty)⟩

def addType (sel : Selection) (head : Int) (type : String) : Selection :=
  sel.alterType head type id

/-- Narrows a type to the values of a dimension listed so far. -/
def addDim (sel : Selection) (head : Int) (type dim : String) : Selection :=
  sel.alterType head type fun dims => dims.alter dim (·.getD [])

def addValue (sel : Selection) (head : Int) (type dim value : String) : Selection :=
  sel.alterType head type fun dims => dims.alter dim fun values => insertNew value (values.getD [])

/-- The same values are selected in the same order, whatever the order of heads, types and
dimensions. -/
def agrees (a b : Selection) : Bool :=
  a.heads.agreesBy (OrderedMap.agreesBy (OrderedMap.agreesBy (· == ·))) b.heads

/-- A selection as data: heads by their text, types, dimensions and values. -/
abbrev Data := List (String × List (String × List (String × List String)))

def toData (sel : Selection) : Data :=
  sel.heads.entries.map fun (head, types) =>
    (toString head, types.entries.map fun (type, dims) => (type, dims.entries))

/-- Adds the dimensions of a type from data. -/
def addDims (sel : Selection) (head : Int) (type : String)
    (dims : List (String × List String)) : Selection :=
  dims.foldl (fun sel (dim, values) =>
    values.foldl (fun sel value => sel.addValue head type dim value) (sel.addDim head type dim)) sel

/-- Adds a head from data. The text of the head is read only when a type comes with it. -/
def addHead (sel : Selection) (text : String)
    (types : List (String × List (String × List String))) : Except Integer.Fault Selection :=
  match types with
  | [] => .ok sel
  | types => do
    let head ← Integer.read text
    return types.foldl (fun sel (type, dims) => (sel.addType head type).addDims head type dims) sel

/-- The selection that data describes. -/
def ofData (data : Data) : Except Integer.Fault Selection :=
  data.foldlM (fun sel (head, types) => sel.addHead head types) empty

/-- The selection in braces. -/
def shown (sel : Selection) : String :=
  let table (entries : List (String × String)) : String :=
    "\x7b" ++ ", ".intercalate (entries.map fun e => Text.quoted e.1 ++ ": " ++ e.2) ++ "\x7d"
  let list (values : List String) : String :=
    "[" ++ ", ".intercalate (values.map Text.quoted) ++ "]"
  "SelectionMap(" ++ table (sel.toData.map fun (head, types) =>
    (head, table (types.map fun (type, dims) =>
      (type, table (dims.map fun (dim, values) => (dim, list values)))))) ++ ")"

end Selection

/-- Selectors that must never match, by head. -/
structure Negations where
  heads : OrderedMap Int (List String)
  deriving DecidableEq

namespace Negations

/-- Nothing is negated. -/
def empty : Negations := ⟨.empty⟩

instance : Inhabited Negations := ⟨empty⟩

/-- Nothing is negated. -/
def isEmpty (neg : Negations) : Bool := neg.heads.isEmpty

/-- The heads with their selectors. -/
def items (neg : Negations) : List (Int × List String) := neg.heads.entries

/-- The selectors of a head. -/
def selectors (neg : Negations) (head : Int) : List String := (neg.heads.get? head).getD []

/-- Negates a selector of a head. -/
def add (neg : Negations) (head : Int) (selector : String) : Negations :=
  ⟨neg.heads.alter head fun selectors => insertNew selector (selectors.getD [])⟩

/-- The same selectors in the same order, whatever the order of the heads. -/
def agrees (a b : Negations) : Bool := a.heads.agreesBy (· == ·) b.heads

/-- Negations as data: selectors by the text of the head. -/
abbrev Data := List (String × List String)

def toData (neg : Negations) : Data :=
  neg.heads.entries.map fun (head, selectors) => (toString head, selectors)

/-- The negations that data describes. The text of a head is read only when a selector comes with
it. -/
def ofData (data : Data) : Except Integer.Fault Negations :=
  data.foldlM (fun neg (text, selectors) =>
    match selectors with
    | [] => .ok neg
    | selectors => do
      let head ← Integer.read text
      return selectors.foldl (fun neg selector => neg.add head selector) neg) empty

/-- The negations in braces. -/
def shown (neg : Negations) : String :=
  "StrongNegationMap(\x7b" ++ ", ".intercalate (neg.toData.map fun (head, selectors) =>
    Text.quoted head ++ ": [" ++ ", ".intercalate (selectors.map Text.quoted) ++ "]") ++ "\x7d)"

end Negations

end Sift
