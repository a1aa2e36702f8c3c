import Sift.Json
import Sift.OrderedMap

/-!
# Category taxonomies

Spots are classified under head categories. A head has types, written `z` and a digit or `zz`, and
up to four dimensions `a` to `d` of leaf values; each leaf says to which types it applies. A head
without a type split has the single type `zz`.
-/

namespace Sift

/-- A label is shown and otherwise not looked at, so it may be any value. -/
abbrev Label := Json

/-- The letters of the dimensions. -/
def dimensions : List String := ["a", "b", "c", "d"]

/-- The type of a head without a type split. -/
def untyped : String := "zz"

/-- A value of a dimension, with the types that it applies to. -/
structure Leaf where
  label : Label
  types : List String
  /-- What was given among the types and is no string. It is the key of no type. -/
  others : List Json
  deriving Repr

/-- A dimension with its leaves by value. -/
structure Dimension where
  label : Label
  leaves : OrderedMap String Leaf

/-- A head category. -/
structure Head where
  id : Int
  label : Label
  types : OrderedMap String String
  dimensions : OrderedMap String Dimension

/-- The head categories by number, in the order in which they are shown. -/
structure Taxonomy where
  heads : OrderedMap Int Head

namespace Head

/-- The values of a dimension that apply to a type, in the order of the taxonomy. -/
def applicable (head : Head) (type dim : String) : List String :=
  match head.dimensions.get? dim with
  | none => []
  | some dimension =>
    (dimension.leaves.entries.filter fun e => e.2.types.contains type).map Prod.fst

def typeKeys (head : Head) : List String := head.types.keys

def dims (head : Head) : List String := head.dimensions.keys

end Head

namespace Taxonomy

def head? (tax : Taxonomy) (id : Int) : Option Head := tax.heads.get? id

/-- The values of a dimension that apply to a type of a head. -/
def applicable (tax : Taxonomy) (id : Int) (type dim : String) : List String :=
  match tax.head? id with
  | some head => head.applicable type dim
  | none => []

end Taxonomy

end Sift
