import Sift.Selection
import Sift.Shorthand.Token
import Sift.Taxonomy

/-!
# The category picker

The nodes of the tree in which categories are picked: heads, types, dimensions and leaves, each with
the shorthand token that stands for it. Heads without a type split skip the level of types. A node
tells whether it is selected and whether it is negated.
-/

namespace Sift.Picker

open Shorthand

/-- A node of the tree. -/
inductive Node
  | mk (key : String) (title : Label) (selected negated : Bool) (children : List Node)
  deriving Inhabited

namespace Node

def key : Node → String
  | mk key _ _ _ _ => key

def title : Node → Label
  | mk _ title _ _ _ => title

def selected : Node → Bool
  | mk _ _ selected _ _ => selected

def negated : Node → Bool
  | mk _ _ _ negated _ => negated

def children : Node → List Node
  | mk _ _ _ _ children => children

end Node

/-- The leaf of a value. Its type has to be selected, and its dimension absent or listing it. -/
def leafNode (sel : Selection) (denied : List String) (head : Head) (type dim value : String)
    (leaf : Leaf) : Node :=
  let listed := match sel.values? head.id type dim with
    | none => true
    | some values => values.contains value
  .mk (leafText head.id type dim value) leaf.label (sel.hasType head.id type && listed)
    (denied.contains (dim ++ value) || denied.contains (type ++ "_" ++ dim ++ value)) []

/-- The node of a dimension, unless no value of it applies to the type. -/
def dimNode? (sel : Selection) (denied : List String) (head : Head) (type dim : String)
    (dimension : Dimension) : Option Node :=
  let leaves := (dimension.leaves.entries.filter fun e => e.2.types.contains type).map
    fun e => leafNode sel denied head type dim e.1 e.2
  if leaves.isEmpty then none
  else some (.mk (dimText head.id type dim) dimension.label (leaves.all (·.selected)) false leaves)

def typeNode (sel : Selection) (denied : List String) (head : Head) (type label : String) : Node :=
  let dims := head.dimensions.entries.filterMap fun e => dimNode? sel denied head type e.1 e.2
  .mk (typeText head.id type) (.str label)
    (sel.hasType head.id type && dims.all (·.selected)) (denied.contains type) dims

/-- The node of a head. It is selected when it has types and all of them are. -/
def headNode (sel : Selection) (neg : Negations) (head : Head) : Node :=
  let denied := neg.selectors head.id
  let types := head.types.entries.map fun e => typeNode sel denied head e.1 e.2
  let children := if head.typeKeys = [untyped] then types.flatMap (·.children) else types
  .mk (headText head.id) head.label (!types.isEmpty && types.all (·.selected))
    (denied.contains "") children

/-- The tree of a taxonomy under a selection and negations. -/
def tree (tax : Taxonomy) (sel : Selection) (neg : Negations) : List Node :=
  tax.heads.entries.map fun e => headNode sel neg e.2

end Sift.Picker
