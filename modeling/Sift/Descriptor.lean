import Sift.Filter.Conditions
import Sift.Predicate.Category
import Sift.Shorthand.Compress
import Sift.Shorthand.Expand
import Sift.Sorting

/-!
# Filter descriptors

A search is compiled to a descriptor: one predicate, the columns, tables and joins it needs, and the
sort keys. The predicate joins, in this order and as far as they restrict anything, the categories,
the comparisons, the alternatives and the negations.
-/

namespace Sift

/-- A compiled filter. -/
structure Descriptor where
  predicate : String
  selection : Selection
  negations : Negations
  records : List FilterRecord
  extraColumns : List String
  extraTables : List String
  extraJoins : List Join
  sortKeys : List SortKey
  isUnfiltered : Bool
  deriving DecidableEq

namespace Descriptor

/-- The descriptor without a filter: the newest spots first. -/
def empty : Descriptor := ⟨"", .empty, .empty, [], [], [], [], [.automatic "stamp"], false⟩

end Descriptor

/-- What filters are compiled with. -/
structure Compiler where
  taxonomy : Taxonomy
  dialect : Dialect
  /-- The categories of the default filter. -/
  baseline : Option String
  /-- Where dates are looked up. -/
  almanac : Almanac

namespace Compiler

/-- Why a search is not compiled. -/
inductive Fault
  | value (fault : Conditions.Fault)
  | category (fault : Integer.Fault)
  | code (fault : Category.Fault)
  deriving DecidableEq, Repr

def Fault.message : Fault → String
  | .value fault => fault.message
  | .category fault => fault.message
  | .code fault => fault.message

/-- The categories that a search asks for. -/
def treeOf (compiler : Compiler) (search : Search) : Option String :=
  let tree := if search.unfiltered then compiler.baseline <|> search.tree else search.tree
  tree.filter (· != "")

/-- The categories and negations of a search. -/
def categories (compiler : Compiler) (search : Search) : Except Fault (Selection × Negations) :=
  match compiler.treeOf search with
  | none => .ok (.empty, .empty)
  | some tree => (Shorthand.expandTree compiler.taxonomy tree).mapError .category

/-- The predicates of a filter, group by group. -/
def groups (categories : List Predicate) (conditions : Conditions) (negations : List Predicate) :
    List Predicate :=
  [.any categories, .all conditions.andGroup, .any conditions.orGroup, .all negations]

/-- The groups that restrict anything, joined. -/
def joinGroups (groups : List Predicate) : String :=
  " AND ".intercalate ((groups.map (·.render)).filter (· != ""))

/-- Compiles a search. Without one there is nothing to compile. -/
def compile (compiler : Compiler) (search : Option Search) (sort : Sorting.Request)
    (session : Session) (reference : Moment) : Except Fault Descriptor :=
  match search with
  | none => .ok .empty
  | some search => do
    let records := search.records
    let conditions ←
      (Conditions.ofRecords compiler.almanac compiler.dialect session reference records).mapError
        Fault.value
    let (selection, negations) ← compiler.categories search
    let categories ← (Category.ofSelection selection).mapError Fault.code
    return {
      predicate := joinGroups (groups categories conditions (Category.ofNegations negations))
      selection
      negations
      records
      extraColumns := conditions.extraColumns
      extraTables := conditions.extraTables
      extraJoins := conditions.extraJoins
      sortKeys := Sorting.keys sort conditions.sortKeys
      isUnfiltered := search.unfiltered }

/-- The shorthand of the categories of a filter, for links to its other pages. -/
def pagingTree (compiler : Compiler) (descriptor : Descriptor) : String :=
  Shorthand.compress compiler.taxonomy descriptor.selection descriptor.negations

end Compiler

end Sift
