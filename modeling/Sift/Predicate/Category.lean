import Sift.Dialect
import Sift.Predicate
import Sift.Selection
import Sift.Taxonomy

/-!
# Category predicates

A spot holds its codes in five columns, each code with a bar behind it. The columns of `a` and `z`
hold one code and are compared, those of `b`, `c` and `d` hold several and are searched.

The leaves of a dimension are alternatives, the dimensions of a type hold together, and the types
are alternatives again. The type `zz` of heads without a type split is not looked for.
-/

namespace Sift.Category

open Predicate

/-- A predicate was asked for the empty code. -/
inductive Fault
  | emptyCode
  deriving DecidableEq, Repr

def Fault.message : Fault → String
  | .emptyCode => "string index out of range"

/-- The letters whose columns hold one code. -/
def singleLetters : List Char := ['a', 'z']

/-- The letters whose columns hold several codes. -/
def multiLetters : List Char := ['b', 'c', 'd']

/-- The predicate that a spot has a code, which starts with the letter of its column. -/
def hasCode (letter : Char) (code : String) : Predicate :=
  let column := "s.subcat" ++ String.singleton letter
  if singleLetters.contains letter then
    compare column "=" (Dialect.quote (Dialect.escape code ++ "|"))
  else like column ("%" ++ Dialect.escape code ++ "|%")

/-- The predicate that a spot has a code. -/
def codePredicate (code : String) : Except Fault Predicate :=
  match code.toList with
  | [] => .error .emptyCode
  | letter :: _ => .ok (hasCode letter code)

def headPredicate (head : Int) : Predicate := compare "s.category" "=" (toString head)

/-- The alternatives of a dimension, unless it lists no value. -/
def dimPredicate? (dim : String) (values : List String) : Except Fault (Option Predicate) := do
  let leaves ← values.mapM fun value => codePredicate (dim ++ value)
  return if leaves.isEmpty then none else some (any leaves)

/-- The predicate of a type of a head. -/
def typePredicate (head : Int) (type : String) (dims : Dims) : Except Fault Predicate := do
  let typePart ← if type = untyped then pure [] else (codePredicate type).map ([·])
  let dimParts ← dims.entries.mapM fun e => dimPredicate? e.1 e.2
  let dimPart := dimParts.filterMap id
  return all ([headPredicate head] ++ typePart ++ if dimPart.isEmpty then [] else [all dimPart])

/-- The predicates of a selection, one for each type, which are alternatives. -/
def ofSelection (sel : Selection) : Except Fault (List Predicate) := do
  let heads ← sel.heads.entries.mapM fun (head, types) =>
    types.entries.mapM fun (type, dims) => typePredicate head type dims
  return heads.flatten

/-- A code has a letter of a column and something behind it. -/
def isCode (code : List Char) : Bool :=
  match code with
  | letter :: _ :: _ => (singleLetters ++ multiLetters).contains letter
  | _ => false

/-- The predicate of a negated selector, unless the selector is neither empty nor one or two
codes. -/
def negationPredicate? (head : Int) (selector : String) : Option Predicate :=
  if selector = "" then some (not (headPredicate head))
  else
    let codes := Text.fields '_' selector.toList
    if codes.length ≤ 2 && codes.all isCode then
      let parts := codes.map fun code => hasCode (code.headD 'z') (String.ofList code)
      some (not (all (headPredicate head :: parts)))
    else none

/-- The predicates of negations, which hold together. -/
def ofNegations (neg : Negations) : List Predicate :=
  neg.items.flatMap fun (head, selectors) => selectors.filterMap (negationPredicate? head)

end Sift.Category
