import Sift.Filter.Record
import Sift.Request.Check
import Sift.Selection
import Sift.Sorting

/-!
# Filter requests

What a client asks for: to compile a filter, to list a page of its spots, or to write a selection in
shorthand. A request is an object with known fields only. How a value that should be an object is
refused depends on where the request comes from.
-/

namespace Sift

open Check

structure SearchRequest where
  tree : Option String
  values : List String
  type : Option String
  text : Option String
  unfiltered : Option String
  deriving DecidableEq, Repr

namespace SearchRequest

def read (refusal : Violation.Kind) : Json → Checked SearchRequest :=
  object refusal ["tree", "value", "type", "text", "unfiltered"] fun fields =>
    SearchRequest.mk <$> fieldOr fields "tree" none (nullable Check.text)
      <*> fieldOr fields "value" [] (list Check.text)
      <*> fieldOr fields "type" none (nullable Check.text)
      <*> fieldOr fields "text" none (nullable Check.text)
      <*> fieldOr fields "unfiltered" none (nullable Check.text)

/-- Nothing is asked for. -/
def isBlank (request : SearchRequest) : Bool :=
  request.tree.isNone && request.values.isEmpty && request.type.isNone && request.text.isNone &&
    request.unfiltered.isNone

/-- The search that is asked for, if any is. -/
def toSearch (request : SearchRequest) : Option Search :=
  if request.isBlank then none
  else some {
    tree := request.tree
    values := request.values.map .str
    single := request.type.map (.str ·, .orNull .str request.text)
    unfiltered := request.unfiltered == some "true" }

end SearchRequest

def Sorting.Request.read (refusal : Violation.Kind) : Json → Checked Sorting.Request :=
  object refusal ["field", "direction"] fun fields =>
    Sorting.Request.mk <$> fieldOr fields "field" .none (nullable Check.text)
      <*> fieldOr fields "direction" .none (nullable Check.text)

/-- A filter to compile, for a user. -/
structure FilterRequest where
  search : Option SearchRequest
  sort : Option Sorting.Request
  userId : Int
  lastRead : Int
  deriving DecidableEq, Repr

namespace FilterRequest

/-- The fields of a filter request. -/
def known : List String := ["search", "sort", "user_id", "last_read"]

def readFields (refusal : Violation.Kind) (fields : List (String × Json)) : Checked FilterRequest :=
  FilterRequest.mk <$> fieldOr fields "search" none (nullable (SearchRequest.read refusal))
    <*> fieldOr fields "sort" none (nullable (Sorting.Request.read refusal))
    <*> fieldOr fields "user_id" 1 integer
    <*> fieldOr fields "last_read" 0 integer

def read (refusal : Violation.Kind) : Json → Checked FilterRequest :=
  object refusal known (readFields refusal)

end FilterRequest

/-- A page of the spots of a filter. -/
structure PageRequest where
  filter : FilterRequest
  page : Int
  pageSize : Option Int
  deriving DecidableEq, Repr

def PageRequest.read (refusal : Violation.Kind) : Json → Checked PageRequest :=
  object refusal (FilterRequest.known ++ ["page", "page_size"]) fun fields =>
    PageRequest.mk <$> FilterRequest.readFields refusal fields
      <*> fieldOr fields "page" 0 (integerFrom 0)
      <*> fieldOr fields "page_size" none (nullable (integerFrom 1))

/-- A selection and negations to write in shorthand. -/
structure ShorthandRequest where
  selection : Selection.Data
  negations : Negations.Data
  deriving DecidableEq, Repr

def ShorthandRequest.read (refusal : Violation.Kind) : Json → Checked ShorthandRequest :=
  object refusal ["selection", "strong_negations"] fun fields =>
    ShorthandRequest.mk <$> fieldOr fields "selection" [] (table (table (table (list Check.text))))
      <*> fieldOr fields "strong_negations" [] (table (list Check.text))

end Sift
