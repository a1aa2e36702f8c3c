import Sift.Text.Case

/-!
# Sorting

A sort key is a column with a direction. It may be added by a filter, and it may have a name under
which it is shown. An explicit sort on a known field comes first, then the keys that filters added,
and without an explicit sort the newest spots come first among equals.
-/

namespace Sift

/-- A column to sort by. -/
structure SortKey where
  column : String
  direction : String
  autoAdded : Bool
  displayName : Option String
  deriving DecidableEq, Repr

/-- A key that a filter adds: the greatest first. -/
def SortKey.automatic (column : String) : SortKey := ⟨column, "DESC", true, none⟩

namespace Sorting

/-- The sort that a request asks for. -/
structure Request where
  field : Option String
  direction : Option String
  deriving DecidableEq, Repr

/-- The request without a wish. -/
def Request.none : Request := ⟨.none, .none⟩

/-- The fields that may be sorted by. -/
def fields : List String :=
  ["category", "poster", "title", "filesize", "stamp", "subcata", "spotrating", "commentcount"]

/-- The newest spots first. -/
def newestFirst : SortKey := .automatic "s.stamp"

/-- `ASC` in any case, and `DESC` for all else. -/
def direction (text : String) : String := if Text.upper text = "ASC" then "ASC" else "DESC"

/-- The sort keys, highest precedence first. -/
def keys (request : Request) (automatic : List SortKey) : List SortKey :=
  match request.field with
  | some field =>
    if fields.contains field then
      ⟨"s." ++ field, direction (request.direction.getD ""), false, some field⟩ :: automatic
    else automatic ++ [newestFirst]
  | .none => automatic ++ [newestFirst]

end Sorting

end Sift
