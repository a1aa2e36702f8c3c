import Sift.Number.Binary64

/-!
# JSON values

A value of JSON, where whole numbers are kept apart from the others and an object keeps the order
of its fields.
-/

namespace Sift

inductive Json
  | null
  | bool (value : Bool)
  | int (value : Int)
  | float (value : Binary64)
  | str (value : String)
  | arr (items : List Json)
  | obj (fields : List (String × Json))
  deriving Repr, Inhabited

namespace Json

/-- The value of a field of an object. -/
def field? (name : String) : Json → Option Json
  | obj fields => fields.lookup name
  | _ => none

/-- The value of a field of an object, `null` when there is none. -/
def field (name : String) (value : Json) : Json := (value.field? name).getD null

/-- A value counts as true unless it is empty, zero, `false` or `null`. -/
def isTrue : Json → Bool
  | null => false
  | bool b => b
  | int n => n != 0
  | float x => !x.isZero
  | str s => s != ""
  | arr items => !items.isEmpty
  | obj fields => !fields.isEmpty

mutual

/-- Every number in a value is finite. -/
def isFinite : Json → Bool
  | float (.infinite _) | float .nan => false
  | arr items => allFinite items
  | obj fields => fieldsFinite fields
  | _ => true

/-- Every number in some values is finite. -/
def allFinite : List Json → Bool
  | [] => true
  | item :: rest => isFinite item && allFinite rest

/-- Every number in some fields is finite. -/
def fieldsFinite : List (String × Json) → Bool
  | [] => true
  | (_, value) :: rest => isFinite value && fieldsFinite rest

end

def text? : Json → Option String
  | str s => some s
  | _ => none

/-- The value of a part that may be absent. -/
def orNull {α : Type} (toJson : α → Json) : Option α → Json
  | some part => toJson part
  | none => null

def texts (items : List String) : Json := arr (items.map str)

def kind : Json → String
  | null => "NoneType"
  | bool _ => "bool"
  | int _ => "int"
  | float _ => "float"
  | str _ => "str"
  | arr _ => "list"
  | obj _ => "dict"

end Json

end Sift
