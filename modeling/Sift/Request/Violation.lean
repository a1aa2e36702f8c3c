import Sift.Json.Writer

/-!
# Violations

A request or a row is checked against the shape it should have. All violations are gathered, each
with the place where it stands.
-/

namespace Sift

/-- A step into a value: a field or an index. -/
inductive PathStep
  | field (name : String)
  | index (n : Nat)
  deriving DecidableEq, Repr

/-- What is wrong with a value. -/
inductive Violation.Kind
  | stringType
  | listType
  | tableType
  | objectType
  | bodyObjectType
  | intType
  | intParsing
  | intParsingSize
  | intFromFloat
  | finiteNumber
  | extraForbidden
  | greaterThanEqual
  | missing
  | jsonInvalid
  deriving DecidableEq, Repr

def Violation.Kind.name : Violation.Kind → String
  | stringType => "string_type"
  | listType => "list_type"
  | tableType => "dict_type"
  | objectType => "model_type"
  | bodyObjectType => "model_attributes_type"
  | intType => "int_type"
  | intParsing => "int_parsing"
  | intParsingSize => "int_parsing_size"
  | intFromFloat => "int_from_float"
  | finiteNumber => "finite_number"
  | extraForbidden => "extra_forbidden"
  | greaterThanEqual => "greater_than_equal"
  | missing => "missing"
  | jsonInvalid => "json_invalid"

/-- Something that is wrong at a place of a value. -/
structure Violation where
  path : List PathStep
  kind : Violation.Kind
  deriving DecidableEq, Repr

namespace Violation

/-- The violation one step further out. -/
def within (step : PathStep) (v : Violation) : Violation := { v with path := step :: v.path }

/-- A violation as a value: its path and the name of its kind. -/
def toJson (v : Violation) : Json :=
  .arr [.arr (v.path.map fun
    | .field name => .str name
    | .index n => .int n), .str v.kind.name]

/-- The text by which violations are ordered. -/
def sortText (v : Violation) : String :=
  "[[" ++ ", ".intercalate (v.path.map fun
    | .field name => Json.literal name
    | .index n => toString n) ++ "], " ++ Json.literal v.kind.name ++ "]"

/-- Violations in the order of their texts. -/
def sorted (vs : List Violation) : List Violation :=
  vs.mergeSort fun a b => a.sortText ≤ b.sortText

end Violation

/-- A value that was checked: the outcome, or all violations. -/
inductive Checked (α : Type) where
  | valid (value : α)
  | invalid (violations : List Violation)

namespace Checked

variable {α β : Type}

/-- A single violation at the place itself. -/
def fail (kind : Violation.Kind) : Checked α := invalid [⟨[], kind⟩]

/-- The violations one step further out. -/
def within (step : PathStep) : Checked α → Checked α
  | valid value => valid value
  | invalid vs => invalid (vs.map (·.within step))

/-- Two outcomes, or the violations of both. -/
def both (f : Checked (α → β)) (x : Checked α) : Checked β :=
  match f, x with
  | valid f, valid x => valid (f x)
  | valid _, invalid vs => invalid vs
  | invalid vs, valid _ => invalid vs
  | invalid vs, invalid ws => invalid (vs ++ ws)

instance : Applicative Checked where
  pure := valid
  seq f x := f.both (x ())

/-- The outcome, or the violations in order. -/
def toExcept : Checked α → Except (List Violation) α
  | valid value => .ok value
  | invalid vs => .error (Violation.sorted vs)

end Checked

end Sift
