import Sift.Text.Character

/-!
# Predicates

Boolean expressions over columns, and their SQL. Every expression is written in parentheses. A
conjunction or disjunction leaves out its empty members; of one member it is written as that member,
and of none as nothing.
-/

namespace Sift

/-- A boolean expression over columns. -/
inductive Predicate
  /-- A column against a literal, which is written as it stands. -/
  | compare (column operator literal : String)
  /-- A column against a pattern, which is put in quotes as it stands. -/
  | like (column pattern : String)
  | isNull (column : String) (negated : Bool)
  /-- A finished fragment. -/
  | raw (sql : String)
  | all (items : List Predicate)
  | any (items : List Predicate)
  | not (item : Predicate)
  deriving Repr, Inhabited

namespace Predicate

/-- Members with an operator between, in parentheses unless there is only one. -/
def group (operator : String) (rendered : List String) : String :=
  match rendered with
  | [] => ""
  | [member] => member
  | members => "(" ++ (" " ++ operator ++ " ").intercalate members ++ ")"

mutual

/-- The expression restricts nothing: a blank fragment, a group of empty members, or the negation of
an empty expression. -/
def isEmpty : Predicate → Bool
  | raw sql => sql.toList.all Text.isBlank
  | all items => areEmpty items
  | any items => areEmpty items
  | not item => isEmpty item
  | _ => false

def areEmpty : List Predicate → Bool
  | [] => true
  | item :: rest => isEmpty item && areEmpty rest

end

mutual

/-- The SQL of an expression. -/
def render : Predicate → String
  | compare column operator literal => "(" ++ column ++ " " ++ operator ++ " " ++ literal ++ ")"
  | like column pattern => "(" ++ column ++ " LIKE '" ++ pattern ++ "')"
  | isNull column negated => "(" ++ column ++ " IS " ++ (if negated then "NOT " else "") ++ "NULL)"
  | raw sql => "(" ++ sql ++ ")"
  | all items => group "AND" (renderMembers items)
  | any items => group "OR" (renderMembers items)
  | not item => "(NOT " ++ render item ++ ")"

/-- The SQL of the members that are not empty. -/
def renderMembers : List Predicate → List String
  | [] => []
  | item :: rest => if isEmpty item then renderMembers rest else render item :: renderMembers rest

end

end Predicate

end Sift
