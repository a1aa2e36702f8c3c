import Sift.Dialect
import Sift.Listing.Spot
import Sift.Predicate
import Sift.Text.Character

/-!
# Predicates on rows

What a database makes of a predicate. SQL has three truth values, and those of a predicate follow from
what its comparisons, patterns and fragments are assigned (`Predicate.value`). On one row a comparison
with a column that is null is unknown (`Row.truth`), and so is its negation. A row is only found by a
predicate that is true (`Predicate.Holds`).

What a database makes of fragments that search a text is left open, but no column is both equal and
unequal to a literal (`Valuation`). A row with an answer to such fragments is a case (`Row.valuation`).
-/

namespace Sift

/-- The value of a column, null when the row has none. The table is not looked at. -/
def Row.cell (row : Row) (column : String) : Json :=
  (row.lookup (Dialect.bareColumn column)).getD .null

namespace Predicate

/-! ## Literals and patterns -/

/-- A doubled quote stands for one. -/
def undoubled : List Char → List Char
  | '\'' :: '\'' :: rest => '\'' :: undoubled rest
  | c :: rest => c :: undoubled rest
  | [] => []

/-- The value of a literal: the text between quotes, or a whole number. -/
def literal? (text : String) : Option Json :=
  match text.toList with
  | '\'' :: rest => some (.str (String.ofList (undoubled rest.dropLast)))
  | '-' :: digits => if Text.isDigits digits then some (.int (-(Text.ofDigits digits))) else none
  | digits => if Text.isDigits digits then some (.int (Text.ofDigits digits)) else none

/-- A text is like what is left of a pattern, whose first character may have to be taken literally. -/
def likeFrom : Bool → List Char → List Char → Bool
  | literal, [], cs => !literal && cs.isEmpty
  | true, p :: pattern, cs => cs.head? == some p && likeFrom false pattern cs.tail
  | false, p :: pattern, cs =>
    if p = '\\' then likeFrom true pattern cs
    else if p = '%' then (List.range (cs.length + 1)).any fun i => likeFrom false pattern (cs.drop i)
    else cs.head?.any (fun c => p == '_' || p == c) && likeFrom false pattern cs.tail

/-- A text is like a pattern, where a percent sign stands for any characters and an underscore for
one. Behind a backslash a character stands for itself, as in PostgreSQL; in SQLite the backslash stands
for itself. The codes that a tree selects are letters and digits and hold none of these characters
(`IsCodeOf.plain`), so only what a selection takes from data can tell the two apart. -/
def isLike (pattern cs : List Char) : Bool := likeFrom false pattern cs

/-- What an operator asks of the order of its sides. -/
def relation? (operator : String) : Option (Ordering → Bool) :=
  match operator with
  | "=" => some (·.isEq)
  | "!=" => some (·.isNe)
  | "<" => some (·.isLT)
  | ">" => some (·.isGT)
  | "<=" => some (·.isLE)
  | ">=" => some (·.isGE)
  | _ => none

/-- A value against a literal. Null, and a number against a text, compare to nothing. -/
def compared (operator : String) (value : Json) (literal : String) : Option Bool :=
  match relation? operator, value, literal? literal with
  | some holds, .int a, some (.int b) => some (holds (Ord.compare a b))
  | some holds, .str a, some (.str b) => some (holds (Ord.compare a b))
  | _, _, _ => none

/-! ## Truth values -/

/-- A conjunction is false when a member is, and else unknown when a member is. -/
def conjunction (truths : List (Option Bool)) : Option Bool :=
  if some false ∈ truths then some false else if none ∈ truths then none else some true

/-- A disjunction is true when a member is, and else unknown when a member is. -/
def disjunction (truths : List (Option Bool)) : Option Bool :=
  if some true ∈ truths then some true else if none ∈ truths then none else some false

theorem conjunction_eq_true {truths : List (Option Bool)} :
    conjunction truths = some true ↔ ∀ b ∈ truths, b = some true := by
  unfold conjunction
  split
  · rename_i hfalse
    refine iff_of_false (by simp) fun h => ?_
    cases h _ hfalse
  · split
    · rename_i hnone
      refine iff_of_false (by simp) fun h => ?_
      cases h _ hnone
    · rename_i hfalse hnone
      refine iff_of_true rfl fun b hb => ?_
      match b with
      | some true => rfl
      | some false => exact absurd hb hfalse
      | none => exact absurd hb hnone

theorem disjunction_eq_true {truths : List (Option Bool)} :
    disjunction truths = some true ↔ some true ∈ truths := by
  unfold disjunction
  split
  · rename_i htrue
    exact iff_of_true rfl htrue
  · rename_i htrue
    refine iff_of_false ?_ htrue
    split <;> simp

mutual

/-- The truth value of a predicate under an assignment of truth values to what it is made of. A group of
empty members restricts nothing. -/
def value (leaf : Predicate → Option Bool) : Predicate → Option Bool
  | all items => conjunction (values leaf items)
  | any items => if areEmpty items then some true else disjunction (values leaf items)
  | not item => (value leaf item).map (!·)
  | p => leaf p

/-- The truth values of the members that are not empty. -/
def values (leaf : Predicate → Option Bool) : List Predicate → List (Option Bool)
  | [] => []
  | item :: rest => if isEmpty item then values leaf rest else value leaf item :: values leaf rest

end

/-- The predicate is true under an assignment. -/
def Holds (leaf : Predicate → Option Bool) (p : Predicate) : Prop := p.value leaf = some true

instance (leaf : Predicate → Option Bool) (p : Predicate) : Decidable (p.Holds leaf) :=
  inferInstanceAs (Decidable (_ = _))

variable {leaf : Predicate → Option Bool} {items : List Predicate}

@[simp] theorem value_compare (column operator literal : String) :
    (compare column operator literal).value leaf = leaf (compare column operator literal) := rfl

@[simp] theorem value_like (column pattern : String) :
    (like column pattern).value leaf = leaf (like column pattern) := rfl

theorem mem_values {b : Option Bool} :
    b ∈ values leaf items ↔ ∃ p ∈ items, p.isEmpty = false ∧ p.value leaf = b := by
  induction items with
  | nil => simp [values]
  | cons p items ih =>
    rw [values]
    cases hp : p.isEmpty with
    | true => simp [ih, hp]
    | false => simp [ih, hp, @eq_comm _ b]

theorem areEmpty_iff : areEmpty items = true ↔ ∀ p ∈ items, p.isEmpty = true := by
  induction items with
  | nil => simp [areEmpty]
  | cons p items ih => simp [areEmpty, ih]

theorem holds_all :
    (all items).Holds leaf ↔ ∀ p ∈ items, p.isEmpty = false → p.Holds leaf := by
  rw [Holds, value, conjunction_eq_true]
  constructor
  · intro h p hp hempty
    exact h _ (mem_values.mpr ⟨p, hp, hempty, rfl⟩)
  · intro h b hb
    obtain ⟨p, hp, hempty, rfl⟩ := mem_values.mp hb
    exact h p hp hempty

theorem holds_any : (any items).Holds leaf ↔
    (∀ p ∈ items, p.isEmpty = true) ∨ ∃ p ∈ items, p.isEmpty = false ∧ p.Holds leaf := by
  rw [Holds, value, ← areEmpty_iff]
  split
  · rename_i hempty
    exact iff_of_true rfl (.inl hempty)
  · rename_i hsome
    rw [disjunction_eq_true, mem_values, or_iff_right hsome]
    rfl

/-! ## Known truth values -/

/-- A predicate that is either true or false. -/
def Known (leaf : Predicate → Option Bool) (p : Predicate) : Prop := p.value leaf ≠ none

theorem holds_not_iff {p : Predicate} (h : p.Known leaf) : (not p).Holds leaf ↔ ¬ p.Holds leaf := by
  rw [Holds, Holds, value]
  cases htruth : p.value leaf with
  | none => exact absurd htruth h
  | some b => cases b <;> simp

theorem known_all (h : ∀ p ∈ items, p.Known leaf) : (all items).Known leaf := by
  rw [Known, value, conjunction]
  split
  · simp
  · split
    · rename_i hnone
      obtain ⟨p, hp, -, htruth⟩ := mem_values.mp hnone
      exact absurd htruth (h p hp)
    · simp

end Predicate

/-! ## Rows -/

open Predicate

/-- What a database makes of a comparison, a pattern or a test for null on a row. Of a finished fragment
nothing is known. -/
def Row.truth (row : Row) : Predicate → Option Bool
  | .compare column operator literal => compared operator (row.cell column) literal
  | .like column pattern =>
    (row.cell column).text?.map fun s => isLike (undoubled pattern.toList) s.toList
  | .isNull column negated =>
    some (match row.cell column with
      | .null => !negated
      | _ => negated)
  | _ => none

/-! ## Valuations -/

/-- Truth values of what predicates are made of. -/
structure Valuation where
  leaf : Predicate → Option Bool
  /-- What equals a literal is not unequal to it. -/
  exclusive : ∀ column literal, leaf (compare column "=" literal) = some true →
    leaf (compare column "!=" literal) ≠ some true

theorem compared_ne (value : Json) (literal : String) :
    compared "!=" value literal = (compared "=" value literal).map (!·) := by
  have hcontrary : ∀ o : Ordering, o.isNe = !o.isEq := by
    intro o
    cases o <;> rfl
  unfold compared
  generalize literal? literal = b?
  cases b? with
  | none => cases value <;> rfl
  | some b => cases value <;> cases b <;> first | rfl | exact congrArg some (hcontrary _)

/-- A row with an answer to the fragments that search its text. -/
def Row.valuation (row : Row) (finds : String → Option Bool) : Valuation where
  leaf
    | raw sql => finds sql
    | p => row.truth p
  exclusive column literal h := by
    have hequal : compared "=" (row.cell column) literal = some true := h
    show compared "!=" (row.cell column) literal ≠ some true
    rw [compared_ne, hequal]
    simp

end Sift
