import Sift.Selection
import Sift.Shorthand.Token
import Sift.Taxonomy

/-!
# Expansion

Tokens are applied from left to right to an accumulator of entries: leaves, markers of whole types,
negations as they were written, and literals. A removal drops the entries equal to its target that
were there before it. The selection is read off the accumulator, and negations are recorded as they
come.
-/

namespace Sift.Shorthand

/-- The entries so far and the negations recorded. -/
structure Expansion where
  accumulator : List String
  negations : Negations
  deriving DecidableEq

/-- Nothing is expanded yet. -/
def Expansion.start : Expansion := ⟨[], .empty⟩

/-- The leaves of a dimension of a type. -/
def dimLeaves (head : Head) (type dim : String) : List String :=
  (head.applicable type dim).map fun value => leafText head.id type dim value

/-- What a token that names something in a head stands for. -/
def expandIn (head : Head) : Token → List String
  | .head _ => head.typeKeys.map (markerText head.id)
  | .type _ t => if head.typeKeys.contains t then [markerText head.id t] else []
  | .dim _ d => head.typeKeys.flatMap fun t => dimLeaves head t d
  | .typeDim _ t d => if head.typeKeys.contains t then dimLeaves head t d else []
  | .value _ d v => head.typeKeys.map fun t => leafText head.id t d v
  | _ => []

/-- The head that has to be in the taxonomy for a token to stand for anything. -/
def Token.headSought? : Token → Option Nat
  | .head h | .type h _ | .dim h _ | .typeDim h _ _ | .value h _ _ => some h
  | _ => none

/-- The entries that a token adds on its own. -/
def emitted (tax : Taxonomy) (raw : String) (token : Token) : List String :=
  match token with
  | .removal _ => []
  | .negation raw _ _ => [raw]
  | .literal _ | .leaf _ _ _ _ => [raw]
  | token => match token.headSought?.bind fun h => tax.head? h with
    | some head => expandIn head token
    | none => []

/-- Applies a token that was written as `raw`. -/
def Expansion.apply (tax : Taxonomy) (raw : String) (state : Expansion) (token : Token) :
    Expansion :=
  let kept := match token with
    | .removal target => state.accumulator.filter (· != target)
    | _ => state.accumulator
  let negations := match token with
    | .negation _ head selector => state.negations.add head selector
    | _ => state.negations
  ⟨kept ++ emitted tax raw token, negations⟩

/-- Reads and applies one token. An empty one does nothing. -/
def Expansion.step (tax : Taxonomy) (state : Expansion) (raw : String) :
    Except Integer.Fault Expansion :=
  if raw = "" then .ok state else do return state.apply tax raw (← Token.read raw)

/-- Applies tokens from left to right. -/
def expandTokens (tax : Taxonomy) (raws : List String) : Except Integer.Fault Expansion :=
  raws.foldlM (Expansion.step tax) .start

/-- Adds the selection that an entry carries. -/
def select (sel : Selection) : Option Entry → Selection
  | some (.leaf head type dim value) => sel.addValue head type dim value
  | some (.marker head type) => sel.addType head type
  | none => sel

/-- The selection that entries carry. -/
def selectionOf (accumulator : List String) : Except Integer.Fault Selection :=
  accumulator.foldlM (fun sel raw => do return select sel (← Entry.read raw)) .empty

/-- The selection and the negations that tokens stand for. -/
def expand (tax : Taxonomy) (raws : List String) :
    Except Integer.Fault (Selection × Negations) := do
  let expansion ← expandTokens tax raws
  return (← selectionOf expansion.accumulator, expansion.negations)

/-- Expands tokens with commas between. -/
def expandTree (tax : Taxonomy) (tree : String) : Except Integer.Fault (Selection × Negations) :=
  expand tax (Text.split ',' tree)

end Sift.Shorthand
