import Sift.Selection
import Sift.Shorthand.Token
import Sift.Taxonomy

/-!
# Compression

A selection is written as few tokens. A head of which nothing is missing is one token, and so is a
type of which nothing is missing. Of a dimension with values missing, the selected leaves are listed
when more than half are missing, and else the dimension is written and the missing leaves are
removed from it. Selected values that do not apply to their type are listed after that. Heads
outside the taxonomy are left out, and the negations come last.
-/

namespace Sift.Shorthand

/-- The values of a dimension that apply to a type and are not selected. An absent dimension misses
nothing. -/
def missing (sel : Selection) (head : Head) (type dim : String) : List String :=
  if head.dims.contains dim then
    match sel.values? head.id type dim with
    | none => []
    | some selected => (head.applicable type dim).filter fun v => !selected.contains v
  else []

/-- The selected values of a dimension that do not apply to the type. -/
def foreign (sel : Selection) (head : Head) (type dim : String) : List String :=
  ((sel.values? head.id type dim).getD []).filter fun v => !(head.applicable type dim).contains v

/-- The dimensions of the head, and then those of the selection that the head does not have. -/
def dimsOf (sel : Selection) (head : Head) (type : String) : List String :=
  head.dims ++ (sel.dims head.id type).keys.filter fun d => !head.dims.contains d

/-- Nothing that applies to the type is missing and nothing else is selected. -/
def isWhole (sel : Selection) (head : Head) (type : String) : Bool :=
  (dimsOf sel head type).all fun d =>
    (missing sel head type d).isEmpty && (foreign sel head type d).isEmpty

/-- Every type of the head is selected as a whole. -/
def isWholeHead (sel : Selection) (head : Head) : Bool :=
  head.typeKeys.all fun t => sel.hasType head.id t && isWhole sel head t

/-- The items of `sought` stand one after the other in a list. -/
def holdsRun (sought : List String) : List String → Bool
  | [] => sought.isEmpty
  | part :: rest => sought.isPrefixOf (part :: rest) || holdsRun sought rest

/-- The tokens hold those of `text`, which may be several with commas between. -/
def mentions (parts : List String) (text : String) : Bool :=
  holdsRun (Text.split ',' text) (parts.flatMap (Text.split ','))

/-- The tokens of one dimension, behind the tokens `before`. -/
def dimTokens (sel : Selection) (head : Head) (type dim : String) (before : List String) :
    List String :=
  let absent := missing sel head type dim
  let extra := foreign sel head type dim
  let applicable := head.applicable type dim
  let listed :=
    if applicable.length < 2 * absent.length then
      (applicable.filter fun v => !absent.contains v).map (leafText head.id type dim)
    else if !absent.isEmpty || (!extra.isEmpty && !applicable.isEmpty) then
      (if mentions before (dimText head.id type dim) then [] else [dimText head.id type dim]) ++
        (applicable.filter absent.contains).map fun v => removalText (leafText head.id type dim v)
    else []
  listed ++ extra.map (leafText head.id type dim)

/-- The tokens of one type, behind the tokens `before`. Of a type whose dimensions are all empty
nothing is narrowed. -/
def typeTokens (sel : Selection) (head : Head) (type : String) (before : List String) :
    List String :=
  if isWhole sel head type then [typeText head.id type]
  else
    let tokens := (dimsOf sel head type).foldl
      (fun tokens dim => tokens ++ dimTokens sel head type dim (before ++ tokens)) []
    if tokens.isEmpty then [typeText head.id type] else tokens

/-- The tokens of one head, behind the tokens `before`. -/
def headTokens (sel : Selection) (head : Head) (before : List String) : List String :=
  if !sel.hasHead head.id then []
  else if isWholeHead sel head then [headText head.id]
  else (sel.types head.id).foldl
    (fun tokens type => tokens ++ typeTokens sel head type (before ++ tokens)) []

/-- The tokens of a selection, in the order of the taxonomy. -/
def selectionTokens (tax : Taxonomy) (sel : Selection) : List String :=
  tax.heads.entries.foldl (fun tokens e => tokens ++ headTokens sel e.2 tokens) []

def negationTokens (neg : Negations) : List String :=
  neg.items.flatMap fun (head, selectors) => selectors.map (negationText head)

/-- A selection and negations as tokens with commas between. -/
def compress (tax : Taxonomy) (sel : Selection) (neg : Negations) : String :=
  Text.join ',' (selectionTokens tax sel ++ negationTokens neg)

end Sift.Shorthand
