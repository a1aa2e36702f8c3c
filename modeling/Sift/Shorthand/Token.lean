import Sift.Text.Fields
import Sift.Text.Integer

/-!
# Shorthand tokens

A category filter is written as tokens with commas between. A token names a head, a type, a
dimension or a value; it may remove what stands before it, or negate what it names:

* `cat0` a head, `cat0_z1` a type, `cat0_a` a dimension of every type,
* `cat0_z1_a` a dimension of one type, `cat0_a9` a value of every type, `cat0_z1_a9` a leaf,
* `!` before an entry removes that entry, `~` before a head, type, value or leaf negates it.

Anything else is a literal. A marker `sub0_z1` stands for a whole type among the entries that tokens
expand to. A line feed at the end of a token does not count.
-/

namespace Sift.Shorthand

open Text

inductive Token
  | head (head : Nat)
  | type (head : Nat) (type : String)
  | dim (head : Nat) (dim : String)
  | typeDim (head : Nat) (type dim : String)
  | value (head : Nat) (dim value : String)
  | leaf (head : Nat) (type dim value : String)
  | removal (target : String)
  | negation (raw : String) (head : Nat) (selector : String)
  | literal (raw : String)
  deriving DecidableEq, Repr

/-- An entry that carries selection. -/
inductive Entry
  | leaf (head : Nat) (type dim value : String)
  | marker (head : Nat) (type : String)
  deriving DecidableEq, Repr

/-! ## Written forms -/

/-- The written form of a head. A number of more than `Integer.maxDigits` digits is not read and not
printed anywhere; what is written of it here is never read back. -/
def headText (head : Int) : String := "cat" ++ toString head

def typeText (head : Int) (type : String) : String := headText head ++ "_" ++ type

def dimText (head : Int) (type dim : String) : String := typeText head type ++ "_" ++ dim

def leafText (head : Int) (type dim value : String) : String := dimText head type dim ++ value

def markerText (head : Int) (type : String) : String := "sub" ++ toString head ++ "_" ++ type

def removalText (target : String) : String := "!" ++ target

/-- The written form of the negation of a selector. -/
def negationText (head : Int) (selector : String) : String :=
  if selector = "" then "~" ++ headText head else "~" ++ headText head ++ "_" ++ selector

/-! ## Reading -/

/-- What follows a given start. -/
def after? : List Char → List Char → Option (List Char)
  | [], cs => some cs
  | l :: lead, c :: cs => if l = c then after? lead cs else none
  | _ :: _, [] => none

/-- A text without one line feed at its end. -/
def withoutLineEnd (cs : List Char) : List Char :=
  if cs.getLast? = some '\n' then cs.dropLast else cs

/-- A field behind the head. -/
inductive Part
  | type (key : String)
  | dim (dim : String)
  | value (dim value : String)
  deriving DecidableEq, Repr

/-- A type key is `z` and digits, or `zz`. -/
def isTypeKey : List Char → Bool
  | 'z' :: rest => rest == ['z'] || isDigits rest
  | _ => false

/-- The letter of a dimension. -/
def isDim (c : Char) : Bool := c == 'a' || c == 'b' || c == 'c' || c == 'd'

/-- Reads a field behind the head. -/
def part? (field : List Char) : Option Part :=
  if isTypeKey field then some (.type (String.ofList field))
  else match field with
    | c :: rest =>
      if isDim c && rest.isEmpty then some (.dim (String.singleton c))
      else if isDim c && isDigits rest then some (.value (String.singleton c) (String.ofList rest))
      else none
    | [] => none

/-- Reads the field of the head, a start and digits. -/
def headDigits? (lead field : List Char) : Option (List Char) :=
  (after? lead field).filter isDigits

/-- The digits of the head and the fields behind it. -/
def headAndFields? (lead cs : List Char) : Option (List Char × List (List Char)) :=
  match fields '_' (withoutLineEnd cs) with
  | first :: more => (headDigits? lead first).map (·, more)
  | [] => none

/-- The token of a head and the parts behind it, when they name something. -/
def named? (head : Nat) : List Part → Option Token
  | [] => some (.head head)
  | [.type t] => some (.type head t)
  | [.dim d] => some (.dim head d)
  | [.value d v] => some (.value head d v)
  | [.type t, .dim d] => some (.typeDim head t d)
  | [.type t, .value d v] => some (.leaf head t d v)
  | _ => none

/-- The fields of a selector: none, a type, a value, or a type and a value. One empty field also
selects the whole head. -/
def isSelector (fields : List (List Char)) : Bool :=
  match fields with
  | [] => true
  | [[]] => true
  | fields => match fields.mapM part? with
    | some [.type _] => true
    | some [.value _ _] => true
    | some [.type _, .value _ _] => true
    | _ => false

/-- Reads a token that starts with `cat`. -/
def readNamed (raw : String) : Except Integer.Fault Token :=
  match headAndFields? "cat".toList raw.toList with
  | none => .ok (.literal raw)
  | some (digits, more) =>
    match more.mapM part? with
    | none => .ok (.literal raw)
    | some parts =>
      match named? 0 parts with
      | none => .ok (.literal raw)
      | some _ => do
        let head ← Integer.ofRun digits
        return (named? head parts).getD (.literal raw)

/-- Reads a token that starts with a tilde. -/
def readNegation (raw : String) : Except Integer.Fault Token :=
  match headAndFields? "~cat".toList raw.toList with
  | none => .ok (.literal raw)
  | some (digits, more) =>
    if isSelector more then do
      let head ← Integer.ofRun digits
      return .negation raw head (String.ofList (joined '_' more))
    else .ok (.literal raw)

/-- Reads one token. It fails only on a head with too many digits. -/
def Token.read (raw : String) : Except Integer.Fault Token :=
  match raw.toList with
  | '!' :: target => .ok (.removal (String.ofList target))
  | '~' :: _ => readNegation raw
  | 'c' :: _ => readNamed raw
  | _ => .ok (.literal raw)

/-- Reads a list of tokens with commas between. -/
def tokens (tree : String) : Except Integer.Fault (List Token) := (split ',' tree).mapM Token.read

/-- Reads an entry. Only leaves and markers carry selection. -/
def Entry.read (raw : String) : Except Integer.Fault (Option Entry) :=
  match headAndFields? "cat".toList raw.toList, headAndFields? "sub".toList raw.toList with
  | some (digits, more), _ =>
    match more.mapM part? with
    | some [.type t, .value d v] => do return some (.leaf (← Integer.ofRun digits) t d v)
    | _ => .ok none
  | none, some (digits, more) =>
    match more.mapM part? with
    | some [.type t] => do return some (.marker (← Integer.ofRun digits) t)
    | _ => .ok none
  | none, none => .ok none

def Entry.text : Entry → String
  | .leaf head type dim value => leafText head type dim value
  | .marker head type => markerText head type

end Sift.Shorthand
