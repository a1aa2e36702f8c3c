import Sift.Text.Case.Table

/-!
# Lower and upper case

The full case mappings of Unicode. A character may map to several, and a capital sigma maps to the
final form at the end of a word.
-/

namespace Sift.Text

namespace Case

/-- The code point that the runs map `n` to. -/
def shifted (runs : List Run) (n : Nat) : Nat :=
  match runs.find? (·.covers n) with
  | some r => (n + r.shift).toNat
  | none => n

/-- The lower case of a character out of context. -/
def lowerChar (c : Char) : List Char :=
  if c = 'İ' then ['i', '\u0307'] else [Char.ofNat (shifted lowerRuns c.toNat)]

/-- The upper case of a character. -/
def upperChar (c : Char) : List Char :=
  match upperExpansions.lookup c.toNat with
  | some expansion => expansion.map Char.ofNat
  | none => [Char.ofNat (shifted upperRuns c.toNat)]

/-- The first character that is not ignorable has case. -/
def startsCased (cs : List Char) : Bool :=
  match cs.dropWhile ignorable.has with
  | [] => false
  | c :: _ => cased.has c

/-- Lower case, where `afterCased` tells whether a character with case comes just before. -/
def lowerFrom (afterCased : Bool) : List Char → List Char
  | [] => []
  | c :: rest =>
    (if c = 'Σ' then [if afterCased && !startsCased rest then 'ς' else 'σ'] else lowerChar c) ++
      lowerFrom (if ignorable.has c then afterCased else cased.has c) rest

end Case

def lower (s : String) : String := String.ofList (Case.lowerFrom false s.toList)

def upper (s : String) : String := String.ofList (s.toList.flatMap Case.upperChar)

end Sift.Text
