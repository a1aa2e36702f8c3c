import Sift.Boundary.Letter
import Sift.Text.Character

/-!
# Words of a date

A free-form date is cut into words: runs of letters, numbers with or without a fraction, and all
other characters one by one, where any white space is one blank. A point belongs to the word or
number it stands in, and the pieces around it are words of their own unless the whole is a plain
number. A comma may stand for the point of a number of two digits or more.
-/

namespace Sift.FreeForm

open Text

/-- What kind of word is being read. -/
inductive Kind
  | letters
  | digits
  /-- Letters with a point among them. -/
  | pointedLetters
  /-- Digits with a point or a comma among them. -/
  | pointedDigits
  deriving DecidableEq, Repr

/-- A word that may go on: its characters, latest first, and whether letters were looked for behind
its first character. -/
structure Pending where
  kind : Kind
  chars : List Char
  seenLetters : Bool

/-- Cuts a word at its points and commas, which become words of their own. -/
def pieces (cs : List Char) : List (List Char) :=
  let step (c : Char) (acc : List (List Char)) : List (List Char) :=
    if c = '.' || c = ',' then [] :: [c] :: acc
    else match acc with
      | piece :: rest => (c :: piece) :: rest
      | [] => [[c]]
  (cs.foldr step [[]]).filter (! ·.isEmpty)

/-- A complete word, or its pieces. -/
def Pending.words (p : Pending) : List (List Char) :=
  let cs := p.chars.reverse
  let pointed := p.kind = .pointedLetters || p.kind = .pointedDigits
  if pointed && (p.seenLetters || 1 < cs.count '.' || p.chars.head? = some '.' ||
      p.chars.head? = some ',') then pieces cs
  else if p.kind = .pointedDigits && !cs.contains '.' then
    [cs.map fun c => if c = ',' then '.' else c]
  else [cs]

/-- The word with one more character, unless it ends before that. -/
def Pending.extend? (p : Pending) (c : Char) : Option Pending :=
  let grow (kind : Kind) (seen : Bool) : Option Pending := some ⟨kind, c :: p.chars, seen⟩
  match p.kind with
  | .letters =>
    if isLetter c then grow .letters true
    else if c = '.' then grow .pointedLetters true
    else none
  | .digits =>
    if isFigure c then grow .digits p.seenLetters
    else if c = '.' || c = ',' && 2 ≤ p.chars.length then grow .pointedDigits p.seenLetters
    else none
  | .pointedLetters =>
    if c = '.' || isLetter c then grow .pointedLetters true
    else if isFigure c && p.chars.head? = some '.' then grow .pointedDigits true
    else none
  | .pointedDigits =>
    if c = '.' || isFigure c then grow .pointedDigits p.seenLetters
    else if isLetter c && p.chars.head? = some '.' then grow .pointedLetters p.seenLetters
    else none

/-- A word that ends before `p` could be extended knows that letters were looked for. -/
def Pending.close (p : Pending) : Pending :=
  match p.kind with
  | .letters | .pointedLetters => { p with seenLetters := true }
  | _ => p

/-- The words behind what is pending. -/
def wordsFrom (pending : Option Pending) : List Char → List (List Char)
  | [] => match pending with
    | some p => p.words
    | none => []
  | c :: rest =>
    let start : List (List Char) × Option Pending :=
      if isLetter c then ([], some ⟨.letters, [c], false⟩)
      else if isFigure c then ([], some ⟨.digits, [c], false⟩)
      else if isBlank c then ([[' ']], none)
      else ([[c]], none)
    match pending with
    | none => start.1 ++ wordsFrom start.2 rest
    | some p => match p.extend? c with
      | some p => wordsFrom (some p) rest
      | none => p.close.words ++ start.1 ++ wordsFrom start.2 rest

/-- The words of a text. NUL characters are passed over. -/
def words (text : List Char) : List String :=
  (wordsFrom none (text.filter (· != '\x00'))).map String.ofList

end Sift.FreeForm
