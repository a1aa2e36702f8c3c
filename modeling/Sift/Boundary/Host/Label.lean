import Sift.Boundary.Composition
import Sift.Boundary.Host.Label.Table
import Sift.Boundary.Letter
import Sift.Boundary.Punycode
import Sift.Text.Case
import Sift.Text.Quoted

/-!
# Labels

A label is a part of a host's name between dots. It is made of letters, marks, digits and hyphens of
any script; some characters are allowed only beside certain others, and a label with characters that
are written from right to left has rules of its own. Labels of other characters than ASCII are sent
in Punycode behind `xn--`.
-/

namespace Sift.Host.Label

open Text

/-! ## Faults -/

/-- Why the directions in a label do not go together. Positions count from one. -/
inductive DirectionFault
  | start (label : String)
  | withinRightToLeft (position : Nat)
  | withinLeftToRight (position : Nat)
  | mixedNumbers
  | ending
  deriving DecidableEq, Repr

/-- Why a text is no label. Positions count from one. -/
inductive Fault
  | empty
  | nameTooLong
  | notComposed
  | hyphensInside
  | outerHyphen
  | leadingMark
  | character (c : Char) (position : Nat) (label : String)
  | joiner (c : Char) (position : Nat) (label : String)
  | neighbours (c : Char) (position : Nat) (label : String)
  | direction (fault : DirectionFault)
  | nothingEncoded
  | hyphenEncoded
  | notEncoded
  deriving DecidableEq, Repr

def DirectionFault.message : DirectionFault → String
  | .start label =>
    "First codepoint in label " ++ quoted label ++ " must be directionality L, R or AL"
  | .withinRightToLeft position =>
    "Invalid direction for codepoint at position " ++ toString position ++
      " in a right-to-left label"
  | .withinLeftToRight position =>
    "Invalid direction for codepoint at position " ++ toString position ++
      " in a left-to-right label"
  | .mixedNumbers => "Can not mix numeral types in a right-to-left label"
  | .ending => "Label ends with illegal codepoint directionality"

/-- The name of a code point: four hexadecimal digits or more. -/
def pointName (c : Char) : String :=
  let width := if c.toNat < 0x10000 then 4 else if c.toNat < 0x100000 then 5 else 6
  String.ofList ('U' :: '+' :: (hexDigits width c.toNat).map Char.toUpper)

def Fault.message : Fault → String
  | .empty => "Empty Label"
  | .nameTooLong => "Domain too long"
  | .notComposed => "Label must be in Normalization Form C"
  | .hyphensInside => "Label has disallowed hyphens in 3rd and 4th position"
  | .outerHyphen => "Label must not start or end with a hyphen"
  | .leadingMark => "Label begins with an illegal combining character"
  | .character c position label =>
    "Codepoint " ++ pointName c ++ " at position " ++ toString position ++ " of " ++
      quoted label ++ " not allowed"
  | .joiner c position label =>
    "Unknown codepoint adjacent to joiner " ++ pointName c ++ " at position " ++
      toString position ++ " in " ++ quoted label
  | .neighbours c position label =>
    "Codepoint " ++ pointName c ++ " not allowed at position " ++ toString position ++ " in " ++
      quoted label
  | .direction fault => fault.message
  | .nothingEncoded => "Malformed A-label, no Punycode eligible content found"
  | .hyphenEncoded => "A-label must not end with a hyphen"
  | .notEncoded => "Invalid A-label"

/-! ## Characters -/

/-- The character may stand anywhere in a label. -/
def isFree (c : Char) : Bool :=
  admitted.has c ||
    ((isLetter c || isMark c || isDigit c) && Case.lowerChar c == [c] && !unfit.has c)

/-- A character that shows how its neighbours are joined. -/
def isJoiner (c : Char) : Bool := c == '\u200C' || c == '\u200D'

/-- The Arabic digits and the eastern ones. -/
def isArabicDigit (c : Char) : Bool := '\u0660' ≤ c && c ≤ '\u0669'

/-- The eastern Arabic digits. -/
def isEasternDigit (c : Char) : Bool := '\u06F0' ≤ c && c ≤ '\u06F9'

/-- A character that may stand only beside certain others. -/
def isBound (c : Char) : Bool :=
  c == '\u00B7' || c == '\u0375' || c == '\u05F3' || c == '\u05F4' || c == '\u30FB' ||
    isArabicDigit c || isEasternDigit c

/-- The first character that joining does not pass over joins as told. -/
def reaches (joins : Ranges) (cs : List Char) : Bool :=
  match cs.dropWhile fun c => nonspacingMarks.has c || transparent.has c with
  | [] => false
  | c :: _ => joins.has c

/-- A joiner may stand behind `before`, which is given from its end, and before `after`. -/
def allowsJoiner (c : Char) (before after : List Char) : Bool :=
  let afterVirama := (before.head?.map fun b => combiningClass b.toNat) == some 9
  afterVirama || (c == '\u200C' && reaches joiningAfter before && reaches joiningBefore after)

/-- A bound character may stand behind `before`, which is given from its end, and before `after`. -/
def allowsBound (c : Char) (before after : List Char) : Bool :=
  if c == '\u00B7' then before.head? == some 'l' && after.head? == some 'l'
  else if c == '\u0375' then after.head?.any greek.has
  else if c == '\u30FB' then (before ++ after).any japanese.has
  else if isArabicDigit c then !(before ++ after).any isEasternDigit
  else if isEasternDigit c then !(before ++ after).any isArabicDigit
  else before.head?.any hebrew.has

/-- Checks the characters of a label from some on. Those before are given from their end. -/
def checkCharacters (label : String) (before : List Char) : List Char → Except Fault Unit
  | [] => .ok ()
  | c :: rest =>
    let position := before.length + 1
    if isFree c then checkCharacters label (c :: before) rest
    else if isJoiner c then
      if allowsJoiner c before rest then checkCharacters label (c :: before) rest
      else .error (.joiner c position label)
    else if isBound c then
      if allowsBound c before rest then checkCharacters label (c :: before) rest
      else .error (.neighbours c position label)
    else .error (.character c position label)

/-! ## Directions -/

/-- How a character is written in a line. -/
inductive Direction
  | leftToRight
  | rightToLeft
  | number
  | arabicNumber
  | neutral
  | mark
  deriving DecidableEq, Repr

/-- The direction of a character that may stand in a label. -/
def direction (c : Char) : Direction :=
  if leftToRightMarks.has c then .leftToRight
  else if nonspacingMarks.has c then .mark
  else if c.isDigit || isEasternDigit c then .number
  else if isArabicDigit c || 0x10D30 ≤ c.toNat && c.toNat ≤ 0x10D39 then .arabicNumber
  else if Label.neutral.has c then .neutral
  else if Label.rightToLeft.has c then .rightToLeft
  else .leftToRight

/-- The last direction that is not that of a mark is among some. -/
def endsIn (allowed : List Direction) (ds : List Direction) : Bool :=
  (ds.reverse.find? (· != .mark)).any allowed.contains

/-- Checks a label that starts from right to left: nothing in it goes the other way, its numbers are
of one kind, and it ends in a number or from right to left. -/
def checkRightToLeft (ds : List Direction) : Except DirectionFault Unit :=
  let mixesAt (i : Nat) : Bool :=
    (ds.take (i + 1)).contains .number && (ds.take (i + 1)).contains .arabicNumber
  match ds.zipIdx.find? fun (d, i) => d == .leftToRight || mixesAt i with
  | some (.leftToRight, i) => .error (.withinRightToLeft (i + 1))
  | some _ => .error .mixedNumbers
  | none =>
    if endsIn [.rightToLeft, .number, .arabicNumber] ds then .ok () else .error .ending

/-- Checks a label that starts from left to right: nothing in it goes the other way, and it ends in
a number or from left to right. -/
def checkLeftToRight (ds : List Direction) : Except DirectionFault Unit :=
  match ds.zipIdx.find? fun (d, _) => d == .rightToLeft || d == .arabicNumber with
  | some (_, i) => .error (.withinLeftToRight (i + 1))
  | none => if endsIn [.leftToRight, .number] ds then .ok () else .error .ending

/-- Checks the directions in a label, if a character of it is written from right to left. -/
def checkDirections (label : List Char) : Except DirectionFault Unit :=
  let ds := label.map direction
  if ds.any fun d => d == .rightToLeft || d == .arabicNumber then
    match ds.head? with
    | some .rightToLeft => checkRightToLeft ds
    | some .leftToRight => checkLeftToRight ds
    | _ => .error (.start (String.ofList label))
  else .ok ()

/-! ## Labels -/

/-- Checks a label that is not in Punycode. -/
def check (label : List Char) : Except Fault Unit := do
  if label.isEmpty then throw .empty
  if !isComposed label then throw .notComposed
  if (label.drop 2).take 2 == ['-', '-'] then throw .hyphensInside
  if label.head? == some '-' || label.getLast? == some '-' then throw .outerHyphen
  if label.head?.any isMark then throw .leadingMark
  checkCharacters (String.ofList label) [] label
  (checkDirections label).mapError .direction

/-- What a label in Punycode starts with. -/
def encodedStart : List Char := ['x', 'n', '-', '-']

/-- Checks a label of lower-case ASCII characters, which may be in Punycode. -/
def checkAscii (label : List Char) : Except Fault Unit :=
  if encodedStart.isPrefixOf label then
    let code := label.drop 4
    if code.isEmpty then .error .nothingEncoded
    else if code.getLast? == some '-' then .error .hyphenEncoded
    else match Punycode.decode? code with
      | some label => check label
      | none => .error .notEncoded
  else check label

/-- The greatest length of a label as it is sent. -/
def maxLength : Nat := 63

def sent? (label : List Char) : Option (List Char) :=
  let isAscii := label.all Punycode.isBasic
  let sent := if isAscii then label else encodedStart ++ Punycode.encode label
  match if isAscii then checkAscii label else check label with
  | .ok () => if sent.length ≤ maxLength then some sent else none
  | .error _ => none

end Sift.Host.Label
