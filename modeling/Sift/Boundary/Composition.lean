import Sift.Boundary.Composition.Table
import Sift.Boundary.Mark

/-!
# Composed texts

A character with marks can be written as one code point or as several. A text is composed when its
marks are in order and no two of its code points could be one: it is the normal form that is
composed canonically.
-/

namespace Sift.Text

namespace Composition

/-! ## Pairs -/

/-- The Hangul syllable of a leading consonant and a vowel, or of a syllable and a trailing
consonant. -/
def syllable? (first second : Nat) : Option Nat :=
  if 0x1100 ≤ first && first ≤ 0x1112 && 0x1161 ≤ second && second ≤ 0x1175 then
    some (0xAC00 + ((first - 0x1100) * 21 + (second - 0x1161)) * 28)
  else if 0xAC00 ≤ first && first ≤ 0xD7A3 && (first - 0xAC00) % 28 = 0 && 0x11A8 ≤ second &&
      second ≤ 0x11C2 then
    some (first + (second - 0x11A7))
  else none

/-- The code point that two are composed to. -/
def pair? (first second : Nat) : Option Nat :=
  (syllable? first second).orElse fun _ => (compositions.lookup second).bind (·.lookup first)

/-- The two code points that one is composed of. -/
def parts? (n : Nat) : Option (Nat × Nat) :=
  compositions.findSome? fun (second, firsts) =>
    (firsts.find? (·.2 == n)).map fun (first, _) => (first, second)

/-! ## Normal form -/

/-- How often a first part is composed itself, at most. -/
def maxParts : Nat := 4

/-- A code point in its parts, which are taken apart `fuel` times at most. -/
def decomposed : Nat → Nat → List Nat
  | 0, n => [n]
  | fuel + 1, n =>
    match parts? n with
    | some (first, second) => decomposed fuel first ++ [second]
    | none => [n]

/-- Puts a mark before code points that are in order, behind the marks of lower classes. -/
def insertMark (mark : Nat) : List Nat → List Nat
  | [] => [mark]
  | n :: rest =>
    if combiningClass n ≠ 0 && combiningClass n < combiningClass mark then
      n :: insertMark mark rest
    else mark :: n :: rest

/-- Puts the marks behind each character in the order of their classes. Marks of one class keep
their order. -/
def ordered (ns : List Nat) : List Nat :=
  ns.foldr (fun n rest => if combiningClass n = 0 then n :: rest else insertMark n rest) []

/-- Composes what follows a code point, where `passed` are the marks between that were not composed,
the last one first. -/
def composedFrom (start : Nat) (passed : List Nat) : List Nat → List Nat
  | [] => start :: passed.reverse
  | n :: rest =>
    let isBlocked := match passed with
      | [] => false
      | last :: _ => combiningClass n ≤ combiningClass last
    match if isBlocked then none else pair? start n with
    | some whole => composedFrom whole passed rest
    | none =>
      if combiningClass n = 0 then start :: passed.reverse ++ composedFrom n [] rest
      else composedFrom start (n :: passed) rest

/-- Composes from the first code point on that is no mark. -/
def composed (ns : List Nat) : List Nat :=
  let isMark (n : Nat) : Bool := combiningClass n ≠ 0
  ns.takeWhile isMark ++ match ns.dropWhile isMark with
    | [] => []
    | start :: rest => composedFrom start [] rest

end Composition

def isComposed (cs : List Char) : Bool :=
  let ns := cs.map Char.toNat
  !cs.any Composition.neverComposed.has &&
    Composition.composed
      (Composition.ordered (ns.flatMap (Composition.decomposed Composition.maxParts))) == ns

end Sift.Text
