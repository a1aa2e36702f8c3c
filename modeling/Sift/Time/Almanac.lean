import Sift.Time.Moment

/-!
# Almanacs

How a clock is moved by a span of calendar units, and what a free-form date means, is looked up. An
almanac answers both; whatever is said of dates holds for every almanac, unless it says what the
almanac does.
-/

namespace Sift

/-- How far a clock is moved, unit by unit. -/
structure Span where
  years : Int
  months : Int
  weeks : Int
  days : Int
  hours : Int
  minutes : Int
  seconds : Int
  deriving DecidableEq, Repr

/-- The span that leaves a clock as it is. -/
def Span.none : Span := ⟨0, 0, 0, 0, 0, 0, 0⟩

namespace FreeForm

/-- Why a text is not read as a date. -/
inductive Fault
  /-- It is none. -/
  | unreadable
  /-- The reader breaks down on a number with this many digits before its point. -/
  | overlong (digits : Nat)
  deriving DecidableEq, Repr

/-- What was read, if anything. -/
def readable {α : Type} : Option α → Except Fault α
  | some value => .ok value
  | .none => .error .unreadable

end FreeForm

/-- What is looked up about dates. -/
structure Almanac where
  /-- The moment a span away, unless clocks do not show it. -/
  move? : Moment → Span → Option Moment
  /-- The moment that a free-form date names. What the text leaves open comes from a default. -/
  read : List Char → Moment → Except FreeForm.Fault Moment

end Sift
