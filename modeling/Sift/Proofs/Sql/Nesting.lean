/-!
# Nested texts

A text falls into words and units. A unit is a parenthesis with its partner and what stands between
them, which falls into words and units again. A quoted text, a run of letters and digits, and any
other sign are words, and nothing inside quotes counts. The levels that are open stand on a stack,
the innermost first.

A text is read in the same way wherever it begins a new word (`run_of_pieces?`), so the pieces of
texts with a space between are the pieces of the parts (`pieces?_append`), and a text in parentheses
is one unit (`pieces?_parens`).
-/

namespace Sift.Sql

/-- A word, or a unit with the text and the pieces between its parentheses. -/
inductive Piece
  | word (text : List Char)
  | unit (text : List Char) (pieces : List Piece)

/-- What has been read between two parentheses, or outside of all. -/
structure Level where
  text : List Char
  /-- The pieces that are complete. -/
  pieces : List Piece
  /-- The word that is being read. -/
  word : List Char

/-- Opens and closes a quoted text. -/
def isQuote (c : Char) : Bool := c == '\'' || c == '"'

/-- Letters, digits, and what names have besides. -/
def isNameChar (c : Char) : Bool := c.isAlphanum || c == '_' || c == '.' || 127 < c.toNat

namespace Level

def start : Level := ⟨[], [], []⟩

/-- The pieces, with the word that is being read. -/
def complete (l : Level) : List Piece :=
  if l.word = [] then l.pieces else l.pieces ++ [.word l.word]

/-- Ends the word that is being read. -/
def settle (l : Level) : Level := ⟨l.text, l.complete, []⟩

/-- Takes a character into the word that is being read. -/
def push (c : Char) (l : Level) : Level := ⟨l.text ++ [c], l.pieces, l.word ++ [c]⟩

/-- Takes a character that is not of any word. -/
def pass (c : Char) (l : Level) : Level := ⟨l.text ++ [c], l.complete, []⟩

/-- Takes a character, inside of a quoted text or outside. -/
def take (quote? : Option Char) (c : Char) (l : Level) : Level :=
  match quote? with
  | some q => if c = q then (l.push c).settle else l.push c
  | none =>
    if isQuote c then l.settle.push c
    else if c.isWhitespace then l.pass c
    else if isNameChar c then l.push c
    else (l.settle.push c).settle

/-- Takes a unit. -/
def enclose (l inner : Level) : Level :=
  ⟨l.text ++ '(' :: (inner.text ++ [')']), l.complete ++ [.unit inner.text inner.complete], []⟩

/-- The level behind another one that is not in a word. -/
def behind (before l : Level) : Level :=
  ⟨before.text ++ l.text, before.pieces ++ l.pieces, l.word⟩

end Level

/-- What has been read of a text. -/
structure Scan where
  /-- The quote that ends the quoted text that is being read. -/
  quote? : Option Char
  /-- The levels that are open, the innermost first. -/
  levels : List Level

namespace Scan

/-- The quote that is open behind a character. -/
def quoteAfter (quote? : Option Char) (c : Char) : Option Char :=
  match quote? with
  | some q => if c = q then none else some q
  | none => if isQuote c then some c else none

/-- Reads a character. A parenthesis that closes nothing is refused. -/
def step (s : Scan) (c : Char) : Option Scan :=
  if s.quote? = none ∧ c = '(' then some ⟨none, .start :: s.levels⟩
  else if s.quote? = none ∧ c = ')' then
    match s.levels with
    | inner :: l :: outer => some ⟨none, l.enclose inner :: outer⟩
    | _ => none
  else
    match s.levels with
    | l :: outer => some ⟨quoteAfter s.quote? c, l.take s.quote? c :: outer⟩
    | [] => none

/-- Reads characters from left to right. -/
def run (s : Scan) (cs : List Char) : Option Scan := cs.foldlM step s

/-- The pieces that have been read, outside of quotes and parentheses. -/
def pieces? (s : Scan) : Option (List Piece) :=
  match s.quote?, s.levels with
  | none, [l] => some l.complete
  | _, _ => none

end Scan

open Scan

/-- The pieces of a text, if it ends outside of quotes and parentheses. -/
def pieces? (text : String) : Option (List Piece) :=
  (run ⟨none, [.start]⟩ text.toList).bind Scan.pieces?

/-! ## Levels behind another one -/

namespace Level

theorem behind_start {before : Level} (h : before.word = []) : before.behind start = before := by
  obtain ⟨text, pieces, word⟩ := before
  obtain rfl : word = [] := h
  simp [behind, start]

@[simp] theorem complete_behind (before l : Level) :
    (before.behind l).complete = before.pieces ++ l.complete := by
  by_cases h : l.word = []
  · simp [complete, behind, h]
  · simp [complete, behind, h]

theorem settle_behind (before l : Level) : (before.behind l).settle = before.behind l.settle := by
  rw [settle, complete_behind]
  rfl

theorem push_behind (before l : Level) (c : Char) :
    (before.behind l).push c = before.behind (l.push c) := by simp [push, behind]

theorem pass_behind (before l : Level) (c : Char) :
    (before.behind l).pass c = before.behind (l.pass c) := by
  rw [pass, complete_behind]
  simp [behind, pass]

theorem take_behind (before l : Level) (quote? : Option Char) (c : Char) :
    (before.behind l).take quote? c = before.behind (l.take quote? c) := by
  unfold take
  split
  · split <;> simp only [push_behind, settle_behind]
  · split
    · simp only [push_behind, settle_behind]
    · split
      · rw [pass_behind]
      · split <;> simp only [push_behind, settle_behind]

theorem enclose_behind (before l inner : Level) :
    (before.behind l).enclose inner = before.behind (l.enclose inner) := by
  rw [enclose, complete_behind]
  simp [behind, enclose]

theorem text_take (l : Level) (quote? : Option Char) (c : Char) :
    (l.take quote? c).text = l.text ++ [c] := by
  unfold take
  split
  · split <;> rfl
  · split
    · rfl
    · split
      · rfl
      · split <;> rfl

end Level

/-! ## Steps and runs -/

namespace Scan

open Level

/-- The levels with the outermost one behind another level, on top of others. -/
def onto (before : Level) (outer : List Level) : List Level → List Level
  | [] => outer
  | [l] => before.behind l :: outer
  | l :: next :: rest => l :: onto before outer (next :: rest)

/-- What has been read since the outermost level was opened. -/
def textOf : List Level → List Char
  | [] => []
  | [l] => l.text
  | l :: next :: rest => textOf (next :: rest) ++ '(' :: l.text

theorem step_cases {s t : Scan} {c : Char} (h : s.step c = some t) :
    (s.quote? = none ∧ c = '(' ∧ t = ⟨none, .start :: s.levels⟩) ∨
    (s.quote? = none ∧ c = ')' ∧ ∃ inner l outer, s.levels = inner :: l :: outer ∧
      t = ⟨none, l.enclose inner :: outer⟩) ∨
    ∃ l outer, s.levels = l :: outer ∧
      t = ⟨quoteAfter s.quote? c, l.take s.quote? c :: outer⟩ ∧
      ∀ l' outer', step ⟨s.quote?, l' :: outer'⟩ c =
        some ⟨quoteAfter s.quote? c, l'.take s.quote? c :: outer'⟩ := by
  obtain ⟨quote?, levels⟩ := s
  unfold step at h
  split at h
  · rename_i hopen
    exact .inl ⟨hopen.1, hopen.2, (Option.some.inj h).symm⟩
  · rename_i hopen
    split at h
    · rename_i hclose
      split at h
      · rename_i inner l outer hlevels
        exact .inr (.inl ⟨hclose.1, hclose.2, inner, l, outer, hlevels, (Option.some.inj h).symm⟩)
      · cases h
    · rename_i hclose
      split at h
      · rename_i l outer hlevels
        refine .inr (.inr ⟨l, outer, hlevels, (Option.some.inj h).symm, fun l' outer' => ?_⟩)
        simp only [step]
        rw [if_neg hopen, if_neg hclose]
      · cases h

theorem onto_cons (before : Level) (outer rest : List Level) :
    ∃ g tail, (g = id ∨ g = before.behind) ∧ ∀ l, onto before outer (l :: rest) = g l :: tail := by
  cases rest with
  | nil => exact ⟨before.behind, outer, .inr rfl, fun l => rfl⟩
  | cons next rest => exact ⟨id, onto before outer (next :: rest), .inl rfl, fun l => rfl⟩

theorem step_onto {s t : Scan} {c : Char} (h : s.step c = some t) (hlevels : s.levels ≠ [])
    (before : Level) (outer : List Level) :
    step ⟨s.quote?, onto before outer s.levels⟩ c =
      some ⟨t.quote?, onto before outer t.levels⟩ := by
  obtain ⟨quote?, levels⟩ := s
  rcases step_cases h with ⟨hquote, rfl, rfl⟩ | ⟨hquote, rfl, inner, l, rest, rfl, rfl⟩ |
    ⟨l, rest, rfl, rfl, htake⟩
  · obtain rfl : quote? = none := hquote
    obtain ⟨l, rest, rfl⟩ := List.exists_cons_of_ne_nil hlevels
    rfl
  · obtain rfl : quote? = none := hquote
    obtain ⟨g, tail, hg, honto⟩ := onto_cons before outer rest
    have henclose : (g l).enclose inner = g (l.enclose inner) := by
      rcases hg with rfl | rfl
      · rfl
      · exact enclose_behind before l inner
    show step ⟨none, inner :: onto before outer (l :: rest)⟩ ')' = _
    rw [honto, honto, ← henclose]
    rfl
  · obtain ⟨g, tail, hg, honto⟩ := onto_cons before outer rest
    have hsame : (g l).take quote? c = g (l.take quote? c) := by
      rcases hg with rfl | rfl
      · rfl
      · exact take_behind before l quote? c
    simp only [honto, ← hsame]
    exact htake (g l) tail

theorem textOf_step {s t : Scan} {c : Char} (h : s.step c = some t) (hlevels : s.levels ≠ []) :
    textOf t.levels = textOf s.levels ++ [c] := by
  obtain ⟨quote?, levels⟩ := s
  rcases step_cases h with ⟨-, rfl, rfl⟩ | ⟨-, rfl, inner, l, rest, rfl, rfl⟩ |
    ⟨l, rest, rfl, rfl, -⟩
  · obtain ⟨l, rest, rfl⟩ := List.exists_cons_of_ne_nil hlevels
    rfl
  · cases rest <;> simp [textOf, enclose]
  · cases rest <;> simp [textOf, text_take]

theorem levels_step {s t : Scan} {c : Char} (h : s.step c = some t) : t.levels ≠ [] := by
  rcases step_cases h with ⟨-, -, rfl⟩ | ⟨-, -, _, _, _, -, rfl⟩ | ⟨_, _, -, rfl, -⟩
  all_goals exact List.cons_ne_nil _ _

theorem run_cons (s : Scan) (c : Char) (cs : List Char) :
    s.run (c :: cs) = (s.step c).bind fun t => t.run cs := by
  rw [run, List.foldlM_cons]
  rfl

theorem run_append (s : Scan) (cs ds : List Char) :
    s.run (cs ++ ds) = (s.run cs).bind fun t => t.run ds := by
  rw [run, List.foldlM_append]
  rfl

/-- A run on levels is the run on them behind another one, and reads its text. -/
theorem run_onto {s t : Scan} {cs : List Char} (h : s.run cs = some t) (hlevels : s.levels ≠ []) :
    textOf t.levels = textOf s.levels ++ cs ∧ ∀ before outer,
      run ⟨s.quote?, onto before outer s.levels⟩ cs =
        some ⟨t.quote?, onto before outer t.levels⟩ := by
  induction cs generalizing s with
  | nil =>
    obtain rfl := Option.some.inj h
    exact ⟨(List.append_nil _).symm, fun before outer => rfl⟩
  | cons c cs ih =>
    rw [run_cons] at h
    obtain ⟨next, hstep, h⟩ := Option.bind_eq_some_iff.mp h
    obtain ⟨htext, honto⟩ := ih h (levels_step hstep)
    refine ⟨?_, fun before outer => ?_⟩
    · rw [htext, textOf_step hstep hlevels, List.append_assoc]
      rfl
    · rw [run_cons, step_onto hstep hlevels]
      exact honto before outer

end Scan

/-! ## Pieces of texts -/

theorem run_of_pieces? {text : String} {ps : List Piece} (h : pieces? text = some ps) :
    ∃ l : Level, l.text = text.toList ∧ l.complete = ps ∧
      ∀ before outer, before.word = [] →
        run ⟨none, before :: outer⟩ text.toList = some ⟨none, before.behind l :: outer⟩ := by
  obtain ⟨⟨quote?, levels⟩, hrun, hpieces⟩ := Option.bind_eq_some_iff.mp h
  unfold Scan.pieces? at hpieces
  split at hpieces
  · rename_i l hquote hlevels
    obtain rfl : quote? = none := hquote
    obtain rfl : levels = [l] := hlevels
    obtain ⟨htext, honto⟩ := run_onto hrun (List.cons_ne_nil _ _)
    refine ⟨l, htext, Option.some.inj hpieces, fun before outer hword => ?_⟩
    have hrun := honto before outer
    rw [onto, Level.behind_start hword] at hrun
    exact hrun
  · cases hpieces

theorem pieces?_append {a b : String} {ps qs : List Piece} (ha : pieces? a = some ps)
    (hb : pieces? b = some qs) : pieces? (a ++ " " ++ b) = some (ps ++ qs) := by
  obtain ⟨l, -, rfl, hl⟩ := run_of_pieces? ha
  obtain ⟨m, -, rfl, hm⟩ := run_of_pieces? hb
  have hspace : ∀ l : Level, run ⟨none, [l]⟩ " ".toList = some ⟨none, [l.pass ' ']⟩ := fun l => rfl
  rw [pieces?, String.toList_append, String.toList_append, Scan.run_append, Scan.run_append,
    hl .start [] rfl, Option.bind_some, hspace, Option.bind_some, hm _ [] rfl]
  show some ((Level.start.behind l).pass ' ' |>.behind m).complete = _
  rw [Level.complete_behind]
  show some ((Level.start.behind l).complete ++ m.complete) = _
  rw [Level.complete_behind]
  rfl

theorem pieces?_parens {inner : String} {ps : List Piece} (h : pieces? inner = some ps) :
    pieces? ("(" ++ inner ++ ")") = some [.unit inner.toList ps] := by
  obtain ⟨l, htext, rfl, hl⟩ := run_of_pieces? h
  have hopen : run ⟨none, [.start]⟩ "(".toList = some ⟨none, [.start, .start]⟩ := rfl
  rw [pieces?, String.toList_append, String.toList_append, Scan.run_append, Scan.run_append, hopen,
    Option.bind_some, hl .start [.start] rfl]
  show some [Piece.unit l.text l.complete] = _
  rw [htext]

end Sift.Sql
