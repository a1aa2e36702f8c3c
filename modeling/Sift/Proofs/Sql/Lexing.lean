/-!
# Lexing statements

A statement is read character by character. A single quote opens a literal and the next one closes
it, so a doubled quote closes and opens again. Outside of literals parentheses nest, and a semicolon,
the opening of a comment or a parenthesis that closes nothing is refused. What stands outside of
parentheses falls into pieces: words, commas, and groups with everything between their parentheses.

`lex` composes: pieces of texts with white space between are the pieces of the parts
(`lex_append`), and a text that is `Safe` is carried through inside parentheses.
-/

namespace Sift.Sql

/-- What has been read of a statement. -/
structure Reader where
  inLiteral : Bool
  depth : Nat
  /-- The piece that is being read. -/
  current : List Char
  /-- The pieces that are complete. -/
  pieces : List String
  deriving DecidableEq, Repr

namespace Reader

/-- Outside of everything, behind some pieces. -/
def after (pieces : List String) : Reader := ⟨false, 0, [], pieces⟩

/-- Completes the piece that is being read. -/
def close (r : Reader) : Reader :=
  if r.current = [] then r
  else { r with current := [], pieces := r.pieces ++ [String.ofList r.current] }

/-- Takes a character into the piece that is being read. -/
def push (r : Reader) (c : Char) : Reader := { r with current := r.current ++ [c] }

/-- The character would open a comment. -/
def opensComment (r : Reader) (c : Char) : Bool :=
  (c == '-' && r.current.getLast? == some '-') || (c == '*' && r.current.getLast? == some '/')

/-- Opens a parenthesis, which starts a piece when it is the first. -/
def openGroup (r : Reader) : Reader :=
  if r.depth = 0 then { r.close.push '(' with depth := 1 }
  else { r.push '(' with depth := r.depth + 1 }

/-- Closes a parenthesis, which completes a piece when it is the last. -/
def closeGroup (r : Reader) : Option Reader :=
  match r.depth with
  | 0 => none
  | 1 => some { r.push ')' with depth := 0 }.close
  | depth + 2 => some { r.push ')' with depth := depth + 1 }

/-- Reads a character that means nothing in particular, unless it stands between pieces. -/
def plain (r : Reader) (c : Char) : Reader :=
  if r.depth = 0 ∧ c = ',' then { r.close with pieces := r.close.pieces ++ [","] }
  else if r.depth = 0 ∧ c.isWhitespace = true then r.close
  else r.push c

/-- Reads a character outside of literals. -/
def stepCode (r : Reader) (c : Char) : Option Reader :=
  if c = ';' then none
  else if r.opensComment c = true then none
  else if c = '\'' then some { r.push c with inLiteral := true }
  else if c = '(' then some r.openGroup
  else if c = ')' then r.closeGroup
  else some (r.plain c)

/-- Reads a character. -/
def step (r : Reader) (c : Char) : Option Reader :=
  if r.inLiteral then some { r.push c with inLiteral := c != '\'' } else r.stepCode c

/-- Reads characters from left to right. -/
def run (r : Reader) (cs : List Char) : Option Reader := cs.foldlM step r

end Reader

open Reader

/-- The pieces of characters, if they end outside of literals and parentheses and none of them is
refused. -/
def lexChars (cs : List Char) : Option (List String) :=
  ((after []).run cs).bind fun r =>
    if r.inLiteral = false ∧ r.depth = 0 then some r.close.pieces else none

/-- The pieces of a statement. -/
def lex (statement : String) : Option (List String) := lexChars statement.toList

/-- The pieces between `WHERE` and what may follow the condition. -/
def whereClause (pieces : List String) : List String :=
  ((pieces.dropWhile (· != "WHERE")).drop 1).takeWhile fun p => p != "ORDER" && p != "LIMIT"

/-- The piece is a group, that is, a parenthesis up to its partner. -/
def IsGroup (piece : String) : Prop := piece.toList.head? = some '('

instance (piece : String) : Decidable (IsGroup piece) := inferInstanceAs (Decidable (_ = _))

/-! ## Runs -/

theorem run_append (r : Reader) (cs ds : List Char) :
    r.run (cs ++ ds) = (r.run cs).bind fun r' => r'.run ds := by
  rw [run, List.foldlM_append]
  rfl

theorem run_cons (r : Reader) (c : Char) (cs : List Char) :
    r.run (c :: cs) = (r.step c).bind fun r' => r'.run cs := by
  rw [run, List.foldlM_cons]
  rfl

@[simp] theorem run_nil (r : Reader) : r.run [] = some r := rfl

/-- The reader behind other pieces. -/
def Reader.behind (pieces : List String) (r : Reader) : Reader :=
  { r with pieces := pieces ++ r.pieces }

theorem close_behind (pieces : List String) (r : Reader) :
    (r.behind pieces).close = r.close.behind pieces := by
  by_cases h : r.current = []
  · simp [close, behind, h]
  · simp [close, behind, h]

theorem openGroup_behind (pieces : List String) (r : Reader) :
    (r.behind pieces).openGroup = r.openGroup.behind pieces := by
  by_cases h : r.depth = 0
  · simp [openGroup, behind, push, close, h]
    split <;> simp
  · simp [openGroup, behind, push, h]

theorem closeGroup_behind (pieces : List String) (r : Reader) :
    (r.behind pieces).closeGroup = r.closeGroup.map (behind pieces) := by
  obtain ⟨inLiteral, depth, current, done⟩ := r
  match depth with
  | 0 => rfl
  | 1 => simp [closeGroup, behind, push, close]
  | depth + 2 => rfl

theorem plain_behind (pieces : List String) (r : Reader) (c : Char) :
    (r.behind pieces).plain c = (r.plain c).behind pieces := by
  have hdepth : (r.behind pieces).depth = r.depth := rfl
  simp only [plain, close_behind, hdepth]
  split
  · simp [behind]
  · split
    · rfl
    · rfl

theorem step_behind (pieces : List String) (r : Reader) (c : Char) :
    (r.behind pieces).step c = (r.step c).map (behind pieces) := by
  have hcode : (r.behind pieces).stepCode c = (r.stepCode c).map (behind pieces) := by
    have hcomment : (r.behind pieces).opensComment c = r.opensComment c := rfl
    simp only [stepCode, hcomment, openGroup_behind, closeGroup_behind, plain_behind]
    split
    · rfl
    · split
      · rfl
      · split
        · rfl
        · split
          · rfl
          · split
            · rfl
            · rfl
  obtain ⟨inLiteral, depth, current, done⟩ := r
  cases inLiteral with
  | true => rfl
  | false => exact hcode

theorem run_behind (pieces : List String) (r : Reader) (cs : List Char) :
    (r.behind pieces).run cs = (r.run cs).map (behind pieces) := by
  induction cs generalizing r with
  | nil => rfl
  | cons c cs ih =>
    rw [run_cons, run_cons, step_behind]
    cases r.step c with
    | none => rfl
    | some r' => exact ih r'

/-! ## Pieces of composed texts -/

theorem lex_eq_some {s : String} {pieces : List String} :
    lex s = some pieces ↔
      ∃ r, (after []).run s.toList = some r ∧ r.inLiteral = false ∧ r.depth = 0 ∧
        r.close = after pieces := by
  rw [lex, lexChars, Option.bind_eq_some_iff]
  constructor
  · rintro ⟨r, hr, h⟩
    rw [Option.ite_none_right_eq_some] at h
    obtain ⟨⟨hlit, hdepth⟩, h⟩ := h
    refine ⟨r, hr, hlit, hdepth, ?_⟩
    obtain ⟨inLiteral, depth, current, done⟩ := r
    simp only at hlit hdepth
    subst hlit hdepth
    rw [close] at h ⊢
    split
    · rename_i hnil
      rw [if_pos hnil] at h
      simp only at hnil
      simpa [after, hnil] using h
    · rename_i hne
      rw [if_neg hne] at h
      simpa [after] using h
  · rintro ⟨r, hr, hlit, hdepth, hclose⟩
    exact ⟨r, hr, by rw [if_pos ⟨hlit, hdepth⟩, hclose]; rfl⟩

example : lex "a = 'it''s; --' AND (b OR (c))" =
    some ["a", "=", "'it''s; --'", "AND", "(b OR (c))"] := by decide

example : lex "a = 1 -- b" = none := by decide

theorem step_blank {r : Reader} (hlit : r.inLiteral = false) (hdepth : r.depth = 0) {c : Char}
    (hc : c = ' ' ∨ c = '\n') : r.step c = some r.close := by
  rcases hc with rfl | rfl <;>
    simp [step, hlit, stepCode, opensComment, plain, hdepth, Char.isWhitespace]

theorem lex_append {a b : String} {c : Char} (hc : c = ' ' ∨ c = '\n') {pa pb : List String}
    (ha : lex a = some pa) (hb : lex b = some pb) :
    lex (a ++ String.singleton c ++ b) = some (pa ++ pb) := by
  obtain ⟨ra, hra, hlit, hdepth, hclose⟩ := lex_eq_some.mp ha
  obtain ⟨rb, hrb, hlit', hdepth', hclose'⟩ := lex_eq_some.mp hb
  refine lex_eq_some.mpr ⟨rb.behind pa, ?_, hlit', hdepth', ?_⟩
  · have hmid : after pa = (after []).behind pa := by simp [after, behind]
    rw [String.toList_append, String.toList_append, String.toList_singleton, run_append, run_append,
      hra, Option.bind_some, run_cons, step_blank hlit hdepth hc, Option.bind_some, run_nil,
      Option.bind_some, hclose, hmid, run_behind, hrb]
    rfl
  · rw [close_behind, hclose']
    rfl

theorem lex_append_comma {a b : String} {pa pb : List String} (ha : lex a = some pa)
    (hb : lex b = some pb) : lex (a ++ ", " ++ b) = some (pa ++ "," :: pb) := by
  obtain ⟨ra, hra, hlit, hdepth, hclose⟩ := lex_eq_some.mp ha
  have hcomma : ra.step ',' = some (after (pa ++ [","])) := by
    have hplain : ra.step ',' = some { ra.close with pieces := ra.close.pieces ++ [","] } := by
      simp [step, hlit, stepCode, opensComment, plain, hdepth]
    rw [hplain, hclose]
    rfl
  have hfirst : lex (a ++ ",") = some (pa ++ [","]) := by
    refine lex_eq_some.mpr ⟨after (pa ++ [","]), ?_, rfl, rfl, rfl⟩
    rw [String.toList_append, run_append, hra]
    show (ra.step ',').bind _ = _
    rw [hcomma]
    rfl
  have hsep : a ++ ", " ++ b = a ++ "," ++ String.singleton ' ' ++ b := by
    have hmark : "," ++ String.singleton ' ' = ", " := by decide
    rw [← hmark, ← String.append_assoc]
  rw [hsep, lex_append (.inl rfl) hfirst hb, List.append_assoc]
  rfl

theorem any_lex_of_chars {p : List String → Bool} {cs : List Char}
    (h : (lexChars cs).any p = true) : (lex (String.ofList cs)).any p = true := by
  rwa [lex, String.toList_ofList]

theorem any_lex_of_append {p : List String → Bool} {cs ds : List Char}
    (h : (lexChars (cs ++ ds)).any p = true) :
    (lex (String.ofList cs ++ String.ofList ds)).any p = true := by
  rw [← String.ofList_append]
  exact any_lex_of_chars h

/-- A text that can be read outside of parentheses without `WHERE`. -/
def Fragment (s : String) : Prop := ∃ pieces, lex s = some pieces ∧ "WHERE" ∉ pieces

theorem fragment_of_lex {s : String}
    (h : (lex s).any (fun pieces => !pieces.contains "WHERE") = true) : Fragment s := by
  rw [Option.any_eq_true] at h
  obtain ⟨pieces, hpieces, h⟩ := h
  exact ⟨pieces, hpieces, by simpa using h⟩

theorem fragment_of_chars {cs : List Char}
    (h : (lexChars cs).any (fun pieces => !pieces.contains "WHERE") = true) :
    Fragment (String.ofList cs) :=
  fragment_of_lex (any_lex_of_chars h)

theorem fragment_of_append {cs ds : List Char}
    (h : (lexChars (cs ++ ds)).any (fun pieces => !pieces.contains "WHERE") = true) :
    Fragment (String.ofList cs ++ String.ofList ds) :=
  fragment_of_lex (any_lex_of_append h)

theorem Fragment.append {a b : String} {c : Char} (hc : c = ' ' ∨ c = '\n') (ha : Fragment a)
    (hb : Fragment b) : Fragment (a ++ String.singleton c ++ b) := by
  obtain ⟨pa, ha, hpa⟩ := ha
  obtain ⟨pb, hb, hpb⟩ := hb
  refine ⟨pa ++ pb, lex_append hc ha hb, fun hmem => ?_⟩
  rcases List.mem_append.mp hmem with h | h
  · exact hpa h
  · exact hpb h

theorem Fragment.append_comma {a b : String} (ha : Fragment a) (hb : Fragment b) :
    Fragment (a ++ ", " ++ b) := by
  obtain ⟨pa, ha, hpa⟩ := ha
  obtain ⟨pb, hb, hpb⟩ := hb
  refine ⟨pa ++ "," :: pb, lex_append_comma ha hb, fun hmem => ?_⟩
  rcases List.mem_append.mp hmem with h | h
  · exact hpa h
  · rcases List.mem_cons.mp h with h | h
    · exact absurd h (by decide)
    · exact hpb h

theorem Fragment.intercalate {sep : String}
    (hsep : ∀ {a b}, Fragment a → Fragment b → Fragment (a ++ sep ++ b)) {items : List String}
    (h : ∀ item ∈ items, Fragment item) : Fragment (sep.intercalate items) := by
  induction items with
  | nil => exact ⟨[], rfl, List.not_mem_nil⟩
  | cons item items ih =>
    cases items with
    | nil =>
      rw [String.intercalate_singleton]
      exact h item (by simp)
    | cons next items =>
      rw [String.intercalate_cons_cons]
      exact hsep (h item (by simp)) (ih fun i hi => h i (by simp [hi]))

/-- The pieces of the condition, from the pieces around it. -/
theorem whereClause_eq {before conj rest : List String} (hbefore : "WHERE" ∉ before)
    (hconj : ∀ p ∈ conj, p ≠ "ORDER" ∧ p ≠ "LIMIT")
    (hrest : ∀ p, rest.head? = some p → p = "ORDER" ∨ p = "LIMIT") :
    whereClause (before ++ "WHERE" :: (conj ++ rest)) = conj := by
  have hdrop : (before ++ "WHERE" :: (conj ++ rest)).dropWhile (· != "WHERE") =
      "WHERE" :: (conj ++ rest) := by
    have hskip : ∀ p ∈ before, (p != "WHERE") = true := by
      intro p hp
      rw [bne_iff_ne]
      rintro rfl
      exact hbefore hp
    rw [List.dropWhile_append_of_pos hskip]
    rfl
  have hall : ∀ p ∈ conj, (p != "ORDER" && p != "LIMIT") = true := by
    intro p hp
    simpa using hconj p hp
  rw [whereClause, hdrop, List.drop_one, List.tail_cons, List.takeWhile_append_of_pos hall]
  have hnil : rest.takeWhile (fun p => p != "ORDER" && p != "LIMIT") = [] := by
    cases rest with
    | nil => rfl
    | cons p more => rcases hrest p rfl with rfl | rfl <;> rfl
  rw [hnil, List.append_nil]

end Sift.Sql
