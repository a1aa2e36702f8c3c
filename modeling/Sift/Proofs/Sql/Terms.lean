import Mathlib.Data.List.Forall2
import Sift.Proofs.Predicate.Clauses

/-!
# Search terms are read back

A text between marks is read at the mark that opens it and up to the next one that stands alone; two
marks in a row are read as one (`readQuoted`). What is written so is read as it was, whatever stands
behind it but another mark (`readQuoted_between`), and dropping characters from a text that is written
so leaves what is kept of it, written so (`filter_between`).

Every value that is searched for therefore arrives as it was given, but without its NUL characters: for
Postgres in a literal, in the predicate and once more in the relevance column, and for SQLite as the
one phrase in a literal (`terms_arrive`).
-/

namespace Sift.Dialect

open Category

/-! ## Texts between marks -/

/-- Reads up to the mark that closes a text: what was read, and what stands behind that mark. -/
def readBody (mark : Char) : List Char → Option (List Char × List Char)
  | [] => none
  | [c] => if c = mark then some ([], []) else none
  | c :: d :: cs =>
    if c = mark then
      if d = mark then (readBody mark cs).map (Prod.map (mark :: ·) id) else some ([], d :: cs)
    else (readBody mark (d :: cs)).map (Prod.map (c :: ·) id)

/-- Reads a text between marks, at the mark that opens it. -/
def readQuoted (mark : Char) : List Char → Option (List Char × List Char)
  | [] => none
  | c :: cs => if c = mark then readBody mark cs else none

/-- A text between marks, with every mark in it written twice. -/
def between (mark : Char) (cs : List Char) : List Char := mark :: (doubled mark cs ++ [mark])

variable {mark : Char} {cs rest : List Char}

theorem doubled_cons (c : Char) :
    doubled mark (c :: cs) = (if c = mark then [c, c] else [c]) ++ doubled mark cs :=
  List.flatMap_cons

theorem readBody_mark (h : rest.head? ≠ some mark) :
    readBody mark (mark :: rest) = some ([], rest) := by
  cases rest with
  | nil => simp [readBody]
  | cons d rest =>
    have hd : d ≠ mark := fun hd => h (by rw [hd]; rfl)
    simp [readBody, hd]

theorem readBody_doubled (h : rest.head? ≠ some mark) :
    readBody mark (doubled mark cs ++ mark :: rest) = some (cs, rest) := by
  induction cs with
  | nil => exact readBody_mark h
  | cons c cs ih =>
    rw [doubled_cons]
    by_cases hc : c = mark
    · subst hc
      simp [readBody, ih]
    · -- The character is read on its own, as something stands behind it: the closing mark at least.
      obtain ⟨d, ds, hds⟩ : ∃ d ds, doubled mark cs ++ mark :: rest = d :: ds :=
        List.exists_cons_of_ne_nil (by simp)
      rw [if_neg hc, List.singleton_append, List.cons_append, hds, readBody, if_neg hc, ← hds, ih]
      rfl

theorem readQuoted_between (h : rest.head? ≠ some mark) :
    readQuoted mark (between mark cs ++ rest) = some (cs, rest) := by
  rw [between, List.cons_append, readQuoted, if_pos rfl, List.append_assoc]
  exact readBody_doubled h

theorem filter_doubled (p : Char → Bool) :
    (doubled mark cs).filter p = doubled mark (cs.filter p) := by
  induction cs with
  | nil => rfl
  | cons c cs ih =>
    rw [doubled_cons, List.filter_append, ih]
    cases hp : p c with
    | true =>
      rw [List.filter_cons_of_pos hp, doubled_cons]
      split <;> simp [hp]
    | false =>
      rw [List.filter_cons_of_neg (by simp [hp])]
      split <;> simp [hp]

theorem filter_between {p : Char → Bool} (hp : p mark = true) :
    (between mark cs).filter p = between mark (cs.filter p) := by
  rw [between, List.filter_cons_of_pos hp, List.filter_append, filter_doubled,
    List.filter_cons_of_pos hp, List.filter_nil, between]

theorem toList_quote_escape (value : String) :
    (quote (escape value)).toList = between '\'' (kept value) := by
  rw [quote, String.toList_append, String.toList_append, toList_escape]
  rfl

theorem kept_phrase (value : String) : kept (phrase value) = between '"' (kept value) := by
  have hphrase : (phrase value).toList = between '"' value.toList := by
    simp [phrase, between]
  rw [kept, hphrase, filter_between (by decide)]
  rfl

/-! ## Searches -/

/-- Between a lead and a trail the text has one literal of SQL with the content given: read at its
first quote, it ends where the trail starts, whatever stands there but another quote. -/
def Delivers (lead trail text : String) (content : List Char) : Prop :=
  ∃ literal : List Char, text.toList = lead.toList ++ literal ++ trail.toList ∧
    ∀ rest, rest.head? ≠ some '\'' → readQuoted '\'' (literal ++ rest) = some (content, rest)

/-- What stands before the value in the predicate that searches a column for it. -/
def termLead (column : String) : Dialect → String
  | postgres config =>
    textVector config column ++ " @@ " ++ ("plainto_tsquery('" ++ config ++ "', ")
  | sqlite => "idx_fts_spots." ++ bareColumn column ++ " MATCH "

/-- What stands behind the value. -/
def termTrail : Dialect → String
  | postgres _ => ")"
  | sqlite => ""

/-- The content of a literal makes the database look for a value: it is the value as far as it is
kept, and for SQLite the one phrase that says so. -/
def Conveys (value : String) (content : List Char) : Dialect → Prop
  | postgres _ => content = kept value
  | sqlite => readQuoted '"' content = some (kept value, [])

/-- An escaped value between quotes delivers the value. -/
theorem delivers_quote (lead trail value : String) :
    Delivers lead trail (lead ++ quote (escape value) ++ trail) (kept value) := by
  refine ⟨between '\'' (kept value), ?_, fun rest hrest => readQuoted_between hrest⟩
  rw [String.toList_append, String.toList_append, toList_quote_escape]

theorem Delivers.append_left {lead trail text : String} {content : List Char}
    (h : Delivers lead trail text content) (before : String) :
    Delivers (before ++ lead) trail (before ++ text) content := by
  obtain ⟨literal, htext, hread⟩ := h
  refine ⟨literal, ?_, hread⟩
  simp only [String.toList_append, htext, List.append_assoc]

theorem Delivers.append_right {lead trail text : String} {content : List Char}
    (h : Delivers lead trail text content) (behind : String) :
    Delivers lead (trail ++ behind) (text ++ behind) content := by
  obtain ⟨literal, htext, hread⟩ := h
  refine ⟨literal, ?_, hread⟩
  simp only [String.toList_append, htext, List.append_assoc]

theorem readQuoted_phrase (value : String) :
    readQuoted '"' (kept (phrase value)) = some (kept value, []) := by
  have hread := @readQuoted_between '"' (kept value) [] nofun
  rwa [List.append_nil, ← kept_phrase] at hread

/-- The rank of a column for a value. -/
def rank (config column value : String) : String :=
  "ts_rank(" ++ textVector config column ++ ", " ++ textTerms config value ++ ")"

theorem textQuery_postgres (config column : String) {values : List String} (h : values ≠ []) :
    ((postgres config).textQuery (values.map (column, ·))).predicates =
        values.map (fun value => textVector config column ++ " @@ " ++ textTerms config value) ∧
      ((postgres config).textQuery (values.map (column, ·))).extraColumns =
        ["(" ++ " + ".intercalate (values.map (rank config column)) ++ ") AS " ++
          ("searchrelevancy_" ++ bareColumn column)] := by
  obtain ⟨first, more, rfl⟩ := List.exists_cons_of_ne_nil h
  have hmore : (more.map (column, ·)).map Prod.snd = more := by simp [Function.comp_def]
  simp only [List.map_cons, textQuery, hmore, List.map_map]
  exact ⟨rfl, rfl⟩

theorem textQuery_sqlite (column : String) (values : List String) :
    (sqlite.textQuery (values.map (column, ·))).predicates = values.map fun value =>
      "idx_fts_spots." ++ bareColumn column ++ " MATCH " ++ quote (escape (phrase value)) := by
  cases values with
  | nil => rfl
  | cons first more => simp only [List.map_cons, textQuery, List.map_map, Function.comp_def]

theorem delivers_textTerms (config value : String) :
    Delivers ("plainto_tsquery('" ++ config ++ "', ") ")" (textTerms config value) (kept value) :=
  delivers_quote _ _ value

theorem delivers_rank (config column value : String) :
    Delivers ("ts_rank(" ++ textVector config column ++ ", " ++ ("plainto_tsquery('" ++ config ++ "', "))
      "))" (rank config column value) (kept value) :=
  ((delivers_textTerms config value).append_left _).append_right ")"

/-- Searches of one column have a predicate for each value, in order, and each predicate delivers its
value. For Postgres the relevance column adds up as many ranks, and these deliver the values too. -/
theorem terms_arrive (dialect : Dialect) (column : String) {values : List String}
    (hvalues : values ≠ []) :
    let query := dialect.textQuery (values.map (column, ·))
    List.Forall₂ (fun value predicate => ∃ content, dialect.Conveys value content ∧
        Delivers (dialect.termLead column) dialect.termTrail predicate content)
      values query.predicates ∧
    ∀ config, dialect = postgres config → ∃ ranks,
      query.extraColumns =
        ["(" ++ " + ".intercalate ranks ++ ") AS " ++ ("searchrelevancy_" ++ bareColumn column)] ∧
      List.Forall₂ (fun value rank => Delivers
        ("ts_rank(" ++ textVector config column ++ ", " ++ ("plainto_tsquery('" ++ config ++ "', "))
        "))" rank (kept value)) values ranks := by
  cases dialect with
  | postgres config =>
    obtain ⟨hpredicates, hcolumns⟩ := textQuery_postgres config column hvalues
    refine ⟨?_, fun config' hconfig => ?_⟩
    · rw [hpredicates, List.forall₂_map_right_iff, List.forall₂_same]
      exact fun value _ => ⟨_, rfl, (delivers_textTerms config value).append_left _⟩
    · cases hconfig
      refine ⟨_, hcolumns, ?_⟩
      rw [List.forall₂_map_right_iff, List.forall₂_same]
      exact fun value _ => delivers_rank config column value
  | sqlite =>
    refine ⟨?_, nofun⟩
    rw [textQuery_sqlite, List.forall₂_map_right_iff, List.forall₂_same]
    intro value _
    have hdelivers := delivers_quote (termLead column sqlite) "" (phrase value)
    rw [String.append_empty] at hdelivers
    exact ⟨_, readQuoted_phrase value, hdelivers⟩

/-- Quotes, double quotes and NUL characters side by side, in both dialects. -/
theorem terms_arrive_marks :
    let values := ["o'neil", "\"'\x00'\""]
    values ≠ [] ∧
    List.Forall₂ (fun value predicate => ∃ content, sqlite.Conveys value content ∧
        Delivers "idx_fts_spots.title MATCH " "" predicate content) values
      ["idx_fts_spots.title MATCH '\"o''neil\"'",
        "idx_fts_spots.title MATCH '\"\"\"''''\"\"\"'"] ∧
    ∃ ranks, ((postgres "simple").textQuery (values.map ("s.title", ·))).extraColumns =
        ["(" ++ " + ".intercalate ranks ++ ") AS " ++ "searchrelevancy_title"] ∧
      List.Forall₂ (fun value rank => Delivers
        "ts_rank(to_tsvector('simple', s.title), plainto_tsquery('simple', " "))" rank (kept value))
        values ranks := by
  intro values
  have hvalues : values ≠ [] := by decide
  have hphrases := (terms_arrive sqlite "s.title" hvalues).1
  have hranks := (terms_arrive (postgres "simple") "s.title" hvalues).2 "simple" rfl
  exact ⟨hvalues, hphrases, hranks⟩

end Sift.Dialect
