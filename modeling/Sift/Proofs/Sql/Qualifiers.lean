import Sift.Proofs.Sql.Safety

/-!
# Tables that qualify columns

Outside of literals a statement falls into words. A word with a point between two names is a column of
a table, and the first name is its qualifier. Names start with a letter, an underscore, a double quote
or any character outside of ASCII; so `s.stamp` has the qualifier `s`, and `1.5` has none.

Texts that end outside of literals are taken apart where no word runs on: the qualifiers of a
concatenation are those of its parts (`qualifiers_append`), those of a statement are those of its
pieces (`qualifiers_of_lex`), and literals have none (`Hidden.quoted`).
-/

namespace Sift.Sql

open Text

/-- A character of a word. -/
def isWordChar (c : Char) : Bool :=
  c.isAlphanum || c == '_' || c == '$' || c == '.' || c == '"' || 127 < c.toNat

/-- A character that a name starts with. -/
def startsName (c : Char) : Bool := c.isAlpha || c == '_' || c == '"' || 127 < c.toNat

/-- The characters leave a literal when they have entered it. -/
def literalAfter (inLiteral : Bool) (cs : List Char) : Bool :=
  cs.foldl (fun inLiteral c => inLiteral != (c == '\'')) inLiteral

/-- The words of a text, with blanks in place of literals and of all that is no part of a word. -/
def blanked (inLiteral : Bool) : List Char → List Char
  | [] => []
  | c :: cs => (if inLiteral || !isWordChar c then ' ' else c) :: blanked (inLiteral != (c == '\'')) cs

/-- The table of a word that is a column of a table. -/
def qualifier? (word : List Char) : Option String :=
  match fields '.' word with
  | table :: column :: _ =>
    if table.head?.any startsName && column.head?.any startsName then some (String.ofList table)
    else none
  | _ => none

/-- The tables that qualify columns in characters. -/
def qualifiersFrom (inLiteral : Bool) (cs : List Char) : List String :=
  (fields ' ' (blanked inLiteral cs)).filterMap qualifier?

/-- The tables that qualify columns in a text. -/
def qualifiers (text : String) : List String := qualifiersFrom false text.toList

example : qualifiers "(s.title = 'l.seen' AND wl.idtype > 1.5)" = ["s", "wl"] := by decide

/-- The text ends outside of literals. -/
def Balanced (text : String) : Prop := literalAfter false text.toList = false

instance (text : String) : Decidable (Balanced text) := inferInstanceAs (Decidable (_ = _))

/-! ## Concatenations -/

theorem literalAfter_append (b : Bool) (cs ds : List Char) :
    literalAfter b (cs ++ ds) = literalAfter (literalAfter b cs) ds :=
  List.foldl_append

theorem blanked_append (b : Bool) (cs ds : List Char) :
    blanked b (cs ++ ds) = blanked b cs ++ blanked (literalAfter b cs) ds := by
  induction cs generalizing b with
  | nil => rfl
  | cons c cs ih => rw [List.cons_append, blanked, blanked, ih, List.cons_append]; rfl

@[simp] theorem qualifiersFrom_nil (b : Bool) : qualifiersFrom b [] = [] := rfl

theorem qualifiersFrom_append_cons (b : Bool) (cs ds : List Char) {c : Char}
    (hc : isWordChar c = false) : qualifiersFrom b (cs ++ c :: ds) =
      qualifiersFrom b cs ++ qualifiersFrom (literalAfter b (cs ++ [c])) ds := by
  have hblank : blanked b (cs ++ c :: ds) =
      blanked b cs ++ ' ' :: blanked (literalAfter b (cs ++ [c])) ds := by
    rw [blanked_append, blanked, literalAfter_append]
    simp [hc, literalAfter]
  rw [qualifiersFrom, hblank, fields_append, List.filterMap_append]
  rfl

/-- No word runs from one text into the other. -/
def Apart (cs ds : List Char) : Prop :=
  (∀ c ∈ cs.getLast?, isWordChar c = false) ∨ ∀ c ∈ ds.head?, isWordChar c = false

theorem qualifiersFrom_append {cs ds : List Char} (h : Apart cs ds) (b : Bool) :
    qualifiersFrom b (cs ++ ds) = qualifiersFrom b cs ++ qualifiersFrom (literalAfter b cs) ds := by
  rcases h with hlast | hhead
  · rcases List.eq_nil_or_concat cs with rfl | ⟨cs, c, rfl⟩
    · rfl
    · have hc : isWordChar c = false := hlast c (by simp)
      rw [List.concat_eq_append, List.append_assoc, List.singleton_append,
        qualifiersFrom_append_cons b cs ds hc, qualifiersFrom_append_cons b cs [] hc,
        qualifiersFrom_nil, List.append_nil]
  · cases ds with
    | nil => simp
    | cons c ds =>
      have hc : isWordChar c = false := hhead c rfl
      have hfirst := qualifiersFrom_append_cons (literalAfter b cs) [] ds hc
      rw [List.nil_append, qualifiersFrom_nil, List.nil_append] at hfirst
      rw [qualifiersFrom_append_cons b cs ds hc, hfirst, literalAfter_append]
      rfl

variable {a b s sep q : String}

theorem Balanced.append (ha : Balanced a) (hb : Balanced b) : Balanced (a ++ b) := by
  rw [Balanced, String.toList_append, literalAfter_append, ha, hb]

theorem qualifiers_append (ha : Balanced a) (h : Apart a.toList b.toList) :
    qualifiers (a ++ b) = qualifiers a ++ qualifiers b := by
  rw [qualifiers, String.toList_append, qualifiersFrom_append h, ha]
  rfl

/-! ## Marks around texts -/

/-- A text with no qualifier that ends outside of literals and of words. -/
def opens (mark : String) : Bool :=
  mark.toList.getLast?.any (fun c => !isWordChar c) && !literalAfter false mark.toList &&
    (qualifiers mark).isEmpty

/-- A text with no qualifier that starts outside of words and ends outside of literals. -/
def closes (mark : String) : Bool :=
  mark.toList.head?.any (fun c => !isWordChar c) && !literalAfter false mark.toList &&
    (qualifiers mark).isEmpty

theorem qualifiers_opens (hmark : opens a = true) : qualifiers (a ++ b) = qualifiers b := by
  simp only [opens, Bool.and_eq_true, Bool.not_eq_true', List.isEmpty_iff, Option.any_eq_true] at hmark
  obtain ⟨⟨⟨c, hlast, hc⟩, hbalanced⟩, hnone⟩ := hmark
  rw [qualifiers_append hbalanced (.inl fun d hd => ?_), hnone, List.nil_append]
  cases hlast.symm.trans hd
  exact hc

theorem qualifiers_closes (ha : Balanced a) (hmark : closes b = true) :
    qualifiers (a ++ b) = qualifiers a := by
  simp only [closes, Bool.and_eq_true, Bool.not_eq_true', List.isEmpty_iff, Option.any_eq_true] at hmark
  obtain ⟨⟨⟨c, hhead, hc⟩, -⟩, hnone⟩ := hmark
  rw [qualifiers_append ha (.inr fun d hd => ?_), hnone, List.append_nil]
  cases hhead.symm.trans hd
  exact hc

theorem balanced_of_opens (h : opens a = true) : Balanced a := by
  simp only [opens, Bool.and_eq_true, Bool.not_eq_true'] at h
  exact h.1.2

/-- A text between two others. -/
structure Separates (sep : String) : Prop where
  opens : opens sep = true
  closes : closes sep = true

instance (sep : String) : Decidable (Separates sep) :=
  decidable_of_iff (opens sep = true ∧ closes sep = true) ⟨fun h => ⟨h.1, h.2⟩, fun h => ⟨h.1, h.2⟩⟩

theorem qualifiers_sep (ha : Balanced a) (hsep : Separates sep) (b : String) :
    qualifiers (a ++ sep ++ b) = qualifiers a ++ qualifiers b := by
  have hclosed := qualifiers_closes ha hsep.closes
  have hbalanced := ha.append (balanced_of_opens hsep.opens)
  have hlast := hsep.opens
  simp only [opens, Bool.and_eq_true, Bool.not_eq_true', Option.any_eq_true] at hlast
  obtain ⟨⟨⟨c, hlast, hc⟩, -⟩, -⟩ := hlast
  rw [qualifiers_append hbalanced (.inl fun d hd => ?_), hclosed]
  rw [String.toList_append, List.getLast?_append, hlast] at hd
  cases hd
  exact hc

theorem qualifiers_intercalate (hsep : Separates sep) {items : List String}
    (h : ∀ item ∈ items, Balanced item) :
    Balanced (sep.intercalate items) ∧
      qualifiers (sep.intercalate items) = items.flatMap qualifiers := by
  induction items with
  | nil => exact ⟨rfl, rfl⟩
  | cons item items ih =>
    have hitem := h item (by simp)
    cases items with
    | nil =>
      rw [String.intercalate_singleton, List.flatMap_singleton]
      exact ⟨hitem, rfl⟩
    | cons next items =>
      obtain ⟨hrest, hnames⟩ := ih fun i hi => h i (by simp [hi])
      rw [String.intercalate_cons_cons, List.flatMap_cons, qualifiers_sep hitem hsep, hnames]
      exact ⟨(hitem.append (balanced_of_opens hsep.opens)).append hrest, rfl⟩

theorem mem_qualifiers_filter {items : List String} :
    (∃ item ∈ items.filter (· != ""), q ∈ qualifiers item) ↔
      ∃ item ∈ items, q ∈ qualifiers item := by
  constructor
  · rintro ⟨item, hmem, hq⟩
    exact ⟨item, (List.mem_filter.mp hmem).1, hq⟩
  · rintro ⟨item, hmem, hq⟩
    refine ⟨item, List.mem_filter.mpr ⟨hmem, ?_⟩, hq⟩
    rw [bne_iff_ne]
    rintro rfl
    cases hq

/-! ## Steps of the reader -/

variable {r r' : Reader} {cs : List Char} {c : Char}

/-- Everything that reading a character does. -/
inductive Reader.Steps (r : Reader) (c : Char) : Reader → Prop
  | push (depth : Nat) : Steps r c ⟨r.inLiteral != (c == '\''), depth, r.current ++ [c], r.pieces⟩
  | openGroup (hlit : r.inLiteral = false) (hc : c = '(') :
      Steps r c { r.close.push '(' with depth := 1 }
  | closeGroup (hlit : r.inLiteral = false) (hc : c = ')') :
      Steps r c (Reader.close ⟨false, 0, r.current ++ [')'], r.pieces⟩)
  | comma (hlit : r.inLiteral = false) (hc : c = ',') :
      Steps r c { r.close with pieces := r.close.pieces ++ [","] }
  | blank (hlit : r.inLiteral = false) (hc : c.isWhitespace = true) : Steps r c r.close

theorem steps_of_step (h : r.step c = some r') : r.Steps c r' := by
  obtain ⟨inLiteral, depth, current, pieces⟩ := r
  have hpush := Reader.Steps.push (r := ⟨inLiteral, depth, current, pieces⟩) (c := c)
  cases inLiteral with
  | true =>
    have hmark : (true != (c == '\'')) = (c != '\'') := by simp [bne]
    simp only [hmark] at hpush
    cases h
    exact hpush depth
  | false =>
    have h : Reader.stepCode ⟨false, depth, current, pieces⟩ c = some r' := h
    rw [Reader.stepCode] at h
    split at h
    · cases h
    · split at h
      · cases h
      · split at h
        · rename_i hquote
          cases h
          rw [hquote] at hpush ⊢
          exact hpush depth
        · rename_i hquote
          -- No other character leaves or enters a literal.
          have hlit : (false != (c == '\'')) = false := by simpa using hquote
          simp only [hlit] at hpush
          split at h
          · rename_i hc
            cases h
            rw [Reader.openGroup]
            split
            · exact .openGroup rfl hc
            · exact hc ▸ hpush (depth + 1)
          · split at h
            · rename_i hc
              unfold Reader.closeGroup at h
              split at h
              · cases h
              · cases h
                exact .closeGroup rfl hc
              · cases h
                exact hc ▸ hpush _
            · cases h
              rw [Reader.plain]
              split
              · rename_i hcomma
                exact .comma rfl hcomma.2
              · split
                · rename_i hblank
                  exact .blank rfl hblank.2
                · exact hpush depth

theorem isWordChar_of_isWhitespace (hc : c.isWhitespace = true) : isWordChar c = false ∧ c ≠ '\'' := by
  simp only [Char.isWhitespace, Bool.or_eq_true, decide_eq_true_eq] at hc
  rcases hc with ((rfl | rfl) | rfl) | rfl <;> decide

/-! ## Texts that are read to their end -/

theorem inLiteral_close (r : Reader) : r.close.inLiteral = r.inLiteral := by
  rw [Reader.close]
  split
  · rfl
  · rfl

theorem inLiteral_step (h : r.step c = some r') :
    r'.inLiteral = (r.inLiteral != (c == '\'')) := by
  have hplain : r.inLiteral = false → c ≠ '\'' →
      r.inLiteral = (r.inLiteral != (c == '\'')) := fun hlit hquote => by simp [hlit, hquote]
  cases steps_of_step h with
  | push depth => rfl
  | openGroup hlit hc =>
    show r.close.inLiteral = _
    rw [inLiteral_close]
    exact hplain hlit (by rw [hc]; decide)
  | closeGroup hlit hc =>
    rw [inLiteral_close]
    exact hlit ▸ hplain hlit (by rw [hc]; decide)
  | comma hlit hc =>
    show r.close.inLiteral = _
    rw [inLiteral_close]
    exact hplain hlit (by rw [hc]; decide)
  | blank hlit hc =>
    rw [inLiteral_close]
    exact hplain hlit (isWordChar_of_isWhitespace hc).2

theorem inLiteral_run (h : r.run cs = some r') :
    r'.inLiteral = literalAfter r.inLiteral cs := by
  induction cs generalizing r with
  | nil =>
    cases h
    rfl
  | cons c cs ih =>
    rw [run_cons, Option.bind_eq_some_iff] at h
    obtain ⟨next, hstep, h⟩ := h
    rw [ih h, inLiteral_step hstep]
    rfl

theorem Safe.balanced (h : Safe s) : Balanced s :=
  (inLiteral_run (h 0 [] [] (by simp [EndsOpen])).1).symm

theorem balanced_of_lex {pieces : List String} (h : lex s = some pieces) : Balanced s := by
  obtain ⟨r, hrun, hlit, -⟩ := lex_eq_some.mp h
  exact (inLiteral_run hrun).symm.trans hlit

theorem Fragment.balanced (h : Fragment s) : Balanced s := by
  obtain ⟨pieces, hlex, -⟩ := h
  exact balanced_of_lex hlex

/-! ## Pieces -/

/-- What has been read falls into the complete pieces and the piece that is being read. -/
structure Reader.Splits (r : Reader) (cs : List Char) : Prop where
  inLiteral : literalAfter false r.current = r.inLiteral
  tables : ∀ ds, qualifiersFrom false (cs ++ ds) =
    r.pieces.flatMap qualifiers ++ qualifiersFrom false (r.current ++ ds)

theorem tables_close (r : Reader) :
    r.close.pieces.flatMap qualifiers =
      r.pieces.flatMap qualifiers ++ qualifiersFrom false r.current := by
  rw [Reader.close]
  split
  · rename_i hnil
    rw [hnil, qualifiersFrom_nil, List.append_nil]
  · rw [List.flatMap_append, List.flatMap_singleton, qualifiers, String.toList_ofList]

theorem current_close (r : Reader) : r.close.current = [] := by
  rw [Reader.close]
  split
  · assumption
  · rfl

theorem Reader.Splits.push (h : r.Splits cs) (c : Char) (depth : Nat) :
    Reader.Splits ⟨r.inLiteral != (c == '\''), depth, r.current ++ [c], r.pieces⟩ (cs ++ [c]) where
  inLiteral := by
    rw [literalAfter_append, h.inLiteral]
    rfl
  tables ds := by rw [List.append_assoc, h.tables, List.append_assoc]

theorem Reader.Splits.close (h : r.Splits cs) (hlit : r.inLiteral = false)
    (hc : isWordChar c = false) (hquote : c ≠ '\'') : r.close.Splits (cs ++ [c]) where
  inLiteral := by
    rw [current_close, inLiteral_close, hlit]
    rfl
  tables ds := by
    have hafter : literalAfter false (r.current ++ [c]) = false := by
      rw [literalAfter_append, h.inLiteral, hlit]
      simp [literalAfter, hquote]
    rw [List.append_assoc, h.tables, List.singleton_append, qualifiersFrom_append_cons _ _ _ hc,
      hafter, tables_close, current_close, List.append_assoc, List.nil_append]

theorem Reader.Splits.closeGroup (h : r.Splits (cs ++ [')'])) (hlit : r.inLiteral = false)
    (hlast : r.current.getLast? = some ')') : r.close.Splits (cs ++ [')']) where
  inLiteral := by
    rw [current_close, inLiteral_close, hlit]
    rfl
  tables ds := by
    have hapart : Apart r.current ds := by
      refine .inl fun c hc => ?_
      cases hlast.symm.trans hc
      decide
    rw [h.tables, qualifiersFrom_append hapart, h.inLiteral, hlit, tables_close, current_close,
      List.append_assoc, List.nil_append]

theorem Reader.Splits.openGroup (h : r.close.Splits cs) (hlit : r.inLiteral = false) (depth : Nat) :
    Reader.Splits { r.close.push '(' with depth := depth } cs where
  inLiteral := by
    show literalAfter false (r.close.current ++ ['(']) = r.close.inLiteral
    rw [current_close, inLiteral_close, hlit]
    rfl
  tables ds := by
    have hopen := qualifiersFrom_append_cons false [] ds (show isWordChar '(' = false by decide)
    rw [h.tables]
    show _ = _ ++ qualifiersFrom false (r.close.current ++ ['('] ++ ds)
    rw [current_close]
    exact congrArg _ hopen.symm

theorem Reader.Splits.step (h : r.Splits cs) (hstep : r.step c = some r') : r'.Splits (cs ++ [c]) := by
  cases steps_of_step hstep with
  | push depth => exact h.push c depth
  | openGroup hlit hc =>
    subst hc
    exact (h.close hlit (by decide) (by decide)).openGroup hlit 1
  | closeGroup hlit hc =>
    subst hc
    have hpush := h.push ')' 0
    rw [hlit] at hpush
    exact hpush.closeGroup rfl (by simp)
  | comma hlit hc =>
    subst hc
    have hclose := h.close hlit (c := ',') (by decide) (by decide)
    have hnone : qualifiers "," = [] := by decide
    refine ⟨hclose.inLiteral, fun ds => ?_⟩
    rw [hclose.tables, List.flatMap_append, List.flatMap_singleton, hnone, List.append_nil]
  | blank hlit hc =>
    obtain ⟨hblank, hquote⟩ := isWordChar_of_isWhitespace hc
    exact h.close hlit hblank hquote

theorem Reader.Splits.run {ds : List Char} (h : r.Splits cs) (hrun : r.run ds = some r') :
    r'.Splits (cs ++ ds) := by
  induction ds generalizing r cs with
  | nil =>
    cases hrun
    rwa [List.append_nil]
  | cons d ds ih =>
    rw [run_cons, Option.bind_eq_some_iff] at hrun
    obtain ⟨next, hstep, hrun⟩ := hrun
    rw [← List.singleton_append, ← List.append_assoc]
    exact ih (h.step hstep) hrun

/-- The tables that qualify columns in a statement are those of its pieces. -/
theorem qualifiers_of_lex {pieces : List String} (h : lex s = some pieces) :
    qualifiers s = pieces.flatMap qualifiers := by
  obtain ⟨r, hrun, hlit, -, hclose⟩ := lex_eq_some.mp h
  have hstart : (Reader.after []).Splits [] := ⟨rfl, fun ds => rfl⟩
  have hall := (hstart.run hrun).tables []
  rw [List.nil_append, List.append_nil, List.append_nil, ← tables_close, hclose] at hall
  exact hall

/-! ## Literals -/

/-- Inside a literal the text shows nothing and does not end the literal. -/
structure Hidden (text : String) : Prop where
  blank : ∀ c ∈ blanked true text.toList, c = ' '
  inLiteral : literalAfter true text.toList = true

theorem Hidden.append (ha : Hidden a) (hb : Hidden b) : Hidden (a ++ b) where
  blank c hc := by
    rw [String.toList_append, blanked_append, ha.inLiteral, List.mem_append] at hc
    exact hc.elim (ha.blank c) (hb.blank c)
  inLiteral := by rw [String.toList_append, literalAfter_append, ha.inLiteral, hb.inLiteral]

theorem hidden_of_not_mem (h : '\'' ∉ s.toList) : Hidden s := by
  have key : ∀ cs : List Char, '\'' ∉ cs →
      (∀ c ∈ blanked true cs, c = ' ') ∧ literalAfter true cs = true := by
    intro cs hcs
    induction cs with
    | nil => exact ⟨nofun, rfl⟩
    | cons c cs ih =>
      rw [List.mem_cons, not_or] at hcs
      obtain ⟨hblank, hlit⟩ := ih hcs.2
      have hc : (true != (c == '\'')) = true := by simpa using Ne.symm hcs.1
      refine ⟨fun d hd => ?_, ?_⟩
      · rw [blanked, hc] at hd
        rcases List.mem_cons.mp hd with rfl | hd
        · rfl
        · exact hblank d hd
      · show literalAfter (true != (c == '\'')) cs = true
        rw [hc]
        exact hlit
  exact ⟨(key _ h).1, (key _ h).2⟩

theorem hidden_escape (value : String) : Hidden (Dialect.escape value) := by
  have key : ∀ cs : List Char, Hidden (String.ofList (Dialect.doubled '\'' cs)) := by
    intro cs
    induction cs with
    | nil => exact hidden_of_not_mem (by simp [Dialect.doubled])
    | cons c cs ih =>
      have hfirst : Hidden (String.ofList (if c = '\'' then [c, c] else [c])) := by
        split
        · rename_i hc
          subst hc
          have hblank : blanked true ['\'', '\''] = [' ', ' '] := by decide
          refine ⟨fun c hc => ?_, by decide⟩
          rw [String.toList_ofList, hblank] at hc
          simpa using hc
        · rename_i hc
          exact hidden_of_not_mem (by simpa using Ne.symm hc)
      have hboth := hfirst.append ih
      rwa [← String.ofList_append] at hboth
  exact key _

/-! ## Names and their characters -/

theorem mem_of_mem_fields {c mark : Char} {cs field : List Char} (hfield : field ∈ fields mark cs)
    (hc : c ∈ field) : c ∈ cs := by
  induction cs generalizing field with
  | nil =>
    obtain rfl : field = [] := by simpa [fields] using hfield
    cases hc
  | cons d cs ih =>
    rw [fields] at hfield
    split at hfield
    · rcases List.mem_cons.mp hfield with rfl | hfield
      · cases hc
      · exact List.mem_cons_of_mem _ (ih hfield hc)
    · split at hfield
      · rename_i hnil
        exact absurd hnil (fields_ne_nil mark cs)
      · rename_i first more hfields
        rw [hfields] at ih
        rcases List.mem_cons.mp hfield with rfl | hfield
        · rcases List.mem_cons.mp hc with rfl | hc
          · exact List.mem_cons_self
          · exact List.mem_cons_of_mem _ (ih List.mem_cons_self hc)
        · exact List.mem_cons_of_mem _ (ih (List.mem_cons_of_mem _ hfield) hc)

theorem mem_of_mem_blanked {c : Char} {inLiteral : Bool} {cs : List Char}
    (h : c ∈ blanked inLiteral cs) : c = ' ' ∨ c ∈ cs := by
  induction cs generalizing inLiteral with
  | nil => cases h
  | cons d cs ih =>
    rw [blanked] at h
    rcases List.mem_cons.mp h with rfl | h
    · split
      · exact .inl rfl
      · exact .inr List.mem_cons_self
    · exact (ih h).imp_right (List.mem_cons_of_mem _)

theorem mem_of_mem_word {c : Char} {inLiteral : Bool} {cs word : List Char}
    (hword : word ∈ fields ' ' (blanked inLiteral cs)) (hc : c ∈ word) : c ∈ cs := by
  refine (mem_of_mem_blanked (mem_of_mem_fields hword hc)).resolve_left ?_
  rintro rfl
  exact not_mem_fields hword hc

theorem mem_of_mem_qualifiers (hq : q ∈ qualifiers s) {c : Char} (hc : c ∈ q.toList) :
    c ∈ s.toList := by
  obtain ⟨word, hword, hqualifier⟩ := List.mem_filterMap.mp hq
  refine mem_of_mem_word hword ?_
  unfold qualifier? at hqualifier
  split at hqualifier
  · rename_i table column more hfields
    rw [Option.ite_none_right_eq_some] at hqualifier
    obtain rfl := Option.some.inj hqualifier.2
    rw [String.toList_ofList] at hc
    exact mem_of_mem_fields (hfields ▸ List.mem_cons_self) hc
  · cases hqualifier

theorem qualifiers_eq_nil (h : '.' ∉ s.toList) : qualifiers s = [] := by
  refine List.filterMap_eq_nil_iff.mpr fun word hword => ?_
  have hpoint : '.' ∉ word := fun hmem => h (mem_of_mem_word hword hmem)
  rw [qualifier?, fields_of_not_mem '.' word hpoint]

theorem Hidden.qualifiersFrom_eq_nil (h : Hidden s) : qualifiersFrom true s.toList = [] := by
  refine List.filterMap_eq_nil_iff.mpr fun word hword => ?_
  have hnil : word = [] := by
    refine List.eq_nil_iff_forall_not_mem.mpr fun c hc => ?_
    obtain rfl := h.blank c (mem_of_mem_fields hword hc)
    exact not_mem_fields hword hc
  rw [hnil]
  rfl

theorem Hidden.quoted (h : Hidden s) :
    Balanced ("'" ++ s ++ "'") ∧ qualifiers ("'" ++ s ++ "'") = [] := by
  have hlist : ("'" ++ s ++ "'").toList = [] ++ '\'' :: (s.toList ++ '\'' :: []) := by simp
  constructor
  · rw [Balanced, hlist]
    show literalAfter true (s.toList ++ ['\'']) = false
    rw [literalAfter_append, h.inLiteral]
    rfl
  · rw [qualifiers, hlist, qualifiersFrom_append_cons _ _ _ (by decide), qualifiersFrom_nil,
      List.nil_append]
    show qualifiersFrom true _ = []
    rw [qualifiersFrom_append_cons _ _ _ (by decide), qualifiersFrom_nil, List.append_nil]
    exact h.qualifiersFrom_eq_nil

end Sift.Sql
