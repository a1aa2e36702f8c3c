import Mathlib.Data.List.Forall2
import Sift.Proofs.Predicate.Meaning
import Sift.Proofs.Sql.Nesting

/-!
# Rendered predicates read back

A unit of a text is read with `NOT`, `AND` and `OR` over units. A unit that has `AND` in it is a
conjunction of the units between, one that has `OR` a disjunction, and one that starts with `NOT` the
negation of the unit behind it; a unit with none of these words is a leaf. A connective without a unit
on each of its sides is refused, and so is `AND` beside `OR`.

What a predicate that is not empty is written as reads back (`read_render`) to the formula of its parts
that are not empty (`formula`), which has the truth value of the predicate whatever its leaves are
(`value_formula`).
-/

namespace Sift

/-- Leaves under connectives. -/
inductive Formula (α : Type)
  | leaf (a : α)
  | all (members : List (Formula α))
  | any (members : List (Formula α))
  | not (f : Formula α)

namespace Formula

variable {α β : Type}

mutual

def map (f : α → β) : Formula α → Formula β
  | leaf a => .leaf (f a)
  | all members => .all (mapEach f members)
  | any members => .any (mapEach f members)
  | not g => .not (map f g)

def mapEach (f : α → β) : List (Formula α) → List (Formula β)
  | [] => []
  | g :: rest => map f g :: mapEach f rest

end

mutual

/-- The truth value under an assignment to the leaves. -/
def value (leaf : α → Option Bool) : Formula α → Option Bool
  | .leaf a => leaf a
  | all members => Predicate.conjunction (values leaf members)
  | any members => Predicate.disjunction (values leaf members)
  | not g => (value leaf g).map (!·)

def values (leaf : α → Option Bool) : List (Formula α) → List (Option Bool)
  | [] => []
  | g :: rest => value leaf g :: values leaf rest

end

mutual

def leaves : Formula α → List α
  | leaf a => [a]
  | all members => leavesOf members
  | any members => leavesOf members
  | not g => leaves g

def leavesOf : List (Formula α) → List α
  | [] => []
  | g :: rest => leaves g ++ leavesOf rest

end

/-- Members under a connective, which one member alone does not need. -/
def gather (connective : List (Formula α) → Formula α) : List (Formula α) → Formula α
  | [member] => member
  | members => connective members

end Formula

namespace Sql

/-- The piece is a word, in any case. -/
def Piece.is (keyword : String) : Piece → Bool
  | .word text => text.map Char.toUpper == keyword.toList
  | .unit _ _ => false

mutual

/-- Reads a unit. -/
def Piece.read? : Piece → Option (Formula String)
  | .word _ => none
  | .unit text pieces =>
    if pieces.any (·.is "AND") then (operands? "AND" pieces).map .all
    else if pieces.any (·.is "OR") then (operands? "OR" pieces).map .any
    else if (pieces.head?).any (·.is "NOT") then (negand? pieces).map .not
    else some (.leaf (String.ofList text))

/-- Reads units with a word between. -/
def operands? (keyword : String) : List Piece → Option (List (Formula String))
  | [] => none
  | [p] => p.read?.map ([·])
  | p :: separator :: rest =>
    if separator.is keyword then
      match p.read?, operands? keyword rest with
      | some f, some fs => some (f :: fs)
      | _, _ => none
    else none

/-- Reads the unit behind a word. -/
def negand? : List Piece → Option (Formula String)
  | [_, p] => p.read?
  | _ => none

end

/-- Reads a text that is one unit. -/
def readUnit? (text : String) : Option (Formula String) :=
  match pieces? text with
  | some [.unit inner pieces] =>
    if text = "(" ++ String.ofList inner ++ ")" then (Piece.unit inner pieces).read? else none
  | _ => none

/-- The pieces have no connective among them. A `NOT` that something stands before is part of a
comparison. -/
def unconnected (pieces : List Piece) : Bool :=
  !pieces.any (·.is "AND") && !pieces.any (·.is "OR") && !(pieces.head?).any (·.is "NOT")

/-- The text is balanced in quotes and parentheses and has no connective outside of them. -/
def isUnconnected (text : String) : Bool := (pieces? text).any unconnected

end Sql

namespace Predicate

/-- What stands between the parentheses of a leaf. -/
def fragment : Predicate → String
  | compare column operator literal => column ++ " " ++ operator ++ " " ++ literal
  | like column pattern => column ++ " LIKE '" ++ pattern ++ "'"
  | isNull column negated => column ++ " IS " ++ (if negated then "NOT " else "") ++ "NULL"
  | raw sql => sql
  | _ => ""

/-- The predicate has no connective. -/
def isLeaf : Predicate → Bool
  | all _ | any _ | not _ => false
  | _ => true

/-- The fragments of the leaves are plain. -/
inductive Plain : Predicate → Prop
  | leaf {p : Predicate} (hleaf : p.isLeaf = true) (hfragment : Sql.isUnconnected p.fragment = true) :
      Plain p
  | all {items : List Predicate} (hitems : ∀ p ∈ items, Plain p) : Plain (.all items)
  | any {items : List Predicate} (hitems : ∀ p ∈ items, Plain p) : Plain (.any items)
  | not {item : Predicate} (hitem : Plain item) : Plain (.not item)

mutual

/-- The predicate without its empty parts. -/
def formula : Predicate → Formula Predicate
  | all items => .gather .all (formulas items)
  | any items => .gather .any (formulas items)
  | not item => .not (formula item)
  | p => .leaf p

/-- The formulas of the members that are not empty. -/
def formulas : List Predicate → List (Formula Predicate)
  | [] => []
  | item :: rest => if isEmpty item then formulas rest else formula item :: formulas rest

end

end Predicate

/-! ## Units -/

namespace Sql

/-- The text is one unit that reads as the formula. -/
def Reads (text : String) (f : Formula String) : Prop :=
  ∃ inner pieces, text = "(" ++ inner ++ ")" ∧ pieces? inner = some pieces ∧
    (Piece.unit inner.toList pieces).read? = some f

variable {text inner keyword : String} {pieces : List Piece} {f : Formula String}

theorem Reads.readUnit (h : Reads text f) : readUnit? text = some f := by
  obtain ⟨inner, pieces, rfl, hpieces, hread⟩ := h
  rw [readUnit?, pieces?_parens hpieces]
  simp [hread]

theorem any_of_operands? {other : String}
    (hother : ∀ p : Piece, p.is keyword = true → p.is other = false) :
    ∀ (pieces : List Piece) {fs : List (Formula String)}, operands? keyword pieces = some fs →
      pieces.any (·.is other) = false
  | [], _, _ => rfl
  | [.unit _ _], _, _ => rfl
  | [.word _], _, h => by cases h
  | p :: separator :: rest, fs, h => by
    rw [operands?] at h
    split at h
    · rename_i hseparator
      split at h
      · rename_i f gs hp hrest
        have hunit : p.is other = false := by
          cases p with
          | word => cases hp
          | unit => rfl
        rw [List.any_cons, List.any_cons, hunit, hother _ hseparator,
          any_of_operands? hother rest hrest]
        rfl
      · cases h
    · cases h

/-- What can be read has no level with both `AND` and `OR`. -/
theorem not_mixed {text : List Char} (h : (Piece.unit text pieces).read? = some f) :
    ¬ (pieces.any (·.is "AND") = true ∧ pieces.any (·.is "OR") = true) := by
  rintro ⟨hand, hor⟩
  rw [Piece.read?, if_pos hand] at h
  obtain ⟨fs, hfs, -⟩ := Option.map_eq_some_iff.mp h
  have hword : ∀ p : Piece, p.is "AND" = true → p.is "OR" = false := by
    intro p hp
    cases p with
    | unit => rfl
    | word text =>
      have htext : text.map Char.toUpper = "AND".toList := by simpa [Piece.is] using hp
      simp [Piece.is, htext]
  rw [any_of_operands? hword pieces hfs] at hor
  cases hor

theorem reads_leaf (h : isUnconnected inner = true) : Reads ("(" ++ inner ++ ")") (.leaf inner) := by
  rw [isUnconnected] at h
  cases hpieces : pieces? inner with
  | none =>
    rw [hpieces] at h
    cases h
  | some pieces =>
    rw [hpieces] at h
    have hplain : unconnected pieces = true := h
    simp only [unconnected, Bool.and_eq_true, Bool.not_eq_true'] at hplain
    obtain ⟨⟨hand, hor⟩, hnot⟩ := hplain
    refine ⟨inner, pieces, rfl, hpieces, ?_⟩
    rw [Piece.read?, if_neg (by simp [hand]), if_neg (by simp [hor]), if_neg (by simp [hnot]),
      String.ofList_toList]

theorem reads_not (h : Reads text f) : Reads ("(NOT " ++ text ++ ")") (.not f) := by
  obtain ⟨inner, pieces, rfl, hpieces, hread⟩ := h
  have hnot : pieces? "NOT" = some [.word "NOT".toList] := rfl
  refine ⟨"NOT" ++ " " ++ ("(" ++ inner ++ ")"), _, ?_,
    pieces?_append hnot (pieces?_parens hpieces), ?_⟩
  · rw [← String.toList_inj]
    simp
  · rw [List.singleton_append, Piece.read?, if_neg (by simp [Piece.is]), if_neg (by simp [Piece.is]),
      if_pos (by simp [Piece.is]), negand?, hread]
    rfl

theorem operands_intercalate (hkeyword : pieces? keyword = some [.word keyword.toList])
    (his : (Piece.word keyword.toList).is keyword = true) {texts : List String}
    {fs : List (Formula String)} (h : List.Forall₂ Reads texts fs) (hne : texts ≠ []) :
    ∃ pieces, pieces? ((" " ++ keyword ++ " ").intercalate texts) = some pieces ∧
      operands? keyword pieces = some fs ∧
      (∀ other, pieces.any (·.is other) = true ↔
        2 ≤ texts.length ∧ (Piece.word keyword.toList).is other = true) := by
  induction h with
  | nil => exact absurd rfl hne
  | @cons text f texts fs hfirst hrest ih =>
    obtain ⟨inner, ps, rfl, hps, hread⟩ := hfirst
    have hunit := pieces?_parens hps
    cases hrest with
    | nil =>
      refine ⟨_, hunit, ?_, fun other => ?_⟩
      · simp [operands?, hread]
      · simp [Piece.is]
    | @cons next g texts fs hnext hrest =>
      obtain ⟨pieces, hpieces, hoperands, hany⟩ := ih (List.cons_ne_nil _ _)
      refine ⟨.unit inner.toList ps :: .word keyword.toList :: pieces, ?_, ?_, fun other => ?_⟩
      · have hboth := pieces?_append (pieces?_append hunit hkeyword) hpieces
        rw [String.intercalate_cons_cons, ← String.append_assoc, ← String.append_assoc]
        exact hboth
      · simp [operands?, his, hread, hoperands]
      · have hself := hany other
        have hparens : (Piece.unit inner.toList ps).is other = false := rfl
        rw [List.any_cons, List.any_cons, hparens, Bool.false_or, Bool.or_eq_true, hself]
        constructor
        · rintro (h | h)
          · exact ⟨by simp, h⟩
          · exact ⟨by simp, h.2⟩
        · exact fun h => .inl h.2

theorem reads_group (hkeyword : pieces? keyword = some [.word keyword.toList])
    (his : (Piece.word keyword.toList).is keyword = true)
    {connective : List (Formula String) → Formula String}
    (hread : ∀ (text : List Char) (pieces : List Piece), pieces.any (·.is keyword) = true →
      (∀ other, (Piece.word keyword.toList).is other = false → pieces.any (·.is other) = false) →
      (Piece.unit text pieces).read? = (operands? keyword pieces).map connective)
    {texts : List String} {fs : List (Formula String)} (h : List.Forall₂ Reads texts fs)
    (hne : texts ≠ []) : Reads (Predicate.group keyword texts) (.gather connective fs) := by
  obtain ⟨pieces, hpieces, hoperands, hany⟩ := operands_intercalate hkeyword his h hne
  cases h with
  | nil => exact absurd rfl hne
  | cons hfirst hrest =>
    cases hrest with
    | nil => exact hfirst
    | cons hnext hrest =>
      refine ⟨_, pieces, rfl, hpieces, ?_⟩
      rw [hread _ pieces ((hany keyword).mpr ⟨by simp, his⟩) fun other hother => ?_, hoperands]
      · rfl
      · rw [← Bool.not_eq_true, hany other, hother]
        simp

theorem reads_conjunction {texts : List String} {fs : List (Formula String)}
    (h : List.Forall₂ Reads texts fs) (hne : texts ≠ []) :
    Reads (Predicate.group "AND" texts) (.gather .all fs) := by
  refine reads_group rfl rfl (fun text pieces hany hother => ?_) h hne
  rw [Piece.read?, if_pos hany]

theorem reads_disjunction {texts : List String} {fs : List (Formula String)}
    (h : List.Forall₂ Reads texts fs) (hne : texts ≠ []) :
    Reads (Predicate.group "OR" texts) (.gather .any fs) := by
  refine reads_group rfl rfl (fun text pieces hany hother => ?_) h hne
  rw [Piece.read?, if_neg (by rw [hother "AND" rfl]; simp), if_pos hany]

end Sql

/-! ## Predicates -/

namespace Predicate

open Sql

theorem render_of_isLeaf {p : Predicate} (h : p.isLeaf = true) :
    p.render = "(" ++ p.fragment ++ ")" := by
  cases p with
  | all | any | not => cases h
  | raw => rfl
  | compare | like | isNull => simp [render, fragment, String.append_assoc]

theorem formula_of_isLeaf {p : Predicate} (h : p.isLeaf = true) : p.formula = .leaf p := by
  cases p with
  | all | any | not => cases h
  | compare | like | isNull | raw => rfl

theorem reads_members {items : List Predicate}
    (h : ∀ p ∈ items, p.isEmpty = false → Reads p.render (p.formula.map fragment)) :
    List.Forall₂ Reads (renderMembers items) (Formula.mapEach fragment (formulas items)) := by
  induction items with
  | nil => exact .nil
  | cons p items ih =>
    have hrest := ih fun q hq => h q (by simp [hq])
    rw [renderMembers, formulas]
    split
    · exact hrest
    · rename_i hp
      exact .cons (h p (by simp) (by simpa using hp)) hrest

theorem renderMembers_ne_nil {items : List Predicate} (h : areEmpty items = false) :
    renderMembers items ≠ [] := by
  induction items with
  | nil => cases h
  | cons p items ih =>
    rw [renderMembers]
    split
    · rename_i hp
      exact ih (by simpa [areEmpty, hp] using h)
    · exact List.cons_ne_nil _ _

theorem map_gather {f : Predicate → String} {members : List (Formula Predicate)} :
    (Formula.gather .all members).map f = .gather .all (Formula.mapEach f members) ∧
      (Formula.gather .any members).map f = .gather .any (Formula.mapEach f members) := by
  match members with
  | [] | [_] | _ :: _ :: _ => exact ⟨rfl, rfl⟩

/-- What a plain predicate is written as reads as its formula. -/
theorem reads_render {p : Predicate} (hplain : p.Plain) (h : p.isEmpty = false) :
    Reads p.render (p.formula.map fragment) := by
  induction hplain with
  | leaf hleaf hfragment =>
    rw [render_of_isLeaf hleaf, formula_of_isLeaf hleaf]
    exact reads_leaf hfragment
  | all hitems ih =>
    rw [render, formula, map_gather.1]
    exact reads_conjunction (reads_members ih) (renderMembers_ne_nil h)
  | any hitems ih =>
    rw [render, formula, map_gather.2]
    exact reads_disjunction (reads_members ih) (renderMembers_ne_nil h)
  | not hitem ih =>
    rw [render]
    exact reads_not (ih h)

/-! ## Truth values -/

theorem value_gather {v : Predicate → Option Bool} {members : List (Formula Predicate)} :
    (Formula.gather .all members).value v = conjunction (Formula.values v members) ∧
      (Formula.gather .any members).value v = disjunction (Formula.values v members) := by
  match members with
  | [] => exact ⟨rfl, rfl⟩
  | [f] =>
    have hone : ∀ b : Option Bool, conjunction [b] = b ∧ disjunction [b] = b := by
      rintro (_ | _ | _) <;> exact ⟨rfl, rfl⟩
    exact ⟨(hone _).1.symm, (hone _).2.symm⟩
  | _ :: _ :: _ => exact ⟨rfl, rfl⟩

mutual

theorem value_formula (v : Predicate → Option Bool) {p : Predicate} (h : p.isEmpty = false) :
    p.formula.value v = p.value v := by
  cases p with
  | all items => rw [formula, value_gather.1, values_formulas, value]
  | any items =>
    have hsome : areEmpty items = false := h
    rw [formula, value_gather.2, values_formulas, value, hsome]
    rfl
  | not item =>
    have hitem : item.isEmpty = false := h
    rw [formula, Formula.value, value_formula v hitem, value]
  | compare | like | isNull | raw => rfl

theorem values_formulas (v : Predicate → Option Bool) (items : List Predicate) :
    Formula.values v (formulas items) = values v items := by
  cases items with
  | nil => rfl
  | cons p rest =>
    rw [formulas, values]
    split
    · exact values_formulas v rest
    · rename_i hp
      rw [Formula.values, value_formula v (by simpa using hp), values_formulas v rest]

end

/-! ## Nothing empty -/

theorem leaves_gather {members : List (Formula Predicate)} :
    (Formula.gather .all members).leaves = Formula.leavesOf members ∧
      (Formula.gather .any members).leaves = Formula.leavesOf members := by
  match members with
  | [] => exact ⟨rfl, rfl⟩
  | [f] => exact ⟨(List.append_nil _).symm, (List.append_nil _).symm⟩
  | _ :: _ :: _ => exact ⟨rfl, rfl⟩

mutual

theorem leaves_formula {p : Predicate} (h : p.isEmpty = false) :
    ∀ q ∈ p.formula.leaves, q.isEmpty = false := by
  cases p with
  | all items =>
    rw [formula, leaves_gather.1]
    exact leaves_formulas items
  | any items =>
    rw [formula, leaves_gather.2]
    exact leaves_formulas items
  | not item =>
    have hitem : item.isEmpty = false := h
    rw [formula, Formula.leaves]
    exact leaves_formula hitem
  | compare | like | isNull | raw =>
    intro q hq
    obtain rfl := List.mem_singleton.mp hq
    exact h

theorem leaves_formulas (items : List Predicate) :
    ∀ q ∈ Formula.leavesOf (formulas items), q.isEmpty = false := by
  cases items with
  | nil => exact fun q hq => nomatch hq
  | cons p rest =>
    rw [formulas]
    split
    · exact leaves_formulas rest
    · rename_i hp
      intro q hq
      rcases List.mem_append.mp hq with hq | hq
      · exact leaves_formula (by simpa using hp) q hq
      · exact leaves_formulas rest q hq

end

theorem parens_ne_empty (text : String) : "(" ++ text ++ ")" ≠ "" := by
  intro h
  simpa using congrArg String.toList h

theorem group_ne_empty {operator : String} {rendered : List String} (hne : rendered ≠ [])
    (h : ∀ s ∈ rendered, s ≠ "") : group operator rendered ≠ "" := by
  match rendered with
  | [] => exact absurd rfl hne
  | [s] => exact h s (by simp)
  | _ :: _ :: _ => exact parens_ne_empty _

mutual

theorem render_ne_empty {p : Predicate} (h : p.isEmpty = false) : p.render ≠ "" := by
  cases p with
  | all items => exact group_ne_empty (renderMembers_ne_nil h) (renderMembers_ne_empty items)
  | any items => exact group_ne_empty (renderMembers_ne_nil h) (renderMembers_ne_empty items)
  | not item =>
    rw [render]
    intro h
    simpa using congrArg String.toList h
  | compare | like | isNull | raw =>
    rw [render_of_isLeaf rfl]
    exact parens_ne_empty _

theorem renderMembers_ne_empty (items : List Predicate) : ∀ s ∈ renderMembers items, s ≠ "" := by
  cases items with
  | nil => exact fun s hs => nomatch hs
  | cons p rest =>
    rw [renderMembers]
    split
    · exact renderMembers_ne_empty rest
    · rename_i hp
      intro s hs
      rcases List.mem_cons.mp hs with rfl | hs
      · exact render_ne_empty (by simpa using hp)
      · exact renderMembers_ne_empty rest s hs

end

theorem renderMembers_eq_nil {items : List Predicate} (h : areEmpty items = true) :
    renderMembers items = [] := by
  induction items with
  | nil => rfl
  | cons p items ih =>
    rw [areEmpty, Bool.and_eq_true] at h
    rw [renderMembers, if_pos h.1, ih h.2]

theorem render_group_eq_empty (items : List Predicate) :
    ((all items).render = "" ↔ (all items).isEmpty = true) ∧
      ((any items).render = "" ↔ (any items).isEmpty = true) := by
  cases hempty : areEmpty items with
  | true =>
    have hnil := renderMembers_eq_nil hempty
    exact ⟨iff_of_true (by rw [render, hnil]; rfl) hempty,
      iff_of_true (by rw [render, hnil]; rfl) hempty⟩
  | false =>
    have hall : (all items).isEmpty = false := hempty
    have hany : (any items).isEmpty = false := hempty
    exact ⟨iff_of_false (render_ne_empty hall) (by simp [hall]),
      iff_of_false (render_ne_empty hany) (by simp [hany])⟩

/-- What a plain predicate is written as reads back, as one unit and so without a level that mixes
connectives (`not_mixed`), to a formula over leaves that are not empty, which has the truth value of the
predicate under every assignment. A group is written as nothing exactly when it is empty. -/
theorem read_render {p : Predicate} (hplain : p.Plain) :
    (p.isEmpty = false → ∃ f : Formula Predicate,
      readUnit? p.render = some (f.map fragment) ∧
        (∀ leaf : Predicate → Option Bool, f.value leaf = p.value leaf) ∧
        ∀ q ∈ f.leaves, q.isEmpty = false) ∧
    ∀ items, p = all items ∨ p = any items → (p.render = "" ↔ p.isEmpty = true) := by
  constructor
  · intro h
    exact ⟨p.formula, (reads_render hplain h).readUnit, fun leaf => value_formula leaf h,
      leaves_formula h⟩
  · rintro items (rfl | rfl)
    · exact (render_group_eq_empty items).1
    · exact (render_group_eq_empty items).2

/-- Quotes hide connectives and parentheses, and a comparison may have its own `NOT`. -/
theorem read_render_nested : ∃ f : Formula Predicate,
    readUnit? ("((NOT ((s.title LIKE '%) AND (it''s%') OR (l.seen IS NOT NULL))) AND " ++
      "(s.tag @@ query('x OR y')))") = some (f.map fragment) ∧
    ∀ leaf : Predicate → Option Bool, f.value leaf =
      conjunction [(disjunction [leaf (like "s.title" "%) AND (it''s%"),
          leaf (isNull "l.seen" true)]).map (!·),
        leaf (raw "s.tag @@ query('x OR y')")] := by
  have hplain : (all [any [raw " "],
      not (any [like "s.title" "%) AND (it''s%", not (all []), isNull "l.seen" true]),
      raw "s.tag @@ query('x OR y')"]).Plain := by
    refine .all ?_
    simp only [List.forall_mem_cons, List.not_mem_nil, false_implies, implies_true, and_true]
    refine ⟨.any ?_, .not (.any ?_), .leaf rfl (by decide)⟩
    · simpa using Plain.leaf rfl (by decide)
    · simp only [List.forall_mem_cons, List.not_mem_nil, false_implies, implies_true, and_true]
      exact ⟨.leaf rfl (by decide), .not (.all (by simp)), .leaf rfl (by decide)⟩
  obtain ⟨f, hread, hvalue, -⟩ := (read_render hplain).1 (by decide)
  exact ⟨f, hread, hvalue⟩

end Predicate

end Sift
