import Sift.Proofs.Shorthand.Accumulator
import Sift.Proofs.Shorthand.Legible

/-!
# Tokens and what they abbreviate

A head abbreviates its types, a dimension or a value that of each type, and a dimension of a type its
leaves (`Token.spelledOut?`). The token and what it abbreviates add the same entries to any
accumulator and negate nothing (`foldlM_spelledOut`), so either can stand for the other among any
tokens, those that remove the entries included (`expandTokens_spelledOut`).
-/

namespace Sift

/-- The types of a head. One that is not in the taxonomy has none. -/
def Taxonomy.typeKeys (tax : Taxonomy) (id : Int) : List String :=
  match tax.head? id with
  | some head => head.typeKeys
  | none => []

namespace Shorthand

variable {tax : Taxonomy} {raw : String} {token : Token}

/-- The tokens that a token abbreviates. A type, a leaf and what names nothing abbreviate none. -/
def Token.spelledOut? (tax : Taxonomy) : Token → Option (List String)
  | .head n => some ((tax.typeKeys n).map fun t => typeText n t)
  | .dim n d => some ((tax.typeKeys n).map fun t => dimText n t d)
  | .typeDim n t d =>
    some (if t ∈ tax.typeKeys n then (tax.applicable n t d).map fun v => leafText n t d v else [])
  | .value n d v => some ((tax.typeKeys n).map fun t => leafText n t d v)
  | _ => none

/-- The parts that stand behind the head of a token. -/
def Token.parts : Token → List Part
  | .type _ t => [.type t]
  | .dim _ d => [.dim d]
  | .value _ d v => [.value d v]
  | .typeDim _ t d => [.type t, .dim d]
  | .leaf _ t d v => [.type t, .value d v]
  | .head _ | .removal _ | .negation _ _ _ | .literal _ => []

theorem valid_of_mem_parts (hread : Token.read raw = .ok token) :
    ∀ part ∈ token.parts, part.Valid := by
  rcases token_of_read hread with rfl | ⟨target, -, rfl⟩ | ⟨n, selector, rfl⟩ |
    ⟨digits, more, parts, n, -, hparts, -, hnamed⟩
  · exact nofun
  · exact nofun
  · exact nofun
  · have hvalid := (mapM_part?_eq_some hparts).2
    unfold named? at hnamed
    split at hnamed
    all_goals
      cases hnamed
      try exact hvalid

/-! ## What is abbreviated adds what the token adds -/

theorem foldlM_spelledOut_of_known {head : Head} {n : Nat} (h : Known tax head n)
    (hread : Token.read raw = .ok token) (hsought : token.headSought? = some n)
    {long : List String} (hlong : token.spelledOut? tax = some long) (state : Expansion) :
    long.foldlM (Expansion.step tax) state =
      .ok ⟨state.accumulator ++ expandIn head token, state.negations⟩ := by
  have hkeys : tax.typeKeys n = head.typeKeys := by rw [Taxonomy.typeKeys, h.found]
  have hparts := valid_of_mem_parts hread
  cases token with
  | type | leaf | removal | negation | literal => cases hlong
  | head n' =>
    obtain rfl := Option.some.inj hsought
    obtain rfl := Option.some.inj hlong
    rw [hkeys]
    refine (foldlM_appends (fun t ht => ?_) state).trans
      (by rw [← List.map_eq_flatMap, expandIn, h.id])
    have hadds := appends_typeText h (h.wellFormed.typeKeys t ht)
    rwa [if_pos ht] at hadds
  | dim n' d =>
    obtain rfl := Option.some.inj hsought
    obtain rfl := Option.some.inj hlong
    have hd : d ∈ dimensions := hparts (.dim d) (by simp [Token.parts])
    rw [hkeys]
    refine foldlM_appends (fun t ht => ?_) state
    have hadds := appends_dimText h (h.wellFormed.typeKeys t ht) hd
    rwa [if_pos ht, ← h.id, ← dimLeaves, h.id] at hadds
  | value n' d v =>
    obtain rfl := Option.some.inj hsought
    obtain rfl := Option.some.inj hlong
    obtain ⟨hd, hv⟩ : (Part.value d v).Valid := hparts _ (by simp [Token.parts])
    rw [hkeys]
    refine (foldlM_appends (fun t ht => ?_) state).trans
      (by rw [← List.map_eq_flatMap, expandIn, h.id])
    exact appends_leafText h.short (h.wellFormed.typeKeys t ht) hd hv
  | typeDim n' t d =>
    obtain rfl := Option.some.inj hsought
    obtain rfl := Option.some.inj hlong
    have ht : isTypeKey t.toList = true := hparts (.type t) (by simp [Token.parts])
    have hd : d ∈ dimensions := hparts (.dim d) (by simp [Token.parts])
    rw [hkeys, expandIn, Taxonomy.applicable_of_found h.found]
    by_cases hmem : t ∈ head.typeKeys
    · rw [if_pos hmem, if_pos (List.contains_iff_mem.mpr hmem), dimLeaves, h.id]
      refine (foldlM_appends (fun v hv => ?_) state).trans (by rw [← List.map_eq_flatMap])
      exact appends_leafText h.short ht hd (h.wellFormed.digits_of_mem_applicable hv)
    · rw [if_neg hmem, if_neg (mt List.contains_iff_mem.mp hmem), List.append_nil]
      rfl

theorem spelledOut?_of_unknown {n : Nat} (hnone : tax.head? n = none)
    (hsought : token.headSought? = some n) {long : List String}
    (hlong : token.spelledOut? tax = some long) : long = [] := by
  have hkeys : tax.typeKeys n = [] := by rw [Taxonomy.typeKeys, hnone]
  cases token with
  | type | leaf | removal | negation | literal => cases hlong
  | head | dim | value | typeDim =>
    obtain rfl := Option.some.inj hsought
    obtain rfl := Option.some.inj hlong
    simp only [hkeys, List.map_nil, List.not_mem_nil, if_false]

/-- The token does to any accumulator what the tokens do that it abbreviates. -/
theorem foldlM_spelledOut (htax : tax.WellFormed) (hread : Token.read raw = .ok token)
    {long : List String} (hlong : token.spelledOut? tax = some long) (state : Expansion) :
    long.foldlM (Expansion.step tax) state = Expansion.step tax state raw := by
  obtain ⟨n, hsought⟩ : ∃ n, token.headSought? = some n := by
    cases token with
    | head | dim | value | typeDim => exact ⟨_, rfl⟩
    | type | leaf | removal | negation | literal => cases hlong
  cases hfound : tax.head? n with
  | none =>
    rw [appends_of_unknown hread hsought hfound, spelledOut?_of_unknown hfound hsought hlong,
      List.append_nil]
    rfl
  | some head =>
    obtain ⟨hid, hhead⟩ := htax.head hfound
    have hknown : Known tax head n := ⟨hid, short_of_headSought? hread hsought, hfound, hhead⟩
    rw [appends_of_found hread hsought hfound]
    exact foldlM_spelledOut_of_known hknown hread hsought hlong state

/-! ## Among other tokens -/

theorem expandTokens_congr {long : List String}
    (h : ∀ state, long.foldlM (Expansion.step tax) state = Expansion.step tax state raw)
    (xs ys : List String) :
    expandTokens tax (xs ++ [raw] ++ ys) = expandTokens tax (xs ++ long ++ ys) := by
  simp only [expandTokens, List.foldlM_append, List.foldlM_cons, List.foldlM_nil, h, bind_pure]

/-- Among any tokens that can be expanded, a token can be replaced by what it abbreviates: the same
entries are left and the same is negated. -/
theorem expandTokens_spelledOut (htax : tax.WellFormed) (hread : Token.read raw = .ok token)
    {long : List String} (hlong : token.spelledOut? tax = some long) {xs ys : List String}
    (hxs : ∃ result, expand tax xs = .ok result) (hys : ∃ result, expand tax ys = .ok result) :
    ∃ state, expandTokens tax (xs ++ [raw] ++ ys) = .ok state ∧
      expandTokens tax (xs ++ long ++ ys) = .ok state := by
  have hlegible : ∀ {raws}, (∃ result, expand tax raws = .ok result) → ∀ other ∈ raws,
      ¬ Overlong "cat" isName other ∧ ¬ Overlong "~cat" isSelector other := by
    rintro raws ⟨result, hexpand⟩
    obtain ⟨state, hrun, -⟩ := bind_eq_ok hexpand
    exact exists_expandTokens_iff.mp ⟨state, hrun⟩
  have hall : ∀ other ∈ xs ++ [raw] ++ ys,
      ¬ Overlong "cat" isName other ∧ ¬ Overlong "~cat" isSelector other := by
    intro other hother
    rw [List.mem_append, List.mem_append, List.mem_singleton] at hother
    rcases hother with (hother | rfl) | hother
    · exact hlegible hxs other hother
    · exact exists_readToken_iff.mp ⟨token, hread⟩
    · exact hlegible hys other hother
  obtain ⟨state, hrun⟩ := exists_expandTokens_iff.mpr hall
  refine ⟨state, hrun, ?_⟩
  rw [← hrun]
  exact (expandTokens_congr (foldlM_spelledOut htax hread hlong) xs ys).symm

/-- A format of images, written with a leading zero, behind one of its leaves and a negation, before
the removal of another of its leaves. -/
theorem expandTokens_spelledOut_default :
    let xs := ["cat0_z1_a2", "~cat0_z3"]
    let long := ["cat0_z0_a2", "cat0_z1_a2", "cat0_z2_a2", "cat0_z3_a2"]
    let ys := ["!cat0_z1_a2", "~cat2"]
    Token.read "cat00_a2" = .ok (.value 0 "a" "2") ∧
      (Token.value 0 "a" "2").spelledOut? .default = some long ∧
      ∃ state, expandTokens .default (xs ++ ["cat00_a2"] ++ ys) = .ok state ∧
        expandTokens .default (xs ++ long ++ ys) = .ok state := by
  intro xs long ys
  have hread : Token.read "cat00_a2" = .ok (.value 0 "a" "2") := rfl
  have hlong : (Token.value 0 "a" "2").spelledOut? .default = some long := by decide
  refine ⟨hread, hlong, expandTokens_spelledOut Taxonomy.wellFormed_default hread hlong ?_ ?_⟩
  · exact exists_of_isOk (by decide)
  · exact exists_of_isOk (by decide)

end Shorthand

end Sift
