import Sift.Text.Case

/-!
# Lower case is stable

No run of the mapping to lower case maps a character into a run (`lowerRuns_apart`), so what the
mapping gives is its own lower case, wherever it stands (`IsLower`), and lower case of lower case is
the same text (`lower_lower`). Nor does the mapping give a colon where none was
(`colon_of_mem_lower`).
-/

namespace Sift.Text

namespace Case

/-- Where the run maps to. -/
def Run.image (r : Run) : Run := ⟨(r.first + r.shift).toNat, (r.last + r.shift).toNat, r.step, 0⟩

/-- The runs cover nothing in common: they do not overlap, or they alternate. -/
def Run.apart (r r' : Run) : Bool :=
  r.last.blt r'.first || r'.last.blt r.first ||
    ((r.first == r.last || r.step == 2) && r'.step == 2 && r.first % 2 != r'.first % 2)

theorem Run.covers_iff {r : Run} {n : Nat} :
    r.covers n = true ↔ r.first ≤ n ∧ n ≤ r.last ∧ (n - r.first) % r.step = 0 := by
  simp only [covers, Bool.and_eq_true, decide_eq_true_eq, beq_iff_eq, and_assoc]

theorem Run.not_covers_of_apart {r r' : Run} (h : r.apart r' = true) {n : Nat}
    (hn : r.covers n = true) : r'.covers n = false := by
  simp only [apart, Bool.or_eq_true, Bool.and_eq_true, Nat.blt_eq, beq_iff_eq, bne_iff_ne] at h
  obtain ⟨hfirst, hlast, hstep⟩ := covers_iff.mp hn
  rw [Bool.eq_false_iff, Ne, covers_iff]
  rintro ⟨hfirst', hlast', hstep'⟩
  rcases h with (h | h) | ⟨⟨hsingle | hr, hr'⟩, hodd⟩
  · omega
  · omega
  · rw [hr'] at hstep'
    omega
  · rw [hr] at hstep
    rw [hr'] at hstep'
    omega

theorem Run.covers_image {r : Run} (hr : 0 ≤ r.first + r.shift) {n : Nat} (hn : r.covers n = true) :
    r.image.covers (n + r.shift).toNat = true := by
  obtain ⟨hfirst, hlast, hstep⟩ := covers_iff.mp hn
  have hsub : (n + r.shift).toNat - (r.first + r.shift).toNat = n - r.first := by omega
  refine covers_iff.mpr ⟨?_, ?_, ?_⟩
  · show (r.first + r.shift).toNat ≤ (n + r.shift).toNat
    omega
  · show (n + r.shift).toNat ≤ (r.last + r.shift).toNat
    omega
  · show ((n + r.shift).toNat - (r.first + r.shift).toNat) % r.step = 0
    rw [hsub]
    exact hstep

theorem lowerRuns_apart : (lowerRuns.all fun r => (⟨0x3A, 0x3A, 1, 0⟩ :: ⟨0x130, 0x130, 1, 0⟩ ::
    lowerRuns).all r.image.apart) = true := by
  decide +kernel

theorem lowerRuns_nonneg : ∀ r ∈ lowerRuns, 0 ≤ r.first + r.shift := by decide +kernel

theorem image_spec {r : Run} (hr : r ∈ lowerRuns) {n : Nat} (hn : r.covers n = true) :
    (n + r.shift).toNat ≠ 0x3A ∧ (n + r.shift).toNat ≠ 0x130 ∧
      ∀ r' ∈ lowerRuns, r'.covers (n + r.shift).toNat = false := by
  have hall : ∀ r' ∈ ⟨0x3A, 0x3A, 1, 0⟩ :: ⟨0x130, 0x130, 1, 0⟩ :: lowerRuns,
      r'.covers (n + r.shift).toNat = false := fun r' hr' =>
    Run.not_covers_of_apart
      (List.all_eq_true.mp (List.all_eq_true.mp lowerRuns_apart r hr) r' hr')
      (Run.covers_image (lowerRuns_nonneg r hr) hn)
  refine ⟨?_, ?_, fun r' hr' => hall r' (by simp [hr'])⟩
  · intro heq
    have hcolon := hall ⟨0x3A, 0x3A, 1, 0⟩ (by simp)
    rw [heq] at hcolon
    cases hcolon
  · intro heq
    have hdot := hall ⟨0x130, 0x130, 1, 0⟩ (by simp)
    rw [heq] at hdot
    cases hdot

theorem lowerChar_cases (c : Char) :
    c = 'İ' ∨ (c ≠ 'İ' ∧ lowerChar c = [c] ∧ ∀ r ∈ lowerRuns, r.covers c.toNat = false) ∨
      ∃ n, lowerChar c = [Char.ofNat n] ∧ n ≠ 0x3A ∧ n ≠ 0x130 ∧
        ∀ r ∈ lowerRuns, r.covers n = false := by
  by_cases hdot : c = 'İ'
  · exact .inl hdot
  · rw [lowerChar, if_neg hdot, shifted]
    cases hfind : lowerRuns.find? (·.covers c.toNat) with
    | none =>
      refine .inr (.inl ⟨hdot, congrArg (fun d => [d]) (Char.ofNat_toNat c), fun r hr => ?_⟩)
      exact Bool.eq_false_iff.mpr (List.find?_eq_none.mp hfind r hr)
    | some r =>
      have hcovers := List.find?_some hfind
      exact .inr (.inr ⟨_, rfl, image_spec (List.mem_of_find?_eq_some hfind) hcovers⟩)

/-! ## Characters that are in lower case -/

/-- The character is its own lower case, wherever it stands. -/
def IsLower (c : Char) : Prop := c ≠ 'Σ' ∧ lowerChar c = [c]

instance (c : Char) : Decidable (IsLower c) :=
  inferInstanceAs (Decidable (c ≠ 'Σ' ∧ lowerChar c = [c]))

theorem isLower_of_not_covers {c : Char} (hdot : c ≠ 'İ')
    (h : ∀ r ∈ lowerRuns, r.covers c.toNat = false) : IsLower c := by
  constructor
  · rintro rfl
    have hsome : lowerRuns.any (·.covers 0x3A3) = true := by decide +kernel
    obtain ⟨r, hr, hcovers⟩ := List.any_eq_true.mp hsome
    exact Bool.eq_false_iff.mp (h r hr) hcovers
  · have hnone : lowerRuns.find? (·.covers c.toNat) = none :=
      List.find?_eq_none.mpr fun r hr => Bool.eq_false_iff.mp (h r hr)
    rw [lowerChar, if_neg hdot, shifted, hnone]
    exact congrArg (fun d => [d]) (Char.ofNat_toNat c)

theorem toNat_ofNat_or (n : Nat) : (Char.ofNat n).toNat = n ∨ Char.ofNat n = '\x00' := by
  by_cases hvalid : n.isValidChar
  · have haux : Char.ofNat n = Char.ofNatAux n hvalid := dif_pos hvalid
    exact .inl (congrArg Char.toNat haux)
  · exact .inr (dif_neg hvalid)

theorem isLower_ofNat {n : Nat} (hdot : n ≠ 0x130) (h : ∀ r ∈ lowerRuns, r.covers n = false) :
    IsLower (Char.ofNat n) := by
  rcases toNat_ofNat_or n with hnat | hzero
  · refine isLower_of_not_covers (fun heq => hdot ?_) (hnat.symm ▸ h)
    rw [← hnat, heq]
    rfl
  · rw [hzero]
    decide

theorem isLower_of_mem_lowerChar {c d : Char} (h : d ∈ lowerChar c) : IsLower d := by
  rcases lowerChar_cases c with rfl | ⟨hdot, hself, hnone⟩ | ⟨n, hmapped, -, hdot, hnone⟩
  · have hboth : IsLower 'i' ∧ IsLower '\u0307' := by decide
    have hdot : lowerChar 'İ' = ['i', '\u0307'] := rfl
    simp only [hdot, List.mem_cons, List.not_mem_nil, or_false] at h
    rcases h with rfl | rfl
    · exact hboth.1
    · exact hboth.2
  · rw [hself, List.mem_singleton] at h
    exact h ▸ isLower_of_not_covers hdot hnone
  · rw [hmapped, List.mem_singleton] at h
    exact h ▸ isLower_ofNat hdot hnone

theorem isLower_of_mem_lowerFrom {afterCased : Bool} {cs : List Char} {d : Char}
    (h : d ∈ lowerFrom afterCased cs) : IsLower d := by
  induction cs generalizing afterCased with
  | nil => cases h
  | cons c cs ih =>
    rw [lowerFrom, List.mem_append] at h
    rcases h with h | h
    · split at h
      · have hsigma : IsLower 'ς' ∧ IsLower 'σ' := by decide
        obtain rfl := List.mem_singleton.mp h
        split
        · exact hsigma.1
        · exact hsigma.2
      · exact isLower_of_mem_lowerChar h
    · exact ih h

theorem lowerFrom_of_isLower {cs : List Char} (h : ∀ c ∈ cs, IsLower c) (afterCased : Bool) :
    lowerFrom afterCased cs = cs := by
  induction cs generalizing afterCased with
  | nil => rfl
  | cons c cs ih =>
    obtain ⟨hsigma, hself⟩ := h c (by simp)
    rw [lowerFrom, if_neg hsigma, hself, ih fun d hd => h d (by simp [hd])]
    rfl

/-! ## Colons -/

theorem colon_of_mem_lowerChar {c : Char} (h : ':' ∈ lowerChar c) : c = ':' := by
  rcases lowerChar_cases c with rfl | ⟨-, hself, -⟩ | ⟨n, hmapped, hcolon, -, -⟩
  · exact absurd h (by decide)
  · rw [hself, List.mem_singleton] at h
    exact h.symm
  · rw [hmapped, List.mem_singleton] at h
    rcases toNat_ofNat_or n with hnat | hzero
    · rw [← h] at hnat
      exact absurd hnat.symm hcolon
    · cases h.trans hzero

theorem colon_of_mem_lowerFrom {afterCased : Bool} {cs : List Char}
    (h : ':' ∈ lowerFrom afterCased cs) : ':' ∈ cs := by
  induction cs generalizing afterCased with
  | nil => cases h
  | cons c cs ih =>
    rw [lowerFrom, List.mem_append] at h
    rcases h with h | h
    · split at h
      · split at h <;> cases List.mem_singleton.mp h
      · exact colon_of_mem_lowerChar h ▸ List.mem_cons_self
    · exact List.mem_cons_of_mem c (ih h)

end Case

/-- Lower case of lower case is the same text. -/
theorem lower_lower (s : String) : lower (lower s) = lower s := by
  have hlower : ∀ c ∈ Case.lowerFrom false s.toList, Case.IsLower c :=
    fun _ hc => Case.isLower_of_mem_lowerFrom hc
  rw [lower, lower, String.toList_ofList, Case.lowerFrom_of_isLower hlower]

theorem colon_of_mem_lower {s : String} (h : ':' ∈ (lower s).toList) : ':' ∈ s.toList := by
  rw [lower, String.toList_ofList] at h
  exact Case.colon_of_mem_lowerFrom h

end Sift.Text
