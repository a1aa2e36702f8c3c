import Mathlib.Data.List.TakeWhile
import Sift.Proofs.Shorthand.Stable

/-!
# Selections and negations as data

Data is read by changing one key of a map after the other, first heads, then their types, then the
dimensions of these. All changes below one key are one change of it (`addDims_alterType`, `addHead_eq`),
so a map comes again in its order when each of its values does. What tokens select has a type below
every head and lists no value twice; it is read back from its data, and so is what they negate
(`ofData_toData_of_expand`).
-/

namespace Sift

/-! ## Heads -/

namespace Text

theorem not_isBlank_of_ascii {c : Char} (h : c.isDigit = true) : isBlank c = false := by
  have hc := toNat_of_ascii h
  simp only [isBlank, Ranges.has, blanks, List.any_cons, List.any_nil, Bool.or_false,
    Bool.or_eq_false_iff, Bool.and_eq_false_iff, decide_eq_false_iff_not]
  omega

theorem trimBy_eq_self {margin : Char → Bool} {cs : List Char} (h : ∀ c ∈ cs, margin c = false) :
    trimBy margin cs = cs := by
  have hkept : ∀ {cs : List Char}, (∀ c ∈ cs, margin c = false) → cs.dropWhile margin = cs := by
    intro cs h
    cases cs with
    | nil => rfl
    | cons c cs => rw [List.dropWhile_cons_of_neg (by simp [h c List.mem_cons_self])]
  rw [trimBy, hkept h, hkept (by simpa using h), List.reverse_reverse]

end Text

namespace Integer

theorem wellSpaced_of_isDigits {cs : List Char} (h : Text.isDigits cs = true) :
    wellSpaced cs = true := by
  induction cs with
  | nil => cases h
  | cons c cs ih =>
    have hall := (Text.isDigits_iff.mp h).2
    cases cs with
    | nil => exact hall c List.mem_cons_self
    | cons d cs =>
      have hrest : Text.isDigits (d :: cs) = true := Text.isDigits_iff.mpr
        ⟨List.cons_ne_nil _ _, fun e he => hall e (List.mem_cons_of_mem _ he)⟩
      rw [wellSpaced, hall c List.mem_cons_self, ih hrest]
      rfl

theorem read_natCast {n : Nat} (h : Shorthand.Short n) : read (toString (n : Int)) = .ok n := by
  have hlist : (toString (n : Int)).toList = Text.decimal n := Text.toList_repr_natCast n
  have hdigits := Text.isDigits_decimal n
  obtain ⟨hne, hall⟩ := Text.isDigits_iff.mp hdigits
  have htrim : Text.trimBy isMargin (Text.decimal n) = Text.decimal n := by
    refine Text.trimBy_eq_self fun c hc => ?_
    rw [isMargin, Text.not_isBlank_of_ascii (Text.ascii_of_mem_decimal hc)]
    rfl
  have hmark : ∀ c ∈ Text.decimal n, c ≠ '-' ∧ c ≠ '+' ∧ c ≠ '_' := fun c hc =>
    ⟨Text.ne_of_isDigit (hall c hc) (by decide), Text.ne_of_isDigit (hall c hc) (by decide),
      Text.ne_of_isDigit (hall c hc) (by decide)⟩
  have hsign : splitSign (Text.decimal n) = (false, Text.decimal n) := by
    unfold splitSign
    split
    · rename_i heq
      exact absurd rfl (hmark '-' (heq ▸ List.mem_cons_self)).1
    · rename_i heq
      exact absurd rfl (hmark '+' (heq ▸ List.mem_cons_self)).2.1
    · rfl
  have hrun : (Text.decimal n).takeWhile (fun c => Text.isDigit c || c == '_') = Text.decimal n :=
    List.takeWhile_eq_self_iff.mpr fun c hc => by rw [hall c hc, Bool.true_or]
  have hrest : (Text.decimal n).dropWhile (fun c => Text.isDigit c || c == '_') = [] :=
    List.dropWhile_eq_nil_iff.mpr fun c hc => by rw [hall c hc, Bool.true_or]
  have hscore : (Text.decimal n).filter (· != '_') = Text.decimal n :=
    List.filter_eq_self.mpr fun c hc => bne_iff_ne.mpr (hmark c hc).2.2
  have hhead : ((Text.decimal n).head? == some '_') = false := beq_false_of_ne fun hhead =>
    (hmark '_' (List.mem_of_head? hhead)).2.2 rfl
  simp only [read, hlist, htrim, hsign, hrun, hrest, hscore, hhead, Shorthand.ofRun_decimal h,
    wellSpaced_of_isDigits hdigits]
  rfl

end Integer

/-! ## Selections -/

/-- The values of data behind those that were given, each once. -/
def gathered (values : List String) (given : Option (List String)) : List String :=
  values.foldl (fun listed value => insertNew value listed) (given.getD [])

/-- The dimensions of data behind those that were given. -/
def gatheredDims (dims : List (String × List String)) (given : Option Dims) : Dims :=
  dims.foldl (fun built e => built.alter e.1 (gathered e.2)) (given.getD .empty)

/-- The types of data behind those that were given. -/
def gatheredTypes (types : List (String × List (String × List String))) (given : Option Types) :
    Types :=
  types.foldl (fun built e => built.alter e.1 (gatheredDims e.2)) (given.getD .empty)

theorem gathered_none {values : List String} (h : values.Nodup) : gathered values none = values :=
  eachOnce_of_nodup h

theorem gatheredDims_none {dims : Dims} (h : ∀ d ∈ dims.entries, d.2.Nodup) :
    gatheredDims dims.entries none = dims :=
  OrderedMap.foldl_alter_entries (f := fun e => gathered e.2) fun d hd => gathered_none (h d hd)

theorem gatheredTypes_none {types : Types}
    (h : ∀ t ∈ types.entries, ∀ d ∈ t.2.entries, d.2.Nodup) :
    gatheredTypes (types.entries.map fun t => (t.1, t.2.entries)) none = types := by
  rw [gatheredTypes, List.foldl_map]
  exact OrderedMap.foldl_alter_entries (f := fun t => gatheredDims t.2.entries)
    fun t ht => gatheredDims_none (h t ht)

namespace Selection

variable {α : Type} {sel : Selection} {head : Int} {type : String}

theorem foldl_alterType (f : Dims → α → Dims) (g : Dims → Dims) (xs : List α) :
    xs.foldl (fun sel x => sel.alterType head type fun dims => f dims x)
      (sel.alterType head type g) = sel.alterType head type fun dims => xs.foldl f (g dims) := by
  induction xs generalizing g with
  | nil => rfl
  | cons x xs ih =>
    have htwo : (sel.alterType head type g).alterType head type (fun dims => f dims x) =
        sel.alterType head type fun dims => f (g dims) x := by
      simp only [alterType, OrderedMap.alter_alter, Option.getD_some]
    rw [List.foldl_cons, htwo, ih]
    rfl

theorem addDims_alterType (g : Dims → Dims) (dims : List (String × List String)) :
    (sel.alterType head type g).addDims head type dims =
      sel.alterType head type fun given => gatheredDims dims (some (g given)) := by
  have hdim : ∀ (sel : Selection) (e : String × List String),
      e.2.foldl (fun sel value => sel.addValue head type e.1 value) (sel.addDim head type e.1) =
        sel.alterType head type fun given => given.alter e.1 (gathered e.2) := by
    intro sel e
    refine (foldl_alterType (fun given value => given.alter e.1 fun values =>
      insertNew value (values.getD [])) _ e.2).trans ?_
    simp only [OrderedMap.foldl_alter _ _ _ (fun listed value => insertNew value listed)]
    rfl
  have hdims : ∀ sel : Selection, sel.addDims head type dims = dims.foldl
      (fun sel e => sel.alterType head type fun given => given.alter e.1 (gathered e.2)) sel := by
    intro sel
    rw [addDims]
    exact congrArg (fun step => dims.foldl step sel) (funext fun sel => funext fun e => hdim sel e)
  rw [hdims, foldl_alterType]
  rfl

theorem addHead_eq {text : String} {types : List (String × List (String × List String))}
    (hne : types ≠ []) (hread : Integer.read text = .ok head) :
    sel.addHead text types = .ok ⟨sel.heads.alter head (gatheredTypes types)⟩ := by
  have hfold : ∀ heads : OrderedMap Int Types,
      types.foldl (fun sel t => (sel.addType head t.1).addDims head t.1 t.2) ⟨heads⟩ =
        (⟨types.foldl (fun heads t => heads.alter head fun given =>
          (given.getD .empty).alter t.1 (gatheredDims t.2)) heads⟩ : Selection) := fun heads =>
    List.foldl_hom Selection.mk fun heads t => @addDims_alterType ⟨heads⟩ head t.1 id t.2
  obtain ⟨t, rest, rfl⟩ := List.exists_cons_of_ne_nil hne
  show (Integer.read text >>= _) = _
  rw [hread]
  show Except.ok ((t :: rest).foldl
    (fun sel t => (sel.addType head t.1).addDims head t.1 t.2) sel) = _
  rw [hfold sel.heads, List.foldl_cons]
  exact congrArg (fun heads => Except.ok (Selection.mk heads)) (OrderedMap.foldl_alter sel.heads head
    .empty (fun built t => built.alter t.1 (gatheredDims t.2)) _ rest)

theorem ofData_toData_of_tidy (htidy : sel.Tidy)
    (hheads : ∀ head, sel.hasHead head = true → ∃ n : Nat, head = n ∧ Shorthand.Short n) :
    ofData sel.toData = .ok sel := by
  have hstep : ∀ e ∈ sel.heads.entries, ∀ built : Selection,
      built.addHead (toString e.1) (e.2.entries.map fun t => (t.1, t.2.entries)) =
        .ok ⟨built.heads.alter e.1 (gatheredTypes (e.2.entries.map fun t => (t.1, t.2.entries)))⟩ := by
    intro e he built
    obtain ⟨n, hn, hshort⟩ := hheads e.1 (OrderedMap.contains_eq_true.mpr (List.mem_map_of_mem he))
    refine addHead_eq (fun hnil => (htidy e he).1 (List.map_eq_nil_iff.mp hnil)) ?_
    rw [hn]
    exact Integer.read_natCast hshort
  have hfold : sel.toData.foldlM (fun built e => built.addHead e.1 e.2) empty =
      .ok ⟨sel.heads.entries.foldl (fun built e => built.alter e.1
        (gatheredTypes (e.2.entries.map fun t => (t.1, t.2.entries)))) .empty⟩ := by
    rw [toData, List.foldlM_map, foldlM_eq_foldl hstep]
    exact congrArg Except.ok (List.foldl_hom Selection.mk fun _ _ => rfl)
  refine hfold.trans (congrArg (fun heads => Except.ok (Selection.mk heads)) ?_)
  exact OrderedMap.foldl_alter_entries
    (f := fun e => gatheredTypes (e.2.entries.map fun t => (t.1, t.2.entries)))
    fun e he => gatheredTypes_none fun t ht d hd => ((htidy e he).2 t ht d hd).2

end Selection

/-! ## Negations -/

namespace Negations

variable {neg : Negations} {head : Int}

theorem foldl_add {selectors : List String} (hne : selectors ≠ []) :
    selectors.foldl (fun neg selector => neg.add head selector) neg =
      ⟨neg.heads.alter head (gathered selectors)⟩ := by
  have hfold : selectors.foldl (fun neg selector => neg.add head selector) ⟨neg.heads⟩ =
      (⟨selectors.foldl (fun heads selector => heads.alter head fun given =>
        insertNew selector (given.getD [])) neg.heads⟩ : Negations) :=
    List.foldl_hom Negations.mk fun _ _ => rfl
  obtain ⟨s, rest, rfl⟩ := List.exists_cons_of_ne_nil hne
  refine hfold.trans (congrArg Negations.mk ?_)
  exact OrderedMap.foldl_alter neg.heads head [] (fun listed s => insertNew s listed) _ rest

theorem ofData_toData_of_writable (h : neg.Writable) : ofData neg.toData = .ok neg := by
  have hentry : ∀ e ∈ neg.heads.entries, (∃ n : Nat, e.1 = n ∧ Shorthand.Short n) ∧ e.2 ≠ [] ∧
      e.2.Nodup ∧ ∀ s ∈ e.2, Shorthand.IsSelector s :=
    fun e he => h e.1 e.2 (OrderedMap.get?_eq_some_iff.mpr he)
  have hfold : ofData neg.toData = .ok ⟨neg.heads.entries.foldl
      (fun built e => built.alter e.1 (gathered e.2)) .empty⟩ := by
    rw [ofData, toData, List.foldlM_map, foldlM_eq_foldl
      (g := fun built e => ⟨built.heads.alter e.1 (gathered e.2)⟩) fun e he built => ?_]
    · exact congrArg Except.ok (List.foldl_hom Negations.mk fun _ _ => rfl)
    · obtain ⟨head, selectors⟩ := e
      obtain ⟨⟨n, rfl, hshort⟩, hne, -⟩ := hentry _ he
      have hadded : selectors.foldl (fun neg s => neg.add n s) built =
          ⟨built.heads.alter n (gathered selectors)⟩ := foldl_add hne
      obtain ⟨s, rest, rfl⟩ := List.exists_cons_of_ne_nil hne
      show (Integer.read (toString (n : Int)) >>= _) = _
      rw [Integer.read_natCast hshort, ← hadded]
      rfl
  refine hfold.trans (congrArg (fun heads => Except.ok (Negations.mk heads)) ?_)
  exact OrderedMap.foldl_alter_entries (f := fun e => gathered e.2)
    fun e he => gathered_none (hentry e he).2.2.1

end Negations

/-! ## What tokens select and negate -/

namespace Shorthand

theorem nodup_eachOnce (values : List String) : (eachOnce values).Nodup := by
  have hfold : ∀ listed : List String, listed.Nodup →
      (values.foldl (fun listed v => insertNew v listed) listed).Nodup := by
    induction values with
    | nil => exact fun listed h => h
    | cons v values ih => exact fun listed h => ih _ (nodup_insertNew h)
  exact hfold [] List.nodup_nil

theorem tidy_selected (entries : List Entry) : (selected entries).Tidy := by
  intro e he
  refine ⟨fun hnil => ?_, fun t ht d hd => ?_⟩
  · have hhead : (selected entries).hasHead e.1 = true :=
      OrderedMap.contains_eq_true.mpr (List.mem_map_of_mem he)
    obtain ⟨type, htype⟩ := exists_hasType_selected hhead
    rw [Selection.hasType, Selection.typesOf, OrderedMap.get?_eq_some_iff.mpr he] at htype
    have hkey : type ∈ e.2.entries.map Prod.fst := OrderedMap.contains_eq_true.mp htype
    rw [hnil] at hkey
    cases hkey
  · have hvalues : (selected entries).values? e.1 t.1 d.1 = some d.2 := by
      rw [Selection.values?, Selection.dims_of_mem he ht]
      exact OrderedMap.get?_eq_some_iff.mpr hd
    refine ⟨fun hnil => ?_, ?_⟩
    · rw [hnil] at hvalues
      exact values?_selected_ne_nil hvalues
    · rw [values?_selected_eq] at hvalues
      split at hvalues
      · cases hvalues
      · rw [← Option.some.inj hvalues]
        exact nodup_eachOnce _

/-- What tokens select and negate is read back from its data. -/
theorem ofData_toData_of_expand {tax : Taxonomy} {raws : List String} {sel : Selection}
    {neg : Negations} (h : expand tax raws = .ok (sel, neg)) :
    Selection.ofData sel.toData = .ok sel ∧ Negations.ofData neg.toData = .ok neg := by
  obtain ⟨hsel, hneg⟩ := writable_of_expand h
  obtain ⟨entries, rfl⟩ := selected_of_expand h
  exact ⟨Selection.ofData_toData_of_tidy (tidy_selected entries) hsel.heads,
    Negations.ofData_toData_of_writable hneg⟩

end Shorthand

end Sift
