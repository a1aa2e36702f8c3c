import Sift.Proofs.Selection.Order
import Sift.Proofs.Shorthand.Legible
import Sift.Proofs.Shorthand.RoundTrip

/-!
# Compressing again

A compressed selection that is expanded has lost the dimensions of which everything was selected, and
lists the leaves of the others in the order of the taxonomy. Nothing that compression looks at is
lost: the types of a head stand in the order in which they are written (`types_again`), and what is
missing of a dimension, what does not apply and which dimensions there are stay as they were
(`missing_again`, `foreign_again`, `dimsOf_again`). So the same text is written again
(`compress_expandTree_compress`).
-/

namespace Sift

/-- Every dimension lists values, none of them twice. -/
def Selection.Plain (sel : Selection) : Prop :=
  ∀ e ∈ sel.heads.entries, ∀ t ∈ e.2.entries, ∀ d ∈ t.2.entries, d.2 ≠ [] ∧ d.2.Nodup

instance (sel : Selection) : Decidable sel.Plain :=
  inferInstanceAs (Decidable (∀ e ∈ sel.heads.entries, ∀ t ∈ e.2.entries, ∀ d ∈ t.2.entries,
    d.2 ≠ [] ∧ d.2.Nodup))

/-- Every head has a type, and every dimension lists values, none of them twice. -/
def Selection.Tidy (sel : Selection) : Prop :=
  ∀ e ∈ sel.heads.entries, e.2.entries ≠ [] ∧
    ∀ t ∈ e.2.entries, ∀ d ∈ t.2.entries, d.2 ≠ [] ∧ d.2.Nodup

instance (sel : Selection) : Decidable sel.Tidy :=
  inferInstanceAs (Decidable (∀ e ∈ sel.heads.entries, e.2.entries ≠ [] ∧
    ∀ t ∈ e.2.entries, ∀ d ∈ t.2.entries, d.2 ≠ [] ∧ d.2.Nodup))

namespace Selection

variable {sel : Selection} {id : Int} {t d : String}

theorem Tidy.plain (h : sel.Tidy) : sel.Plain := fun e he => (h e he).2

theorem Tidy.exists_type (h : sel.Tidy) (hid : id ∈ sel.headIds) : ∃ t, t ∈ sel.types id := by
  obtain ⟨types, htypes⟩ := OrderedMap.mem_keys_iff.mp hid
  obtain ⟨t, ht⟩ := List.exists_mem_of_ne_nil _ (h _ (OrderedMap.get?_eq_some_iff.mp htypes)).1
  refine ⟨t.1, ?_⟩
  rw [Selection.types, typesOf, htypes]
  exact List.mem_map_of_mem ht

theorem Plain.values (h : sel.Plain) {vs : List String} (hvs : sel.values? id t d = some vs) :
    vs ≠ [] ∧ vs.Nodup := by
  obtain ⟨types, dims, htypes, hdims⟩ := hasType_iff.mp (hasType_of_values? hvs)
  rw [values?, dims_of_mem htypes hdims] at hvs
  exact h _ htypes _ hdims _ (OrderedMap.get?_eq_some_iff.mp hvs)

theorem types_eq_nil (h : sel.hasHead id = false) : sel.types id = [] := by
  refine List.eq_nil_iff_forall_not_mem.mpr fun t ht => ?_
  rw [hasHead_of_hasType (hasType_iff_mem_types.mpr ht)] at h
  cases h

end Selection

namespace Shorthand

variable {tax : Taxonomy} {sel : Selection} {head : Head} {n : Nat} {t d : String}

/-! ## The types of a head as they are written -/

/-- The types of a head in the order in which they are written. -/
def writtenTypes (sel : Selection) (head : Head) : List String :=
  if isWholeHead sel head then head.typeKeys else sel.types head.id

theorem typeKeys_of_mem_writtenTypes (htypes : ∀ t ∈ sel.types head.id, t ∈ head.typeKeys)
    (ht : t ∈ writtenTypes sel head) : t ∈ head.typeKeys := by
  rw [writtenTypes] at ht
  split at ht
  · exact ht
  · exact htypes t ht

theorem nodup_writtenTypes (sel : Selection) (head : Head) : (writtenTypes sel head).Nodup := by
  rw [writtenTypes]
  split
  · exact head.types.nodup_keys
  · exact (sel.typesOf head.id).nodup_keys

theorem exists_type_of_isWholeHead (hhead : head.WellFormed) (h : isWholeHead sel head = true) :
    ∃ t ∈ head.typeKeys, sel.hasType head.id t = true := by
  obtain ⟨t, ht⟩ := List.exists_mem_of_ne_nil _ hhead.typeKeys_ne_nil
  have hall := List.all_eq_true.mp h t ht
  rw [Bool.and_eq_true] at hall
  exact ⟨t, ht, hall.1⟩

theorem isWholeHead_eq_false (hhead : head.WellFormed) (h : sel.hasHead head.id = false) :
    isWholeHead sel head = false := by
  rw [Bool.eq_false_iff]
  intro hwhole
  obtain ⟨t, -, htype⟩ := exists_type_of_isWholeHead hhead hwhole
  rw [Selection.hasHead_of_hasType htype] at h
  cases h

theorem tokensOfHead_eq (hhead : head.WellFormed) : tokensOfHead sel head =
    if isWholeHead sel head then [headText head.id]
    else (sel.types head.id).flatMap (tokensOfType sel head) := by
  cases h : sel.hasHead head.id with
  | false =>
    rw [tokensOfHead_eq_nil h, isWholeHead_eq_false hhead h, Selection.types_eq_nil h]
    rfl
  | true => simp [tokensOfHead, h]

theorem entriesOfHead_eq (hhead : head.WellFormed) : entriesOfHead sel head n =
    (writtenTypes sel head).flatMap (entriesOfType sel head n) := by
  rw [writtenTypes]
  cases h : sel.hasHead head.id with
  | false =>
    rw [entriesOfHead_eq_nil h, isWholeHead_eq_false hhead h, Selection.types_eq_nil h]
    rfl
  | true =>
    simp only [entriesOfHead, h, Bool.not_true, Bool.false_eq_true, if_false]
    split
    · rename_i hwhole
      have hmarker : ∀ t ∈ head.typeKeys, entriesOfType sel head n t = [.marker n t] := by
        intro t ht
        have hall := List.all_eq_true.mp hwhole t ht
        rw [Bool.and_eq_true] at hall
        rw [entriesOfType, if_pos (narrowing_of_isWhole hall.2), if_pos ht]
      rw [List.flatMap_def, List.map_congr_left hmarker, ← List.flatMap_def, ← List.map_eq_flatMap]
    · rfl

/-! ## The entries of one type -/

theorem nodup_writtenValues (htidy : sel.Tidy) : (writtenValues sel head t d).Nodup := by
  have hforeign : (foreign sel head t d).Nodup := by
    rw [foreign]
    cases hvs : sel.values? head.id t d with
    | none => exact List.nodup_nil
    | some vs => exact (htidy.plain.values hvs).2.filter _
  rw [writtenValues, List.nodup_append]
  split
  · refine ⟨(Head.nodup_applicable t d).filter _, hforeign, fun v hv w hw heq => ?_⟩
    exact (mem_foreign.mp hw).2 (heq ▸ (List.mem_filter.mp hv).1)
  · exact ⟨List.nodup_nil, hforeign, fun v hv => absurd hv List.not_mem_nil⟩

theorem listed_leaves (values : List String) (d' : String) :
    listed (values.map (.leaf n t d')) n t d = if d' = d then values else [] := by
  rw [listed, List.filterMap_map]
  split
  · rename_i heq
    simp only [Function.comp_def, heq, and_self, if_true, List.filterMap_some]
  · rename_i hne
    simp only [Function.comp_def, hne, and_false, if_false]
    exact List.filterMap_eq_nil_iff.mpr fun _ _ => rfl

theorem dimsIn_leaves (values : List String) (d : String) :
    dimsIn (values.map (.leaf n t d)) n t = values.map fun _ => d := by
  rw [dimsIn, List.filterMap_map]
  simp only [Function.comp_def, and_self, if_true, List.filterMap_eq_map']

theorem listed_flatMap {dims : List String} (hnodup : dims.Nodup) {values : String → List String}
    (hmem : values d ≠ [] → d ∈ dims) :
    listed (dims.flatMap fun d => (values d).map (.leaf n t d)) n t d = values d := by
  have hother : ∀ ds : List String, d ∉ ds →
      listed (ds.flatMap fun d => (values d).map (.leaf n t d)) n t d = [] := by
    intro ds hd
    rw [listed, List.filterMap_flatMap, List.flatMap_eq_nil_iff]
    intro d' hd'
    refine (listed_leaves _ _).trans (if_neg ?_)
    rintro rfl
    exact hd hd'
  by_cases hd : d ∈ dims
  · obtain ⟨pre, post, rfl⟩ := List.append_of_mem hd
    have hpost : d ∉ post := (List.nodup_cons.mp (List.nodup_append.mp hnodup).2.1).1
    rw [List.flatMap_append, List.flatMap_cons, listed, List.filterMap_append,
      List.filterMap_append]
    change listed _ n t d ++ (listed _ n t d ++ listed _ n t d) = _
    rw [hother pre (not_mem_of_split rfl hnodup), hother post hpost, listed_leaves, if_pos rfl,
      List.nil_append, List.append_nil]
  · rw [hother dims hd]
    exact (Decidable.not_not.mp (mt hmem hd)).symm

theorem mem_dimsOf_of_writtenValues (h : writtenValues sel head t d ≠ []) :
    d ∈ dimsOf sel head t := by
  obtain ⟨v, hv⟩ := List.exists_mem_of_ne_nil _ h
  exact mem_dimsOf_of_narrowed (narrowed_of_mem_writtenValues hv)

theorem writtenValues_eq_nil_of_narrowing (h : narrowing sel head t = []) :
    writtenValues sel head t d = [] := by
  refine Decidable.of_not_not fun hne => hne (writtenValues_of_dimTokens_eq_nil ?_)
  exact List.flatMap_eq_nil_iff.mp h d (mem_dimsOf_of_writtenValues hne)

theorem listed_entriesOfType :
    listed (entriesOfType sel head n t) n t d = writtenValues sel head t d := by
  rw [entriesOfType]
  split
  · rename_i hnarrow
    rw [writtenValues_eq_nil_of_narrowing hnarrow]
    split <;> rfl
  · exact listed_flatMap (nodup_dimsOf sel head t) mem_dimsOf_of_writtenValues

theorem dimsIn_entriesOfType : eachOnce (dimsIn (entriesOfType sel head n t) n t) =
    (dimsOf sel head t).filter fun d => writtenValues sel head t d ≠ [] := by
  rw [entriesOfType]
  split
  · rename_i hnarrow
    have hnone : (dimsOf sel head t).filter (fun d => writtenValues sel head t d ≠ []) = [] :=
      List.filter_eq_nil_iff.mpr fun d _ => by
        simp [writtenValues_eq_nil_of_narrowing (d := d) hnarrow]
    rw [hnone]
    split <;> rfl
  · have hblocks : dimsIn ((dimsOf sel head t).flatMap fun d =>
          (writtenValues sel head t d).map (.leaf n t d)) n t =
        (dimsOf sel head t).flatMap fun d => (writtenValues sel head t d).map fun _ => d := by
      rw [dimsIn, List.filterMap_flatMap]
      refine congrArg (fun f => (dimsOf sel head t).flatMap f) (funext fun d => ?_)
      exact dimsIn_leaves _ d
    rw [hblocks, eachOnce_flatMap (nodup_dimsOf sel head t) fun d _ v hv => ?_]
    · simp only [ne_eq, List.map_eq_nil_iff]
    · obtain ⟨-, -, rfl⟩ := List.mem_map.mp hv
      rfl

/-! ## What is read back -/

section Again

variable (htax : tax.WellFormed) (hfound : tax.head? n = some head)

include htax hfound

theorem filter_head_selectionEntries : (selectionEntries tax sel).filter
    (fun entry => (entry.head : Int) = n) = entriesOfHead sel head n := by
  have hlabel : ∀ e ∈ tax.heads.entries, ∀ entry ∈ entriesOfHead sel e.2 e.1.toNat,
      (entry.head : Int) = e.1 := by
    intro e he entry hentry
    obtain ⟨hid, hhead⟩ := htax e he
    rw [head_of_mem_entriesOfHead hentry, Int.toNat_of_nonneg (hid ▸ hhead.nonneg)]
  exact filter_flatMap_of_key Prod.fst tax.heads.nodup hlabel
    (Taxonomy.head?_eq_some_iff.mp hfound)

theorem filter_type_selectionEntries (ht : t ∈ writtenTypes sel head) :
    (selectionEntries tax sel).filter (fun entry => (entry.head : Int) = n ∧ entry.type = t) =
      entriesOfType sel head n t := by
  have hlabel : ∀ t ∈ writtenTypes sel head, ∀ entry ∈ entriesOfType sel head n t,
      entry.type = t := fun t _ entry hentry => (place_of_mem_entriesOfType hentry).2
  have htype := filter_flatMap_of_key id (by simpa using nodup_writtenTypes sel head)
    hlabel ht
  rw [← entriesOfHead_eq (htax.head hfound).2, ← filter_head_selectionEntries htax hfound,
    List.filter_filter] at htype
  rw [← htype]
  refine List.filter_congr fun entry _ => ?_
  simp [Bool.and_comm]

theorem filterMap_selectionEntries {β : Type} {g : Entry → Option β}
    (hg : ∀ entry, (g entry).isSome = true → (entry.head : Int) = n ∧ entry.type = t)
    (ht : t ∈ writtenTypes sel head) :
    (selectionEntries tax sel).filterMap g = (entriesOfType sel head n t).filterMap g := by
  rw [← filter_type_selectionEntries htax hfound ht, List.filterMap_filter]
  refine congrArg (fun f => (selectionEntries tax sel).filterMap f) (funext fun entry => ?_)
  by_cases hplace : (entry.head : Int) = n ∧ entry.type = t
  · rw [if_pos (decide_eq_true hplace)]
  · rw [if_neg (mt of_decide_eq_true hplace)]
    exact Option.not_isSome_iff_eq_none.mp (mt (hg entry) hplace)

variable (htypes : ∀ t ∈ sel.types head.id, t ∈ head.typeKeys)

include htypes in
theorem types_again : (selected (selectionEntries tax sel)).types n = writtenTypes sel head := by
  rw [types_selected, typesIn, filter_head_selectionEntries htax hfound,
    entriesOfHead_eq (htax.head hfound).2, List.map_flatMap,
    eachOnce_flatMap (nodup_writtenTypes sel head) fun t _ t' ht' => ?_, List.filter_eq_self]
  · intro t ht
    simpa using entriesOfType_ne_nil (.inl (typeKeys_of_mem_writtenTypes htypes ht))
  · obtain ⟨entry, hentry, rfl⟩ := List.mem_map.mp ht'
    exact (place_of_mem_entriesOfType hentry).2

variable (htidy : sel.Tidy) (ht : t ∈ writtenTypes sel head)

include ht

include htidy in
theorem values?_again : (selected (selectionEntries tax sel)).values? n t d =
    if writtenValues sel head t d = [] then none else some (writtenValues sel head t d) := by
  have hlisted : listed (selectionEntries tax sel) n t d = writtenValues sel head t d := by
    rw [← listed_entriesOfType (n := n)]
    refine filterMap_selectionEntries htax hfound (fun entry hentry => ?_) ht
    cases entry with
    | leaf m t' d' v =>
      simp only [Option.isSome_ite] at hentry
      exact ⟨hentry.1, hentry.2.1⟩
    | marker m t' => cases hentry
  rw [values?_selected_eq, hlisted, eachOnce_of_nodup (nodup_writtenValues htidy)]

theorem dims_again : ((selected (selectionEntries tax sel)).dims n t).keys =
    (dimsOf sel head t).filter fun d => writtenValues sel head t d ≠ [] := by
  have hdims : dimsIn (selectionEntries tax sel) n t =
      dimsIn (entriesOfType sel head n t) n t := by
    refine filterMap_selectionEntries htax hfound (fun entry hentry => ?_) ht
    cases entry with
    | leaf m t' d' v =>
      simp only [Option.isSome_ite] at hentry
      exact hentry
    | marker m t' => cases hentry
  rw [dimKeys_selected, hdims, dimsIn_entriesOfType]

include htypes htidy

/-- A dimension of which nothing needs to be written is dropped; another lists the same values. -/
theorem values?_again_cases :
    (missing sel head t d = [] ∧ foreign sel head t d = [] ∧
      (selected (selectionEntries tax sel)).values? n t d = none) ∨
    ∃ vs, sel.values? head.id t d = some vs ∧
      (selected (selectionEntries tax sel)).values? n t d = some (writtenValues sel head t d) ∧
      ∀ v, v ∈ writtenValues sel head t d ↔ v ∈ vs := by
  rw [values?_again htax hfound htidy ht]
  have hkey := typeKeys_of_mem_writtenTypes htypes ht
  by_cases hnarrowed : missing sel head t d ≠ [] ∨ foreign sel head t d ≠ []
  · right
    obtain ⟨vs, hvs⟩ := exists_values_of_narrowed hnarrowed
    have hwritten : ∀ v, v ∈ writtenValues sel head t d ↔ v ∈ vs := by
      intro v
      rw [mem_writtenValues (.inl hkey), and_iff_left hnarrowed, Selection.valuesOf, hvs,
        Option.getD_some]
    obtain ⟨v, hv⟩ := List.exists_mem_of_ne_nil _ (htidy.plain.values hvs).1
    exact ⟨vs, hvs, if_neg (List.ne_nil_of_mem ((hwritten v).mpr hv)), hwritten⟩
  · left
    have hwritten : writtenValues sel head t d = [] := List.eq_nil_iff_forall_not_mem.mpr fun v hv =>
      hnarrowed ((mem_writtenValues (.inl hkey)).mp hv).2
    rw [not_or, Decidable.not_not, Decidable.not_not] at hnarrowed
    exact ⟨hnarrowed.1, hnarrowed.2, if_pos hwritten⟩

theorem missing_again :
    missing (selected (selectionEntries tax sel)) head t d = missing sel head t d := by
  have hid := (htax.head hfound).1
  rcases values?_again_cases htax hfound htypes htidy ht (d := d) with
    ⟨hmissing, -, hnone⟩ | ⟨vs, hvs, hagain, hsame⟩
  · rw [hmissing, missing, hid, hnone]
    exact ite_self _
  · rw [missing, missing, hvs, hid, hagain]
    refine congrArg (fun values => if head.dims.contains d then values else []) ?_
    refine List.filter_congr fun v _ => ?_
    simp [hsame]

theorem foreign_again :
    foreign (selected (selectionEntries tax sel)) head t d = foreign sel head t d := by
  have hid := (htax.head hfound).1
  rcases values?_again_cases htax hfound htypes htidy ht (d := d) with
    ⟨-, hforeign, hnone⟩ | ⟨vs, hvs, hagain, -⟩
  · rw [hforeign, foreign, hid, hnone]
    rfl
  · have happlied : ∀ vs : List String, (∀ v ∈ vs, v ∈ head.applicable t d) →
        vs.filter (fun v => !(head.applicable t d).contains v) = [] := by
      intro vs h
      refine List.filter_eq_nil_iff.mpr fun v hv => ?_
      simp [h v hv]
    have hkept : (foreign sel head t d).filter (fun v => !(head.applicable t d).contains v) =
        foreign sel head t d := by
      refine List.filter_eq_self.mpr fun v hv => ?_
      simpa using (mem_foreign.mp hv).2
    rw [foreign, hid, hagain, Option.getD_some, writtenValues, List.filter_append, hkept,
      happlied, List.nil_append]
    intro v hv
    split at hv
    · exact (List.mem_filter.mp hv).1
    · cases hv

omit htypes in
theorem dimsOf_again :
    dimsOf (selected (selectionEntries tax sel)) head t = dimsOf sel head t := by
  have hid := (htax.head hfound).1
  have hwritten : ∀ d ∈ (sel.dims head.id t).keys, d ∉ head.dims →
      writtenValues sel head t d ≠ [] := by
    intro d hd hother
    obtain ⟨vs, hvs⟩ := OrderedMap.mem_keys_iff.mp hd
    obtain ⟨v, hv⟩ := List.exists_mem_of_ne_nil _ (htidy.plain.values hvs).1
    have hforeign : v ∈ foreign sel head t d := by
      rw [mem_foreign, Selection.valuesOf, Selection.values?, hvs, Head.applicable_eq_nil hother]
      exact ⟨hv, List.not_mem_nil⟩
    exact List.ne_nil_of_mem (List.mem_append_right _ hforeign)
  have hnone : (head.dims.filter fun d =>
      !head.dims.contains d && decide (writtenValues sel head t d ≠ [])) = [] :=
    List.filter_eq_nil_iff.mpr fun d hd => by simp [hd]
  have hextra : ((dimsOf sel head t).filter fun d => writtenValues sel head t d ≠ []).filter
      (fun d => !head.dims.contains d) =
      (sel.dims head.id t).keys.filter fun d => !head.dims.contains d := by
    rw [List.filter_filter, dimsOf, List.filter_append, hnone, List.nil_append, List.filter_filter]
    refine List.filter_congr fun d hd => ?_
    by_cases hother : d ∈ head.dims
    · simp [hother]
    · simp [hother, hwritten d hd hother]
  rw [dimsOf, hid, dims_again htax hfound ht, hextra, dimsOf]

include htypes

theorem isWhole_again :
    isWhole (selected (selectionEntries tax sel)) head t = isWhole sel head t := by
  rw [isWhole, isWhole, dimsOf_again htax hfound htidy ht]
  simp only [missing_again htax hfound htypes htidy ht, foreign_again htax hfound htypes htidy ht]

theorem tokensOfType_again :
    tokensOfType (selected (selectionEntries tax sel)) head t = tokensOfType sel head t := by
  have hnarrow : narrowing (selected (selectionEntries tax sel)) head t = narrowing sel head t := by
    rw [narrowing, narrowing, dimsOf_again htax hfound htidy ht]
    simp only [dimTokens, missing_again htax hfound htypes htidy ht,
      foreign_again htax hfound htypes htidy ht]
  rw [tokensOfType, tokensOfType, hnarrow]

omit ht

theorem isWholeHead_again :
    isWholeHead (selected (selectionEntries tax sel)) head = isWholeHead sel head := by
  have hid := (htax.head hfound).1
  have htype : ∀ t, (selected (selectionEntries tax sel)).hasType head.id t = true ↔
      t ∈ writtenTypes sel head := fun t => by
    rw [Selection.hasType_iff_mem_types, hid, types_again htax hfound htypes]
  cases hwhole : isWholeHead sel head with
  | true =>
    refine List.all_eq_true.mpr fun t ht => ?_
    have hall := List.all_eq_true.mp hwhole t ht
    have hwritten : t ∈ writtenTypes sel head := by rwa [writtenTypes, if_pos hwhole]
    rw [Bool.and_eq_true] at hall ⊢
    rw [isWhole_again htax hfound htypes htidy hwritten]
    exact ⟨(htype t).mpr hwritten, hall.2⟩
  | false =>
    have hsame : ∀ t, t ∈ writtenTypes sel head ↔ sel.hasType head.id t = true := fun t => by
      rw [writtenTypes, hwhole, if_neg Bool.false_ne_true, Selection.hasType_iff_mem_types]
    rw [← hwhole, Bool.eq_iff_iff, isWholeHead, isWholeHead, List.all_eq_true, List.all_eq_true]
    refine forall_congr' fun t => forall_congr' fun _ => ?_
    rw [Bool.and_eq_true, Bool.and_eq_true, htype, ← hsame]
    refine and_congr_right fun hwritten => ?_
    rw [isWhole_again htax hfound htypes htidy hwritten]

theorem tokensOfHead_again :
    tokensOfHead (selected (selectionEntries tax sel)) head = tokensOfHead sel head := by
  obtain ⟨hid, hhead⟩ := htax.head hfound
  rw [tokensOfHead_eq hhead, tokensOfHead_eq hhead, isWholeHead_again htax hfound htypes htidy]
  cases hwhole : isWholeHead sel head with
  | true => rfl
  | false =>
    have hwritten : writtenTypes sel head = sel.types head.id := by
      rw [writtenTypes, hwhole, if_neg Bool.false_ne_true]
    rw [hid, types_again htax hfound htypes, hwritten, ← hid, if_neg Bool.false_ne_true,
      if_neg Bool.false_ne_true, List.flatMap_def, List.flatMap_def]
    refine congrArg _ (List.map_congr_left fun t ht => ?_)
    exact tokensOfType_again htax hfound htypes htidy (hwritten ▸ ht)

end Again

theorem selectionTokens_again (htax : tax.WellFormed) (hsel : sel.Writable) (hwithin : sel.Within tax)
    (htidy : sel.Tidy) (hagain : (selected (selectionEntries tax sel)).Writable) :
    selectionTokens tax (selected (selectionEntries tax sel)) = selectionTokens tax sel := by
  rw [selectionTokens_eq htax hagain.lettered, selectionTokens_eq htax hsel.lettered, List.flatMap_def,
    List.flatMap_def]
  refine congrArg _ (List.map_congr_left fun e he => ?_)
  obtain ⟨hid, hhead⟩ := htax e he
  refine tokensOfHead_again htax (found_of_mem htax he) (fun t ht => ?_) htidy
  obtain ⟨head, hhead, hkey⟩ := typeKeys_of_within hwithin (Selection.hasType_iff_mem_types.mpr ht)
  rw [hid, Taxonomy.head?_eq_some_iff.mpr he] at hhead
  exact Option.some.inj hhead ▸ hkey

/-! ## Heads that cannot be read back -/

/-- Some token among these, or among those that they hold between commas, names the head. -/
def NamedAmong (n : Nat) (raws : List String) : Prop :=
  ∃ parts, (∀ p ∈ parts, p.Valid) ∧ (named? 0 parts).isSome = true ∧
    nameText n parts ∈ raws.flatMap (Text.split ',')

theorem NamedAmong.mono {raws raws' : List String} (h : NamedAmong n raws) (hsub : raws ⊆ raws') :
    NamedAmong n raws' := by
  obtain ⟨parts, hparts, hnamed, hmem⟩ := h
  obtain ⟨raw, hraw, hmem⟩ := List.mem_flatMap.mp hmem
  exact ⟨parts, hparts, hnamed, List.mem_flatMap.mpr ⟨raw, hsub hraw, hmem⟩⟩

theorem named_of_mem {raws : List String} {parts : List Part} (hparts : ∀ p ∈ parts, p.Valid)
    (hnamed : (named? 0 parts).isSome = true) (h : nameText n parts ∈ raws) : NamedAmong n raws := by
  refine ⟨parts, hparts, hnamed, List.mem_flatMap.mpr ⟨_, h, ?_⟩⟩
  rw [Text.split_of_not_mem (not_mem_nameText hparts (by decide) (by decide))]
  exact List.mem_singleton_self _

theorem NamedAmong.short {raws : List String} (h : NamedAmong n raws)
    (hlegible : Legible (raws.flatMap (Text.split ','))) : Short n := by
  obtain ⟨parts, hparts, hnamed, hmem⟩ := h
  refine Decidable.of_not_not fun hlong => hlegible.names _ hmem ?_
  refine overlong_of_headed (Text.isDigits_decimal n) (Nat.not_le.mp hlong) (by decide)
    (parts.map Part.text) (plainFields_text parts hparts) ?_ (toList_nameText n parts)
  rw [isName, mapM_part?_text parts hparts]
  exact hnamed

theorem named_dimTokens (hnum : Numbered head n) (hsel : sel.Lettered)
    (ht : isTypeKey t.toList = true) (hd : d ∈ dimensions) (h : dimTokens sel head t d [] ≠ []) :
    NamedAmong n (dimTokens sel head t d []) := by
  obtain ⟨raw, hraw⟩ := List.exists_mem_of_ne_nil _ h
  obtain ⟨part, hpart, hvalid, rfl | rfl⟩ := spells_of_mem_dimTokens hnum hsel ht hd hraw
  · refine named_of_mem hvalid ?_ hraw
    cases part with
    | type => cases hpart
    | dim | value => rfl
  -- Leaves are removed from a dimension that is named.
  · refine named_of_mem (spells_dimText (n := n) ht hd).1 rfl ?_
    rw [← dimText_eq, mem_dimTokens, hnum.id]
    rcases mem_dimTokens.mp hraw with h | ⟨v, -, heq⟩
    · split at h
      · obtain ⟨v, -, -, heq⟩ := h
        rw [hnum.id] at heq
        exact absurd heq (leafText_ne_removalText v _)
      · rename_i hmajority
        rw [if_neg hmajority]
        exact .inl ⟨h.1, .inl rfl⟩
    · rw [hnum.id] at heq
      exact absurd heq (leafText_ne_removalText v _)

theorem named_tokensOfType (hnum : Numbered head n) (hsel : sel.Lettered)
    (ht : isTypeKey t.toList = true) : NamedAmong n (tokensOfType sel head t) := by
  rw [tokensOfType]
  split
  · rw [hnum.id, typeText_eq]
    exact named_of_mem (spells_typeText (n := n) ht).1 rfl (List.mem_singleton_self _)
  · rename_i hne
    obtain ⟨raw, hraw⟩ := List.exists_mem_of_ne_nil _ hne
    obtain ⟨d, hd, hraw⟩ := List.mem_flatMap.mp hraw
    have hdim := mem_dimensions_of_mem_dimsOf hnum.wellFormed hsel hd
    exact (named_dimTokens hnum hsel ht hdim (List.ne_nil_of_mem hraw)).mono
      fun raw hraw => List.mem_flatMap.mpr ⟨d, hd, hraw⟩

theorem named_selectionTokens (htax : tax.WellFormed) (hwithin : sel.Within tax) (htidy : sel.Tidy)
    {id : Int} (hid : id ∈ sel.headIds) : NamedAmong id.toNat (selectionTokens tax sel) := by
  have hsel := lettered_of_within htax hwithin
  obtain ⟨t, ht⟩ := htidy.exists_type hid
  obtain ⟨head, hfound, hkey⟩ := typeKeys_of_within hwithin (Selection.hasType_iff_mem_types.mpr ht)
  have hmem := Taxonomy.head?_eq_some_iff.mp hfound
  have hnum := numbered_of_mem htax hmem
  have hnamed : NamedAmong id.toNat (tokensOfHead sel head) := by
    rw [tokensOfHead_eq hnum.wellFormed]
    split
    · rw [hnum.id, headText_eq]
      exact named_of_mem (spells_headText 0).1 rfl (List.mem_singleton_self _)
    · rw [(htax.head hfound).1]
      exact (named_tokensOfType hnum hsel (hnum.wellFormed.typeKeys t hkey)).mono
        fun raw hraw => List.mem_flatMap.mpr ⟨t, ht, hraw⟩
  rw [selectionTokens_eq htax hsel]
  exact hnamed.mono fun raw hraw => List.mem_flatMap.mpr ⟨_, hmem, hraw⟩

/-- Writing a selection within the taxonomy and the negations of an expansion as a tree, expanding
the tree and writing the result again gives the same text, exactly when the number of each selected
head has few enough digits to be read back. -/
theorem compress_expandTree_compress (htax : tax.WellFormed) (hwithin : sel.Within tax)
    (htidy : sel.Tidy) {raws : List String} {given : Selection} {neg : Negations}
    (hneg : expand tax raws = .ok (given, neg)) :
    (∃ again, expandTree tax (compress tax sel neg) = .ok (again, neg) ∧
      compress tax again neg = compress tax sel neg) ↔ ∀ id ∈ sel.headIds, Short id.toNat := by
  constructor
  · rintro ⟨again, hagain, -⟩ id hid
    rw [compress, expandTree_join] at hagain
    have hlegible := (exists_expand_iff htax.keyed).mp ⟨_, hagain⟩
    exact ((named_selectionTokens htax hwithin htidy hid).mono
      (List.subset_append_left _ _)).short hlegible
  · intro hshort
    have hsel := writable_of_short htax hwithin hshort
    have hagain := expandTree_compress htax hsel (writable_of_expand hneg).2
    have hwritable := (writable_of_expand hagain).1
    refine ⟨_, hagain, ?_⟩
    rw [compress, compress, selectionTokens_again htax hsel hwithin htidy hwritable]

/-- Books with one genre missing and one that does not apply, a dimension of which everything is
selected, and a dimension that the applications do not have, behind another type of images. -/
theorem compress_expandTree_compress_default :
    let books := ["13", "1", "12", "11"].foldl (fun sel v => sel.addValue 0 "z2" "a" v)
      (Selection.empty.addType 0 "z3")
    let sel := (((books.addValue 0 "z2" "b" "10").addValue 0 "z2" "b" "3").addValue 3 "zz" "d"
      "5").addType 2 "zz"
    let neg : Negations := (Negations.empty.add 0 "z2_d1").add 2 ""
    ∃ again, expandTree .default (compress .default sel neg) = .ok (again, neg) ∧
      compress .default again neg = compress .default sel neg := by
  intro books sel neg
  have hwithin : sel.Within .default := by decide
  have htidy : sel.Tidy := by decide
  have hneg : expand .default ["~cat0_z2_d1", "~cat2"] = .ok (.empty, neg) := rfl
  exact (compress_expandTree_compress Taxonomy.wellFormed_default hwithin htidy hneg).mpr (by decide)

end Shorthand

end Sift
