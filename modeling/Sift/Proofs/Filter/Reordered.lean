import Sift.Boundary.Almanac
import Sift.Proofs.Filter.Admission
import Sift.Proofs.Predicate.Reading

/-!
# Reordered records

Records that are all understood may be read in any order (`ofRecords_perm`): what is asked of a row has
the same truth value whatever its leaves are, and the same tables are joined.

The searches of a text field stand where its first record does, with their values in the order of the
records, so neither group of reordered records need be a reordered group. But a group is as true as its
members are, whichever of them comes first and however often each is there (`SameTruths`).
-/

namespace Sift

/-! ## Groups with the same truth values -/

namespace Predicate

theorem conjunction_congr {truths truths' : List (Option Bool)}
    (h : ∀ b, b ∈ truths ↔ b ∈ truths') : conjunction truths = conjunction truths' := by
  simp only [conjunction, h]

theorem disjunction_congr {truths truths' : List (Option Bool)}
    (h : ∀ b, b ∈ truths ↔ b ∈ truths') : disjunction truths = disjunction truths' := by
  simp only [disjunction, h]

variable {leaf : Predicate → Option Bool} {items items' more more' : List Predicate}

/-- The members that are not empty have the same truth values. -/
def SameTruths (leaf : Predicate → Option Bool) (items items' : List Predicate) : Prop :=
  ∀ b, b ∈ values leaf items ↔ b ∈ values leaf items'

theorem SameTruths.of_perm (h : items.Perm items') : SameTruths leaf items items' := by
  intro b
  simp only [mem_values, h.mem_iff]

theorem SameTruths.append (h : SameTruths leaf items items') (hmore : SameTruths leaf more more') :
    SameTruths leaf (items ++ more) (items' ++ more') := by
  have hsplit : ∀ {xs ys : List Predicate} {b : Option Bool},
      b ∈ values leaf (xs ++ ys) ↔ b ∈ values leaf xs ∨ b ∈ values leaf ys := by
    intro xs ys b
    simp only [mem_values, List.mem_append, or_and_right, exists_or]
  intro b
  rw [hsplit, hsplit, h b, hmore b]

theorem areEmpty_iff_values : areEmpty items = true ↔ ∀ b, b ∉ values leaf items := by
  rw [areEmpty_iff]
  constructor
  · intro h b hb
    obtain ⟨p, hp, hempty, -⟩ := mem_values.mp hb
    exact Bool.false_ne_true (hempty.symm.trans (h p hp))
  · intro h p hp
    refine Bool.of_not_eq_false fun hempty => h (p.value leaf) ?_
    exact mem_values.mpr ⟨p, hp, hempty, rfl⟩

theorem SameTruths.areEmpty_eq (h : SameTruths leaf items items') :
    areEmpty items = areEmpty items' := by
  rw [Bool.eq_iff_iff, @areEmpty_iff_values leaf, @areEmpty_iff_values leaf]
  exact forall_congr' fun b => not_congr (h b)

theorem SameTruths.value_all (h : SameTruths leaf items items') :
    (all items).value leaf = (all items').value leaf := by
  rw [value, value, conjunction_congr h]

theorem SameTruths.value_any (h : SameTruths leaf items items') :
    (any items).value leaf = (any items').value leaf := by
  simp only [value, h.areEmpty_eq, disjunction_congr h]

theorem SameTruths.singleton {p p' : Predicate} (hempty : p.isEmpty = p'.isEmpty)
    (hvalue : p.value leaf = p'.value leaf) : SameTruths leaf [p] [p'] := by
  intro b
  simp only [mem_values, List.mem_singleton, exists_eq_left, hempty, hvalue]

end Predicate

open Predicate

namespace Conditions

variable {dialect : Dialect} {almanac : Almanac} {session : Session} {reference : Moment}
  {leaf : Predicate → Option Bool} {records records' : List FilterRecord}

/-! ## Searches -/

theorem value_searchPredicate_perm {field : TextField} {values values' : List String}
    (h : values.Perm values') : (searchPredicate dialect (field, values)).value leaf =
      (searchPredicate dialect (field, values')).value leaf := by
  have hfragments : SameTruths leaf (fragments dialect field values)
      (fragments dialect field values') := .of_perm (h.map _)
  rw [searchPredicate_eq, searchPredicate_eq]
  split
  · exact hfragments.value_any
  · exact hfragments.value_all

theorem mem_values_searches {searches : List (TextField × List String)}
    (hnodup : (searches.map Prod.fst).Nodup) {b : Option Bool} :
    b ∈ values leaf (searches.map (searchPredicate dialect)) ↔
      ∃ field, (searches.lookup field).getD [] ≠ [] ∧
        (searchPredicate dialect (field, (searches.lookup field).getD [])).value leaf = b := by
  have hlookup : ∀ {field values},
      searches.lookup field = some values ↔ (field, values) ∈ searches :=
    OrderedMap.get?_eq_some_iff (m := ⟨searches, hnodup⟩)
  have hsome : ∀ {field values}, values ≠ [] ↔
      (searchPredicate dialect (field, values)).isEmpty = false := fun {field values} => by
    rw [← Bool.not_eq_true, isEmpty_searchPredicate]
  rw [mem_values]
  constructor
  · rintro ⟨p, hp, hempty, hvalue⟩
    obtain ⟨⟨field, values⟩, hmem, rfl⟩ := List.mem_map.mp hp
    refine ⟨field, ?_⟩
    rw [hlookup.mpr hmem]
    exact ⟨hsome.mpr hempty, hvalue⟩
  · rintro ⟨field, hne, hvalue⟩
    cases hvalues : searches.lookup field with
    | none =>
      rw [hvalues] at hne
      exact absurd rfl hne
    | some values =>
      rw [hvalues] at hne hvalue
      exact ⟨_, List.mem_map_of_mem (hlookup.mp hvalues), hsome.mp hne, hvalue⟩

/-- Searches of the same values in each text field, in whatever order, are equally true. -/
theorem sameTruths_searches {searches searches' : List (TextField × List String)}
    (hnodup : (searches.map Prod.fst).Nodup) (hnodup' : (searches'.map Prod.fst).Nodup)
    (h : ∀ field, ((searches.lookup field).getD []).Perm ((searches'.lookup field).getD [])) :
    SameTruths leaf (searches.map (searchPredicate dialect))
      (searches'.map (searchPredicate dialect)) := by
  intro b
  rw [mem_values_searches hnodup, mem_values_searches hnodup']
  refine exists_congr fun field => and_congr ?_ ?_
  · exact not_congr ⟨fun hnil => (hnil ▸ h field).nil_eq.symm, fun hnil => (hnil ▸ h field).eq_nil⟩
  · rw [value_searchPredicate_perm (h field)]

/-! ## Records -/

/-- Everything that conditions ask of a row: all of the one group, and one of the other. -/
def restriction (conditions : Conditions) : Predicate :=
  .all [.all conditions.andGroup, .any conditions.orGroup]

theorem value_restriction_congr {conditions conditions' : Conditions}
    (hand : SameTruths leaf conditions.andGroup conditions'.andGroup)
    (hor : SameTruths leaf conditions.orGroup conditions'.orGroup) :
    conditions.restriction.value leaf = conditions'.restriction.value leaf := by
  have hparts : SameTruths leaf ([.all conditions.andGroup] ++ [.any conditions.orGroup])
      ([.all conditions'.andGroup] ++ [.any conditions'.orGroup]) :=
    .append (.singleton hand.areEmpty_eq hand.value_all) (.singleton hor.areEmpty_eq hor.value_any)
  exact hparts.value_all

theorem parts_of_ofRecords {conditions : Conditions}
    (h : ofRecords almanac dialect session reference records = .ok conditions) :
    ∃ searches : List (TextField × List String), (searches.map Prod.fst).Nodup ∧
      (∀ field, (searches.lookup field).getD [] =
        (understood records).flatMap (valuesFor field)) ∧
      conditions.andGroup = (understood records).flatMap (demands almanac session reference) ++
        searches.map (searchPredicate dialect) ∧
      conditions.orGroup = (understood records).flatMap (alternatives almanac reference) ∧
      conditions.extraJoins = (understood records).flatMap joinsOf := by
  obtain ⟨⟨state, abortedAt⟩, hrun, h⟩ := bind_eq_ok h
  obtain rfl := Except.ok.inj h
  have hstart : (State.start.searches.map Prod.fst).Nodup := .nil
  refine ⟨state.searches, nodup_searches_of_collect hstart hrun, fun _ => collect_values hrun, ?_,
    collect_orGroup hrun, collect_joins hrun⟩
  exact congrArg (· ++ state.searches.map (searchPredicate dialect)) (collect_andGroup hrun)

theorem understood_eq_self (h : ∀ record ∈ records, (fieldOf? record).isSome = true) :
    understood records = records :=
  List.takeWhile_eq_self_iff.mpr h

/-- Records that are all understood have conditions in any other order as well. These ask the same of a
row, whatever its comparisons and fragments are, and join the same tables. -/
theorem ofRecords_perm {conditions : Conditions}
    (hknown : ∀ record ∈ records, (fieldOf? record).isSome = true) (hperm : records.Perm records')
    (h : ofRecords almanac dialect session reference records = .ok conditions) :
    ∃ conditions', ofRecords almanac dialect session reference records' = .ok conditions' ∧
      (∀ leaf, conditions.restriction.value leaf = conditions'.restriction.value leaf) ∧
      conditions.extraJoins.Perm conditions'.extraJoins := by
  have hall : understood records = records := understood_eq_self hknown
  have hall' : understood records' = records' :=
    understood_eq_self fun record hrecord => hknown record (hperm.mem_iff.mpr hrecord)
  have hconvertible : ∀ record ∈ understood records', Convertible almanac reference record := by
    intro record hrecord
    rw [hall', ← hperm.mem_iff, ← hall] at hrecord
    exact exists_ofRecords_iff.mp ⟨_, h⟩ record hrecord
  obtain ⟨conditions', h'⟩ : ∃ conditions',
      ofRecords almanac dialect session reference records' = .ok conditions' :=
    exists_ofRecords_iff.mpr hconvertible
  obtain ⟨searches, hnodup, hvalues, hand, hor, hjoins⟩ := parts_of_ofRecords h
  obtain ⟨searches', hnodup', hvalues', hand', hor', hjoins'⟩ := parts_of_ofRecords h'
  rw [hall] at hvalues hand hor hjoins
  rw [hall'] at hvalues' hand' hor' hjoins'
  refine ⟨conditions', h', fun leaf => ?_, ?_⟩
  · have hsearches : SameTruths leaf (searches.map (searchPredicate dialect))
        (searches'.map (searchPredicate dialect)) := by
      refine sameTruths_searches hnodup hnodup' fun field => ?_
      rw [hvalues, hvalues']
      exact hperm.flatMap_right _
    refine value_restriction_congr ?_ ?_
    · rw [hand, hand']
      exact .append (.of_perm (hperm.flatMap_right _)) hsearches
    · rw [hor, hor']
      exact .of_perm (hperm.flatMap_right _)
  · rw [hjoins, hjoins']
    exact hperm.flatMap_right _

/-- Searches of two text fields whose first records change places: the groups are other groups then, and
ask for the same. -/
theorem ofRecords_perm_searches :
    let records : List FilterRecord :=
      [⟨"tag", "=", "linux"⟩, ⟨"mypostedspots", "=", "1"⟩, ⟨"filesize", ">", "4m"⟩,
        ⟨"titel", "=", "iso"⟩, ⟨"Tag", "=", "bsd"⟩, ⟨"downloaded", "=", "1"⟩]
    ∃ conditions conditions',
      ofRecords (.standard 2000) (.postgres "simple") ⟨42, 0⟩ default records = .ok conditions ∧
        ofRecords (.standard 2000) (.postgres "simple") ⟨42, 0⟩ default records.reverse =
          .ok conditions' ∧
        conditions.andGroup.map render ≠ conditions'.andGroup.map render ∧
        (∀ leaf, conditions.restriction.value leaf = conditions'.restriction.value leaf) ∧
        conditions.extraJoins.Perm conditions'.extraJoins := by
  intro records
  have hread : ∀ conditions conditions',
      ofRecords (.standard 2000) (.postgres "simple") ⟨42, 0⟩ default records = .ok conditions →
      ofRecords (.standard 2000) (.postgres "simple") ⟨42, 0⟩ default records.reverse = .ok conditions' →
      conditions.andGroup.map render ≠ conditions'.andGroup.map render := by
    rintro _ _ ⟨⟩ ⟨⟩
    decide
  obtain ⟨conditions, h⟩ :
      ∃ conditions, ofRecords (.standard 2000) (.postgres "simple") ⟨42, 0⟩ default records =
        .ok conditions :=
    ⟨_, rfl⟩
  have hknown : ∀ record ∈ records, (fieldOf? record).isSome = true := by decide
  obtain ⟨conditions', h', hvalue, hjoins⟩ :=
    ofRecords_perm hknown (List.reverse_perm records).symm h
  exact ⟨conditions, conditions', h, h', hread conditions conditions' h h', hvalue, hjoins⟩

end Conditions

end Sift
