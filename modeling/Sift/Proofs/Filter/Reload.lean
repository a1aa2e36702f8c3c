import Sift.Filter.Record
import Sift.Proofs.Shorthand.Grammar
import Sift.Proofs.Text.Case

/-!
# Stored filters

The records of a search are stored as texts, and searching for these gives the records again. A
record that was read has a field in lower case, and no colon in its field or its operator, so it is
read back from its text (`parse_format_parse`). The records are all different, so none is dropped when
they are gathered again (`recordsOf_stored`).
-/

namespace Sift

open Text

/-! ## One record -/

namespace FilterRecord

/-- The record can be read back from its text: neither its field nor its operator has a colon, and
its field is in lower case. -/
structure Legible (record : FilterRecord) : Prop where
  field : ':' ∉ record.field.toList
  operator : ':' ∉ record.operator.toList
  lower : lower record.field = record.field

theorem legible_parse (entry : String) : (parse entry).Legible := by
  have hcolon : ∀ field ∈ split ':' entry, ':' ∉ (lower field).toList :=
    fun field hfield hmem => not_mem_of_mem_split hfield (colon_of_mem_lower hmem)
  have hequal : ':' ∉ "=".toList := by decide
  unfold parse
  split
  · rename_i field operator value more hsplit
    rw [hsplit] at hcolon
    have hoperator : operator ∈ split ':' entry := by simp [hsplit]
    exact ⟨hcolon field (by simp), not_mem_of_mem_split hoperator, lower_lower field⟩
  · rename_i field value hsplit
    rw [hsplit] at hcolon
    exact ⟨hcolon field (by simp), hequal, lower_lower field⟩
  · rename_i field hsplit
    rw [hsplit] at hcolon
    exact ⟨hcolon field (by simp), hequal, lower_lower field⟩
  · exact ⟨List.not_mem_nil, hequal, rfl⟩

theorem split_format {record : FilterRecord} (h : record.Legible) :
    split ':' record.format = record.field :: record.operator :: split ':' record.value := by
  have hlist : record.format.toList =
      record.field.toList ++ ':' :: (record.operator.toList ++ ':' :: record.value.toList) := by
    simp [format]
  rw [split, hlist, fields_append_sep ':' _ _ h.field, fields_append_sep ':' _ _ h.operator,
    List.map_cons, List.map_cons, String.ofList_toList, String.ofList_toList, split]

theorem parse_format {record : FilterRecord} (h : record.Legible) :
    parse record.format = record := by
  rw [parse, split_format h]
  cases hvalue : split ':' record.value with
  | nil => exact absurd (List.map_eq_nil_iff.mp hvalue) (fields_ne_nil ':' _)
  | cons value more =>
    show (⟨lower record.field, record.operator, join ':' (value :: more)⟩ : FilterRecord) = record
    rw [h.lower, ← hvalue, join_split]

theorem parse_format_parse (entry : String) : parse (parse entry).format = parse entry :=
  parse_format (legible_parse entry)

end FilterRecord

/-! ## The records of a search -/

namespace Search

variable {records : List FilterRecord} {record : FilterRecord}

/-- The records that a request searches for. One without any field searches for nothing. -/
def recordsOf (request : Json) : List FilterRecord :=
  match ofJson request with
  | some search => search.records
  | none => []

/-- Records as a request that is stored. -/
def stored (records : List FilterRecord) : Json :=
  .obj [("value", .texts (records.map FilterRecord.format))]

theorem nodup_foldl_addRecord (parsed : List FilterRecord) (h : records.Nodup) :
    (parsed.foldl addRecord records).Nodup := by
  induction parsed generalizing records with
  | nil => exact h
  | cons record parsed ih =>
    refine ih ?_
    rw [addRecord]
    split
    · exact h
    · rename_i hnew
      exact List.nodup_append.mpr ⟨h, by simp, fun a ha b hb heq =>
        hnew (List.mem_singleton.mp hb ▸ heq ▸ ha)⟩

theorem mem_foldl_addRecord {parsed : List FilterRecord}
    (h : record ∈ parsed.foldl addRecord records) : record ∈ records ∨ record ∈ parsed := by
  induction parsed generalizing records with
  | nil => exact .inl h
  | cons first parsed ih =>
    rw [List.mem_cons]
    rcases ih h with h | h
    · rw [addRecord] at h
      split at h
      · exact .inl h
      · rcases List.mem_append.mp h with h | h
        · exact .inl h
        · exact .inr (.inl (List.mem_singleton.mp h))
    · exact .inr (.inr h)

theorem foldl_addRecord {parsed : List FilterRecord} (h : (records ++ parsed).Nodup) :
    parsed.foldl addRecord records = records ++ parsed := by
  induction parsed generalizing records with
  | nil => exact (List.append_nil records).symm
  | cons first parsed ih =>
    have hnew : first ∉ records := fun hmem =>
      (List.nodup_append.mp h).2.2 first hmem first List.mem_cons_self rfl
    rw [List.append_cons] at h ⊢
    rw [List.foldl_cons, addRecord, if_neg hnew]
    exact ih h

theorem records_eq (search : Search) : search.records =
    ((search.entries.filter Json.isTrue).map fun entry => FilterRecord.parse entry.display).foldl
      addRecord [] :=
  List.foldl_map.symm

theorem nodup_recordsOf (request : Json) : (recordsOf request).Nodup := by
  rw [recordsOf]
  split
  · rw [records_eq]
    exact nodup_foldl_addRecord _ List.nodup_nil
  · exact List.nodup_nil

theorem legible_of_mem_recordsOf {request : Json} (h : record ∈ recordsOf request) :
    record.Legible := by
  rw [recordsOf] at h
  split at h
  · rw [records_eq] at h
    rcases mem_foldl_addRecord h with h | h
    · cases h
    · obtain ⟨entry, -, rfl⟩ := List.mem_map.mp h
      exact FilterRecord.legible_parse _
  · cases h

/-- Records that can be read back, all different, are those of the request that stores them. -/
theorem recordsOf_stored (hnodup : records.Nodup) (hlegible : ∀ record ∈ records, record.Legible) :
    recordsOf (stored records) = records := by
  have hentries : recordsOf (stored records) =
      ((((records.map FilterRecord.format).map Json.str).filter Json.isTrue).map
        fun entry => FilterRecord.parse entry.display).foldl addRecord [] := by
    show Search.records _ = _
    rw [records_eq]
    exact congrArg (fun entries => List.foldl addRecord [] (List.map _ (List.filter _ entries)))
      (List.append_nil _)
  have htrue : ((records.map FilterRecord.format).map Json.str).filter Json.isTrue =
      (records.map FilterRecord.format).map Json.str := by
    refine List.filter_eq_self.mpr fun entry hentry => ?_
    simp only [List.map_map, List.mem_map, Function.comp_apply] at hentry
    obtain ⟨record, -, rfl⟩ := hentry
    have hne : record.format ≠ "" := fun h => by
      have hnil := congrArg String.toList h
      simp [FilterRecord.format] at hnil
    exact bne_iff_ne.mpr hne
  have hread : records.map (fun record => FilterRecord.parse record.format) = records :=
    (List.map_congr_left fun record hrecord =>
      FilterRecord.parse_format (hlegible record hrecord)).trans (List.map_id records)
  rw [hentries, htrue, List.map_map, List.map_map]
  show (records.map fun record => FilterRecord.parse record.format).foldl addRecord [] = records
  rw [hread, foldl_addRecord (by rwa [List.nil_append]), List.nil_append]

/-- The records of a search are stored as texts, and searching for these gives the same records in
the same order; and an entry that was read is read again from its text. -/
theorem reload_unchanged (request : Json) (entry : String) :
    recordsOf (stored (recordsOf request)) = recordsOf request ∧
      FilterRecord.parse (FilterRecord.parse entry).format = FilterRecord.parse entry :=
  ⟨recordsOf_stored (nodup_recordsOf request) fun _ => legible_of_mem_recordsOf,
    FilterRecord.parse_format_parse entry⟩

end Search

end Sift
