import Sift.Boundary.Almanac
import Sift.Proofs.Filter.Qualifiers
import Sift.Proofs.Filter.Reordered
import Sift.Proofs.Sql.Literals

/-!
# Literals of comparisons

A record on a plain field is compared with a literal of SQL, but for one kind of values: a value counts
as numeric with digits and white space of any script, and then it stands bare. Dates and stamps are
never such values, since they are read and written again (`isLiteral_iff_of_plain`).
-/

namespace Sift.Conditions

open Sql Predicate

variable {dialect : Dialect} {almanac : Almanac} {session : Session} {reference : Moment}
  {records : List FilterRecord}
  {conditions : Conditions} {record : FilterRecord}

theorem isLiteral_literal {value : String} : IsLiteral (literal value) ↔
    (isNumeric value = true → ∀ c ∈ value.toList, isBasic c = true) := by
  rw [literal]
  split
  · rename_i hnumeric
    rw [escape_of_bare (bare_of_isNumeric hnumeric), isLiteral_iff_of_isNumeric hnumeric,
      forall_prop_of_true hnumeric]
  · rename_i hother
    exact iff_of_true (isLiteral_quote value) fun hnumeric => absurd hnumeric hother

theorem isBasic_int (z : Int) : ∀ c ∈ (toString z).toList, isBasic c = true := by
  obtain ⟨sign, n, hsign, htext⟩ := toString_int_eq z
  intro c hc
  rw [htext, String.toList_ofList, List.mem_append] at hc
  exact hc.elim (isBasic_of_isSign hsign c) fun hc => isBasic_of_ascii (Text.ascii_of_mem_decimal hc)

theorem isLiteral_coerced {field : PlainField} {value s : String}
    (h : coerce almanac field value reference = .ok s) : IsLiteral (literal s) ↔
      field = .date ∨ field = .stamp ∨
        (isNumeric value = true → ∀ c ∈ value.toList, isBasic c = true) := by
  rw [isLiteral_literal]
  rcases coerce_eq_ok h with ⟨n, rfl, hfield⟩ | ⟨rfl, hdate, hstamp⟩
  · refine iff_of_true (fun _ => isBasic_int n) ?_
    refine hfield.imp_right fun hfield => hfield.imp_right fun hother hnumeric => ?_
    exact absurd (hother.symm.trans hnumeric) nofun
  · rw [or_iff_right hdate, or_iff_right hstamp]

/-- The comparison of a record on a plain field stands in its group, and it is with a literal of SQL
unless its value stands bare and has characters that are none of SQL. -/
theorem isLiteral_iff_of_plain {field : PlainField}
    (h : ofRecords almanac dialect session reference records = .ok conditions)
    (hrecord : record ∈ understood records) (hfield : fieldOf? record = some (.plain field))
    (hvalue : record.value ≠ "") :
    ∃ value, coerce almanac field record.value reference = .ok value ∧
      compare field.column record.operator (literal value) ∈
        (if field.isAlternative then conditions.orGroup else conditions.andGroup) ∧
      (IsLiteral (literal value) ↔ field = .date ∨ field = .stamp ∨
        (isNumeric record.value = true → ∀ c ∈ record.value.toList, isBasic c = true)) := by
  have hconvertible : Convertible almanac reference record :=
    exists_ofRecords_iff.mp ⟨_, h⟩ record hrecord
  obtain ⟨value, hcoerce⟩ := (exists_coerce_iff hfield hvalue).mpr hconvertible
  refine ⟨value, hcoerce, ?_, isLiteral_coerced hcoerce⟩
  obtain ⟨searches, -, -, hand, hor, -⟩ := parts_of_ofRecords h
  split
  · rename_i halternative
    rw [hor, List.mem_flatMap]
    refine ⟨record, hrecord, ?_⟩
    rw [alternatives_of_plain hfield hvalue hcoerce, if_pos halternative]
    exact List.mem_singleton_self _
  · rename_i hplain
    rw [hand]
    refine List.mem_append_left _ (List.mem_flatMap.mpr ⟨record, hrecord, ?_⟩)
    rw [demands_of_plain hfield hvalue hcoerce, if_neg hplain]
    exact List.mem_singleton_self _

/-- A stamp in Arabic digits, which is read, and a name that is no number. -/
theorem isLiteral_iff_of_plain_stamp :
    let record : FilterRecord := ⟨"stamp", ">", "٣"⟩
    let records : List FilterRecord := [record, ⟨"userid", "=", "o'neil"⟩]
    ∃ conditions, ofRecords (.standard 2000) .sqlite ⟨1, 0⟩ default records = .ok conditions ∧
      ∃ value, coerce (.standard 2000) .stamp record.value default = .ok value ∧
        compare "s.stamp" record.operator (literal value) ∈ conditions.andGroup ∧
        (IsLiteral (literal value) ↔ PlainField.stamp = .date ∨ PlainField.stamp = .stamp ∨
          (isNumeric record.value = true → ∀ c ∈ record.value.toList, isBasic c = true)) := by
  intro record records
  obtain ⟨conditions, h⟩ :=
    exists_of_isOk (x := ofRecords (.standard 2000) .sqlite ⟨1, 0⟩ default records) (by decide)
  have hrecord : record ∈ understood records := by decide
  exact ⟨conditions, h, isLiteral_iff_of_plain h hrecord (by decide) (by decide)⟩

/-- A count of comments in Arabic digits stands bare in both dialects and is no literal. -/
theorem not_isLiteral_bare :
    let records : List FilterRecord := [⟨"commentcount", ">", "٣"⟩]
    ∃ conditions conditions',
      ofRecords (.standard 2000) (.postgres "simple") ⟨1, 0⟩ default records = .ok conditions ∧
        ofRecords (.standard 2000) .sqlite ⟨1, 0⟩ default records = .ok conditions' ∧
        conditions.andGroup = [compare "s.commentcount" ">" "٣"] ∧
        conditions'.andGroup = [compare "s.commentcount" ">" "٣"] ∧ ¬ IsLiteral "٣" := by
  intro records
  refine ⟨_, _, rfl, rfl, rfl, rfl, fun hliteral => ?_⟩
  have hbasic := (isLiteral_iff_of_isNumeric (by decide)).mp hliteral
  exact absurd (hbasic '٣' (by decide)) (by decide)

end Sift.Conditions
