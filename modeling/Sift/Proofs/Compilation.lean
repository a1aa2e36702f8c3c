import Sift.Boundary.Almanac
import Sift.Proofs.Filter.Understood
import Sift.Proofs.Listing.Statement
import Sift.Proofs.Predicate.Matching
import Sift.Proofs.Shorthand.Legible

/-!
# Searches that are compiled

Compiling a search fails in three ways: a value of an understood record cannot be converted, a head in
the tree has more digits than are read, or a category has no code; and the last never happens, since
whatever a tree selects can be written. So a search is compiled exactly when its understood values can
be converted and its tree is legible (`compiles_iff`). Values and trees that are neither are easily
given (`not_compiled`).
-/

namespace Sift.Compiler

open Conditions Shorthand

variable {compiler : Compiler} {session : Session} {reference : Moment}

theorem exists_categories_iff (htax : compiler.taxonomy.Keyed) {search : Search} :
    (∃ result, compiler.categories search = .ok result) ↔
      ∀ tree, compiler.treeOf search = some tree → Legible (Text.split ',' tree) := by
  rw [categories]
  cases compiler.treeOf search with
  | none =>
    refine iff_of_true ⟨_, rfl⟩ fun tree htree => ?_
    cases htree
  | some tree =>
    show (∃ result, (expandTree compiler.taxonomy tree).mapError _ = .ok result) ↔ _
    rw [exists_mapError_iff, expandTree, exists_expand_iff htax]
    constructor
    · rintro h tree' heq
      obtain rfl := Option.some.inj heq
      exact h
    · exact fun h => h tree rfl

theorem readable_of_compile (htax : compiler.taxonomy.Keyed) {search : Search}
    {sort : Sorting.Request} {descriptor : Descriptor}
    (h : compiler.compile (some search) sort session reference = .ok descriptor) :
    (∀ record ∈ understood search.records, Convertible compiler.almanac reference record) ∧
      ∀ tree, compiler.treeOf search = some tree → Legible (Text.split ',' tree) := by
  obtain ⟨conditions, selection, negations, -, hconditions, hcategories, -, -⟩ :=
    parts_of_compile h
  exact ⟨exists_ofRecords_iff.mp ⟨conditions, hconditions⟩,
    (exists_categories_iff htax).mp ⟨(selection, negations), hcategories⟩⟩

/-- A search is compiled exactly when the values of its understood records can be converted and every
head in its tree that is read has few enough digits. -/
theorem compiles_iff (htax : compiler.taxonomy.Keyed) (search : Option Search)
    (sort : Sorting.Request) (session : Session) (reference : Moment) :
    (∃ descriptor, compiler.compile search sort session reference = .ok descriptor) ↔
      ∀ s, search = some s →
        (∀ record ∈ understood s.records, Convertible compiler.almanac reference record) ∧
          ∀ tree, compiler.treeOf s = some tree → Legible (Text.split ',' tree) := by
  cases search with
  | none => exact iff_of_true ⟨_, rfl⟩ nofun
  | some s =>
    constructor
    · rintro ⟨descriptor, h⟩ s' heq
      obtain rfl := Option.some.inj heq
      exact readable_of_compile htax h
    · intro h
      obtain ⟨hrecords, hlegible⟩ := h s rfl
      have hvalues : ∃ conditions,
          ofRecords compiler.almanac compiler.dialect session reference s.records =
            .ok conditions := exists_ofRecords_iff.mpr hrecords
      obtain ⟨conditions, hconditions⟩ := hvalues
      obtain ⟨⟨selection, negations⟩, hresult⟩ := (exists_categories_iff htax).mpr hlegible
      have hcodes := Category.ofSelection_eq (writable_of_categories hresult)
      unfold compile
      simp only [hconditions, hresult]
      show ∃ descriptor, ((Category.ofSelection selection).mapError Fault.code >>= _) =
        .ok descriptor
      rw [hcodes]
      exact ⟨_, rfl⟩

/-- A search of the default categories with a stamp and a size. -/
theorem compiles_iff_default :
    let compiler : Compiler := ⟨.default, .postgres "simple", some "cat0", .standard 2000⟩
    let search : Search :=
      ⟨some "cat0_z1,~cat1,x", [.str "stamp:>:12", .str "filesize:<:1.5g"], none, false⟩
    Taxonomy.default.Keyed ∧
      ((∃ descriptor, compiler.compile (some search) .none ⟨1, 0⟩ ⟨0, 0, 0⟩ = .ok descriptor) ↔
        ∀ s, some search = some s →
          (∀ record ∈ understood s.records, Convertible (.standard 2000) ⟨0, 0, 0⟩ record) ∧
            ∀ tree, compiler.treeOf s = some tree → Legible (Text.split ',' tree)) := by
  intro compiler search
  have htax : compiler.taxonomy.Keyed := Taxonomy.wellFormed_default.keyed
  exact ⟨htax, compiles_iff htax (some search) .none ⟨1, 0⟩ ⟨0, 0, 0⟩⟩

/-! ## Searches that are not compiled -/

theorem not_legible_of_tree (htax : compiler.taxonomy.Keyed) {tree : String}
    (hcomma : ',' ∉ tree.toList)
    (hlong : Overlong "cat" isName tree ∨ Overlong "sub" isMarkerPlace tree) {sort : Sorting.Request}
    {descriptor : Descriptor} :
    compiler.compile (some (.ofTree tree)) sort session reference ≠ .ok descriptor := by
  intro h
  have hne : tree ≠ "" := by
    rintro rfl
    rcases hlong with ⟨digits, more, hsome, -⟩ | ⟨digits, more, hsome, -⟩
    · cases head?_of_headAndFields? hsome
    · cases head?_of_headAndFields? hsome
  have htree : compiler.treeOf (.ofTree tree) = some tree := by
    simp [treeOf, Search.ofTree, hne]
  have hlegible := (readable_of_compile htax h).2 tree htree
  rw [Text.split_of_not_mem hcomma] at hlegible
  rcases hlong with hlong | hlong
  · exact hlegible.names tree (List.mem_singleton_self tree) hlong
  · exact List.not_mem_nil (hlegible.markers [] tree [] rfl hlong)

/-- A head with more digits than are read, in a name and in a marker, and a size beyond all binary
numbers. -/
theorem not_compiled :
    let digits := List.replicate (Integer.maxDigits + 1) '1'
    ∀ dialect almanac, let compiler : Compiler := ⟨.default, dialect, none, almanac⟩
      ∀ search ∈ [Search.ofTree ("cat" ++ String.ofList digits),
        .ofTree ("sub" ++ String.ofList digits ++ "_z1"),
        ⟨none, [.str "filesize:>:1e999g"], none, false⟩], ∀ descriptor,
      compiler.compile (some search) .none ⟨1, 0⟩ ⟨0, 0, 0⟩ ≠ .ok descriptor := by
  intro digits dialect almanac compiler search hsearch descriptor
  have htax : compiler.taxonomy.Keyed := Taxonomy.wellFormed_default.keyed
  have hdigits : Text.isDigits digits = true := by
    refine Text.isDigits_iff.mpr ⟨List.cons_ne_nil _ _, fun c hc => ?_⟩
    rw [List.eq_of_mem_replicate hc]
    decide
  have hlong : Integer.maxDigits < digits.length := by
    rw [List.length_replicate]
    exact Nat.lt_succ_self _
  have hcomma : ',' ∉ digits := Text.not_mem_of_isDigits hdigits (by decide)
  simp only [List.mem_cons, List.not_mem_nil, or_false] at hsearch
  rcases hsearch with rfl | rfl | rfl
  · refine not_legible_of_tree htax ?_ (.inl ?_)
    · simpa using hcomma
    · refine overlong_of_headed hdigits hlong (by decide) [] nofun rfl ?_
      simp [Text.joined]
  · refine not_legible_of_tree htax ?_ (.inr ?_)
    · simpa using hcomma
    · refine overlong_of_headed hdigits hlong (by decide) ["z1".toList] (plainFields_type (by decide))
        (by decide) ?_
      simp [Text.joined]
  · intro h
    have hrecord : ⟨"filesize", ">", "1e999g"⟩ ∈
        understood (Search.records ⟨none, [.str "filesize:>:1e999g"], none, false⟩) := by decide
    have hfield : fieldOf? ⟨"filesize", ">", "1e999g"⟩ = some (.plain .fileSize) := by decide
    have hnumeric : isNumeric "1e999g" = false := by decide
    have hinfinite : sizeNumber "1e999g" = .infinite false := by decide
    exact not_convertible_of_infinite hfield hnumeric hinfinite
      ((readable_of_compile htax h).1 _ hrecord)

end Sift.Compiler
