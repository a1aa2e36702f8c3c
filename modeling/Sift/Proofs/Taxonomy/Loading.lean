import Sift.Proofs.OrderedMap
import Sift.Proofs.Outcome
import Sift.Taxonomy.Load

/-!
# What becomes of taxonomy data

Loading checks four things: the key of a head is a number, a head is a table with types, the key of a
type is `z` and a character, and a dimension is one of the four letters. Data that fails a check is
refused (`Fault.isRefusal`). Nothing checks the shape of the rest, and data of another shape breaks the
loading where it is reached: a table that is none, a leaf that is not a pair, types that have no members.
Data is taken from front to back, so it is loaded when all its heads are as they should be
(`loads_load_iff`), and it breaks the loading when a head does and all before it are as they should be
(`breaks_load_iff`).
-/

namespace Sift.Taxonomy

variable {α β : Type}

/-- The fault is that of a check. -/
def Fault.isRefusal : Fault → Bool
  | .invalidHead _ | .typesMissing _ | .invalidType _ _ | .invalidDimension _ _ => true
  | _ => false

/-- There is an answer. -/
def Loads (x : Except Fault α) : Prop := ∃ a, x = .ok a

/-- There is a fault that no check gives. -/
def Breaks (x : Except Fault α) : Prop := ∃ fault, x = .error fault ∧ fault.isRefusal = false

/-- There is no fault that a check gives. -/
def Unchecked (x : Except Fault α) : Prop := ∀ fault, x = .error fault → fault.isRefusal = false

/-- An element has the second property, and all before it have the first one. -/
def UpTo (p q : α → Prop) (xs : List α) : Prop :=
  ∃ before x after, xs = before ++ x :: after ∧ (∀ y ∈ before, p y) ∧ q x

/-! ## Computations -/

section

variable {x : Except Fault α} {f : α → Except Fault β} {xs : List α}

theorem loads_ok {a : α} : Loads (.ok a : Except Fault α) := ⟨a, rfl⟩

theorem not_loads_error {fault : Fault} : ¬Loads (.error fault : Except Fault α) := nofun

theorem loads_bind_iff : Loads (x >>= f) ↔ ∃ a, x = .ok a ∧ Loads (f a) := by
  constructor
  · rintro ⟨b, h⟩
    obtain ⟨a, ha, h⟩ := bind_eq_ok h
    exact ⟨a, ha, b, h⟩
  · rintro ⟨a, rfl, h⟩
    exact h

theorem not_breaks_ok {a : α} : ¬Breaks (.ok a : Except Fault α) := nofun

theorem breaks_error_iff {fault : Fault} :
    Breaks (.error fault : Except Fault α) ↔ fault.isRefusal = false := by
  constructor
  · rintro ⟨_, ⟨⟩, h⟩
    exact h
  · exact fun h => ⟨fault, rfl, h⟩

theorem not_breaks_refusal {fault : Fault} (h : fault.isRefusal = true) :
    ¬Breaks (.error fault : Except Fault α) := by
  rw [breaks_error_iff, h]
  exact Bool.noConfusion

theorem breaks_bind_iff : Breaks (x >>= f) ↔ Breaks x ∨ ∃ a, x = .ok a ∧ Breaks (f a) := by
  cases x with
  | error fault =>
    have hsame : Breaks (.error fault >>= f) ↔ Breaks (.error fault : Except Fault α) :=
      breaks_error_iff.trans breaks_error_iff.symm
    rw [hsame, or_iff_left]
    exact nofun
  | ok a =>
    refine ⟨fun h => .inr ⟨a, rfl, h⟩, ?_⟩
    rintro (h | ⟨_, ⟨⟩, h⟩)
    · exact absurd h not_breaks_ok
    · exact h

theorem not_upTo_nil {p q : α → Prop} : ¬UpTo p q [] := by
  rintro ⟨before, y, after, heq, -⟩
  simp at heq

theorem upTo_cons {p q : α → Prop} {y : α} :
    UpTo p q (y :: xs) ↔ q y ∨ p y ∧ UpTo p q xs := by
  constructor
  · rintro ⟨before, z, after, heq, hbefore, hz⟩
    cases before with
    | nil => exact .inl ((List.cons.inj heq).1 ▸ hz)
    | cons w before =>
      obtain ⟨rfl, rfl⟩ := List.cons.inj heq
      obtain ⟨hy, hbefore⟩ := List.forall_mem_cons.mp hbefore
      exact .inr ⟨hy, before, z, after, rfl, hbefore, hz⟩
  · rintro (hy | ⟨hy, before, z, after, rfl, hbefore, hz⟩)
    · exact ⟨[], y, xs, rfl, nofun, hy⟩
    · exact ⟨y :: before, z, after, rfl, List.forall_mem_cons.mpr ⟨hy, hbefore⟩, hz⟩

theorem breaks_bind_iff_of_loads (hf : ∀ a, Loads (f a)) : Breaks (x >>= f) ↔ Breaks x := by
  rw [breaks_bind_iff, or_iff_left]
  rintro ⟨a, -, h⟩
  obtain ⟨b, hb⟩ := hf a
  rw [hb] at h
  exact not_breaks_ok h

theorem loads_mapM_iff {p : α → Prop} (hp : ∀ y, Loads (f y) ↔ p y) :
    Loads (xs.mapM f) ↔ ∀ y ∈ xs, p y :=
  exists_mapM_iff.trans (forall₂_congr fun y _ => hp y)

theorem breaks_mapM_iff {p q : α → Prop} (hp : ∀ y, Loads (f y) ↔ p y)
    (hq : ∀ y, Breaks (f y) ↔ q y) : Breaks (xs.mapM f) ↔ UpTo p q xs := by
  induction xs with
  | nil => exact iff_of_false not_breaks_ok not_upTo_nil
  | cons y xs ih =>
    rw [List.mapM_cons, breaks_bind_iff, upTo_cons, ← ih, ← hp, ← hq]
    refine or_congr_right ?_
    rw [Loads, ← exists_and_right]
    exact exists_congr fun z => and_congr_right fun _ =>
      breaks_bind_iff_of_loads fun zs => ⟨z :: zs, rfl⟩

theorem Unchecked.breaks_iff (h : Unchecked x) : Breaks x ↔ ¬Loads x := by
  cases x with
  | error fault => exact iff_of_true ⟨fault, rfl, h fault rfl⟩ not_loads_error
  | ok a => exact iff_of_false not_breaks_ok (not_not_intro loads_ok)

theorem unchecked_ok {a : α} : Unchecked (.ok a : Except Fault α) := nofun

theorem Unchecked.bind (hx : Unchecked x) (hf : ∀ a, Unchecked (f a)) : Unchecked (x >>= f) := by
  intro fault h
  rcases bind_eq_error h with h | ⟨a, -, h⟩
  · exact hx fault h
  · exact hf a fault h

theorem unchecked_mapM (h : ∀ y, Unchecked (f y)) : Unchecked (xs.mapM f) := by
  intro fault hfault
  obtain ⟨y, -, hy⟩ := exists_mem_of_mapM_eq_error hfault
  exact h y fault hy

end

/-! ## Shapes of data -/

namespace Source

/-- A table with its entries. -/
inductive Holds : Source → List (Json × Source) → Prop
  | table (entries : List (Json × Source)) : Holds (.table entries) entries
  | obj (fields : List (String × Json)) :
    Holds (.value (.obj fields)) (fields.map fun f => (.str f.1, .value f.2))

def IsTable (source : Source) : Prop := ∃ entries, source.Holds entries

/-- Neither a list nor a table. -/
def isScalar : Source → Bool
  | list _ | table _ | value (.arr _) | value (.obj _) => false
  | value _ => true

/-- A pair of a label and something with members, none of them a list or a table. -/
def IsLeaf (source : Source) : Prop :=
  ∃ label types members, source.parts? = some [label, types] ∧ types.parts? = some members ∧
    ∀ m ∈ members, m.isScalar = true

/-- What has a name, if something has it, is a table with such entries. -/
def Given (name : String) (data : List (Json × Source)) (p : List (Json × Source) → Prop) : Prop :=
  ∀ source, find? name data = some source → ∃ entries, source.Holds entries ∧ p entries

/-- A table of leaves by value. -/
def IsDimension (source : Source) : Prop :=
  ∃ data, source.Holds data ∧ Given "values" data fun values => ∀ e ∈ values, e.2.IsLeaf

end Source

/-- A key that is the letter of a dimension. -/
def IsLetter (key : Json) : Prop := ∃ d ∈ dimensions, key.text? = some d

/-- A table of types whose keys pass the check. -/
def IsTypes (source : Source) : Prop :=
  ∃ types, source.Holds types ∧ ∀ e ∈ types, isTypeKey e.1.display = true

/-- The data of a head as it should be: types, and dimensions if any are given. -/
def IsHeadData (data : List (Json × Source)) : Prop :=
  ∃ types, Source.find? "types" data = some types ∧ IsTypes types ∧
    Source.Given "dimensions" data fun dims => ∀ e ∈ dims, IsLetter e.1 ∧ e.2.IsDimension

/-- The data of a head that passes the checks up to where its types or its dimensions have another
shape. -/
def BreaksHeadData (data : List (Json × Source)) : Prop :=
  ∃ types, Source.find? "types" data = some types ∧
    (¬types.IsTable ∨ IsTypes types ∧ ∃ dims, Source.find? "dimensions" data = some dims ∧
      (¬dims.IsTable ∨ ∃ entries, dims.Holds entries ∧
        UpTo (fun e => IsLetter e.1 ∧ e.2.IsDimension)
          (fun e => IsLetter e.1 ∧ ¬e.2.IsDimension) entries))

/-- A number with the data of a head. -/
def IsHead (key : Json) (source : Source) : Prop :=
  Loads (headNumber key) ∧ ∃ data, source.Holds data ∧ IsHeadData data

/-- A head that is not finite or has data of another shape. -/
def BreaksHead (key : Json) (source : Source) : Prop :=
  (∃ negative, key = .float (.infinite negative)) ∨
    Loads (headNumber key) ∧ ∃ data, source.Holds data ∧ BreaksHeadData data

/-- Data that breaks the loading: it is no table, or a head of it breaks and none before it has a
fault. -/
def Source.Misshapen (source : Source) : Prop :=
  ¬source.IsTable ∨ ∃ entries, source.Holds entries ∧
    UpTo (fun e => IsHead e.1 e.2) (fun e => BreaksHead e.1 e.2) entries

/-! ## Tables -/

section

variable {source : Source} {operation name : String} {data entries : List (Json × Source)}

theorem entries_eq_ok_iff : source.entries operation = .ok entries ↔ source.Holds entries := by
  constructor
  · intro h
    unfold Source.entries at h
    split at h
    · obtain rfl := Except.ok.inj h
      exact .table _
    · obtain rfl := Except.ok.inj h
      exact .obj _
    · cases h
  · rintro (_ | _) <;> rfl

theorem loads_entries_iff : Loads (source.entries operation) ↔ source.IsTable :=
  exists_congr fun _ => entries_eq_ok_iff

theorem unchecked_entries : Unchecked (source.entries operation) := by
  intro fault h
  unfold Source.entries at h
  split at h
  · cases h
  · cases h
  · obtain rfl := Except.error.inj h
    rfl

theorem breaks_entries_iff : Breaks (source.entries operation) ↔ ¬source.IsTable := by
  rw [unchecked_entries.breaks_iff, loads_entries_iff]

/-- The entries of what has a name, if something has it. -/
def given (name : String) (data : List (Json × Source)) : Except Fault (List (Json × Source)) :=
  match Source.find? name data with
  | some source => source.entries "items"
  | none => .ok []

theorem unchecked_given : Unchecked (given name data) := by
  rw [given]
  cases Source.find? name data with
  | none => exact unchecked_ok
  | some source => exact unchecked_entries

theorem exists_given_iff {p : List (Json × Source) → Prop} (hnil : p []) :
    (∃ entries, given name data = .ok entries ∧ p entries) ↔ Source.Given name data p := by
  rw [given, Source.Given]
  cases Source.find? name data with
  | none => exact iff_of_true ⟨[], rfl, hnil⟩ nofun
  | some source => simp [entries_eq_ok_iff]

theorem exists_given_iff_of_not {p : List (Json × Source) → Prop} (hnil : ¬p []) :
    (∃ entries, given name data = .ok entries ∧ p entries) ↔
      ∃ source, Source.find? name data = some source ∧ ∃ entries, source.Holds entries ∧ p entries := by
  rw [given]
  cases Source.find? name data with
  | none => simpa using hnil
  | some source => simp [entries_eq_ok_iff]

theorem breaks_given_iff :
    Breaks (given name data) ↔ ∃ source, Source.find? name data = some source ∧ ¬source.IsTable := by
  rw [given]
  cases Source.find? name data with
  | none => exact iff_of_false not_breaks_ok nofun
  | some source => simp [breaks_entries_iff]

end

/-! ## Leaves -/

section

variable {source : Source}

theorem loads_scalar_iff : Loads source.scalar ↔ source.isScalar = true := by
  unfold Source.scalar Source.isScalar
  split
  all_goals simp [loads_ok, not_loads_error]

theorem unchecked_scalar : Unchecked source.scalar := by
  intro fault h
  unfold Source.scalar at h
  split at h
  all_goals cases h
  all_goals rfl

theorem loads_members_iff : Loads (members source) ↔
    ∃ parts, source.parts? = some parts ∧ ∀ m ∈ parts, m.isScalar = true := by
  rw [members]
  cases source.parts? with
  | none => exact iff_of_false not_loads_error nofun
  | some parts =>
    simp only [Option.some.injEq, exists_eq_left', ← loads_scalar_iff]
    exact exists_mapM_iff

theorem unchecked_members : Unchecked (members source) := by
  unfold members
  split
  · exact unchecked_mapM fun m => unchecked_scalar
  · rintro fault ⟨⟩
    rfl

theorem loads_loadLeaf_iff : Loads (loadLeaf source) ↔ source.IsLeaf := by
  unfold loadLeaf Source.IsLeaf
  split
  · rename_i label types hparts
    simp only [loads_bind_iff, hparts, Option.some.injEq]
    constructor
    · rintro ⟨given, hgiven, -⟩
      obtain ⟨members, hmembers, hscalar⟩ := loads_members_iff.mp ⟨given, hgiven⟩
      exact ⟨label, types, members, rfl, hmembers, hscalar⟩
    · rintro ⟨label', types', members, heq, hmembers, hscalar⟩
      obtain ⟨rfl, rfl⟩ : label = label' ∧ types = types' := by simpa using heq
      obtain ⟨given, hgiven⟩ := loads_members_iff.mpr ⟨members, hmembers, hscalar⟩
      exact ⟨given, hgiven, loads_ok⟩
  · rename_i hmore hparts
    refine iff_of_false not_loads_error ?_
    rintro ⟨label, types, members, hpair, -⟩
    rw [hparts] at hpair
    cases hpair
    exact absurd rfl hmore
  · rename_i hother hparts
    refine iff_of_false not_loads_error ?_
    rintro ⟨label, types, members, hpair, -⟩
    rw [hparts] at hpair
    exact hother label types [] (Option.some.inj hpair)
  · rename_i hparts
    refine iff_of_false not_loads_error ?_
    rintro ⟨label, types, members, hpair, -⟩
    rw [hparts] at hpair
    cases hpair

theorem unchecked_loadLeaf : Unchecked (loadLeaf source) := by
  unfold loadLeaf
  split
  · exact unchecked_members.bind fun given => unchecked_ok
  all_goals
    rintro fault ⟨⟩
    rfl

end

/-! ## Dimensions -/

section

variable {id : Int} {dim : String} {key : Json} {source : Source}

/-- A leaf under its value. -/
def loadValue (e : Json × Source) : Except Fault (String × Leaf) :=
  return (e.1.display, ← loadLeaf e.2)

theorem loads_loadValue_iff {e : Json × Source} : Loads (loadValue e) ↔ e.2.IsLeaf := by
  rw [← loads_loadLeaf_iff]
  exact exists_bind_iff fun leaf => ⟨_, rfl⟩

/-- A dimension from what its letter stands for. -/
def loadLettered (dim : String) (source : Source) : Except Fault (String × Dimension) := do
  let data ← source.entries "get"
  let values ← given "values" data
  let leaves ← values.mapM loadValue
  let label := ((Source.find? "label" data).map Source.toJson).getD (.str dim)
  return (dim, { label, leaves := OrderedMap.ofList leaves })

theorem loads_loadLettered_iff : Loads (loadLettered dim source) ↔ source.IsDimension := by
  rw [loadLettered, loads_bind_iff, Source.IsDimension]
  refine exists_congr fun data => and_congr entries_eq_ok_iff ?_
  rw [loads_bind_iff, ← exists_given_iff (by simp)]
  refine exists_congr fun values => and_congr_right fun _ => ?_
  exact (exists_bind_iff fun leaves => ⟨_, rfl⟩).trans (loads_mapM_iff fun e => loads_loadValue_iff)

theorem unchecked_loadLettered : Unchecked (loadLettered dim source) :=
  unchecked_entries.bind fun _ => unchecked_given.bind fun _ =>
    (unchecked_mapM fun _ => unchecked_loadLeaf.bind fun _ => unchecked_ok).bind fun _ => unchecked_ok

theorem loadDimension_eq :
    loadDimension id key source =
      match key.text?.filter (dimensions.contains ·) with
      | some dim => loadLettered dim source
      | none => .error (.invalidDimension key.shown id) := by
  unfold loadDimension
  cases key.text? with
  | none => rfl
  | some dim =>
    cases hdim : dimensions.contains dim with
    | false =>
      simp only [hdim, Option.filter_some, Bool.not_false, if_true, Bool.false_eq_true, if_false]
      rfl
    | true =>
      simp only [hdim, Option.filter_some, if_true, loadLettered, given, Bool.not_true,
        Bool.false_eq_true, if_false]
      refine bind_congr fun data => ?_
      cases Source.find? "values" data with
      | none => rfl
      | some values => rfl

theorem isLetter_iff :
    IsLetter key ↔ ∃ dim, key.text?.filter (dimensions.contains ·) = some dim := by
  simp only [IsLetter, Option.filter_eq_some_iff, List.contains_iff_mem]
  exact exists_congr fun d => and_comm

theorem loads_loadDimension_iff :
    Loads (loadDimension id key source) ↔ IsLetter key ∧ source.IsDimension := by
  rw [loadDimension_eq, isLetter_iff]
  cases key.text?.filter (dimensions.contains ·) with
  | none => exact iff_of_false not_loads_error nofun
  | some dim => simp [loads_loadLettered_iff]

theorem breaks_loadDimension_iff :
    Breaks (loadDimension id key source) ↔ IsLetter key ∧ ¬source.IsDimension := by
  rw [loadDimension_eq, isLetter_iff]
  cases key.text?.filter (dimensions.contains ·) with
  | none => simp [breaks_error_iff, Fault.isRefusal]
  | some dim => simp [unchecked_loadLettered.breaks_iff, loads_loadLettered_iff]

end

/-! ## Heads -/

section

variable {id : Int} {key : Json} {source : Source}

theorem breaks_headNumber_iff :
    Breaks (headNumber key) ↔ ∃ negative, key = .float (.infinite negative) := by
  unfold headNumber
  split
  · rename_i s
    refine iff_of_false ?_ nofun
    rintro ⟨fault, h, hfault⟩
    cases hread : Integer.read s with
    | error e =>
      rw [hread] at h
      cases h
      cases hfault
    | ok n =>
      rw [hread] at h
      cases h
  · exact iff_of_false not_breaks_ok nofun
  · exact iff_of_false not_breaks_ok nofun
  · rename_i negative
    -- Of a number it is not checked that it is finite.
    exact iff_of_true (breaks_error_iff.mpr rfl) ⟨negative, rfl⟩
  · rename_i x hfinite
    refine iff_of_false ?_ ?_
    · cases x.truncate? with
      | none => exact not_breaks_refusal rfl
      | some n => exact not_breaks_ok
    · rintro ⟨negative, heq⟩
      exact hfinite negative (Json.float.inj heq)
  · rename_i hother
    refine iff_of_false (not_breaks_refusal rfl) ?_
    rintro ⟨negative, rfl⟩
    exact hother _ rfl

/-- Types with their keys checked. -/
def checkTypes (id : Int) (types : List (Json × Source)) : Except Fault (OrderedMap String String) :=
  let loaded := OrderedMap.ofList (types.map fun e => (e.1.display, e.2.display))
  match loaded.keys.find? (! isTypeKey ·) with
  | some key => .error (.invalidType key id)
  | none => .ok loaded

theorem loadTypes_eq : loadTypes id source = source.entries "items" >>= checkTypes id := rfl

theorem loads_checkTypes_iff {types : List (Json × Source)} :
    Loads (checkTypes id types) ↔ ∀ e ∈ types, isTypeKey e.1.display = true := by
  have hkeys : ∀ k, k ∈ (OrderedMap.ofList (types.map fun e => (e.1.display, e.2.display))).keys ↔
      ∃ e ∈ types, e.1.display = k := by
    intro k
    rw [OrderedMap.mem_keys_ofList, List.map_map, List.mem_map]
    rfl
  unfold checkTypes
  dsimp only
  split
  · rename_i key hfind
    have hbad := List.find?_some hfind
    obtain ⟨e, he, rfl⟩ := (hkeys key).mp (List.mem_of_find?_eq_some hfind)
    refine iff_of_false not_loads_error fun h => ?_
    simp [h e he] at hbad
  · rename_i hnone
    refine iff_of_true loads_ok fun e he => ?_
    have hgood := List.find?_eq_none.mp hnone _ ((hkeys _).mpr ⟨e, he, rfl⟩)
    simpa using hgood

theorem not_breaks_checkTypes {types : List (Json × Source)} : ¬Breaks (checkTypes id types) := by
  unfold checkTypes
  dsimp only
  split
  · exact not_breaks_refusal rfl
  · exact not_breaks_ok

theorem loads_loadTypes_iff (id : Int) : Loads (loadTypes id source) ↔ IsTypes source := by
  simp only [loadTypes_eq, loads_bind_iff, entries_eq_ok_iff, loads_checkTypes_iff, IsTypes]

theorem breaks_loadTypes_iff : Breaks (loadTypes id source) ↔ ¬source.IsTable := by
  rw [loadTypes_eq, breaks_bind_iff, breaks_entries_iff, or_iff_left]
  rintro ⟨types, -, h⟩
  exact not_breaks_checkTypes h

/-- A head from its number and what is given of it. -/
def loadNumbered (id : Int) (data : List (Json × Source)) : Except Fault Head :=
  match Source.find? "types" data with
  | none => .error (.typesMissing id)
  | some typeData => do
    let types ← loadTypes id typeData
    let dims ← given "dimensions" data
    let dimensions ← dims.mapM fun e => loadDimension id e.1 e.2
    let label := ((Source.find? "label" data).map Source.toJson).getD (.str ("cat" ++ toString id))
    return { id, label, types, dimensions := OrderedMap.ofList dimensions }

theorem loadHead_eq : loadHead key source =
    headNumber key >>= fun id =>
      ((source.entries "get").mapError fun _ => .typesMissing id) >>= loadNumbered id := by
  unfold loadHead
  refine bind_congr fun id => bind_congr fun data => ?_
  unfold loadNumbered
  cases Source.find? "types" data with
  | none => rfl
  | some typeData =>
    refine bind_congr fun types => ?_
    rw [given]
    cases Source.find? "dimensions" data with
    | none => rfl
    | some dims => rfl

theorem loads_loadNumbered_iff {data : List (Json × Source)} :
    Loads (loadNumbered id data) ↔ IsHeadData data := by
  rw [loadNumbered, IsHeadData]
  cases Source.find? "types" data with
  | none => exact iff_of_false not_loads_error nofun
  | some types =>
    simp only [Option.some.injEq, exists_eq_left', ← loads_loadTypes_iff id]
    rw [loads_bind_iff, Loads, ← exists_and_right]
    refine exists_congr fun loaded => and_congr_right fun _ => ?_
    rw [loads_bind_iff, ← exists_given_iff (by simp)]
    refine exists_congr fun dims => and_congr_right fun _ => ?_
    exact (exists_bind_iff fun dimensions => ⟨_, rfl⟩).trans
      (loads_mapM_iff fun e => loads_loadDimension_iff)

theorem breaks_loadNumbered_iff {data : List (Json × Source)} :
    Breaks (loadNumbered id data) ↔ BreaksHeadData data := by
  rw [loadNumbered, BreaksHeadData]
  cases Source.find? "types" data with
  | none => exact iff_of_false (not_breaks_refusal rfl) nofun
  | some types =>
    simp only [Option.some.injEq, exists_eq_left']
    rw [breaks_bind_iff, breaks_loadTypes_iff, ← loads_loadTypes_iff id]
    refine or_congr_right ?_
    rw [Loads, ← exists_and_right]
    refine exists_congr fun loaded => and_congr_right fun _ => ?_
    rw [breaks_bind_iff, breaks_given_iff]
    simp only [and_or_left, exists_or]
    refine or_congr_right ?_
    rw [← exists_given_iff_of_not not_upTo_nil]
    refine exists_congr fun dims => and_congr_right fun _ => ?_
    exact (breaks_bind_iff_of_loads fun dimensions => loads_ok).trans
      (breaks_mapM_iff (fun e => loads_loadDimension_iff) fun e => breaks_loadDimension_iff)

theorem data_eq_ok_iff {data : List (Json × Source)} :
    ((source.entries "get").mapError fun _ => Fault.typesMissing id) = .ok data ↔
      source.Holds data := by
  constructor
  · exact fun h => entries_eq_ok_iff.mp (mapError_eq_ok h)
  · intro h
    rw [entries_eq_ok_iff.mpr h]
    rfl

theorem loads_loadHead_iff : Loads (loadHead key source) ↔ IsHead key source := by
  rw [loadHead_eq, loads_bind_iff, IsHead, Loads, ← exists_and_right]
  refine exists_congr fun id => and_congr_right fun _ => ?_
  rw [loads_bind_iff]
  exact exists_congr fun data => and_congr data_eq_ok_iff loads_loadNumbered_iff

theorem breaks_loadHead_iff : Breaks (loadHead key source) ↔ BreaksHead key source := by
  rw [loadHead_eq, breaks_bind_iff, breaks_headNumber_iff, BreaksHead, Loads, ← exists_and_right]
  refine or_congr_right (exists_congr fun id => and_congr_right fun _ => ?_)
  rw [breaks_bind_iff, or_iff_right]
  · exact exists_congr fun data => and_congr data_eq_ok_iff breaks_loadNumbered_iff
  · -- That the head is no table is one of the checks.
    cases source.entries "get" with
    | error fault => exact not_breaks_refusal rfl
    | ok found => exact not_breaks_ok

end

/-! ## Taxonomies -/

variable {source : Source}

/-- Data is loaded when all its heads are as they should be. -/
theorem loads_load_iff : Loads (load source) ↔
    ∃ entries, source.Holds entries ∧ ∀ e ∈ entries, IsHead e.1 e.2 := by
  rw [load, loads_bind_iff]
  refine exists_congr fun entries => and_congr entries_eq_ok_iff ?_
  exact (exists_bind_iff fun heads => ⟨_, rfl⟩).trans (loads_mapM_iff fun e => loads_loadHead_iff)

/-- Data breaks the loading when it has another shape. -/
theorem breaks_load_iff : Breaks (load source) ↔ source.Misshapen := by
  rw [load, breaks_bind_iff, breaks_entries_iff, Source.Misshapen]
  refine or_congr_right (exists_congr fun entries => and_congr entries_eq_ok_iff ?_)
  exact (breaks_bind_iff_of_loads fun heads => loads_ok).trans
    (breaks_mapM_iff (fun e => loads_loadHead_iff) fun e => breaks_loadHead_iff)

end Sift.Taxonomy
