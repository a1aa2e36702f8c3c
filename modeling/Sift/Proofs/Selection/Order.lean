import Sift.Proofs.Selection.Lookup

/-!
# The order of what is selected

Heads, types, dimensions and values stand in first-given order. So a selection that is read off
entries has the types of a head in the order in which entries first name them (`types_selected`), the
dimensions of a type in the order in which leaves first name them (`dimKeys_selected`) and the values
of a dimension in the order of its leaves (`values?_selected_eq`). Entries that come in blocks, one
block for each key, give the keys in the order of the blocks (`eachOnce_flatMap`).
-/

namespace Sift

/-- The values in first-given order, each once. -/
def eachOnce (values : List String) : List String :=
  values.foldl (fun listed v => insertNew v listed) []

/-! ## Values in blocks -/

theorem foldl_insertNew_same {x : String} {values listed : List String} (h : ∀ v ∈ values, v = x)
    (hx : x ∈ listed) : values.foldl (fun listed v => insertNew v listed) listed = listed := by
  induction values with
  | nil => rfl
  | cons v values ih =>
    obtain rfl := h v (by simp)
    rw [List.foldl_cons, insertNew, if_pos hx]
    exact ih fun w hw => h w (by simp [hw])

theorem foldl_insertNew_block {x : String} {values listed : List String} (h : ∀ v ∈ values, v = x)
    (hne : values ≠ []) (hx : x ∉ listed) :
    values.foldl (fun listed v => insertNew v listed) listed = listed ++ [x] := by
  cases values with
  | nil => exact absurd rfl hne
  | cons v values =>
    obtain rfl := h v (by simp)
    rw [List.foldl_cons, insertNew, if_neg hx]
    exact foldl_insertNew_same (fun w hw => h w (by simp [hw])) (by simp)

theorem eachOnce_flatMap {xs : List String} {f : String → List String} (hnodup : xs.Nodup)
    (h : ∀ x ∈ xs, ∀ v ∈ f x, v = x) : eachOnce (xs.flatMap f) = xs.filter fun x => f x ≠ [] := by
  have key : ∀ listed : List String, (listed ++ xs).Nodup →
      (xs.flatMap f).foldl (fun listed v => insertNew v listed) listed =
        listed ++ xs.filter fun x => f x ≠ [] := by
    clear hnodup
    induction xs with
    | nil => simp
    | cons x xs ih =>
      intro listed hnodup
      have hrest : ∀ y ∈ xs, ∀ v ∈ f y, v = y := fun y hy => h y (by simp [hy])
      rw [List.flatMap_cons, List.foldl_append]
      by_cases hempty : f x = []
      · have hskipped : (listed ++ xs).Nodup :=
          hnodup.sublist ((List.sublist_cons_self x xs).append_left listed)
        rw [hempty, List.foldl_nil, ih hrest listed hskipped, List.filter_cons_of_neg (by simpa)]
      · have hx : x ∉ listed := by
          rw [List.nodup_append] at hnodup
          exact fun hmem => hnodup.2.2 x hmem x List.mem_cons_self rfl
        rw [foldl_insertNew_block (h x (by simp)) hempty hx, ih hrest _ (by simpa using hnodup),
          List.filter_cons_of_pos (by simpa), List.append_assoc, List.singleton_append]
  exact key [] hnodup

theorem eachOnce_of_nodup {values : List String} (h : values.Nodup) : eachOnce values = values := by
  have hblocks := eachOnce_flatMap (f := fun v => [v]) h (by simp)
  rw [List.flatMap_singleton'] at hblocks
  rw [hblocks, List.filter_eq_self]
  simp

theorem filter_flatMap_of_key {α β κ : Type} [DecidableEq κ] {xs : List α} {f : α → List β}
    (key : α → κ) {label : β → κ} (hnodup : (xs.map key).Nodup)
    (h : ∀ x ∈ xs, ∀ y ∈ f x, label y = key x) {x : α} (hx : x ∈ xs) :
    (xs.flatMap f).filter (fun y => label y = key x) = f x := by
  induction xs with
  | nil => cases hx
  | cons a xs ih =>
    rw [List.map_cons, List.nodup_cons] at hnodup
    have hrest : ∀ x ∈ xs, ∀ y ∈ f x, label y = key x := fun x hx => h x (by simp [hx])
    rw [List.flatMap_cons, List.filter_append]
    rcases List.mem_cons.mp hx with rfl | hx
    · have hother : (xs.flatMap f).filter (fun y => label y = key x) = [] := by
        refine List.filter_eq_nil_iff.mpr fun y hy => ?_
        obtain ⟨x', hx', hy⟩ := List.mem_flatMap.mp hy
        rw [decide_eq_true_eq, hrest x' hx' y hy]
        exact fun heq => hnodup.1 (heq ▸ List.mem_map_of_mem hx')
      rw [hother, List.append_nil, List.filter_eq_self]
      exact fun y hy => decide_eq_true (h x (by simp) y hy)
    · have hfirst : (f a).filter (fun y => label y = key x) = [] := by
        refine List.filter_eq_nil_iff.mpr fun y hy => ?_
        rw [decide_eq_true_eq, h a (by simp) y hy]
        exact fun heq => hnodup.1 (heq ▸ List.mem_map_of_mem hx)
      rw [hfirst, List.nil_append, ih hnodup.2 hrest hx]

/-! ## Selections read off entries -/

namespace Selection

variable {sel : Selection} {head head' : Int} {type type' : String}

theorem types_alterType (f : Dims → Dims) :
    (sel.alterType head type f).types head' =
      if head' = head then insertNew type (sel.types head') else sel.types head' := by
  rw [types, typesOf_alterType]
  split
  · rename_i hhead
    subst hhead
    exact OrderedMap.keys_alter _ _ _
  · rfl

theorem keys_dims_addValue (dim value : String) :
    ((sel.addValue head type dim value).dims head' type').keys =
      if head' = head ∧ type' = type then insertNew dim (sel.dims head' type').keys
      else (sel.dims head' type').keys := by
  rw [addValue, dims_alterType]
  split
  · rename_i hplace
    rw [hplace.1, hplace.2]
    exact OrderedMap.keys_alter _ _ _
  · rfl

theorem dims_addType : (sel.addType head type).dims head' type' = sel.dims head' type' := by
  rw [addType, dims_alterType]
  split
  · rename_i hplace
    rw [hplace.1, hplace.2]
    rfl
  · rfl

end Selection

namespace Shorthand

/-- The types that entries name in a head, one after the other. -/
def typesIn (entries : List Entry) (head : Int) : List String :=
  (entries.filter fun entry => (entry.head : Int) = head).map Entry.type

/-- The dimensions that leaves name under a type, one after the other. -/
def dimsIn (entries : List Entry) (head : Int) (type : String) : List String :=
  entries.filterMap fun
    | .leaf h t d _ => if (h : Int) = head ∧ t = type then some d else none
    | .marker _ _ => none

theorem types_selected (entries : List Entry) (head : Int) :
    (selected entries).types head = eachOnce (typesIn entries head) := by
  have key : ∀ sel : Selection,
      (entries.foldl (fun sel entry => select sel (some entry)) sel).types head =
        (typesIn entries head).foldl (fun listed t => insertNew t listed) (sel.types head) := by
    induction entries with
    | nil => exact fun sel => rfl
    | cons entry entries ih =>
      intro sel
      have hstep : (select sel (some entry)).types head =
          if head = entry.head then insertNew entry.type (sel.types head) else sel.types head := by
        cases entry with
        | leaf n t d v => exact Selection.types_alterType _
        | marker n t => exact Selection.types_alterType _
      rw [List.foldl_cons, ih, hstep]
      by_cases hhead : (entry.head : Int) = head
      · simp [typesIn, hhead]
      · simp [typesIn, hhead, Ne.symm hhead]
  exact key .empty

theorem dimKeys_selected (entries : List Entry) (head : Int) (type : String) :
    ((selected entries).dims head type).keys = eachOnce (dimsIn entries head type) := by
  have key : ∀ sel : Selection,
      ((entries.foldl (fun sel entry => select sel (some entry)) sel).dims head type).keys =
        (dimsIn entries head type).foldl (fun listed d => insertNew d listed)
          (sel.dims head type).keys := by
    induction entries with
    | nil => exact fun sel => rfl
    | cons entry entries ih =>
      intro sel
      rw [List.foldl_cons, ih]
      cases entry with
      | leaf n t d v =>
        rw [select, Selection.keys_dims_addValue]
        by_cases hplace : (n : Int) = head ∧ t = type
        · obtain ⟨rfl, rfl⟩ := hplace
          simp [dimsIn]
        · have hplace' : ¬ (head = n ∧ type = t) := fun h => hplace ⟨h.1.symm, h.2.symm⟩
          simp [dimsIn, hplace, hplace']
      | marker n t =>
        rw [select, Selection.dims_addType]
        simp [dimsIn]
  exact key .empty

theorem values?_selected_eq (entries : List Entry) (head : Int) (type dim : String) :
    (selected entries).values? head type dim =
      if listed entries head type dim = [] then none
      else some (eachOnce (listed entries head type dim)) := by
  have key : ∀ values start : List String,
      values.foldl (fun vs v => some (insertNew v (vs.getD []))) (some start) =
        some (values.foldl (fun listed v => insertNew v listed) start) := by
    intro values
    induction values with
    | nil => exact fun start => rfl
    | cons v values ih => exact fun start => ih (insertNew v start)
  rw [values?_selected]
  cases listed entries head type dim with
  | nil => rfl
  | cons v values => exact key values (insertNew v [])

end Shorthand

end Sift
