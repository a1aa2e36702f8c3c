import Mathlib.Data.List.Nodup
import Sift.Proofs.Picker.Leaves

/-!
# Keys of the picker

The nodes of a head stand at addresses: its places and the dimensions of its types. The tree lists the
addresses of every head one after the other, whatever is selected (`keys_tree`), and no two of them
are written alike, so no key stands twice (`nodup_keys_tree`). As a token a key selects the entries of
its address (`Address.expand_key`). The tree behind it shows the node and all nodes below it as
selected, and of the leaves of the taxonomy exactly those that the address covers
(`selected_of_expand_key`).
-/

namespace Sift

namespace Shorthand

variable {n : Nat} {id : Int} {t t' d d' v : String}

theorem lists_selected {entries : List Entry} :
    Picker.lists (selected entries) id t d v = true ↔
      listed entries id t d = [] ∨ v ∈ listed entries id t d := by
  rw [Picker.lists, values?_selected]
  by_cases h : listed entries id t d = []
  · simp [h]
  · obtain ⟨all, hall, -, hmem⟩ := (foldl_insertNew _ none).2 h
    simp [hall, h, hmem]

theorem lets_through_markers (types : List String) :
    ((selected (types.map (Entry.marker n))).hasType id t &&
        Picker.lists (selected (types.map (Entry.marker n))) id t d v) = true ↔
      id = n ∧ t ∈ types := by
  have hnone : listed (types.map (Entry.marker n)) id t d = [] := by
    simp [List.eq_nil_iff_forall_not_mem, mem_listed]
  rw [Bool.and_eq_true, lists_selected, hasType_selected, hnone]
  simp [Entry.head, Entry.type, eq_comm, and_comm]

theorem lets_through_leaves {values : List String} (hne : values ≠ []) :
    ((selected (values.map (Entry.leaf n t' d'))).hasType id t &&
        Picker.lists (selected (values.map (Entry.leaf n t' d'))) id t d v) = true ↔
      id = n ∧ t' = t ∧ (d' = d → v ∈ values) := by
  have htype : (selected (values.map (Entry.leaf n t' d'))).hasType id t = true ↔
      id = n ∧ t' = t := by
    rw [hasType_selected]
    simpa [Entry.head, Entry.type, eq_comm] using fun _ _ => List.exists_mem_of_ne_nil values hne
  rw [Bool.and_eq_true, htype, lists_selected, and_assoc]
  refine and_congr_right fun hid => and_congr_right fun heq => ?_
  subst hid heq
  rw [List.eq_nil_iff_forall_not_mem]
  by_cases hd : d' = d
  · subst hd
    have hsome : ¬ ∀ w, w ∉ values := fun h => hne (List.eq_nil_iff_forall_not_mem.mpr h)
    simp [mem_listed, hsome]
  · simp [mem_listed, hd]

end Shorthand

namespace Picker

open Shorthand

/-- What a node stands for below its head: a place, or a dimension of a type. -/
inductive Address
  | place (place : Place)
  | dim (type dim : String)

namespace Address

/-- The key of the node at an address. -/
def key (id : Int) : Address → String
  | place p => p.key id
  | dim t d => dimText id t d

/-- The parts of the key behind the head. -/
def parts : Address → List Part
  | place p => p.parts
  | dim t d => [.type t, .dim d]

/-- The type of an address. -/
def type? : Address → Option String
  | place p => p.type?
  | dim t _ => some t

/-- The entries that the key expands to. -/
def entries (head : Head) (n : Nat) : Address → List Entry
  | place p => p.entries head n
  | dim t d => (head.applicable t d).map (Entry.leaf n t d)

/-- The key selects a leaf of its head: the leaf is of its type, and is the one that the key names when
the key names a leaf of that dimension. -/
def Covers (address : Address) (type dim value : String) : Prop :=
  (address = place .head ∨ address.type? = some type) ∧
    ∀ v, address = place (.leaf type dim v) → value = v

end Address

/-! ## The addresses of a head -/

/-- A dimension of a type with its leaves, unless no leaf applies. -/
def dimAddresses (head : Head) (t d : String) : List Address :=
  if head.applicable t d = [] then []
  else .dim t d :: (head.applicable t d).map fun v => .place (.leaf t d v)

/-- The dimensions of a type with their leaves. -/
def belowType (head : Head) (t : String) : List Address :=
  head.dims.flatMap (dimAddresses head t)

/-- A head with what stands below it. Without a type split its only type is skipped. -/
def addresses (head : Head) : List Address :=
  .place .head ::
    if head.typeKeys = [untyped] then belowType head untyped
    else head.typeKeys.flatMap fun t => .place (.type t) :: belowType head t

variable {tax : Taxonomy} {sel : Selection} {neg : Negations} {head : Head} {address : Address}
variable {t d v : String} {n : Nat}

theorem mem_dimAddresses :
    address ∈ dimAddresses head t d ↔ head.applicable t d ≠ [] ∧
      (address = .dim t d ∨ ∃ v ∈ head.applicable t d, address = .place (.leaf t d v)) := by
  rw [dimAddresses]
  by_cases hnone : head.applicable t d = []
  · simp [hnone]
  · rw [if_neg hnone, List.mem_cons, List.mem_map]
    simp [hnone, eq_comm]

theorem mem_belowType :
    address ∈ belowType head t ↔ ∃ d, head.applicable t d ≠ [] ∧
      (address = .dim t d ∨ ∃ v ∈ head.applicable t d, address = .place (.leaf t d v)) := by
  simp only [belowType, List.mem_flatMap, mem_dimAddresses]
  refine ⟨fun ⟨d, _, h⟩ => ⟨d, h⟩, fun ⟨d, hne, h⟩ => ⟨d, ?_, hne, h⟩⟩
  by_contra hd
  exact hne (Head.applicable_eq_nil hd)

theorem type?_of_mem_belowType (h : address ∈ belowType head t) : address.type? = some t := by
  obtain ⟨d, -, rfl | ⟨v, -, rfl⟩⟩ := mem_belowType.mp h
  · rfl
  · rfl

theorem mem_of_mem_addresses (h : address ∈ addresses head) :
    (∃ place : Place, place.In head ∧ address = .place place) ∨
      ∃ t ∈ head.typeKeys, ∃ d, head.applicable t d ≠ [] ∧ address = .dim t d := by
  have hbelow : ∀ t ∈ head.typeKeys, address ∈ belowType head t →
      (∃ place : Place, place.In head ∧ address = .place place) ∨
        ∃ t ∈ head.typeKeys, ∃ d, head.applicable t d ≠ [] ∧ address = .dim t d := by
    intro t ht h
    obtain ⟨d, hne, rfl | ⟨v, hv, rfl⟩⟩ := mem_belowType.mp h
    · exact .inr ⟨t, ht, d, hne, rfl⟩
    · exact .inl ⟨.leaf t d v, ⟨ht, hv⟩, rfl⟩
  rcases List.mem_cons.mp h with rfl | h
  · exact .inl ⟨.head, trivial, rfl⟩
  · split at h
    · rename_i htypes
      exact hbelow untyped (by rw [htypes]; exact List.mem_singleton_self _) h
    · obtain ⟨t, ht, h⟩ := List.mem_flatMap.mp h
      rcases List.mem_cons.mp h with rfl | h
      · exact .inl ⟨.type t, ht, rfl⟩
      · exact hbelow t ht h

theorem leaf_mem_addresses :
    .place (.leaf t d v) ∈ addresses head ↔ (Place.leaf t d v).In head := by
  constructor
  · intro h
    obtain ⟨place, hplace, heq⟩ | ⟨_, _, _, _, heq⟩ := mem_of_mem_addresses h
    · cases heq
      exact hplace
    · cases heq
  · rintro ⟨ht, hv⟩
    have hbelow : .place (.leaf t d v) ∈ belowType head t :=
      mem_belowType.mpr ⟨d, List.ne_nil_of_mem hv, .inr ⟨v, hv, rfl⟩⟩
    refine List.mem_cons_of_mem _ ?_
    split
    · rename_i htypes
      rw [htypes, List.mem_singleton] at ht
      exact ht ▸ hbelow
    · exact List.mem_flatMap.mpr ⟨t, ht, List.mem_cons_of_mem _ hbelow⟩

theorem applicable_ne_nil (h : .dim t d ∈ addresses head) : head.applicable t d ≠ [] := by
  obtain ⟨_, _, heq⟩ | ⟨t', _, d', hne, heq⟩ := mem_of_mem_addresses h
  · cases heq
  · cases heq
    exact hne

/-! ## Keys tell addresses apart -/

namespace Address

theorem key_eq (n : Nat) (address : Address) : address.key n = nameText n address.parts := by
  cases address with
  | place p => exact p.key_eq n
  | dim t d => exact dimText_eq n t d

theorem valid_parts (hhead : head.WellFormed) (h : address ∈ addresses head) :
    ∀ p ∈ address.parts, p.Valid := by
  obtain ⟨place, hplace, rfl⟩ | ⟨t, ht, d, hne, rfl⟩ := mem_of_mem_addresses h
  · exact Place.valid_parts hhead hplace
  · have hd : d ∈ head.dims := by
      by_contra hd
      exact hne (Head.applicable_eq_nil hd)
    simpa [parts, Part.Valid] using ⟨hhead.typeKeys t ht, hhead.dims d hd⟩

theorem parts_injective {a b : Address} (h : a.parts = b.parts) : a = b := by
  cases a with
  | dim t d =>
    cases b with
    | dim t' d' => simpa [parts] using h
    | place p => cases p <;> simp [parts, Place.parts] at h
  | place p =>
    cases b with
    | dim t' d' => cases p <;> simp [parts, Place.parts] at h
    | place q => cases p <;> cases q <;> simp_all [parts, Place.parts]

/-- A key tells its head and its address. -/
theorem key_injective {a b : Address} {n m : Nat} (ha : ∀ p ∈ a.parts, p.Valid)
    (hb : ∀ p ∈ b.parts, p.Valid) (h : a.key n = b.key m) : n = m ∧ a = b := by
  rw [key_eq, key_eq] at h
  obtain ⟨hid, hparts⟩ := nameText_injective ha hb h
  exact ⟨hid, parts_injective hparts⟩

theorem eq_of_key_eq {head' : Head} {a b : Address} (hhead : head.WellFormed)
    (hhead' : head'.WellFormed) (ha : a ∈ addresses head) (hb : b ∈ addresses head')
    (h : a.key head.id = b.key head'.id) : head.id = head'.id ∧ a = b := by
  obtain ⟨n, hn⟩ := hhead.exists_nat
  obtain ⟨m, hm⟩ := hhead'.exists_nat
  rw [hn, hm] at h
  obtain ⟨rfl, rfl⟩ := key_injective (valid_parts hhead ha) (valid_parts hhead' hb) h
  exact ⟨hn.trans hm.symm, rfl⟩

end Address

theorem nodup_dimAddresses (head : Head) (t d : String) : (dimAddresses head t d).Nodup := by
  rw [dimAddresses]
  split
  · exact List.nodup_nil
  · refine List.nodup_cons.mpr ⟨by simp, (Head.nodup_applicable t d).map fun v w h => ?_⟩
    simpa using h

theorem nodup_belowType (head : Head) (t : String) : (belowType head t).Nodup := by
  refine List.nodup_flatMap.mpr ⟨fun d _ => nodup_dimAddresses head t d, ?_⟩
  refine head.dimensions.nodup.imp fun {d d'} hne a ha ha' => hne ?_
  obtain ⟨-, rfl | ⟨v, -, rfl⟩⟩ := mem_dimAddresses.mp ha
  · simpa using (mem_dimAddresses.mp ha').2
  · exact (by simpa using (mem_dimAddresses.mp ha').2 : v ∈ head.applicable t d' ∧ d = d').2

theorem nodup_addresses (head : Head) : (addresses head).Nodup := by
  rw [addresses, List.nodup_cons]
  split
  · refine ⟨fun h => ?_, nodup_belowType head untyped⟩
    cases type?_of_mem_belowType h
  · refine ⟨fun h => ?_, List.nodup_flatMap.mpr ⟨fun t _ => List.nodup_cons.mpr ⟨fun h => ?_, ?_⟩, ?_⟩⟩
    · obtain ⟨t, -, h⟩ := List.mem_flatMap.mp h
      rcases List.mem_cons.mp h with h | h
      · cases h
      · cases type?_of_mem_belowType h
    · obtain ⟨d, -, h | ⟨v, -, h⟩⟩ := mem_belowType.mp h
      · cases h
      · cases h
    · exact nodup_belowType head t
    · refine head.types.nodup.imp fun {t t'} hne a ha ha' => hne ?_
      have htype : ∀ t, a ∈ Address.place (.type t) :: belowType head t → a.type? = some t := by
        intro t h
        rcases List.mem_cons.mp h with rfl | h
        · rfl
        · exact type?_of_mem_belowType h
      exact Option.some.inj ((htype t ha).symm.trans (htype t' ha'))

/-! ## The tree lists the addresses -/

section Listing

variable (sel : Selection) (neg : Negations) (denied : List String) (head : Head)

theorem keys_flatMap {α : Type} {xs : List α} {f : α → List Node} {g : α → List String}
    (h : ∀ x ∈ xs, (nodesOf (f x)).map Node.key = g x) :
    (nodesOf (xs.flatMap f)).map Node.key = xs.flatMap g := by
  rw [nodesOf_eq_flatMap, List.flatMap_assoc, List.map_flatMap]
  refine List.flatMap_congr fun x hx => ?_
  rw [← nodesOf_eq_flatMap, h x hx]

theorem keys_map {α : Type} {xs : List α} {f : α → Node} {g : α → List String}
    (h : ∀ x ∈ xs, (f x).nodes.map Node.key = g x) :
    (nodesOf (xs.map f)).map Node.key = xs.flatMap g := by
  rw [nodesOf_eq_flatMap, List.flatMap_map, List.map_flatMap]
  exact List.flatMap_congr h

theorem keys_dimNode? (t d : String) {dimension : Dimension}
    (hd : head.dimensions.get? d = some dimension) :
    (nodesOf (dimNode? sel denied head t d dimension).toList).map Node.key =
      (dimAddresses head t d).map (Address.key head.id) := by
  have happlicable : head.applicable t d =
      (dimension.leaves.entries.filter fun e => e.2.types.contains t).map Prod.fst := by
    rw [Head.applicable, hd]
  rw [dimNode?, dimAddresses, happlicable]
  generalize dimension.leaves.entries.filter (fun e => e.2.types.contains t) = leaves
  have hleaves : (nodesOf (leaves.map fun e => leafNode sel denied head t d e.1 e.2)).map Node.key =
      leaves.map fun e => leafText head.id t d e.1 := by
    rw [keys_map fun _ _ => rfl, List.map_eq_flatMap]
    rfl
  cases leaves with
  | nil => rfl
  | cons e leaves =>
    simp only [List.map_cons, List.isEmpty_cons, Bool.false_eq_true, if_false, Option.toList_some,
      nodesOf, List.append_nil, reduceCtorEq] at hleaves ⊢
    rw [Node.nodes, List.map_cons, nodesOf, hleaves, List.map_map, List.map_map]
    rfl

theorem keys_dimNodes (t : String) :
    (nodesOf (head.dimensions.entries.filterMap fun e => dimNode? sel denied head t e.1 e.2)).map
      Node.key = (belowType head t).map (Address.key head.id) := by
  have hdims : ∀ e ∈ head.dimensions.entries,
      (nodesOf (dimNode? sel denied head t e.1 e.2).toList).map Node.key =
        (dimAddresses head t e.1).map (Address.key head.id) := fun e he =>
    keys_dimNode? sel denied head t e.1 (OrderedMap.get?_eq_some_iff.mpr he)
  rw [List.filterMap_eq_flatMap_toList, keys_flatMap hdims, belowType, List.map_flatMap,
    Head.dims, OrderedMap.keys, List.flatMap_map]

theorem keys_headNode : (headNode sel neg head).nodes.map Node.key =
    (addresses head).map (Address.key head.id) := by
  have htypes : ∀ e ∈ head.types.entries,
      (typeNode sel (neg.selectors head.id) head e.1 e.2).nodes.map Node.key =
        (Address.place (.type e.1) :: belowType head e.1).map (Address.key head.id) := by
    intro e _
    rw [typeNode, Node.nodes, List.map_cons, keys_dimNodes]
    rfl
  rw [headNode, Node.nodes, List.map_cons, addresses, List.map_cons]
  refine congrArg _ ?_
  by_cases huntyped : head.typeKeys = [untyped]
  · -- The only type stands alone, and its children stand in its place.
    obtain ⟨e, he, hkey⟩ := List.map_eq_singleton_iff.mp huntyped
    simp only [huntyped, if_true, he, List.map_cons, List.map_nil, List.flatMap_cons,
      List.flatMap_nil, List.append_nil, ← hkey]
    exact keys_dimNodes sel _ head e.1
  · simp only [huntyped, if_false]
    rw [keys_map htypes, List.map_flatMap, Head.typeKeys, OrderedMap.keys, List.flatMap_map]

theorem keys_tree (tax : Taxonomy) : (nodesOf (tree tax sel neg)).map Node.key =
    tax.heads.entries.flatMap fun e => (addresses e.2).map (Address.key e.2.id) :=
  keys_map fun e _ => keys_headNode sel neg e.2

end Listing

theorem nodup_keys_tree (htax : tax.WellFormed) (sel : Selection) (neg : Negations) :
    ((nodesOf (tree tax sel neg)).map Node.key).Nodup := by
  rw [keys_tree, List.nodup_flatMap]
  refine ⟨fun e he => ?_, ?_⟩
  · refine (nodup_addresses e.2).map_on fun a ha b hb h => ?_
    exact (Address.eq_of_key_eq (htax e he).2 (htax e he).2 ha hb h).2
  · refine (List.pairwise_map.mp tax.heads.nodup).imp_of_mem fun {e e'} he he' hne key hkey hkey' => ?_
    obtain ⟨a, ha, rfl⟩ := List.mem_map.mp hkey
    obtain ⟨b, hb, heq⟩ := List.mem_map.mp hkey'
    have hid := (Address.eq_of_key_eq (htax e' he').2 (htax e he).2 hb ha heq).1
    exact hne ((htax e he).1.symm.trans (hid.symm.trans (htax e' he').1))

/-! ## What stands at an address -/

/-- The node has the key of an address of a head of the taxonomy. -/
def Node.StandsAt (node : Node) (tax : Taxonomy) (id : Int) (address : Address) : Prop :=
  ∃ head, tax.head? id = some head ∧ address ∈ addresses head ∧ node.key = address.key id

theorem exists_standsAt (htax : tax.WellFormed) {node : Node}
    (h : node ∈ nodesOf (tree tax sel neg)) : ∃ id address, node.StandsAt tax id address := by
  have hkey : node.key ∈ (nodesOf (tree tax sel neg)).map Node.key := List.mem_map_of_mem h
  rw [keys_tree] at hkey
  obtain ⟨e, he, hkey⟩ := List.mem_flatMap.mp hkey
  obtain ⟨address, haddress, hkey⟩ := List.mem_map.mp hkey
  refine ⟨e.1, address, e.2, Taxonomy.head?_eq_some_iff.mpr he, haddress, ?_⟩
  rw [← hkey, (htax e he).1]

/-! ## The selection behind a key -/

namespace Address

theorem not_mem_key (hvalid : ∀ p ∈ address.parts, p.Valid) : ',' ∉ (address.key n).toList := by
  rw [key_eq]
  exact not_mem_nameText hvalid (by decide) (by decide)

theorem short_of_expand_key (hvalid : ∀ p ∈ address.parts, p.Valid)
    {result : Selection × Negations} (h : expand tax [address.key n] = .ok result) : Short n := by
  rw [key_eq] at h
  obtain ⟨token, htoken⟩ : ∃ token, named? n address.parts = some token := by
    cases address with
    | dim t d => exact ⟨_, rfl⟩
    | place place =>
      cases place with
      | head => exact ⟨_, rfl⟩
      | type t => exact ⟨_, rfl⟩
      | leaf t d v => exact ⟨_, rfl⟩
  exact short_of_expand_nameText hvalid htoken h

theorem expand_key (hknown : Known tax head n) (h : address ∈ addresses head) :
    expand tax [address.key n] = .ok (selected (address.entries head n), .empty) := by
  have hvalid := valid_parts hknown.wellFormed h
  have htree : expandTree tax (address.key n) = expand tax [address.key n] := by
    rw [expandTree, Text.split_of_not_mem (not_mem_key hvalid)]
  rw [← htree]
  obtain ⟨place, hplace, rfl⟩ | ⟨t, ht, d, -, rfl⟩ := mem_of_mem_addresses h
  · exact Place.expandTree_key hknown hplace
  · have hd := hvalid (.dim d) (by simp [parts])
    have htype := hknown.wellFormed.typeKeys t ht
    refine expandTree_of_turns (not_mem_key hvalid) ?_ fun e he => ?_
    · have hturns := turns_dimText hknown htype hd []
      rw [if_pos ht] at hturns
      exact hturns
    · obtain ⟨v, hv, rfl⟩ := List.mem_map.mp he
      exact ⟨hknown.short, htype, hd, hknown.wellFormed.digits_of_mem_applicable hv⟩

theorem id_of_hasType {id : Int} (h : (selected (address.entries head n)).hasType id t = true) :
    id = n := by
  obtain ⟨entry, hentry, rfl, -⟩ := hasType_selected.mp h
  refine congrArg Int.ofNat ?_
  cases address with
  | dim t' d' =>
    obtain ⟨v', -, rfl⟩ := List.mem_map.mp hentry
    rfl
  | place place =>
    cases place with
    | head =>
      obtain ⟨t', -, rfl⟩ := List.mem_map.mp hentry
      rfl
    | type t' =>
      obtain rfl := List.mem_singleton.mp hentry
      rfl
    | leaf t' d' v' =>
      obtain rfl := List.mem_singleton.mp hentry
      rfl

theorem covers_head : (place .head).Covers t d v := ⟨.inl rfl, fun _ h => by cases h⟩

theorem covers_type : (place (.type t)).Covers t d v := ⟨.inr rfl, fun _ h => by cases h⟩

theorem covers_dim {d' : String} : (dim t d').Covers t d v := ⟨.inr rfl, fun _ h => by cases h⟩

theorem covers_leaf : (place (.leaf t d v)).Covers t d v :=
  ⟨.inr rfl, fun w h => by cases h; rfl⟩

/-- The entries of an address let through the leaves that it covers. -/
theorem lets_through_iff (h : address ∈ addresses head) {id : Int}
    (hplace : (Place.leaf t d v).In head) :
    ((selected (address.entries head n)).hasType id t &&
        lists (selected (address.entries head n)) id t d v) = true ↔
      id = n ∧ address.Covers t d v := by
  obtain ⟨ht, hv⟩ := hplace
  cases address with
  | dim t' d' =>
    have hne : head.applicable t' d' ≠ [] := applicable_ne_nil h
    rw [entries, lets_through_leaves hne, Covers]
    have hlisted : t' = t → d' = d → v ∈ head.applicable t' d' := by
      rintro rfl rfl
      exact hv
    simpa [type?] using fun _ => hlisted
  | place place =>
    cases place with
    | head =>
      rw [entries, Place.entries, lets_through_markers, Covers]
      simp [ht]
    | type t' =>
      rw [entries, Place.entries, ← List.map_singleton, lets_through_markers, Covers]
      simp [type?, Place.type?, eq_comm]
    | leaf t' d' v' =>
      rw [entries, Place.entries, ← List.map_singleton, lets_through_leaves (by simp), Covers]
      refine and_congr_right fun _ => ⟨fun ⟨htype, hvalue⟩ => ⟨.inr (congrArg some htype), ?_⟩, ?_⟩
      · rintro w heq
        cases heq
        exact (List.mem_singleton.mp (hvalue rfl)).symm ▸ rfl
      · rintro ⟨h | htype, hvalue⟩
        · cases h
        · cases htype
          refine ⟨rfl, ?_⟩
          rintro rfl
          exact List.mem_singleton.mpr (hvalue _ rfl)

end Address

/-! ## What the tree shows behind a key -/

section Showing

variable {denied : List String}

theorem selected_of_mem_dimNode?
    (hlets : ∀ v ∈ head.applicable t d, (sel.hasType head.id t && lists sel head.id t d v) = true)
    {dimension : Dimension} (hd : head.dimensions.get? d = some dimension) {node : Node}
    (hnode : dimNode? sel denied head t d dimension = some node) :
    ∀ below ∈ node.nodes, below.selected = true := by
  have hleaves : ∀ e ∈ dimension.leaves.entries.filter fun e => e.2.types.contains t,
      (leafNode sel denied head t d e.1 e.2).selected = true := by
    intro e he
    obtain ⟨hleaf, happlies⟩ := List.mem_filter.mp he
    exact hlets e.1 (Head.mem_applicable_iff.mpr
      ⟨dimension, e.2, hd, hleaf, List.contains_iff_mem.mp happlies⟩)
  rw [dimNode?] at hnode
  split at hnode
  · cases hnode
  · obtain rfl := Option.some.inj hnode
    intro below hbelow
    rcases mem_nodes.mp hbelow with rfl | ⟨child, hchild, hbelow⟩
    · refine List.all_eq_true.mpr fun leaf hleaf => ?_
      obtain ⟨e, he, rfl⟩ := List.mem_map.mp hleaf
      exact hleaves e he
    · obtain ⟨e, he, rfl⟩ := List.mem_map.mp hchild
      rcases mem_nodes.mp hbelow with rfl | ⟨_, hnone, -⟩
      · exact hleaves e he
      · cases hnone

theorem selected_of_mem_typeNode (htype : sel.hasType head.id t = true)
    (hlets : ∀ d, ∀ v ∈ head.applicable t d,
      (sel.hasType head.id t && lists sel head.id t d v) = true) (label : String) :
    ∀ below ∈ (typeNode sel denied head t label).nodes, below.selected = true := by
  have hdims : ∀ child ∈ (typeNode sel denied head t label).children,
      ∀ below ∈ child.nodes, below.selected = true := by
    intro child hchild
    obtain ⟨e, he, hnode⟩ := List.mem_filterMap.mp hchild
    exact selected_of_mem_dimNode? (hlets e.1) (OrderedMap.get?_eq_some_iff.mpr he) hnode
  intro below hbelow
  rcases mem_nodes.mp hbelow with rfl | ⟨child, hchild, hbelow⟩
  · refine Bool.and_eq_true_iff.mpr ⟨htype, List.all_eq_true.mpr fun child hchild => ?_⟩
    exact hdims child hchild child (mem_nodes.mpr (.inl rfl))
  · exact hdims child hchild below hbelow

theorem selected_of_mem_headNode (hhead : head.WellFormed)
    (htypes : ∀ t ∈ head.typeKeys, sel.hasType head.id t = true)
    (hlets : ∀ t ∈ head.typeKeys, ∀ d, ∀ v ∈ head.applicable t d,
      (sel.hasType head.id t && lists sel head.id t d v) = true) :
    ∀ below ∈ (headNode sel neg head).nodes, below.selected = true := by
  have htypeNodes : ∀ node ∈ head.types.entries.map
      (fun e => typeNode sel (neg.selectors head.id) head e.1 e.2),
      ∀ below ∈ node.nodes, below.selected = true := by
    intro node hnode
    obtain ⟨e, he, rfl⟩ := List.mem_map.mp hnode
    have ht : e.1 ∈ head.typeKeys := List.mem_map_of_mem he
    exact selected_of_mem_typeNode (htypes e.1 ht) (hlets e.1 ht) e.2
  intro below hbelow
  rcases mem_nodes.mp hbelow with rfl | ⟨child, hchild, hbelow⟩
  · have hsome : head.types.entries ≠ [] := fun hnone =>
      hhead.typeKeys_ne_nil (List.map_eq_nil_iff.mpr hnone)
    refine Bool.and_eq_true_iff.mpr ⟨by simpa using hsome, List.all_eq_true.mpr fun node hnode => ?_⟩
    exact htypeNodes node hnode node (mem_nodes.mpr (.inl rfl))
  · rw [headNode] at hchild
    simp only [Node.children] at hchild
    split at hchild
    · obtain ⟨node, hnode, hchild⟩ := List.mem_flatMap.mp hchild
      exact htypeNodes node hnode below (mem_nodes.mpr (.inr ⟨child, hchild, hbelow⟩))
    · exact htypeNodes child hchild below hbelow

theorem selected_of_key_eq (htax : tax.WellFormed) (hfound : tax.head? n = some head)
    (h : address ∈ addresses head) {node : Node}
    (hnode : node ∈ nodesOf (tree tax (selected (address.entries head n)) neg))
    (hkey : node.key = address.key n) : ∀ below ∈ node.nodes, below.selected = true := by
  obtain ⟨hid, hhead⟩ := htax.head hfound
  have hvalid := Address.valid_parts hhead h
  have hlets : ∀ t d v, (Place.leaf t d v).In head → address.Covers t d v →
      ((selected (address.entries head n)).hasType head.id t &&
        lists (selected (address.entries head n)) head.id t d v) = true :=
    fun t d v hin hcovers => (Address.lets_through_iff h hin).mpr ⟨hid, hcovers⟩
  obtain ⟨id', head', hfound', hshows⟩ := shows_of_mem_tree hnode
  obtain ⟨hid', hhead'⟩ := htax.head hfound'
  obtain ⟨m, hm⟩ := hhead'.exists_nat
  -- The key tells that the node shows the address.
  have hsame : ∀ a : Address, (∀ p ∈ a.parts, p.Valid) → node.key = a.key head'.id →
      address = a ∧ head = head' := by
    intro a ha heq
    obtain ⟨rfl, rfl⟩ := Address.key_injective hvalid ha (hkey.symm.trans (hm ▸ heq))
    rw [← hid', hm, hfound] at hfound'
    exact ⟨rfl, Option.some.inj hfound'⟩
  cases hshows with
  | head =>
    obtain ⟨rfl, rfl⟩ := hsame (.place .head) (by simp [Address.parts, Place.parts]) rfl
    refine selected_of_mem_headNode hhead (fun t ht => ?_) fun t ht d v hv =>
      hlets t d v ⟨ht, hv⟩ Address.covers_head
    exact hasType_selected.mpr ⟨.marker n t, List.mem_map_of_mem ht, hid.symm, rfl⟩
  | @type t label ht =>
    have hkeys : t ∈ head'.typeKeys := List.mem_map_of_mem ht
    have hin : (Place.type t).In head' := hkeys
    obtain ⟨rfl, rfl⟩ := hsame (.place (.type t)) (Place.valid_parts hhead' hin) rfl
    refine selected_of_mem_typeNode ?_ (fun d v hv => hlets t d v ⟨hkeys, hv⟩ Address.covers_type) label
    exact hasType_selected.mpr ⟨.marker n t, List.mem_singleton_self _, hid.symm, rfl⟩
  | @dim t d dimension node ht hd hnode =>
    have hdim : d ∈ head'.dims := OrderedMap.mem_keys_iff.mpr ⟨dimension, hd⟩
    obtain ⟨rfl, rfl⟩ := hsame (.dim t d)
      (by simpa [Address.parts, Part.Valid] using ⟨hhead'.typeKeys t ht, hhead'.dims d hdim⟩)
      (key_of_dimNode? hnode)
    exact selected_of_mem_dimNode? (fun v hv => hlets t d v ⟨ht, hv⟩ Address.covers_dim) hd hnode
  | @leaf t d v dimension leaf ht hd hleaf happlies =>
    have hin : (Place.leaf t d v).In head' :=
      ⟨ht, Head.mem_applicable_iff.mpr ⟨dimension, leaf, hd, hleaf, happlies⟩⟩
    obtain ⟨rfl, rfl⟩ := hsame (.place (.leaf t d v)) (Place.valid_parts hhead' hin) rfl
    intro below hbelow
    rcases mem_nodes.mp hbelow with rfl | ⟨_, hnone, -⟩
    · exact hlets t d v hin Address.covers_leaf
    · cases hnone

theorem leaf_selected_iff_covers (htax : tax.WellFormed) (h : address ∈ addresses head) {id : Int}
    {node : Node} (hnode : node ∈ nodesOf (tree tax (selected (address.entries head n)) neg))
    (hleaf : node.StandsAt tax id (.place (.leaf t d v))) (hhead : tax.head? n = some head) :
    node.selected = true ↔ id = n ∧ address.Covers t d v := by
  obtain ⟨head', hfound, haddress, hkey⟩ := hleaf
  have hin := leaf_mem_addresses.mp haddress
  rw [selected_of_mem_tree htax hfound hin hnode hkey]
  by_cases hid : id = n
  · subst hid
    obtain rfl := Option.some.inj (hhead.symm.trans hfound)
    exact Address.lets_through_iff h hin
  · refine iff_of_false (fun hlets => hid ?_) fun hcovers => hid hcovers.1
    exact Address.id_of_hasType (Bool.and_eq_true_iff.mp hlets).1

/-- No key stands twice in the tree, and as a token a key selects its node with all nodes below it, and
of the leaves exactly those that its address covers. It is read unless the number of its head has
more digits than are read. -/
theorem selected_of_expand_key (htax : tax.WellFormed) :
    (∀ sel neg, ((nodesOf (tree tax sel neg)).map Node.key).Nodup) ∧
      ∀ before denied, ∀ picked ∈ nodesOf (tree tax before denied),
        (∃ id address, picked.StandsAt tax id address) ∧
        ∀ id address, picked.StandsAt tax id address →
          ((∃ result, expand tax [picked.key] = .ok result) ↔ ∃ n : Nat, id = n ∧ Short n) ∧
          ∀ sel neg, expand tax [picked.key] = .ok (sel, neg) →
            (∃ node ∈ nodesOf (tree tax sel neg), node.key = picked.key) ∧
            (∀ node ∈ nodesOf (tree tax sel neg), node.key = picked.key →
              ∀ below ∈ node.nodes, below.selected = true) ∧
            ∀ node ∈ nodesOf (tree tax sel neg), ∀ id' t d v,
              node.StandsAt tax id' (.place (.leaf t d v)) →
                (node.selected = true ↔ id' = id ∧ address.Covers t d v) := by
  refine ⟨nodup_keys_tree htax, fun before denied picked hpicked => ⟨exists_standsAt htax hpicked, ?_⟩⟩
  rintro id address ⟨head, hfound, haddress, hkey⟩
  obtain ⟨hid, hhead⟩ := htax.head hfound
  obtain ⟨n, hn⟩ := hhead.exists_nat
  obtain rfl : id = n := hid.symm.trans hn
  have hvalid := Address.valid_parts hhead haddress
  have hexpand : Short n →
      expand tax [picked.key] = .ok (selected (address.entries head n), .empty) := fun hshort =>
    hkey ▸ Address.expand_key ⟨hid, hshort, hfound, hhead⟩ haddress
  have hread : ∀ result, expand tax [picked.key] = .ok result → Short n := fun result h =>
    Address.short_of_expand_key hvalid (hkey ▸ h)
  refine ⟨⟨fun ⟨result, h⟩ => ⟨n, rfl, hread result h⟩, ?_⟩, fun sel neg h => ?_⟩
  · rintro ⟨m, hm, hshort⟩
    obtain rfl : n = m := Int.ofNat.inj hm
    exact ⟨_, hexpand hshort⟩
  · obtain ⟨rfl, rfl⟩ := Prod.mk.inj (Except.ok.inj ((hexpand (hread _ h)).symm.trans h))
    refine ⟨?_, fun node hnode heq => ?_, fun node hnode id' t d v hleaf => ?_⟩
    · have hmem : picked.key ∈ (nodesOf (tree tax before denied)).map Node.key :=
        List.mem_map_of_mem hpicked
      rw [keys_tree, ← keys_tree (selected (address.entries head n)) .empty] at hmem
      exact List.mem_map.mp hmem
    · exact selected_of_key_eq htax hfound haddress hnode (heq.trans hkey)
    · exact leaf_selected_iff_covers htax haddress hnode hleaf hfound

/-- The key of the format `a0` of movies selects no other leaf of formats, but every leaf of the other
dimensions of movies. -/
theorem selected_of_expand_key_default :
    let address := Address.place (.leaf "z0" "a" "0")
    Taxonomy.default.WellFormed ∧
      ∃ picked ∈ nodesOf (tree .default .empty .empty), picked.key = "cat0_z0_a0" ∧
        picked.StandsAt .default 0 address ∧
        ∃ sel neg, expand .default [picked.key] = .ok (sel, neg) ∧
          ∀ node ∈ nodesOf (tree .default sel neg), ∀ id t d v,
            node.StandsAt .default id (.place (.leaf t d v)) →
              (node.selected = true ↔ id = 0 ∧ address.Covers t d v) := by
  intro address
  have htax := Taxonomy.wellFormed_default
  have hplace : (Taxonomy.default.head? 0).any
      (fun head => decide ((Place.leaf "z0" "a" "0").In head)) = true := by decide
  obtain ⟨head, hfound, hin⟩ := (Option.any_eq_true ..).mp hplace
  have hin := of_decide_eq_true hin
  obtain ⟨picked, hpicked, hkey⟩ : ∃ node ∈ nodesOf (tree .default .empty .empty),
    node.key = leafText 0 "z0" "a" "0" := exists_mem_tree htax hfound hin
  have hstands : picked.StandsAt .default 0 address :=
    ⟨head, hfound, leaf_mem_addresses.mpr hin, hkey⟩
  obtain ⟨hread, hselects⟩ :=
    ((selected_of_expand_key htax).2 .empty .empty picked hpicked).2 0 address hstands
  obtain ⟨⟨sel, neg⟩, hexpand⟩ := hread.mpr ⟨0, rfl, by decide⟩
  exact ⟨htax, picked, hpicked, hkey.trans (by decide), hstands, sel, neg, hexpand,
    (hselects sel neg hexpand).2.2⟩

end Showing

end Picker

end Sift
