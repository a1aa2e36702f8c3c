import Sift.Picker
import Sift.Proofs.Shorthand.Accumulator

/-!
# Places of the picker

Every node of the picker stands for a dimension or for a place of the taxonomy, that is, a head, a
type of it or a leaf of a type (`shows_of_mem_tree`). The key of a place can be read back, and as a
tree of its own it selects exactly the entries of the place (`expandTree_key`).
-/

namespace Sift

namespace Shorthand

theorem short_of_expand_nameText {tax : Taxonomy} {n : Nat} {parts : List Part} {token : Token}
    (hvalid : ∀ p ∈ parts, p.Valid) (htoken : named? n parts = some token)
    {result : Selection × Negations} (h : expand tax [nameText n parts] = .ok result) : Short n := by
  obtain ⟨state, hrun, -⟩ := bind_eq_ok h
  obtain ⟨state', hstep, -⟩ := bind_eq_ok hrun
  rw [Expansion.step, if_neg (nameText_ne_empty n _)] at hstep
  obtain ⟨token', hread, -⟩ := bind_eq_ok hstep
  exact short_of_read_nameText hvalid htoken hread

end Shorthand

namespace Picker

open Shorthand

/-- A head, a type of it, or a leaf of a type. -/
inductive Place
  | head
  | type (type : String)
  | leaf (type dim value : String)

namespace Place

/-- The key of the node of a place. -/
def key (id : Int) : Place → String
  | head => headText id
  | type t => typeText id t
  | leaf t d v => leafText id t d v

/-- The type of a place. -/
def type? : Place → Option String
  | head => none
  | type t | leaf t _ _ => some t

/-- The head has the type of the place, and its leaf applies to the type. -/
def In (head : Head) : Place → Prop
  | .head => True
  | type t => t ∈ head.typeKeys
  | leaf t d v => t ∈ head.typeKeys ∧ v ∈ head.applicable t d

instance (head : Head) : (place : Place) → Decidable (place.In head)
  | .head => .isTrue trivial
  | type t => inferInstanceAs (Decidable (t ∈ head.typeKeys))
  | leaf t d v => inferInstanceAs (Decidable (t ∈ head.typeKeys ∧ v ∈ head.applicable t d))

/-- The parts of the key behind the head. -/
def parts : Place → List Part
  | head => []
  | type t => [.type t]
  | leaf t d v => [.type t, .value d v]

/-- The entries that the key expands to. -/
def entries (head : Head) (n : Nat) : Place → List Entry
  | .head => head.typeKeys.map (Entry.marker n)
  | type t => [.marker n t]
  | leaf t d v => [.leaf n t d v]

variable {tax : Taxonomy} {head : Head} {place : Place} {n : Nat}

theorem key_eq (n : Nat) (place : Place) : place.key n = nameText n place.parts := by
  cases place with
  | head => exact headText_eq n
  | type t => exact typeText_eq n t
  | leaf t d v => exact leafText_eq n t d v

theorem valid_parts (hhead : head.WellFormed) (hplace : place.In head) :
    ∀ p ∈ place.parts, p.Valid := by
  cases place with
  | head => simp [parts]
  | type t => simpa [parts, Part.Valid] using hhead.typeKeys t hplace
  | leaf t d v =>
    obtain ⟨htype, hvalue⟩ := hplace
    have hdim : d ∈ head.dims := by
      by_cases hd : d ∈ head.dims
      · exact hd
      · rw [Head.applicable_eq_nil hd] at hvalue
        cases hvalue
    have hleaf := hhead.digits_of_mem_applicable hvalue
    simpa [parts, Part.Valid] using ⟨hhead.typeKeys t htype, hhead.dims d hdim, hleaf⟩

/-! ### The tree of a key -/

theorem not_mem_key (hvalid : ∀ p ∈ place.parts, p.Valid) : ',' ∉ (place.key n).toList := by
  rw [key_eq]
  exact not_mem_nameText hvalid (by decide) (by decide)

theorem short_of_expandTree_key (hvalid : ∀ p ∈ place.parts, p.Valid)
    {result : Selection × Negations} (h : expandTree tax (place.key n) = .ok result) : Short n := by
  have htoken : ∃ token, named? n place.parts = some token := by
    cases place with
    | head => exact ⟨_, rfl⟩
    | type t => exact ⟨_, rfl⟩
    | leaf t d v => exact ⟨_, rfl⟩
  obtain ⟨token, htoken⟩ := htoken
  rw [expandTree, Text.split_of_not_mem (not_mem_key hvalid), key_eq] at h
  exact short_of_expand_nameText hvalid htoken h

/-- The key of a place selects its entries. -/
theorem expandTree_key (hknown : Known tax head n) (hplace : place.In head) :
    expandTree tax (place.key n) = .ok (selected (place.entries head n), .empty) := by
  have hvalid := valid_parts hknown.wellFormed hplace
  refine expandTree_of_turns (not_mem_key hvalid) ?_ fun e he => ?_
  · cases place with
    | head => exact turns_headText hknown []
    | type t =>
      have htype : t ∈ head.typeKeys := hplace
      have hturns := turns_typeText hknown (hvalid (.type t) (by simp [parts])) []
      rw [if_pos htype] at hturns
      exact hturns
    | leaf t d v =>
      have hleaf := hvalid (.value d v) (by simp [parts])
      have hdigits : ∀ w ∈ [v], Text.isDigits w.toList = true := by simpa using hleaf.2
      exact turns_leaves hknown.short (hvalid (.type t) (by simp [parts])) hleaf.1 hdigits []
  · cases place with
    | head =>
      obtain ⟨t, ht, rfl⟩ := List.mem_map.mp he
      exact ⟨hknown.short, hknown.wellFormed.typeKeys t ht⟩
    | type t =>
      obtain rfl := List.mem_singleton.mp he
      exact ⟨hknown.short, hvalid (.type t) (by simp [parts])⟩
    | leaf t d v =>
      obtain rfl := List.mem_singleton.mp he
      exact ⟨hknown.short, hvalid (.type t) (by simp [parts]), hvalid (.value d v) (by simp [parts])⟩

theorem exists_mem_entries (hhead : head.WellFormed) (n : Nat) (place : Place) :
    ∃ entry, entry ∈ place.entries head n := by
  cases place with
  | head =>
    obtain ⟨t, ht⟩ := List.exists_mem_of_ne_nil _ hhead.typeKeys_ne_nil
    exact ⟨_, List.mem_map_of_mem ht⟩
  | type t => exact ⟨_, List.mem_singleton_self _⟩
  | leaf t d v => exact ⟨_, List.mem_singleton_self _⟩

end Place

/-! ## Nodes of the tree -/

mutual

/-- A node and all nodes below it. -/
def Node.nodes : Node → List Node
  | .mk key title selected negated children =>
    .mk key title selected negated children :: nodesOf children

/-- Some nodes and all nodes below them. -/
def nodesOf : List Node → List Node
  | [] => []
  | node :: rest => node.nodes ++ nodesOf rest

end

theorem nodesOf_eq_flatMap (nodes : List Node) : nodesOf nodes = nodes.flatMap Node.nodes := by
  induction nodes with
  | nil => rfl
  | cons node nodes ih => rw [nodesOf, ih, List.flatMap_cons]

theorem mem_nodes {node n : Node} :
    n ∈ node.nodes ↔ n = node ∨ ∃ child ∈ node.children, n ∈ child.nodes := by
  obtain ⟨key, title, selected, negated, children⟩ := node
  rw [Node.nodes, List.mem_cons, nodesOf_eq_flatMap, List.mem_flatMap]
  rfl

theorem mem_nodesOf {nodes : List Node} {n : Node} :
    n ∈ nodesOf nodes ↔ ∃ node ∈ nodes, n ∈ node.nodes := by
  rw [nodesOf_eq_flatMap, List.mem_flatMap]

/-! ### What a node shows -/

/-- A node below a head, with what it shows of it. -/
inductive Shows (sel : Selection) (neg : Negations) (head : Head) : Node → Prop
  | head : Shows sel neg head (headNode sel neg head)
  | type {t label : String} : (t, label) ∈ head.types.entries →
    Shows sel neg head (typeNode sel (neg.selectors head.id) head t label)
  | dim {t d : String} {dimension : Dimension} {node : Node} : t ∈ head.typeKeys →
    head.dimensions.get? d = some dimension →
    dimNode? sel (neg.selectors head.id) head t d dimension = some node → Shows sel neg head node
  | leaf {t d v : String} {dimension : Dimension} {leaf : Leaf} : t ∈ head.typeKeys →
    head.dimensions.get? d = some dimension → (v, leaf) ∈ dimension.leaves.entries →
    t ∈ leaf.types →
    Shows sel neg head (leafNode sel (neg.selectors head.id) head t d v leaf)

section Showing

variable {sel : Selection} {neg : Negations} {head : Head} {t d : String} {node : Node}

theorem key_of_dimNode? {denied : List String} {dimension : Dimension}
    (h : dimNode? sel denied head t d dimension = some node) : node.key = dimText head.id t d := by
  rw [dimNode?] at h
  split at h
  · cases h
  · obtain rfl := Option.some.inj h
    rfl

theorem shows_of_mem_dimNode (ht : t ∈ head.typeKeys) {dimension : Dimension}
    (hd : head.dimensions.get? d = some dimension) {dimNode : Node}
    (hnode : dimNode? sel (neg.selectors head.id) head t d dimension = some dimNode)
    (h : node ∈ dimNode.nodes) : Shows sel neg head node := by
  rcases mem_nodes.mp h with rfl | ⟨child, hchild, h⟩
  · exact .dim ht hd hnode
  · rw [dimNode?] at hnode
    split at hnode
    · cases hnode
    · obtain rfl := Option.some.inj hnode
      obtain ⟨e, he, rfl⟩ := List.mem_map.mp hchild
      obtain ⟨hleaf, happlies⟩ := List.mem_filter.mp he
      rcases mem_nodes.mp h with rfl | ⟨below, hbelow, -⟩
      · exact .leaf ht hd hleaf (List.contains_iff_mem.mp happlies)
      · cases hbelow

theorem shows_of_mem_typeNode {label : String} (ht : (t, label) ∈ head.types.entries)
    (h : node ∈ (typeNode sel (neg.selectors head.id) head t label).nodes) :
    Shows sel neg head node := by
  rcases mem_nodes.mp h with rfl | ⟨dimNode, hdim, h⟩
  · exact .type ht
  · obtain ⟨e, he, hnode⟩ := List.mem_filterMap.mp hdim
    have hkey : t ∈ head.typeKeys := List.mem_map_of_mem ht
    exact shows_of_mem_dimNode hkey (OrderedMap.get?_eq_some_iff.mpr he) hnode h

theorem shows_of_mem_headNode (h : node ∈ (headNode sel neg head).nodes) :
    Shows sel neg head node := by
  have htypes : ∀ child ∈ head.types.entries.map
      (fun e => typeNode sel (neg.selectors head.id) head e.1 e.2),
      ∀ n ∈ child.nodes, Shows sel neg head n := by
    intro child hchild n hn
    obtain ⟨e, he, rfl⟩ := List.mem_map.mp hchild
    exact shows_of_mem_typeNode he hn
  rcases mem_nodes.mp h with rfl | ⟨child, hchild, h⟩
  · exact .head
  · -- Without a type split the children of the only type stand below the head.
    rw [headNode] at hchild
    simp only [Node.children] at hchild
    split at hchild
    · obtain ⟨type, htype, hchild⟩ := List.mem_flatMap.mp hchild
      exact htypes type htype node (mem_nodes.mpr (.inr ⟨child, hchild, h⟩))
    · exact htypes child hchild node h

/-- Every node of the tree shows something of a head of the taxonomy. -/
theorem shows_of_mem_tree {tax : Taxonomy} (h : node ∈ nodesOf (tree tax sel neg)) :
    ∃ id head, tax.head? id = some head ∧ Shows sel neg head node := by
  obtain ⟨top, htop, h⟩ := mem_nodesOf.mp h
  obtain ⟨e, he, rfl⟩ := List.mem_map.mp htop
  exact ⟨e.1, e.2, Taxonomy.head?_eq_some_iff.mpr he, shows_of_mem_headNode h⟩

theorem leafNode_mem_tree {tax : Taxonomy} {id : Int} (hfound : tax.head? id = some head)
    (ht : t ∈ head.typeKeys) {dimension : Dimension}
    (hd : head.dimensions.get? d = some dimension) {v : String} {leaf : Leaf}
    (hleaf : (v, leaf) ∈ dimension.leaves.entries) (happlies : t ∈ leaf.types) :
    leafNode sel (neg.selectors head.id) head t d v leaf ∈ nodesOf (tree tax sel neg) := by
  have hmem : leafNode sel (neg.selectors head.id) head t d v leaf ∈
      (dimension.leaves.entries.filter fun e => e.2.types.contains t).map
        fun e => leafNode sel (neg.selectors head.id) head t d e.1 e.2 :=
    List.mem_map.mpr ⟨(v, leaf), List.mem_filter.mpr ⟨hleaf, List.contains_iff_mem.mpr happlies⟩, rfl⟩
  -- The dimension has a node, since a leaf of it applies.
  obtain ⟨dimNode, hdim, hchild⟩ : ∃ dimNode,
      dimNode? sel (neg.selectors head.id) head t d dimension = some dimNode ∧
        leafNode sel (neg.selectors head.id) head t d v leaf ∈ dimNode.children := by
    refine ⟨_, if_neg fun hempty => ?_, hmem⟩
    rw [List.isEmpty_iff.mp hempty] at hmem
    cases hmem
  obtain ⟨⟨t, label⟩, htype, rfl⟩ := List.mem_map.mp ht
  have hbelow : leafNode sel (neg.selectors head.id) head t d v leaf ∈ dimNode.nodes :=
    mem_nodes.mpr (.inr ⟨_, hchild, mem_nodes.mpr (.inl rfl)⟩)
  have hdims : dimNode ∈ (typeNode sel (neg.selectors head.id) head t label).children :=
    List.mem_filterMap.mpr ⟨(d, dimension), OrderedMap.get?_eq_some_iff.mp hd, hdim⟩
  have htypes : typeNode sel (neg.selectors head.id) head t label ∈ head.types.entries.map
      fun e => typeNode sel (neg.selectors head.id) head e.1 e.2 :=
    List.mem_map.mpr ⟨(t, label), htype, rfl⟩
  refine mem_nodesOf.mpr ⟨headNode sel neg head, ?_, mem_nodes.mpr (.inr ?_)⟩
  · exact List.mem_map.mpr ⟨(id, head), Taxonomy.head?_eq_some_iff.mp hfound, rfl⟩
  · rw [headNode]
    simp only [Node.children]
    split
    · exact ⟨dimNode, List.mem_flatMap.mpr ⟨_, htypes, hdims⟩, hbelow⟩
    · exact ⟨_, htypes, mem_nodes.mpr (.inr ⟨dimNode, hdims, hbelow⟩)⟩

end Showing

end Picker

end Sift
