import Mathlib
import Retouch.Tree.Place

/-!
# Nodes of a tree

The nodes of a tree are its root and the nodes of its children's trees. From this the search for
faults is a question about single nodes (`Node.hasFault_iff`), being below another node is
transitive (`Node.mem_preorder_trans`), and the places that are visited with a stack are places of
nodes of the tree (`Place.node_mem_preorder`), with nodes of the tree above them
(`Place.Of.ancestor`). Whether two trees are the same can be decided.
-/

namespace Retouch

namespace Node

/-- What holds of a node whenever it holds of its children holds of every node. -/
@[elab_as_elim]
theorem childrenInduction {motive : Node → Prop}
    (step : ∀ node : Node, (∀ child ∈ node.children, motive child) → motive node) (node : Node) :
    motive node :=
  @Node.rec motive (fun nodes => ∀ child ∈ nodes, motive child)
    (fun _ _ _ _ _ _ _ ih => step _ ih) nofun
    (fun _ _ ihHead ihTail child h => by
      cases h with
      | head => exact ihHead
      | tail _ h => exact ihTail child h)
    node

mutual

/-- Decides whether two trees are the same. -/
def decEq : (a b : Node) → Decidable (a = b)
  | ⟨kind, named, missing, field, start, stop, children⟩,
      ⟨kind', named', missing', field', start', stop', children'⟩ =>
    match decEqAll children children' with
    | .isTrue same =>
      decidable_of_iff (kind = kind' ∧ named = named' ∧ missing = missing' ∧ field = field' ∧
        start = start' ∧ stop = stop') (by subst same; simp)
    | .isFalse differ => .isFalse (by simp [differ])

/-- Decides whether two lists of trees are the same. -/
def decEqAll : (as bs : List Node) → Decidable (as = bs)
  | [], [] => .isTrue rfl
  | [], _ :: _ => .isFalse nofun
  | _ :: _, [] => .isFalse nofun
  | a :: as, b :: bs =>
    match decEq a b, decEqAll as bs with
    | .isTrue same, .isTrue rest => .isTrue (by rw [same, rest])
    | .isFalse differ, _ => .isFalse (by simp [differ])
    | _, .isFalse differ => .isFalse (by simp [differ])

end

instance : DecidableEq Node := decEq

/-- A tree lists its root before the nodes of its children. -/
lemma preorder_eq (node : Node) : node.preorder = node :: preorderAll node.children := by
  cases node
  rw [preorder]

/-- The nodes of a list of trees are the nodes of its trees. -/
lemma mem_preorderAll {node : Node} {nodes : List Node} :
    node ∈ preorderAll nodes ↔ ∃ child ∈ nodes, node ∈ child.preorder := by
  induction nodes with
  | nil => simp [preorderAll]
  | cons child nodes ih => simp [preorderAll, ih]

/-- The nodes of two lists of trees stand one after the other. -/
lemma preorderAll_append (xs ys : List Node) :
    preorderAll (xs ++ ys) = preorderAll xs ++ preorderAll ys := by
  induction xs with
  | nil => rfl
  | cons x xs ih => simp [preorderAll, ih]

/-- A node of a tree is its root or a node of the tree of a child. -/
lemma mem_preorder {node root : Node} :
    node ∈ root.preorder ↔ node = root ∨ ∃ child ∈ root.children, node ∈ child.preorder := by
  rw [preorder_eq, List.mem_cons, mem_preorderAll]

/-- The root is a node of its tree. -/
lemma self_mem_preorder (node : Node) : node ∈ node.preorder :=
  mem_preorder.2 (.inl rfl)

/-- The nodes of a child's tree are nodes of the tree. -/
lemma mem_preorder_of_child {node child root : Node} (mem : child ∈ root.children)
    (below : node ∈ child.preorder) : node ∈ root.preorder :=
  mem_preorder.2 (.inr ⟨child, mem, below⟩)

/-- The nodes of a subtree are nodes of the tree. -/
lemma mem_preorder_trans {node middle root : Node} (lower : node ∈ middle.preorder)
    (upper : middle ∈ root.preorder) : node ∈ root.preorder := by
  induction root using childrenInduction with
  | step root ih =>
    rcases mem_preorder.1 upper with rfl | ⟨child, mem, upper⟩
    · exact lower
    · exact mem_preorder_of_child mem (ih child mem upper)

/-- Some trees hold a fault if one of them does. -/
lemma hasFaultAny_iff {nodes : List Node} :
    hasFaultAny nodes = true ↔ ∃ child ∈ nodes, child.hasFault = true := by
  induction nodes with
  | nil => simp [hasFaultAny]
  | cons child nodes ih => simp [hasFaultAny, ih]

/-- A tree holds a fault exactly if one of its nodes is a fault. -/
lemma hasFault_iff (root : Node) :
    root.hasFault = true ↔ ∃ node ∈ root.preorder, node.isFault = true := by
  induction root using childrenInduction with
  | step root ih =>
    have unfolded : root.hasFault = (root.isFault || hasFaultAny root.children) := by
      cases root
      rw [hasFault]
    rw [unfolded, Bool.or_eq_true, hasFaultAny_iff]
    constructor
    · rintro (fault | ⟨child, mem, fault⟩)
      · exact ⟨root, self_mem_preorder root, fault⟩
      · obtain ⟨node, below, fault⟩ := (ih child mem).1 fault
        exact ⟨node, mem_preorder_of_child mem below, fault⟩
    · rintro ⟨node, below, fault⟩
      rcases mem_preorder.1 below with rfl | ⟨child, mem, below⟩
      · exact .inl fault
      · exact .inr ⟨child, mem, (ih child mem).2 ⟨node, below, fault⟩⟩

end Node

deriving instance DecidableEq for Place

namespace Place

/-- The nodes at the places of a node's children are its children. -/
lemma map_node_children (place : Place) : place.children.map (·.node) = place.node.children := by
  simp [children, Function.comp_def]

/-- Visiting with a stack meets the nodes of the trees on it in their order, up to the number of
steps. -/
lemma map_node_visit (steps : Nat) (stack : List Place) :
    (visit steps stack).map (·.node) = (Node.preorderAll (stack.map (·.node))).take steps := by
  induction steps generalizing stack with
  | zero => simp [visit]
  | succ steps ih =>
    cases stack with
    | nil => simp [visit, Node.preorderAll]
    | cons place stack =>
      simp [visit, ih, Node.preorderAll, Node.preorder_eq, Node.preorderAll_append,
        map_node_children]

/-- The places of a tree are places of its nodes. -/
lemma node_mem_preorder {place : Place} {root : Node} (mem : place ∈ all root) :
    place.node ∈ root.preorder := by
  have listed : place.node ∈ (all root).map (·.node) := List.mem_map_of_mem mem
  rw [all, map_node_visit] at listed
  simpa [Place.root, Node.preorderAll] using List.mem_of_mem_take listed

/-- The places of a tree are its root and the places of the children of its places. -/
inductive Of (root : Node) : Place → Prop where
  | root :
    Of root (Place.root root)
  | child {place child : Place} :
    Of root place →
    child ∈ place.children →
    Of root child

/-- A walk from places of a tree visits places of the tree. -/
lemma of_mem_visit {root : Node} {place : Place} {steps : Nat} {stack : List Place}
    (start : ∀ other ∈ stack, Of root other) (mem : place ∈ visit steps stack) : Of root place := by
  induction steps generalizing stack with
  | zero => cases mem
  | succ steps ih =>
    cases stack with
    | nil => cases mem
    | cons first stack =>
      have here := start first List.mem_cons_self
      rcases List.mem_cons.1 mem with rfl | later
      · exact here
      · apply ih _ later
        intro other listed
        rcases List.mem_append.1 listed with child | kept
        · exact .child here child
        · exact start other (List.mem_cons_of_mem first kept)

/-- The places that are listed for a tree are places of it. -/
lemma of_mem_all {root : Node} {place : Place} (mem : place ∈ all root) : Of root place := by
  apply of_mem_visit _ mem
  intro other listed
  cases List.mem_singleton.1 listed
  exact .root

/-- Above a child is its parent, and then what is above that. -/
lemma ancestors_of_mem_children {place child : Place} (mem : child ∈ place.children) :
    child.node ∈ place.node.children ∧ child.ancestors = place.node :: place.ancestors := by
  obtain ⟨⟨node, i⟩, listed, rfl⟩ := List.mem_map.1 mem
  exact ⟨List.fst_mem_of_mem_zipIdx listed, rfl⟩

/-- The node at a place of a tree is one of the tree. -/
lemma Of.node_mem {root : Node} {place : Place} (of : Of root place) :
    place.node ∈ root.preorder := by
  induction of with
  | root => exact root.self_mem_preorder
  | @child place child _ mem ih =>
    have below :=
      Node.mem_preorder_of_child (ancestors_of_mem_children mem).1 child.node.self_mem_preorder
    exact Node.mem_preorder_trans below ih

/-- The nodes above a place are nodes of the tree, and the node at the place is below each of
them. -/
lemma Of.ancestor {root node : Node} {place : Place} (of : Of root place)
    (above : node ∈ place.ancestors) : node ∈ root.preorder ∧ place.node ∈ node.preorder := by
  induction of with
  | root => cases above
  | @child place child of mem ih =>
    obtain ⟨held, same⟩ := ancestors_of_mem_children mem
    have below := Node.mem_preorder_of_child held child.node.self_mem_preorder
    rw [same] at above
    rcases List.mem_cons.1 above with rfl | above
    · exact ⟨of.node_mem, below⟩
    · obtain ⟨listed, inside⟩ := ih above
      exact ⟨listed, Node.mem_preorder_trans below inside⟩

/-- Nothing is above the root alone. -/
lemma Of.eq_root {root : Node} {place : Place} (of : Of root place) (top : place.ancestors = []) :
    place = Place.root root := by
  cases of with
  | root => rfl
  | child _ mem =>
    rw [(ancestors_of_mem_children mem).2] at top
    cases top

end Place

end Retouch
