import Retouch.Tree.Node

/-!
# Places in a syntax tree

A place is a node together with the way to it from the root, so that parents and siblings are known
and equal nodes at different places stay apart.
-/

namespace Retouch

/-- A node and its ancestors, the parent first, each with the number of the child on the way. -/
structure Place where
  node : Node
  trail : List (Node × Nat)

namespace Place

/-- The place of a root. -/
def root (node : Node) : Place :=
  ⟨node, []⟩

/-- The numbers of the children on the way to a place, the last first: what tells places of one tree
apart. -/
def path (place : Place) : List Nat :=
  place.trail.map (·.2)

/-- The nodes above a place, the parent first. -/
def ancestors (place : Place) : List Node :=
  place.trail.map (·.1)

/-- The places of the children. -/
def children (place : Place) : List Place :=
  place.node.children.zipIdx.map fun (node, i) => ⟨node, (place.node, i) :: place.trail⟩

/-- Visits at most `steps` places, taking the next from a stack and putting its children in its
stead. -/
def visit : (steps : Nat) → (stack : List Place) → List Place
  | 0, _ => []
  | _ + 1, [] => []
  | steps + 1, place :: stack => place :: visit steps (place.children ++ stack)

/-- All places of a tree, each before those below it. -/
def all (node : Node) : List Place :=
  visit node.size [root node]

/-- The places of the elements and fragments of a tree, in document order. -/
def markup (node : Node) : List Place :=
  (all node).filter (·.node.kind.isMarkup)

end Place

end Retouch
