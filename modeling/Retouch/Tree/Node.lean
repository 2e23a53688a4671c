import Retouch.Tree.Kind

/-!
# Syntax trees

A node has a kind, a span of bytes and children. Faults are nodes that stand for source code outside
the grammar, and nodes that the grammar asks for and the source code lacks.
-/

namespace Retouch

/-- A node of a syntax tree, with everything below it. -/
structure Node where
  kind : Kind
  /-- Whether the grammar gives the node a name; punctuation has none. -/
  named : Bool
  /-- Whether the source code lacks what the node stands for. -/
  missing : Bool
  /-- The part that the node is for its parent. -/
  field : Option Field
  /-- The offset of the first byte. -/
  start : Nat
  /-- The offset after the last byte. -/
  stop : Nat
  children : List Node

namespace Node

/-- A program without content, for source code of which only the absence of faults is known. -/
def program : Node :=
  ⟨.other "program", true, false, none, 0, 0, []⟩

/-- The tree of source code about which nothing is known. -/
def unknown : Node :=
  ⟨.error, true, false, none, 0, 0, []⟩

/-- The first child that is the given part of a node. -/
def child? (node : Node) (field : Field) : Option Node :=
  node.children.find? (·.field = some field)

/-- The children that the grammar gives a name. -/
def namedChildren (node : Node) : List Node :=
  node.children.filter (·.named)

/-- A named child that is no comment. -/
def isSignificant (node : Node) : Bool :=
  node.named && node.kind != .comment

/-- The first named child that is no comment. -/
def firstSignificant? (node : Node) : Option Node :=
  node.children.find? isSignificant

/-- A node that stands for a fault by itself. -/
def isFault (node : Node) : Bool :=
  node.kind == .error || node.missing

mutual

/-- The number of nodes of a tree. -/
def size : Node → Nat
  | ⟨_, _, _, _, _, _, children⟩ => 1 + sizeAll children

/-- The number of nodes of a list of trees. -/
def sizeAll : List Node → Nat
  | [] => 0
  | node :: nodes => size node + sizeAll nodes

end

mutual

/-- All nodes of a tree, each before what is below it. -/
def preorder : Node → List Node
  | node@⟨_, _, _, _, _, _, children⟩ => node :: preorderAll children

/-- All nodes of a list of trees, in order. -/
def preorderAll : List Node → List Node
  | [] => []
  | node :: nodes => preorder node ++ preorderAll nodes

end

mutual

/-- Decides whether a tree holds a fault. Parsers mark the nodes of which this holds (`has_error`);
the mark is not part of a node here, and it is assumed to say just this. -/
def hasFault : Node → Bool
  | node@⟨_, _, _, _, _, _, children⟩ => node.isFault || hasFaultAny children

/-- Decides whether one of some trees holds a fault. -/
def hasFaultAny : List Node → Bool
  | [] => false
  | node :: nodes => hasFault node || hasFaultAny nodes

end

mutual

/-- The first fault of a tree. Trees without faults are not descended into. Each level of the tree
is a call inside the one for the level above; a bound on how deep calls may be nested is outside the
model. -/
def firstFault? : Node → Option Node
  | node@⟨_, _, _, _, _, _, children⟩ => if node.isFault then some node else firstFaultAmong? children

/-- The first fault of a list of trees. -/
def firstFaultAmong? : List Node → Option Node
  | [] => none
  | node :: nodes =>
    if node.hasFault then
      match firstFault? node with
      | some fault => some fault
      | none => firstFaultAmong? nodes
    else firstFaultAmong? nodes

end

mutual

/-- What stands inside any number of parentheses, up to the first named child at each level. -/
def insideParentheses? : Node → Option Node
  | node@⟨kind, _, _, _, _, _, children⟩ =>
    if kind = .parentheses then insideFirst? children else some node

/-- What stands inside any number of parentheses around the first significant node of a list. -/
def insideFirst? : List Node → Option Node
  | [] => none
  | node :: nodes => if node.isSignificant then insideParentheses? node else insideFirst? nodes

end

end Node

end Retouch
