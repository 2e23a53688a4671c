import Retouch.Tree.Node

/-!
# Syntax trees as tables

A tree is handed over as a table with a row for each node, a parent before its children. A
collection of such trees is looked up by the language and the fingerprint of the source code that
they belong to.
-/

namespace Retouch

/-- A node as a row of a table. -/
structure Row where
  /-- The number of the parent's row. -/
  parent : Option Nat
  kind : Kind
  named : Bool
  missing : Bool
  field : Option Field
  start : Nat
  stop : Nat

namespace Row

/-- The node of a row with the given children. -/
def toNode (row : Row) (children : List Node) : Node :=
  ⟨row.kind, row.named, row.missing, row.field, row.start, row.stop, children⟩

/-- Puts the node of a row before the trees that have no parent yet, taking its children among
them. -/
def attach (row : Row × Nat) (orphans : List (Option Nat × Node)) : List (Option Nat × Node) :=
  let (children, others) := orphans.partition (·.1 == some row.2)
  (row.1.parent, row.1.toNode (children.map (·.2))) :: others

end Row

/-- The tree of a table. -/
def Node.ofRows? (rows : List Row) : Option Node :=
  ((rows.zipIdx.foldr Row.attach []).find? (·.1 == none)).map (·.2)

end Retouch
