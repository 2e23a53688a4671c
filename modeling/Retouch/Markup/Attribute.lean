import Retouch.Markup.Tag

/-!
# Attributes

An attribute has a name and, after an equals sign, possibly a value.
-/

namespace Retouch

/-- An attribute and the node before it in its tag. -/
structure Attribute where
  node : Node
  previous : Option Node

namespace Attribute

/-- The attributes among the children of a tag, given the child before them. -/
def amongChildren (previous : Option Node) : List Node → List Attribute
  | [] => []
  | node :: nodes =>
    let rest := amongChildren (some node) nodes
    if node.kind = .attribute then ⟨node, previous⟩ :: rest else rest

/-- The name of an attribute. -/
def name (document : Document) (attr : Attribute) : Except Defect Text :=
  match attr.node.namedChildren with
  | [] => .ok []
  | name :: _ => document.text name

/-- The value of an attribute: the first node with a name after the equals sign. -/
def value? (attr : Attribute) : Option Node :=
  (attr.node.children.dropWhile (·.kind ≠ .equals)).find? fun node =>
    node.kind ≠ .equals ∧ node.isSignificant

/-- The first attribute of a list with a name. -/
def find? (document : Document) (name : Text) : List Attribute → Except Defect (Option Attribute)
  | [] => .ok none
  | attr :: rest => do
    if (← attr.name document) = name then return some attr
    find? document name rest

end Attribute

namespace Node

/-- The attributes of an element. -/
def attributes (node : Node) : List Attribute :=
  Attribute.amongChildren none node.openingTag.children

/-- The first attribute of an element with a name. -/
def attribute? (document : Document) (node : Node) (name : Text) : Except Defect (Option Attribute) :=
  Attribute.find? document name node.attributes

end Node

end Retouch
