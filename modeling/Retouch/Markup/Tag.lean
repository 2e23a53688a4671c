import Retouch.Source.Document

/-!
# Tags

The tags, the attributes and the content of an element, as parts of its node. Fragments are elements
whose opening tag has no name; older grammars give them a kind of their own.
-/

namespace Retouch.Node

/-- The opening tag among the children of an element. -/
def openingTag? (node : Node) : Option Node :=
  if node.kind = .element then node.children.find? (·.kind = .openingTag) else none

/-- The node that holds the name and the attributes: the opening tag, or the element itself. -/
def openingTag (node : Node) : Node :=
  node.openingTag?.getD node

/-- The closing tag among the children of an element. -/
def closingTag? (node : Node) : Option Node :=
  if node.kind = .element then node.children.reverse.find? (·.kind = .closingTag) else none

/-- The name of an element. -/
def tagName? (node : Node) : Option Node :=
  let opening := node.openingTag
  if opening.kind = .openingTag ∨ opening.kind = .selfClosing then opening.child? .name else none

/-- A fragment, of the newer or the older form. -/
def isFragment (node : Node) : Bool :=
  node.kind = .fragment || node.kind = .element && node.tagName?.isNone

/-- An element that has a name. -/
def isNamedElement (node : Node) : Bool :=
  (node.kind = .element || node.kind = .selfClosing) && node.tagName?.isSome

/-- The named nodes between the tags of an element, without comments. -/
def content (node : Node) : List Node :=
  match node.kind with
  | .selfClosing => []
  | .element =>
    let inside := node.children.eraseP (·.kind = .openingTag)
    (inside.reverse.eraseP (·.kind = .closingTag)).reverse.filter isSignificant
  | _ => node.children.filter isSignificant

/-- The offsets between the opening and the closing tag of an element. -/
def contentSpan? (node : Node) : Option (Nat × Nat) :=
  match node.openingTag?, node.closingTag? with
  | some opening, some closing => some (opening.stop, closing.start)
  | _, _ => none

/-- The offset after the name, the type arguments and the last attribute of the opening tag. -/
def attributeAnchor (node : Node) : Nat :=
  let opening := node.openingTag
  match (opening.children.filter isSignificant).getLast? with
  | some last => last.stop
  | none => opening.start + 1

end Retouch.Node
