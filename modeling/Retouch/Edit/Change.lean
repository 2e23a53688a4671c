import Retouch.Edit.Basic
import Retouch.Edit.Literal
import Retouch.Element
import Retouch.Markup.Attribute

/-!
# Changes of elements

The edits that set or remove an attribute, set the text between the tags, or remove an element. Each
touches as little as possible, so that the layout of everything else stays.
-/

namespace Retouch.Element

/-- The first code point of a literal, as the quote to keep. -/
def quoteOf (document : Document) (value : Node) : Except Failure Text := do
  if value.kind = .string then
    match ← document.text value with
    | [] => throw (.unexpected .emptyLiteral)
    | quote :: _ => return [quote]
  else return "\""

/-- Sets an attribute: the value of the first attribute with the name is replaced, and a new
attribute comes last in the tag. -/
def setAttribute (document : Document) (element : Element) (name value : Text) :
    Except Failure (List Edit) := do
  match ← element.node.attribute? document name with
  | none =>
    let anchor := element.node.attributeAnchor
    return [← Edit.replace anchor anchor (" " ++ name ++ "=" ++ Literal.attributeValue "\"" value)]
  | some attr =>
    match attr.value? with
    | none =>
      return [← Edit.replace attr.node.stop attr.node.stop ("=" ++ Literal.attributeValue "\"" value)]
    | some current =>
      let quote ← quoteOf document current
      return [← Edit.replace current.start current.stop (Literal.attributeValue quote value)]

/-- Removes the first attribute with a name, and the space before it. -/
def removeAttribute (document : Document) (element : Element) (name : Text) :
    Except Failure (List Edit) := do
  match ← element.node.attribute? document name with
  | none => return []
  | some attr =>
    let start := match attr.previous with
      | some previous => previous.stop
      | none => attr.node.start
    return [⟨start, attr.node.stop, []⟩]

/-- Sets the text between the tags of an element. One that closes itself gets a closing tag, unless
there is no text. -/
def setContent (element : Element) (text : Text) : Except Failure (List Edit) := do
  let content := if (Text.strip text).isEmpty then [] else Literal.content text
  match element.node.contentSpan? with
  | some (start, stop) => return [← Edit.replace start stop content]
  | none =>
    if element.node.kind ≠ .selfClosing then throw (.noPlaceForText element.tag)
    else if content.isEmpty then return []
    else
      return [← Edit.replace element.node.attributeAnchor element.node.stop
        (">" ++ content ++ "</" ++ element.tag ++ ">")]

/-- A byte that stands for a space or a tab. -/
def isHorizontalSpace (b : UInt8) : Bool :=
  b == 0x20 || b == 0x09

/-- A byte that stands for a space, a tab or a line end. -/
def isLayoutByte (b : UInt8) : Bool :=
  isHorizontalSpace b || b == 0x0D || b == 0x0A

/-- A byte that stands for an ASCII letter or digit. -/
def isWordByte (b : UInt8) : Bool :=
  (0x30 ≤ b && b ≤ 0x39) || (0x41 ≤ b && b ≤ 0x5A) || (0x61 ≤ b && b ≤ 0x7A)

/-- Removes a span, and the whole lines on which nothing else stands. -/
def removeSpan (source : Bytes) (start stop : Nat) : Edit :=
  let lineStart := Bytes.lineStart source start
  let lineStop := Bytes.lineStop source stop
  if (Bytes.slice source lineStart start).all isHorizontalSpace &&
      (Bytes.slice source stop lineStop).all isLayoutByte then
    ⟨lineStart, lineStop, []⟩
  else ⟨start, stop, []⟩

/-- A node with the parentheses around it, and what is above them. -/
def withParentheses (node : Node) : (above : List Node) → Node × Option Node
  | [] => (node, none)
  | parent :: above =>
    if parent.kind = .parentheses then withParentheses parent above else (node, some parent)

/-- The expression that renders nothing, kept apart from a word before it where the grammar leaves
no space of its own. -/
def emptyExpression (source : Bytes) (target : Node) (parent : Option Node) : Bytes :=
  let empty : Bytes := [0x6E, 0x75, 0x6C, 0x6C]
  match parent with
  | some parent =>
    if (parent.kind = .returnStatement ∨ parent.kind = .function .arrow) ∧
        (Bytes.slice source (target.start - 1) target.start).any isWordByte then
      0x20 :: empty
    else empty
  | none => empty

/-- Removes an element. Among the children of another one nothing is left in its place; elsewhere an
expression that renders nothing. -/
def remove (document : Document) (element : Element) : Except Failure (List Edit) :=
  let source := document.source
  let node := element.node
  match element.place.ancestors with
  | [] => .error .rootRemoval
  | parent :: above =>
    if parent.kind.isMarkup then .ok [removeSpan source node.start node.stop]
    else if parent.kind = .container ∧ above.head?.any (·.kind.isMarkup) then
      .ok [removeSpan source parent.start parent.stop]
    else
      let (target, outer) := withParentheses node (parent :: above)
      .ok [⟨target.start, target.stop, emptyExpression source target outer⟩]

end Retouch.Element
