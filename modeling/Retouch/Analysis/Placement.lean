import Retouch.Source.Document

/-!
# Placement of elements

An element is placed statically if removing it removes exactly one rendered instance. What surrounds
it, up to the nearest function or enclosing element, decides: choices, calls of `map` and other
expressions of several operands place it dynamically. A function handed to `map` counts as such a
call.
-/

namespace Retouch

/-- Why an element is placed dynamically. -/
inductive Placement.Reason where
  | conditional
  | mapCall
  | complexParent
  deriving DecidableEq

/-- The code of a reason. -/
def Placement.Reason.code : Placement.Reason → String
  | .conditional => "conditional_expression"
  | .mapCall => "map_expression"
  | .complexParent => "complex_parent"

/-- Whether an element is rendered exactly once where it stands. -/
inductive Placement where
  | static
  | dynamic (reason : Placement.Reason)
  deriving DecidableEq

namespace Placement

/-- The bytes of an ASCII word. -/
def word (s : String) : Bytes :=
  s.toList.map fun c => UInt8.ofNat c.toNat

/-- A call of a method named `map`. -/
def isMapCall (document : Document) (node : Node) : Bool :=
  node.kind = .call &&
    match (node.child? .function).bind Node.insideParentheses? with
    | some callee =>
      callee.kind = .member &&
        match callee.child? .property with
        | some property => document.bytes property = word "map"
        | none => false
    | none => false

/-- Decides from the nodes above a function whether it is an argument of a call of `map`. -/
def isMapArgument (document : Document) : List Node → Bool
  | arguments :: call :: _ => arguments.kind = .arguments && isMapCall document call
  | _ => false

/-- An expression that evaluates its right operand only for some values of the left. -/
def isLogical (document : Document) (node : Node) : Bool :=
  node.kind = .binary &&
    match node.child? .operator with
    | some operator => [word "&&", word "||", word "??"].contains (document.bytes operator)
    | none => false

/-- What a surrounding node says against removing an element. -/
def reason? (document : Document) (node : Node) : Option Reason :=
  if node.kind = .ternary then some .conditional
  else if isMapCall document node then some .mapCall
  else if node.kind = .sequence ∨ node.kind = .array ∨ isLogical document node then some .complexParent
  else none

/-- Enclosing elements and tags, beyond which nothing matters. -/
def isBoundary (node : Node) : Bool :=
  node.kind.isMarkup || node.kind == .openingTag

/-- The reasons that the nodes above an element give, the parent first. -/
def reasons (document : Document) : List Node → List Reason
  | [] => []
  | node :: above =>
    if node.kind.isFunction then if isMapArgument document above then [.mapCall] else []
    else if isBoundary node then []
    else (reason? document node).toList ++ reasons document above

/-- The placement that follows from reasons: choices come first, then calls of `map`. -/
def ofReasons (found : List Reason) : Placement :=
  match [Reason.conditional, .mapCall, .complexParent].find? found.contains with
  | some reason => .dynamic reason
  | none => .static

/-- The placement of a node. -/
def ofPlace (document : Document) (place : Place) : Placement :=
  ofReasons (reasons document place.ancestors)

end Placement

end Retouch
