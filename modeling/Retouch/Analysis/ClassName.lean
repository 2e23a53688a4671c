import Retouch.Markup.Attribute
import Retouch.Markup.Literal

/-!
# Class names

A class name can be edited if it is a literal. An expression is reported as it is written; of a
choice between two values the condition and both values are reported too.
-/

namespace Retouch

/-- What is known about a class name. -/
inductive ClassName where
  /-- A literal, or no class name at all. -/
  | static (value : Text)
  /-- The value of an expression. -/
  | dynamic (expression condition trueValue falseValue : Option Text)
  deriving DecidableEq

namespace ClassName

/-- The literal value of a branch, or else the branch as it is written. -/
def branch (document : Document) : Option Node → Except Defect (Option Text)
  | none => .ok none
  | some node => do
    match ← document.literalValue? node with
    | some value => return some value
    | none => return some (← document.text node)

/-- The report on an expression. -/
def ofExpression (document : Document) (node : Node) : Except Defect ClassName := do
  let expression ← document.text node
  match node.insideParentheses? with
  | some choice =>
    if choice.kind = .ternary then
      let condition ← branch document (choice.child? .condition)
      let trueValue ← branch document (choice.child? .consequence)
      let falseValue ← branch document (choice.child? .alternative)
      return .dynamic (some expression) condition trueValue falseValue
    else return .dynamic (some expression) none none none
  | none => return .dynamic (some expression) none none none

/-- The report on the value of an attribute. -/
def ofValue (document : Document) (value : Node) : Except Defect ClassName :=
  match value.kind with
  | .string => return .static (← document.stringValue value)
  | .container =>
    match value.firstSignificant? with
    | none => return .dynamic none none none none
    | some inner => do
      match ← document.literalValue? inner with
      | some text => return .static text
      | none => ofExpression document inner
  | _ => return .dynamic (some (← document.text value)) none none none

/-- The report on an attribute. One without a value is a truth value, no text. -/
def ofAttribute (document : Document) : Option Attribute → Except Defect ClassName
  | none => .ok (.static [])
  | some attr =>
    match attr.value? with
    | none => return .dynamic (some (← document.text attr.node)) none none none
    | some value => ofValue document value

/-- The name of the attribute that holds class names. -/
def attributeName : Text := "className"

/-- The report on the class name of an element. -/
def ofElement (document : Document) (node : Node) : Except Defect ClassName := do
  ofAttribute document (← node.attribute? document attributeName)

end ClassName

end Retouch
