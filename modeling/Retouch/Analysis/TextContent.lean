import Retouch.Markup.Layout
import Retouch.Markup.Literal
import Retouch.Markup.Tag

/-!
# Text content

The content of an element can be edited if it is literal: text, character references, strings
between braces, and braces around nothing but comments. Literal text is collapsed run by run, where
braces end a run.
-/

namespace Retouch

/-- Why the content of an element is not literal. -/
inductive TextContent.Reason where
  | hasElementChildren
  | dynamicExpression
  deriving DecidableEq

/-- The code of a reason. -/
def TextContent.Reason.code : TextContent.Reason → String
  | .hasElementChildren => "has_element_children"
  | .dynamicExpression => "dynamic_expression"

/-- What is known about the text content of an element. -/
inductive TextContent where
  /-- Literal content, or none at all. -/
  | static (value : Text)
  /-- Content that holds elements or expressions. -/
  | dynamic (reason : TextContent.Reason) (expression : Option Text)
  deriving DecidableEq

namespace TextContent

/-- The report on the content from an offset on: `done` is rendered, and `run` is the literal text
since the last braces. -/
def ofNodes (document : Document) (stop : Nat) (done run : Text) (offset : Nat) :
    List Node → Except Defect TextContent
  | [] => do
    let gap ← document.textBetween offset stop
    return .static (trim CodePoint.isLayout (done ++ Layout.collapse (run ++ gap)))
  | node :: nodes => do
    let gap ← document.textBetween offset node.start
    match node.kind with
    | .text | .reference =>
      let value ← Reference.resolve (← document.text node)
      ofNodes document stop done (run ++ gap ++ value) node.stop nodes
    | .container =>
      match node.firstSignificant?.bind Node.insideParentheses? with
      | none => ofNodes document stop (done ++ Layout.collapse (run ++ gap)) [] node.stop nodes
      | some inner =>
        if inner.kind = .string then
          let value ← document.stringValue inner
          ofNodes document stop (done ++ Layout.collapse (run ++ gap) ++ value) [] node.stop nodes
        else return .dynamic .dynamicExpression (some (← document.text node))
    | _ => return .dynamic .dynamicExpression (some (← document.text node))

/-- The report on the text content of an element. -/
def ofElement (document : Document) (node : Node) : Except Defect TextContent :=
  match node.content, node.contentSpan? with
  | [], _ => .ok (.static [])
  | _, none => .ok (.static [])
  | nodes, some (start, stop) =>
    if nodes.any (·.kind.isMarkup) then .ok (.dynamic .hasElementChildren none)
    else ofNodes document stop [] [] start nodes

end TextContent

end Retouch
