import Retouch.Session

/-!
# The editor as tools

The operations as tools with named arguments, for callers that find their tools by name.
-/

namespace Retouch.Tools

/-- The operations that are offered as tools. -/
inductive Tool where
  | analyze
  | delete
  | update
  deriving DecidableEq

namespace Tool

/-- All tools, in the order of their names. -/
def all : List Tool := [.analyze, .delete, .update]

/-- The name of a tool. -/
def name : Tool → String
  | .analyze => "analyze_element"
  | .delete => "delete_element"
  | .update => "update_element"

/-- The tool that has a name. -/
def ofName? (name : String) : Option Tool :=
  all.find? (·.name = name)

/-- The arguments that a tool takes besides the identifier. -/
def options : Tool → List String
  | .update => ["class_name", "text_content"]
  | _ => []

end Tool

/-- What comes of a call. -/
inductive Outcome where
  | answer (value : Value)
  /-- An argument is of the wrong type. -/
  | invalid (issues : List Issue)
  /-- The arguments are not those of the tool. -/
  | mismatch

/-- The answer to an update that asks for nothing. -/
def nothingToUpdate : Value :=
  .object [
    ("success", .bool false),
    ("error", .ofString "Either 'class_name' or 'text_content' must be provided.")]

variable {σ : Type} [Store σ]

/-- Calls a tool with the identifier of an element and further arguments. -/
def run (editor : Editor) (root : Path) (store : σ) (id : Value) (arguments : Fields) :
    Tool → Outcome × σ
  | .analyze =>
    match editor.callAnalyze store root id with
    | .ok report => (.answer (report.dump .answer), store)
    | .error issues => (.invalid issues, store)
  | .delete =>
    let (report, after) := editor.callDelete store root id
    (.answer (report.dump .answer), after)
  | .update =>
    let requested := arguments.filter fun (key, value) => key ≠ Editor.idKey ∧ !value.isNull
    if requested.isEmpty then (.answer nothingToUpdate, store)
    else match Updates.check (.object requested) with
      | .invalid issues => (.invalid issues, store)
      | .valid _ =>
        let (report, after) := editor.callUpdate store root id (.object requested)
        (.answer (report.dump .answer), after)

/-- Calls a tool with named arguments. -/
def call (editor : Editor) (root : Path) (store : σ) (tool : Tool) (arguments : Fields) : Outcome × σ :=
  let known := Editor.idKey :: tool.options
  match arguments.lookup Editor.idKey with
  | none => (.mismatch, store)
  | some id =>
    if arguments.all fun (key, _) => known.contains key then run editor root store id arguments tool
    else (.mismatch, store)

end Retouch.Tools
