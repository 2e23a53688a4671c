import Retouch.Edit.Change
import Retouch.Model.Report
import Retouch.Settings
import Retouch.Store.Basic

/-!
# The editor

Three operations on elements that are named by identifiers: analysing one, updating its class name
and its text, and deleting it. Each reads and parses the file anew, and a change is written in one
go or not at all.
-/

namespace Retouch

/-- An editor: its settings, and what gives source code its syntax tree. -/
structure Editor where
  settings : Settings
  grammar : Grammar

/-- A file that an identifier leads to: the path, the language and the position in it. -/
structure Target where
  location : Location
  path : Path
  language : Language

/-- The language of the file at a path. -/
def Language.ofPath (path : Path) : Except Failure Language :=
  match Language.ofExtension? path.extension with
  | some language => .ok language
  | none => .error (.unsupported (Text.toLower path.extension))

namespace Editor

variable {σ : Type} [Store σ]

/-- The file that an identifier leads to, which has to lie below the root. -/
def target (store : σ) (root : Path) (id : Text) : Except Failure Target := do
  let location ← Location.decode id
  let root ← Store.resolve store root
  let path ← Store.resolve store (root.join (Path.ofText location.path))
  if !root.isWithin path then throw (.outsideRoot location.path root)
  let language ← Language.ofPath path
  return ⟨location, path, language⟩

/-- The parsed content of a file. -/
def load (editor : Editor) (store : σ) (target : Target) : Except Failure Document :=
  match Store.read store target.path with
  | .error error => .error (.unreadable target.path error)
  | .ok source =>
    match Utf8.decode source with
    | .error error => .error (.notUtf8 target.path error)
    | .ok _ => (Document.parse editor.grammar target.language source).mapError (.unparsable (some target.path))

/-- The element of a document at a location. -/
def locate (editor : Editor) (document : Document) (location : Location) (fragments : Bool) :
    Except Failure Element :=
  Element.locate document
    ⟨location.line, location.column, editor.settings.columnTolerance, editor.settings.nearbyLines, fragments⟩

/-- The file, the document and the element that an identifier names. -/
def find (editor : Editor) (store : σ) (root : Path) (id : Text) (fragments : Bool) :
    Except Failure (Target × Document × Element) := do
  let target ← target store root id
  let document ← editor.load store target
  let element ← editor.locate document target.location fragments
  return (target, document, element)

/-- The edits that give an element a class name. -/
def classNameEdits (document : Document) (element : Element) :
    Option Text → Except Failure (List Edit)
  | none => .ok []
  | some requested => do
    match ← ClassName.ofElement document element.node with
    | .dynamic _ _ _ _ => throw (.dynamicClassName element.tag)
    | .static current =>
      if current = requested then return []
      else if requested.isEmpty then element.removeAttribute document ClassName.attributeName
      else element.setAttribute document ClassName.attributeName requested

/-- The edits that give an element a text. -/
def textEdits (document : Document) (element : Element) : Option Text → Except Failure (List Edit)
  | none => .ok []
  | some requested => do
    match ← TextContent.ofElement document element.node with
    | .dynamic reason _ => throw (.dynamicText element.tag reason)
    | .static current =>
      if current = Text.strip requested then return [] else element.setContent requested

/-- The edits that updates of an element ask for. -/
def updateEdits (document : Document) (element : Element) (updates : Updates) :
    Except Failure (List Edit) := do
  let first ← classNameEdits document element updates.className
  let second ← textEdits document element updates.textContent
  return first ++ second

/-- The edits that delete an element. -/
def deleteEdits (document : Document) (element : Element) : Except Failure (List Edit) :=
  match Placement.ofPlace document element.place with
  | .dynamic reason => .error (.unsafeDeletion reason)
  | .static => element.remove document

/-- The source code after edits, which has to parse if the settings ask for it. -/
def output (editor : Editor) (path : Path) (document : Document) (edits : List Edit) :
    Except Failure Bytes := do
  let bytes ← Edit.render document.source edits
  if editor.settings.verifyOutput then
    match Document.parse editor.grammar document.language bytes with
    | .error fault => throw (.outputUnparsable path fault)
    | .ok _ => return bytes
  else return bytes

/-- Carries out edits and writes the file. -/
def commit (editor : Editor) (store : σ) (path : Path) (document : Document) (edits : List Edit) :
    MutationReport × σ :=
  match editor.output path document edits with
  | .error failure => (.failed failure, store)
  | .ok bytes =>
    match Store.write store path bytes with
    | (.error error, store) => (.failed (.unwritable path error), store)
    | (.ok (), store) => (.done path true, store)

/-- Reports what can be edited about an element. -/
def analyze (editor : Editor) (store : σ) (root : Path) (id : Text) : AnalysisReport :=
  let report : Except Failure AnalysisReport := do
    let (_, document, element) ← editor.find store root id false
    let className ← ClassName.ofElement document element.node
    let textContent ← TextContent.ofElement document element.node
    return .found id element.tag className textContent (Placement.ofPlace document element.place)
  match report with
  | .ok report => report
  | .error failure => .failed id failure

/-- Updates an element. -/
def update (editor : Editor) (store : σ) (root : Path) (id : Text) (updates : Updates) :
    MutationReport × σ :=
  let plan : Except Failure (Target × Document × List Edit) := do
    let (target, document, element) ← editor.find store root id false
    return (target, document, ← updateEdits document element updates)
  match plan with
  | .error failure => (.failed failure, store)
  | .ok (target, document, edits) =>
    if edits.isEmpty then (.done target.path false, store)
    else editor.commit store target.path document edits

/-- Deletes an element. -/
def delete (editor : Editor) (store : σ) (root : Path) (id : Text) : MutationReport × σ :=
  let plan : Except Failure (Target × Document × List Edit) := do
    let (target, document, element) ← editor.find store root id true
    return (target, document, ← deleteEdits document element)
  match plan with
  | .error failure => (.failed failure, store)
  | .ok (target, document, edits) => editor.commit store target.path document edits

end Editor

end Retouch
