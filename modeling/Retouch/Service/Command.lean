import Retouch.Console.Markup
import Retouch.Console.Table
import Retouch.Model.Json
import Retouch.Session

/-!
# The command line

A command names an operation, an element and options. Its output is text for a console: a table or a
line for people, or the report as JSON.
-/

namespace Retouch

/-- What stops the program in the middle of a command. -/
inductive Crash where
  | settings (error : SettingsError)
  /-- A path or the name of an element is taken for console markup that is not in order. -/
  | markup (fault : Console.Fault)
  /-- A report cannot be written because it holds a lone surrogate. -/
  | unencodable
  /-- A line cannot be printed because it holds a lone surrogate. -/
  | unprintable

/-- What a command leaves behind: its exit status, what it has printed, and what has stopped it. -/
structure Outcome where
  status : Nat
  output : Text
  crash : Option Crash

namespace Command

/-- The operations of the command line. -/
inductive Operation where
  | analyze
  | update
  | delete
  deriving DecidableEq

/-- The names of the operations. -/
def operations : List (Text × Operation) := [
  ("analyze", .analyze), ("update", .update), ("delete", .delete)]

/-- The options of an operation. -/
structure Options where
  root : Option Text
  json : Bool
  className : Option Text
  text : Option Text
  help : Bool

/-- No options. -/
def Options.none : Options :=
  ⟨.none, false, .none, .none, false⟩

/-- The options that take a value, and what it changes. -/
def Options.set? (operation : Operation) (name value : Text) (options : Options) : Option Options :=
  if name = Text.ofString "--root" then some { options with root := some value }
  else if operation = .update ∧ name = Text.ofString "--class-name" then
    some { options with className := some value }
  else if operation = .update ∧ name = Text.ofString "--text" then some { options with text := some value }
  else .none

/-- The options that take no value, and what they change. -/
def Options.switch? (name : Text) (options : Options) : Option Options :=
  if name = Text.ofString "--json" then some { options with json := true }
  else if name = Text.ofString "--help" ∨ name = Text.ofString "-h" then some { options with help := true }
  else .none

/-- Decides whether an argument is an option. A dash alone is none. -/
def isOption (argument : Text) : Bool :=
  argument.head? = some (CodePoint.ofChar '-') && 1 < argument.length

/-- The arguments of an operation: the operands and the options. Nothing comes of unknown options,
missing values and values where none belongs. -/
def readArguments? (operation : Operation) (operands : List Text) (options : Options) :
    List Text → Option (List Text × Options)
  | [] => some (operands, options)
  | argument :: rest =>
    if argument = Text.ofString "--" then some (operands ++ rest, options)
    else if !isOption argument then readArguments? operation (operands ++ [argument]) options rest
    else
      let name := argument.takeWhile fun (c : CodePoint) => c != '='
      if name.length < argument.length then
        match options.set? operation name (argument.drop (name.length + 1)) with
        | some options => readArguments? operation operands options rest
        | .none => .none
      else match options.switch? name with
        | some options => readArguments? operation operands options rest
        | .none =>
          match rest with
          | value :: rest =>
            match options.set? operation name value with
            | some options => readArguments? operation operands options rest
            | .none => .none
          | [] => .none

/-- A command that is not of the form of one. -/
def usageError : Outcome := ⟨2, [], none⟩

/-- A command that only asks for help. -/
def helpAnswer : Outcome := ⟨0, [], none⟩

/-- The lines of a message, if they can be printed. -/
def printed (message : Text) : Except Crash Text :=
  let lines := Console.message message
  if Text.isScalar lines then .ok lines else .error .unprintable

/-- The lines that report a failure. -/
def errorLines (message : Option Text) : Except Crash Text :=
  printed ((Console.render ("[red]Error:[/red] " ++
    Console.escape (message.getD "unknown error"))).toOption.getD [])

/-- A value as tables show it: its fields with quoted texts. -/
def describe : Value → Text
  | .object fields => Text.join " " (fields.map fun (name, value) => Text.ofString name ++ "=" ++
      match value with
      | .text t => Text.shown t
      | _ => [])
  | _ => []

/-- The style of tables. -/
def tableStyle : Style := ⟨.snake, false⟩

/-- A row of a table whose content is marked up. -/
def tableRow (label : String) (content : Text) : Except Crash Console.TableRow :=
  match Console.render content with
  | .ok shown => .ok ⟨Text.ofString label, shown⟩
  | .error fault => .error (.markup fault)

/-- The row for a part of a report, if the report has it. -/
def partRow (label : String) (part : Option Value) : Except Crash (List Console.TableRow) :=
  match part with
  | some value => return [← tableRow label (Console.escape (describe value))]
  | none => .ok []

/-- A report on an element as a table. Brackets in the name of the element are taken for markup. -/
def analysisTable (report : AnalysisReport) : Except Crash Text := do
  let tag ← tableRow "tag" (report.tag.getD [])
  let className ← partRow "className" (report.className.map (ClassName.dump tableStyle))
  let textContent ← partRow "textContent" (report.textContent.map (TextContent.dump tableStyle))
  let placement ← partRow "elementType" (report.placement.map (Placement.dump tableStyle))
  return Console.table (tag :: (className ++ textContent ++ placement))

/-- Prints a report: as JSON if asked for, and otherwise by a summary if there is one. A failure
comes last. -/
def print (json : Bool) (report : Value) (success : Bool) (message : Option Text)
    (summary : Except Crash Text) : Outcome :=
  let first : Except Crash Text :=
    if json then
      if (Json.encodeError? report).isNone then .ok (Json.write 0 report ++ "\n") else .error .unencodable
    else if success then summary
    else .ok []
  match first with
  | .error crash => ⟨1, [], some crash⟩
  | .ok output =>
    if success then ⟨0, output, none⟩
    else match errorLines message with
      | .ok lines => ⟨1, output ++ lines, none⟩
      | .error crash => ⟨1, output, some crash⟩

/-- Lines that end with the path of a changed file, whose brackets are taken for markup. -/
def pathLines (start : Text) (path : Option Text) : Except Crash Text :=
  match Console.render (start ++ path.getD "None") with
  | .ok shown => printed shown
  | .error fault => .error (.markup fault)

variable {σ : Type} [Store σ]

/-- Runs an operation. -/
def perform (editor : Editor) (store : σ) (root : Path) (id : Text) (options : Options) :
    Operation → Outcome × σ
  | .analyze =>
    let report := editor.analyze store root id
    (print options.json (report.dump .answer) report.success report.error (analysisTable report), store)
  | .update =>
    let (report, after) := editor.update store root id ⟨options.className, options.text⟩
    let summary := if report.changed then pathLines "[green]Updated[/green] " report.filePath
      else .ok "Already up to date.\n"
    (print options.json (report.dump .answer) report.success report.error summary, after)
  | .delete =>
    let (report, after) := editor.delete store root id
    (print options.json (report.dump .answer) report.success report.error
      (pathLines "[green]Deleted[/green] element from " report.filePath), after)

/-- The root of the project: the option if it is not empty, else the variable of the environment,
else the current directory. -/
def rootOf (environment : Environment) (current : Path) (options : Options) : Path :=
  let fallback := match Settings.rootVariable environment with
    | some root => current.join (Path.ofText root)
    | none => current
  match options.root with
  | some (c :: t) => current.join (Path.ofText (c :: t))
  | _ => fallback

/-- Runs a command that is of the right form. -/
def execute (grammar : Grammar) (environment : Environment) (current : Path) (store : σ)
    (operation : Operation) (id : Text) (options : Options) : Outcome × σ :=
  if operation = .update ∧ options.className.isNone ∧ options.text.isNone then (usageError, store)
  else match Settings.ofEnvironment environment with
    | .error error => (⟨1, [], some (.settings error)⟩, store)
    | .ok settings =>
      perform ⟨settings, grammar⟩ store (rootOf environment current options) id options operation

/-- The meaning of an option before the name of the operation: whether it asks for help. The letters
of short options may stand together. -/
def globalSwitch? (argument : Text) : Option Bool :=
  if argument = Text.ofString "--help" then some true
  else if argument = Text.ofString "--verbose" then some false
  else match argument with
    | dash :: c :: letters =>
      if dash = '-' ∧ (c :: letters).all fun (c : CodePoint) => c == 'v' || c == 'h' then
        some ((c :: letters).any fun (c : CodePoint) => c == 'h')
      else none
    | _ => none

/-- What the arguments of the program ask for. -/
inductive Reading where
  | run (operation : Operation) (id : Text) (options : Options)
  | help
  | refused

/-- Reads the arguments after the name of an operation. -/
def readOperation (operation : Operation) (arguments : List Text) : Reading :=
  match readArguments? operation [] .none arguments with
  | none => .refused
  | some (operands, options) =>
    if options.help then .help
    else match operands with
      | [id] => .run operation id options
      | _ => .refused

/-- Reads the name of an operation and its arguments. -/
def readNamed : List Text → Reading
  | [] => .refused
  | name :: arguments =>
    match operations.lookup name with
    | some operation => readOperation operation arguments
    | none => .refused

/-- Reads the arguments of the program, given whether help has been asked for before. -/
def readAll (help : Bool) : List Text → Reading
  | [] => if help then .help else .refused
  | argument :: rest =>
    if argument = Text.ofString "--" then if help then .help else readNamed rest
    else if isOption argument then
      match globalSwitch? argument with
      | some asked => readAll (help || asked) rest
      | none => .refused
    else if help then .help
    else readNamed (argument :: rest)

/-- Runs a command. -/
def run (grammar : Grammar) (environment : Environment) (current : Path) (store : σ)
    (arguments : List Text) : Outcome × σ :=
  match readAll false arguments with
  | .run operation id options => execute grammar environment current store operation id options
  | .help => (helpAnswer, store)
  | .refused => (usageError, store)

end Command

end Retouch
