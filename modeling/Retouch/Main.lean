import Retouch.Service.Command
import Retouch.Source.TreeFile
import Retouch.Store.Disk

/-!
# The program

The command line on the files of this machine. The syntax trees come from a parser, in the file that
the variable `VISUAL_EDITOR_TREES` names. Of the machine's disk the program sees the root of the
project and the one file that the command is about.
-/

namespace Retouch.Program

/-- The variables that the commands depend on. -/
def variableNames : List String := [
  "VISUAL_EDITOR_COLUMN_TOLERANCE", "VISUAL_EDITOR_NEARBY_LINES", "VISUAL_EDITOR_VERIFY_OUTPUT",
  "VISUAL_EDITOR_ROOT"]

/-- The environment of the program. -/
def environment : IO Environment := do
  let values ← variableNames.mapM fun name => return (name, ← IO.getEnv name)
  return values.filterMap fun (name, value?) => value?.map fun value => (name, Text.ofString value)

/-- The trees that the parser has left. -/
def grammar : IO Grammar := do
  match ← IO.getEnv "VISUAL_EDITOR_TREES" with
  | none => return TreeTable.grammar []
  | some file => return TreeTable.grammar (TreeFile.read (Text.ofString (← IO.FS.readFile file)))

/-- The name of a path on this machine. -/
def nameOf (path : Path) : String :=
  (Text.toString? path.toText).getD ""

/-- The path of the same file without symbolic links, or the path itself where there is no file. -/
def realPath (path : Path) : IO Path := do
  match ← (IO.FS.realPath (nameOf path)).toBaseIO with
  | .ok real => return Path.ofText (Text.ofString (toString real))
  | .error _ => return path

/-- What stands at a path of this machine. -/
def entry? (path : Path) : IO (Option Entry) := do
  match ← (IO.FS.realPath (nameOf path)).toBaseIO with
  | .error _ => return none
  | .ok real =>
    match ← (IO.FS.readBinFile real).toBaseIO with
    | .ok data => return some (.file data.toList Disk.newMode)
    | .error (.inappropriateType ..) => return some .directory
    | .error _ => return none

/-- Puts a symbolic link on a disk, unless it would lead to itself. -/
def addLink (disk : Disk) (path target : Path) : Disk :=
  if path.collapse = target then disk else disk.add path (.link target)

/-- Puts what stands at a path of this machine on a disk. -/
def addEntry (disk : Disk) (path : Path) : IO Disk := do
  match ← entry? path with
  | some entry => return disk.add path entry
  | none => return disk

/-- The disk that holds the root of a project and the file at a path below it. -/
def snapshot (root path : Path) : IO Disk := do
  let realRoot ← realPath root
  let file := (realRoot.join path).collapse
  let realFile ← realPath file
  let disk ← addEntry (addLink ⟨[]⟩ root realRoot) realRoot
  addEntry (addLink disk file realFile) realFile

/-- The root of the project and the path of the file that a command is about. -/
def subject? (environment : Environment) (current : Path) (arguments : List Text) :
    Option (Path × Path) :=
  match Command.readAll false arguments with
  | .run _ id options => do
    let location ← (Location.decode id).toOption
    return (Command.rootOf environment current options, Path.ofText location.path)
  | _ => none

/-- What the error stream says about a crash. -/
def complaint : Crash → Text
  | .settings error => error.message
  | .markup fault => fault.message
  | .unencodable => "the report holds a lone surrogate"
  | .unprintable => "the message holds a lone surrogate"

/-- Runs a command and gives its exit status. -/
def run (arguments : List String) : IO UInt32 := do
  let arguments := arguments.map Text.ofString
  let environment ← environment
  let current := Path.ofText (Text.ofString (toString (← IO.currentDir)))
  let before ← match subject? environment current arguments with
    | some (root, path) => snapshot root path
    | none => pure ⟨[]⟩
  let (outcome, after) := Command.run (← grammar) environment current before arguments
  for (path, data, _) in before.changedSince after do
    IO.FS.writeBinFile (nameOf path) ⟨data.toArray⟩
  IO.print ((Text.toString? outcome.output).getD "")
  if let some crash := outcome.crash then
    IO.eprintln ((Text.toString? (complaint crash)).getD "")
  return UInt32.ofNat outcome.status

end Retouch.Program

/-- Runs the command that the arguments give. -/
def main (arguments : List String) : IO UInt32 :=
  Retouch.Program.run arguments
