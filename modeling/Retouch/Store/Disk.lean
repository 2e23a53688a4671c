import Retouch.Store.Basic
import Retouch.Text.Utf8

/-!
# Disks

A file system with directories, files that have a mode, and symbolic links. Paths are seen from the
topmost directory: a path that is relative to another one is joined to it before. Files are written
next to their target and then moved over it, so that no failure leaves a file that is half written.
-/

namespace Retouch

/-- What stands at a place of a disk. -/
inductive Entry where
  | file (data : Bytes) (mode : Nat)
  | directory (mode : Nat := 0o755)
  | link (target : Path)
  deriving DecidableEq

/-- The mode of an entry. Links have none of their own and admit everything. -/
def Entry.mode : Entry → Nat
  | .file _ mode => mode
  | .directory mode => mode
  | .link _ => 0o777

/-- A file system: what stands at each place, given by its components from the topmost directory
on. -/
structure Disk where
  entries : List (List Text × Entry)

namespace Disk

/-- What stands at a place. -/
def entry? (disk : Disk) (place : List Text) : Option Entry :=
  if place = [] then some .directory else disk.entries.lookup place

/-- Puts an entry at a place among entries. -/
def setEntry (place : List Text) (entry : Entry) : List (List Text × Entry) → List (List Text × Entry)
  | [] => [(place, entry)]
  | (other, old) :: entries =>
    if other = place then (place, entry) :: entries else (other, old) :: setEntry place entry entries

/-- Puts an entry at a place. -/
def set (disk : Disk) (place : List Text) (entry : Entry) : Disk :=
  ⟨setEntry place entry disk.entries⟩

/-- Clears a place. -/
def erase (disk : Disk) (place : List Text) : Disk :=
  ⟨disk.entries.filter fun (other, _) => other ≠ place⟩

/-- The number of symbolic links that are followed on the way to one file. -/
def linkLimit : Nat := 40

/-- The number of bytes of the name of a file. -/
def byteSize (name : Text) : Nat :=
  (name.flatMap fun c => if c.isSurrogate then [0] else Utf8.encodeCodePoint c).length

/-- The largest number of bytes of the name of a file. -/
def nameLimit : Nat := 255

/-- The largest number of bytes of a path. -/
def pathLimit : Nat := 4095

/-- How far a way leads: to its end, or to a symbolic link that leads elsewhere. -/
inductive Way (α : Type) where
  | ends (result : α)
  | turns (base rest : List Text)

/-- Where a symbolic link leads, seen from the directory that holds it. -/
def Way.along (place : List Text) (target : Path) (rest : List Text) : Way α :=
  .turns (if target.isAbsolute then [] else place) (target.components ++ rest)

/-- What is known of the symbolic links on a way: where each leads, or that it is just being
followed. -/
abbrev KnownLinks := List (List Text × Option (List Text))

/-- A way that has been followed: the links known by then, and its end, or the way from the first
link that leads back to itself. -/
structure Settled where
  known : KnownLinks
  place : List Text
  complete : Bool

/-- Follows a way from a place by the wording of its components. What is not there, or is no
directory, is passed by its name. -/
def settle (disk : Disk) : (steps : Nat) → KnownLinks → (place rest : List Text) → Settled
  | 0, known, place, rest => ⟨known, place ++ rest, false⟩
  | _ + 1, known, place, [] => ⟨known, place, true⟩
  | steps + 1, known, place, part :: rest =>
    if part = Path.up then settle disk steps known place.dropLast rest
    else
      let next := place ++ [part]
      match disk.entry? next with
      | some (.link target) =>
        match known.lookup next with
        | some (some leads) => settle disk steps known leads rest
        | some none => ⟨known, next ++ rest, false⟩
        | none =>
          let base := if target.isAbsolute then [] else place
          let inner := settle disk steps ((next, none) :: known) base target.components
          if inner.complete then
            settle disk steps ((next, some inner.place) :: inner.known) inner.place rest
          else ⟨inner.known, inner.place ++ rest, false⟩
      | _ => settle disk steps known next rest

/-- The number of steps on a way: each link is followed once. -/
def settleSteps (disk : Disk) (way : List Text) : Nat :=
  disk.entries.foldl (fun n (_, entry) =>
    match entry with
    | .link target => n + target.components.length + 2
    | _ => n) (way.length + 1)

/-- The end of a way. -/
def settled (disk : Disk) (way : List Text) : List Text :=
  Path.collapseComponents (disk.settle (disk.settleSteps way) [] [] way).place

/-- Goes from a place along components up to the next link, as the operating system does: only the
last component may be missing. -/
def enter (disk : Disk) (place : List Text) :
    List Text → Way (Except SystemError (List Text × Option Entry))
  | [] => .ends (.ok (place, disk.entry? place))
  | part :: rest =>
    if part = Path.up then enter disk place.dropLast rest
    else if nameLimit < byteSize part then .ends (.error .nameTooLong)
    else match disk.entry? (place ++ [part]) with
      | some (.link target) => .along place target rest
      | some (.directory _) => enter disk (place ++ [part]) rest
      | some (.file data mode) =>
        .ends (if rest.isEmpty then .ok (place ++ [part], some (.file data mode))
          else .error .notADirectory)
      | none => .ends (if rest.isEmpty then .ok (place ++ [part], none) else .error .noSuchFile)

/-- Follows all links on a way, as the operating system does. -/
def enterAll (disk : Disk) :
    (links : Nat) → (place rest : List Text) → Except SystemError (List Text × Option Entry)
  | links, place, rest =>
    match disk.enter place rest with
    | .ends result => result
    | .turns base rest =>
      match links with
      | 0 => .error .tooManyLinks
      | links + 1 => enterAll disk links base rest

/-- What a path leads to. -/
def look (disk : Disk) (path : Path) : Except SystemError (List Text × Option Entry) :=
  if pathLimit < byteSize path.toText then .error .nameTooLong
  else disk.enterAll linkLimit [] path.components

/-- The path of the same file without symbolic links and detours. It must not lead in a circle, but
a detour over a circle is none. -/
def resolve (disk : Disk) (path : Path) : Except Defect Path :=
  if path.holdsNul then .error .nulInPath
  else match path.nameError? with
    | some error => .error (.unencodable error)
    | none =>
      let resolved : Path := ⟨.slash, disk.settled path.components⟩
      match disk.look resolved with
      | .error .tooManyLinks => .error .linkLoop
      | _ => .ok resolved

/-- Reads a file. -/
def read (disk : Disk) (path : Path) : Except StoreError Bytes :=
  match path.refusal? with
  | some error => .error error
  | none =>
    match disk.look path with
    | .error error => .error (.system error path)
    | .ok (_, none) => .error (.system .noSuchFile path)
    | .ok (_, some (.file data _)) => .ok data
    | .ok (_, some _) => .error (.system .isADirectory path)

/-- The place of the directory that a path leads to. -/
def directory (disk : Disk) (path : Path) : Except SystemError (List Text) :=
  match disk.look path with
  | .error error => .error error
  | .ok (_, none) => .error .noSuchFile
  | .ok (place, some (.directory _)) => .ok place
  | .ok (_, some _) => .error .notADirectory

/-- The mode of what a path leads to. -/
def mode? (disk : Disk) (path : Path) : Option Nat :=
  match disk.look path with
  | .ok (_, some entry) => some entry.mode
  | _ => none

/-- The place that a path names: that of its last component in the directory that the others lead
to, whatever stands there. A link there is not followed. -/
def slot (disk : Disk) (path : Path) : Except SystemError (List Text) :=
  if pathLimit < byteSize path.toText then .error .nameTooLong
  else match disk.directory path.parent with
    | .error error => .error error
    | .ok folder =>
      if path.components.isEmpty ∨ path.name = Path.up then .error .busy
      else if nameLimit < byteSize path.name then .error .nameTooLong
      else .ok (folder ++ [path.name])

/-- The mode of a new file: its owner may read and write it. -/
def newMode : Nat := 0o600

/-- Creates an empty file where nothing stands. -/
def create (disk : Disk) (path : Path) : Except SystemError (List Text × Disk) :=
  match disk.slot path with
  | .error error => .error error
  | .ok place =>
    match disk.entry? place with
    | some _ => .error .fileExists
    | none => .ok (place, disk.set place (.file [] newMode))

/-- Moves a file to a path, over what stands there if it is no directory. -/
def move (disk : Disk) (place : List Text) (path : Path) : Except SystemError Disk :=
  match disk.slot path with
  | .error error => .error error
  | .ok target =>
    match disk.entry? target, disk.entry? place with
    | some (.directory _), _ => .error .isADirectory
    | _, none => .error .noSuchFile
    | _, some entry => .ok ((disk.erase place).set target entry)

/-- What the operating system may refuse during a write. -/
structure Faults where
  create : Option SystemError
  /-- After how many bytes the file cannot be filled further. -/
  fill : Option (Nat × SystemError)
  /-- Whether the mode of the old file cannot be copied. -/
  copyMode : Bool
  move : Option SystemError
  /-- Whether the temporary file cannot be removed. -/
  remove : Bool

namespace Faults

/-- An operating system that refuses nothing without need. -/
def none : Faults :=
  ⟨.none, .none, false, .none, false⟩

/-- The result of a step, unless it is refused. -/
def meet (fault : Option SystemError) (result : Except SystemError α) : Except SystemError α :=
  match fault with
  | some error => .error error
  | .none => result

/-- Removes a temporary file, unless that is refused. -/
def clear (faults : Faults) (place : List Text) (disk : Disk) : Disk :=
  if faults.remove then disk else disk.erase place

end Faults

/-- The mode that a file has, or else the one of new files. -/
def modeToKeep (disk : Disk) (faults : Faults) (path : Path) : Nat :=
  if faults.copyMode then newMode else (disk.mode? path).getD newMode

/-- The name of a temporary file: hidden, after the name of the file that it is for. It is longer
than that, and so can be too long where that is not. -/
def temporaryName (path : Path) (random : Text) : Text :=
  "." ++ path.name ++ "." ++ random ++ ".tmp"

/-- The path of a temporary file: in the directory of the file that it is for, by the wording of its
path. Two slashes at the start stay two. -/
def temporaryPath (path : Path) (random : Text) : Path :=
  ⟨if path.isAbsolute then path.start else .slash,
    path.parent.collapse.components ++ [temporaryName path random]⟩

/-- Writes a file: a new file is created under a temporary name, filled, given the mode of the
target, and moved over it. On a failure the new file is removed again. That the target cannot be
given to the operating system may show only where its mode is asked for, since what two dots take
back is not in the path of the new file. -/
def writeThrough (faults : Faults) (random : Text) (disk : Disk) (path : Path) (data : Bytes) :
    Except StoreError Unit × Disk :=
  match (temporaryPath path random).refusal? with
  | some error => (.error error, disk)
  | none =>
    match Faults.meet faults.create (disk.create (temporaryPath path random)) with
    | .error error => (.error (.system error path), disk)
    | .ok (place, created) =>
      match faults.fill with
      | some (count, error) =>
        (.error (.system error path), faults.clear place (created.set place (.file (data.take count) newMode)))
      | none =>
        let filled := created.set place (.file data newMode)
        match path.refusal? with
        | some error => (.error error, faults.clear place filled)
        | none =>
          let ready := filled.set place (.file data (filled.modeToKeep faults path))
          match Faults.meet faults.move (ready.move place path) with
          | .error error => (.error (.system error path), faults.clear place ready)
          | .ok moved => (.ok (), moved)

/-- Eight digits that make a temporary name which nothing on the disk has. There are more numbers
than entries, so one is free. -/
def freshDigits (disk : Disk) (path : Path) : Text :=
  let taken := disk.entries.map fun (place, _) => place.getLastD []
  (((List.range (taken.length + 1)).map (Text.hex 8)).find? fun digits =>
    !taken.contains (temporaryName path digits)).getD (Text.hex 8 0)

/-- Writes a file. -/
def write (disk : Disk) (path : Path) (data : Bytes) : Except StoreError Unit × Disk :=
  writeThrough .none (disk.freshDigits path) disk path data

instance : Store Disk where
  resolve := resolve
  read := read
  write := write

/-- Makes the directories on the way to a place, as far as they are missing. -/
def makeDirectories (disk : Disk) (done : List Text) : (rest : List Text) → Disk
  | [] => disk
  | part :: rest =>
    let place := done ++ [part]
    let made := if (disk.entry? place).isNone then disk.set place .directory else disk
    makeDirectories made place rest

/-- Puts an entry at a path and makes the directories on the way. -/
def add (disk : Disk) (path : Path) (entry : Entry) : Disk :=
  let folder := disk.settled path.parent.components
  (disk.makeDirectories [] folder).set (folder ++ [path.name]) entry

/-- The regular files of a disk, with their contents and modes. -/
def files (disk : Disk) : List (Path × Bytes × Nat) :=
  disk.entries.filterMap fun
    | (place, .file data mode) => some (⟨.slash, place⟩, data, mode)
    | _ => none

/-- The regular files whose content or mode differs from what it was on another disk. -/
def changedSince (before after : Disk) : List (Path × Bytes × Nat) :=
  after.files.filter fun file => !before.files.contains file

end Disk

end Retouch
