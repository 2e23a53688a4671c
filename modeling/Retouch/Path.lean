import Retouch.Text.Case
import Retouch.Text.Utf8

/-!
# Paths

A path starts at the topmost directory or at some other one and has components. Empty components and
single dots mean nothing and are left out; two dots mean the parent, and stay until the path is
collapsed. Two slashes at the start, not more, are kept apart from one.
-/

namespace Retouch

/-- Where a path starts. -/
inductive Path.Start where
  | here
  | slash
  | twoSlashes
  deriving DecidableEq

/-- The way to a file. -/
structure Path where
  start : Path.Start
  components : List Text
  deriving DecidableEq

namespace Path

/-- The start that a text shows. -/
def Start.ofText (t : Text) : Start :=
  match (t.takeWhile fun (c : CodePoint) => c == '/').length with
  | 0 => .here
  | 2 => .twoSlashes
  | _ => .slash

/-- The text of a start. -/
def Start.toText : Start → Text
  | .here => ""
  | .slash => "/"
  | .twoSlashes => "//"

/-- Decides whether a path starts at the topmost directory. -/
def isAbsolute (path : Path) : Bool :=
  path.start ≠ .here

/-- The topmost directory. -/
def top : Path := ⟨.slash, []⟩

/-- Two dots. -/
def up : Text := ".."

/-- Reads a path. -/
def ofText (t : Text) : Path where
  start := .ofText t
  components := (Text.split '/' t).filter fun part => part ≠ [] ∧ part ≠ Text.ofString "."

/-- Writes a path. -/
def toText (path : Path) : Text :=
  if path.start = .here ∧ path.components.isEmpty then "."
  else path.start.toText ++ Text.join "/" path.components

/-- A path seen from another one; an absolute path stays as it is. -/
def join (base path : Path) : Path :=
  if path.isAbsolute then path else ⟨base.start, base.components ++ path.components⟩

/-- The components with each two dots taking back the component before. There is nothing above the
topmost directory. -/
def collapseComponents (components : List Text) : List Text :=
  components.foldl (fun done part => if part = up then done.dropLast else done ++ [part]) []

/-- The path from the topmost directory without two dots. -/
def collapse (path : Path) : Path :=
  ⟨.slash, collapseComponents path.components⟩

/-- The path of the directory that holds a file. -/
def parent (path : Path) : Path :=
  ⟨path.start, path.components.dropLast⟩

/-- The last component. -/
def name (path : Path) : Text :=
  path.components.getLastD []

/-- Decides whether a path leads to a directory or to something in it. -/
def isWithin (root path : Path) : Bool :=
  root.start = path.start && root.components.isPrefixOf path.components

/-- The part of a name from its last dot on. A dot at either end does not count. -/
def extensionOfName (name : Text) : Text :=
  let tail := (name.reverse.takeWhile fun (c : CodePoint) => c != '.').reverse
  if tail.isEmpty ∨ name.length ≤ tail.length + 1 then [] else CodePoint.ofChar '.' :: tail

/-- The extension of a file's name. -/
def extension (path : Path) : Text :=
  extensionOfName path.name

/-- Decides whether a path holds the code point zero, which no file system admits. -/
def holdsNul (path : Path) : Bool :=
  path.components.any (·.contains 0)

/-- Decides whether a code point has bytes in the name of a file: surrogates have none, but for
those that stand for a single byte. -/
def isNameable (c : CodePoint) : Bool :=
  !c.isSurrogate || c.isBetween 0xDC80 0xDCFF

/-- The first code points of a path that have no bytes in the name of a file. -/
def nameError? (path : Path) : Option Utf8.EncodeError :=
  Utf8.encodeErrorBy? isNameable path.toText

/-- Decides whether a text can stand in a path that the operating system is given: its code points
are not zero and have bytes in the name of a file. -/
def isAdmitted (t : Text) : Bool :=
  t.all fun c => c ≠ 0 && isNameable c

/-- The name of a file or a directory. -/
structure IsName (part : Text) : Prop where
  filled : part ≠ []
  not_dot : part ≠ Text.ofString "."
  not_up : part ≠ up
  whole : CodePoint.ofChar '/' ∉ part

instance (part : Text) : Decidable (IsName part) :=
  decidable_of_iff
    (part ≠ [] ∧ part ≠ Text.ofString "." ∧ part ≠ up ∧ CodePoint.ofChar '/' ∉ part)
    ⟨fun all => ⟨all.1, all.2.1, all.2.2.1, all.2.2.2⟩,
      fun name => ⟨name.filled, name.not_dot, name.not_up, name.whole⟩⟩

end Path

/-- A directory, by the names on the way to it from the topmost one. -/
structure Directory where
  names : List Text
  isName : ∀ name ∈ names, Path.IsName name
  isAdmitted : ∀ name ∈ names, Path.isAdmitted name = true
  deriving DecidableEq

namespace Directory

/-- The topmost directory. -/
def top : Directory :=
  ⟨[], fun _ mem => absurd mem List.not_mem_nil, fun _ mem => absurd mem List.not_mem_nil⟩

/-- The path of a directory. -/
def path (directory : Directory) : Path :=
  ⟨.slash, directory.names⟩

end Directory

end Retouch
