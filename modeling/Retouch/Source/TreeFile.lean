import Retouch.Source.TreeTable
import Retouch.Text.Numeral

/-!
# Files of syntax trees

A parser hands its trees over in a file. A line that begins with an equals sign starts a tree and
gives its key. Each line after it is a row of the tree with tabs between its columns: the number of
the parent's row or nothing, the kind, the flags (1 for named, 2 for missing, 3 for both), the field
or nothing, the start and the stop.
-/

namespace Retouch.TreeFile

/-- The number that decimal digits denote. -/
def number? (t : Text) : Option Nat :=
  if t.isEmpty then none else (t.mapM CodePoint.decimalValue?).map (Numeral.ofDigitValues 10)

/-- Reads a column that may be empty. -/
def optional? (read? : Text → Option α) (t : Text) : Option (Option α) :=
  if t.isEmpty then some none else (read? t).map some

/-- Reads a row. -/
def row? (line : Text) : Option Row :=
  match Text.split '\t' line with
  | [parent, kind, flags, field, start, stop] => do
    let flags ← number? flags
    return {
      parent := ← optional? number? parent
      kind := .ofName (← Text.toString? kind)
      named := flags.testBit 0
      missing := flags.testBit 1
      field := (← optional? Text.toString? field).map .ofLabel
      start := ← number? start
      stop := ← number? stop }
  | _ => none

/-- The key of the tree that a line starts. -/
def heading? : Text → Option Text
  | [] => none
  | c :: key => if c = '=' then some key else none

/-- Cuts lines at the headings: the lines before the first one, then each key with the lines under
it. -/
def sections (lines : List Text) : List Text × List (Text × List Text) :=
  lines.foldr (fun line (before, cut) =>
    match heading? line with
    | some key => ([], (key, before) :: cut)
    | none => (line :: before, cut)) ([], [])

/-- The tree of the lines under a heading, if each of them is a row. -/
def tree? (lines : List Text) : Option Node :=
  ((lines.filter (!·.isEmpty)).mapM row?).bind Node.ofRows?

/-- The trees of a file. -/
def read (t : Text) : TreeTable :=
  (sections (Text.split '\n' t)).2.filterMap fun (key, lines) => (tree? lines).map (key, ·)

end Retouch.TreeFile
