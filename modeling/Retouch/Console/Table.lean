import Retouch.Console.Lines

/-!
# Tables on a console

Rows of a label and a text in a box. The columns are as wide as their widest cell, as long as the box fits
on the console; beyond that the texts are broken into lines.
-/

namespace Retouch.Console

/-- A row of a table. -/
structure TableRow where
  label : Text
  content : Text

/-- The code points that end lines of text, whatever a console makes of them. -/
def endsLine (c : CodePoint) : Bool :=
  c.isBetween 10 13 || c.isBetween 28 30 || c.val == 0x85 || c.isBetween 0x2028 0x2029

/-- The width of the widest line of a text, after the part of a line that has been begun, in reverse. -/
def widestAfter (begun : Text) : Text → Nat
  | [] => Text.width begun.reverse
  | c :: t =>
    if endsLine c then max (Text.width begun.reverse) (widestAfter [] t) else widestAfter (c :: begun) t

/-- The width of the widest line of a text. -/
def widest (t : Text) : Nat :=
  widestAfter [] t

/-- A horizontal line of a box between two corners, with a joint between the columns. -/
def rule (left joint right : CodePoint) (labelWidth contentWidth : Nat) : Text :=
  let line := fun width => List.replicate (width + 2) (CodePoint.ofChar '─')
  [left] ++ line labelWidth ++ [joint] ++ line contentWidth ++ [right] ++ "\n"

/-- The lines of a cell, filled up to the width of its column and the height of its row. -/
def cell (width height : Nat) (parts : List Text) : List Text :=
  (parts ++ List.replicate (height - parts.length) []).map (Text.padTo width)

/-- The two cells of a row side by side. -/
def rowLines (labelWidth contentWidth : Nat) (row : TableRow) : Text :=
  let label := lines labelWidth .ellipsis row.label
  let content := lines contentWidth .ellipsis row.content
  let height := max label.length content.length
  (List.zipWith (fun left right => Text.ofString "│ " ++ left ++ " │ " ++ right ++ " │\n")
    (cell labelWidth height label) (cell contentWidth height content)).flatten

/-- A table. Its lines and the blanks beside them take seven cells of each row. -/
def table (rows : List TableRow) : Text :=
  let labelWidth := (rows.map fun row => widest row.label).foldl max 0
  let contentWidth := min ((rows.map fun row => widest row.content).foldl max 0) (consoleWidth - 7 - labelWidth)
  rule '┌' '┬' '┐' labelWidth contentWidth ++ rows.flatMap (rowLines labelWidth contentWidth) ++
    rule '└' '┴' '┘' labelWidth contentWidth

end Retouch.Console
