import Retouch.Text.Blank

/-!
# Layout of literal text

Line breaks and indentation between the tags of an element are layout: lines are trimmed where they
touch a line break, blank lines vanish, and what is left is joined with single spaces.
-/

namespace Retouch.Layout

/-- The lines of a text, given that its first line break may be the second half of a break begun
before. -/
def linesAfter (halfBreak : Bool) : Text → List Text
  | [] => [[]]
  | c :: t =>
    if c = '\n' then if halfBreak then linesAfter false t else [] :: linesAfter false t
    else if c = '\r' then [] :: linesAfter true t
    else (linesAfter false t).modifyHead (c :: ·)

/-- The lines of a text; a carriage return, a line feed or both in this order end one. -/
def lines (t : Text) : List Text :=
  linesAfter false t

/-- Decides whether a line holds anything but spaces and tabs. -/
def isFilled (line : Text) : Bool :=
  line.any fun c => !c.isSpaceOrTab

/-- The number of the last line that is filled. -/
def lastFilled? (ls : List Text) : Option Nat :=
  (ls.zipIdx.filter fun (line, _) => isFilled line).getLast?.map (·.2)

/-- A line with its tabs turned into spaces and without the spaces next to line breaks. -/
def trimLine (isFirst isLast : Bool) (line : Text) : Text :=
  let spaced := line.map fun (c : CodePoint) => if c = '\t' then CodePoint.ofChar ' ' else c
  let fromLeft := if isFirst then spaced else trimStart (· == ' ') spaced
  if isLast then fromLeft else trimEnd (· == ' ') fromLeft

/-- The part of the joined text that line number `i` makes up. -/
def joinPart (count : Nat) (last : Option Nat) (line : Text) (i : Nat) : Text :=
  let trimmed := trimLine (i == 0) (i + 1 == count) line
  if trimmed.isEmpty then []
  else if some i = last then trimmed
  else trimmed ++ [CodePoint.ofChar ' ']

/-- A text as it is rendered, without its layout. -/
def collapse (raw : Text) : Text :=
  let ls := lines raw
  let last := lastFilled? ls
  ls.zipIdx.flatMap fun (line, i) => joinPart ls.length last line i

end Retouch.Layout
