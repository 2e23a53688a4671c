import Retouch.Text.Blank
import Retouch.Text.Width

/-!
# Lines on a console

A text is broken into lines that fit a width: at the ends of its own lines, and else between words.
A word that is wider than a line goes on over several lines, or is cut with an ellipsis, as the
place asks for.
-/

namespace Retouch.Console

/-- What becomes of words that are wider than a line. -/
inductive Overflow where
  | fold
  | ellipsis
  deriving DecidableEq

/-- A line with tabs filled up to columns that are multiples of eight, given the part of it after
the last tab, in reverse, and the column where that starts. -/
def expandTabsAfter (column : Nat) (part : Text) : Text → Text
  | [] => part.reverse
  | c :: t =>
    if c = '\t' then
      let stop := (column + Text.width part.reverse) / 8 * 8 + 8
      part.reverse ++ Text.spaces (stop - (column + Text.width part.reverse)) ++ expandTabsAfter stop [] t
    else expandTabsAfter column (c :: part) t

/-- A line with tabs filled up to columns that are multiples of eight. -/
def expandTabs (t : Text) : Text :=
  expandTabsAfter 0 [] t

/-- The words of a line with the blanks after each, given the letters and the blanks of the one that
has been begun, both in reverse. Blanks before the first word belong to it, and blanks alone are a
word. -/
def wordsAfter (letters blanks : Text) : Text → List Text
  | [] => if letters.isEmpty then [] else [(blanks ++ letters).reverse]
  | c :: t =>
    if c.isBlank then
      if letters.all CodePoint.isBlank then wordsAfter (c :: letters) blanks t
      else wordsAfter letters (c :: blanks) t
    else if blanks.isEmpty then wordsAfter (c :: letters) [] t
    else (blanks ++ letters).reverse :: wordsAfter [c] [] t

/-- The words of a line with the blanks after each, which together are the line. -/
def spacedWords (t : Text) : List Text :=
  wordsAfter [] [] t

/-- A line that is being filled: the lines before it, in reverse, its text, and the cells it
takes. -/
structure Filling where
  before : List Text
  line : Text
  cells : Nat

/-- The lines of a filling. -/
def Filling.lines (filling : Filling) : List Text :=
  (filling.line :: filling.before).reverse

/-- A filling with a new line that starts with a text. A line without text stays. -/
def Filling.break (filling : Filling) (t : Text) : Filling :=
  if filling.line.isEmpty then ⟨filling.before, t, Text.width t⟩
  else ⟨filling.line :: filling.before, t, Text.width t⟩

/-- Adds a word to a filling. Blanks at its end need not fit. -/
def Filling.add (width : Nat) (overflow : Overflow) (filling : Filling) (word : Text) : Filling :=
  let needed := Text.width (trimEnd CodePoint.isBlank word)
  if filling.cells + needed ≤ width then
    ⟨filling.before, filling.line ++ word, filling.cells + Text.width word⟩
  else if width < needed ∧ overflow = .fold then (Text.foldTo width word).foldl Filling.break filling
  else if width < needed ∨ filling.cells ≠ 0 then filling.break word
  else ⟨filling.before, filling.line ++ word, filling.cells⟩

/-- A line broken into lines between its words. -/
def breakLine (width : Nat) (overflow : Overflow) (t : Text) : List Text :=
  ((spacedWords t).foldl (Filling.add width overflow) ⟨[], [], 0⟩).lines

/-- A line without the blanks at its end that are beyond a width. -/
def dropExcessBlanks (width : Nat) (t : Text) : Text :=
  let blanks := t.length - (trimEnd CodePoint.isBlank t).length
  t.take (t.length - min blanks (t.length - width))

/-- A line cut to a width. -/
def cutLine (width : Nat) (overflow : Overflow) (t : Text) : Text :=
  if Text.width t ≤ width then t
  else match overflow with
    | .fold => Text.cutTo width t
    | .ellipsis => Text.cutTo (width - 1) t ++ "…"

/-- A text in lines that fit a width. -/
def lines (width : Nat) (overflow : Overflow) (t : Text) : List Text :=
  (Text.split '\n' t).flatMap fun line =>
    (breakLine width overflow (expandTabs line)).map fun part =>
      cutLine width overflow (dropExcessBlanks width part)

/-- The width of the console. -/
def consoleWidth : Nat := 2000

/-- A text as the console shows it by itself. -/
def message (t : Text) : Text :=
  (lines consoleWidth .fold t).flatMap (· ++ Text.ofString "\n")

end Retouch.Console
