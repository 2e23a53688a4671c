import Retouch.Text.Basic

/-!
# Blank code points

White space of all scripts, and the separators among the controls.
-/

namespace Retouch.CodePoint

/-- White space of any kind. -/
def isBlank (c : CodePoint) : Bool :=
  c.isBetween 0x09 0x0D || c.isBetween 0x1C 0x20 || c == 0x85 || c == 0xA0 || c == 0x1680 ||
    c.isBetween 0x2000 0x200A || c == 0x2028 || c == 0x2029 || c == 0x202F || c == 0x205F ||
    c == 0x3000

/-- A space or a tab. -/
def isSpaceOrTab (c : CodePoint) : Bool :=
  c == ' ' || c == '\t'

/-- A space, a tab or a character that ends a line. -/
def isLayout (c : CodePoint) : Bool :=
  c == ' ' || c == '\t' || c == '\r' || c == '\n'

end Retouch.CodePoint

namespace Retouch.Text

/-- A text without the blanks at its ends. -/
def strip (t : Text) : Text :=
  trim CodePoint.isBlank t

/-- The words of a text after the letters of one that has been begun, which are in reverse. -/
def wordsAfter (begun : Text) : Text → List Text
  | [] => if begun.isEmpty then [] else [begun.reverse]
  | c :: t =>
    if !c.isBlank then wordsAfter (c :: begun) t
    else if begun.isEmpty then wordsAfter [] t
    else begun.reverse :: wordsAfter [] t

/-- The words of a text, between which there are blanks. -/
def words (t : Text) : List Text :=
  wordsAfter [] t

end Retouch.Text
