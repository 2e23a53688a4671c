import Retouch.Text.CaseTable

/-!
# Small letters

Turning a text into small letters goes code point by code point, with two exceptions: the capital I
with a dot becomes two code points, and a capital sigma that ends a word has a form of its own.
-/

namespace Retouch.CodePoint

/-- A code point that is, or stands for, a letter with case. -/
def isCased (c : CodePoint) : Bool :=
  c.isIn casedRanges

/-- A code point that is passed over when case is decided by context. -/
def isCaseIgnorable (c : CodePoint) : Bool :=
  c.isIn caseIgnorableRanges

end Retouch.CodePoint

namespace Retouch.Text

/-- Decides whether the first code point that counts for case has case. -/
def startsCased (t : Text) : Bool :=
  ((t.dropWhile CodePoint.isCaseIgnorable).head?.map CodePoint.isCased).getD false

/-- The small letters of a text that stands after the given code points, the nearest first. -/
def toLowerAfter (before : List CodePoint) : Text → Text
  | [] => []
  | c :: t =>
    let small : Text :=
      if c = 0x130 then [0x69, 0x307]
      else if c = 0x3A3 then
        if startsCased before && !startsCased t then [0x3C2] else [0x3C3]
      else [c.toSmall]
    small ++ toLowerAfter (c :: before) t

/-- A text in small letters. -/
def toLower (t : Text) : Text :=
  toLowerAfter [] t

end Retouch.Text
