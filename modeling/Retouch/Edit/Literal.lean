import Retouch.Text.Blank
import Retouch.Text.Digit
import Retouch.Text.Quote

/-!
# Writing values

How a text is written into markup so that it means itself: as a plain attribute value or plain text
where nothing in it would be read as something else, and as a string literal between braces
otherwise.
-/

namespace Retouch.Literal

/-- A string literal between braces. -/
def braced (value : Text) : Text :=
  "\x7b" ++ Text.literal value ++ "\x7d"

/-- Decides whether one text stands somewhere in another. -/
def occursIn (part : Text) : Text → Bool
  | [] => part.isEmpty
  | c :: t => part.isPrefixOf (c :: t) || occursIn part t

/-- Decides whether a text after some part of a reference starts with a semicolon. -/
def closes (t : Text) : Bool :=
  t.head? == some (CodePoint.ofChar ';')

/-- Decides whether the text after an ampersand makes it a character reference that ends with a
semicolon. -/
def completesReference : Text → Bool
  | [] => false
  | c :: t =>
    if c = '#' then
      let decimal := t.takeWhile CodePoint.isDecimal
      let isHex := fun (d : CodePoint) => d.hexValue?.isSome
      !decimal.isEmpty && closes (t.dropWhile CodePoint.isDecimal) ||
        match t with
        | [] => false
        | x :: u => x = 'x' && !(u.takeWhile isHex).isEmpty && closes (u.dropWhile isHex)
    else c.isAsciiLetter && closes (t.dropWhile fun d => d.isAsciiLetter || d.isAsciiDigit)

/-- Decides whether a text holds something that markup reads as a character reference. -/
def holdsReference : Text → Bool
  | [] => false
  | c :: t => c = '&' && completesReference t || holdsReference t

/-- The value of an attribute as it is written: between quotes that do not occur in it, the
preferred ones first, or else between braces. Attribute values have no escapes. -/
def attributeValue (preferred value : Text) : Text :=
  if holdsReference value then braced value
  else match [preferred, Text.ofString "\"", Text.ofString "'"].find? fun quote => !occursIn quote value with
    | some quote => quote ++ value ++ quote
    | none => braced value

/-- The code points that mean something else than themselves between tags. -/
def isReserved (c : CodePoint) : Bool :=
  c == '\x7b' || c == '\x7d' || c == '<' || c == '>' || c == '\r' || c == '\n'

/-- A text as it is written between tags. -/
def content (value : Text) : Text :=
  if value.any isReserved || holdsReference value || value ≠ trim CodePoint.isSpaceOrTab value then
    braced value
  else value

end Retouch.Literal
