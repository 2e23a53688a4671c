import Retouch.Defect
import Retouch.Markup.ReferenceTable

/-!
# Character references

A reference is an ampersand followed by the number or the name of a character. Numbers that name no
character, and those of the old Windows controls, have values of their own. Most names need a
semicolon; the oldest ones do not, and are found even at the start of a longer word.
-/

namespace Retouch.Reference

/-- The characters that the numbers of the controls from 128 on name. -/
def windowsControls : List (Nat × CodePoint) := [
  (0x80, 0x20AC), (0x82, 0x201A), (0x83, 0x192), (0x84, 0x201E), (0x85, 0x2026), (0x86, 0x2020),
  (0x87, 0x2021), (0x88, 0x2C6), (0x89, 0x2030), (0x8A, 0x160), (0x8B, 0x2039), (0x8C, 0x152),
  (0x8E, 0x17D), (0x91, 0x2018), (0x92, 0x2019), (0x93, 0x201C), (0x94, 0x201D), (0x95, 0x2022),
  (0x96, 0x2013), (0x97, 0x2014), (0x98, 0x2DC), (0x99, 0x2122), (0x9A, 0x161), (0x9B, 0x203A),
  (0x9C, 0x153), (0x9E, 0x17E), (0x9F, 0x178)]

/-- A table with texts for its names. -/
def named (table : List (String × CodePoint)) : List (Text × CodePoint) :=
  table.map fun (name, value) => (Text.ofString name, value)

/-- The names that may stand without a semicolon. -/
def plainNames : List (Text × CodePoint) := named [
  ("AElig", 0xC6), ("AMP", 0x26), ("Aacute", 0xC1), ("Acirc", 0xC2), ("Agrave", 0xC0),
  ("Aring", 0xC5), ("Atilde", 0xC3), ("Auml", 0xC4), ("COPY", 0xA9), ("Ccedil", 0xC7),
  ("ETH", 0xD0), ("Eacute", 0xC9), ("Ecirc", 0xCA), ("Egrave", 0xC8), ("Euml", 0xCB), ("GT", 0x3E),
  ("Iacute", 0xCD), ("Icirc", 0xCE), ("Igrave", 0xCC), ("Iuml", 0xCF), ("LT", 0x3C),
  ("Ntilde", 0xD1), ("Oacute", 0xD3), ("Ocirc", 0xD4), ("Ograve", 0xD2), ("Oslash", 0xD8),
  ("Otilde", 0xD5), ("Ouml", 0xD6), ("QUOT", 0x22), ("REG", 0xAE), ("THORN", 0xDE),
  ("Uacute", 0xDA), ("Ucirc", 0xDB), ("Ugrave", 0xD9), ("Uuml", 0xDC), ("Yacute", 0xDD),
  ("aacute", 0xE1), ("acirc", 0xE2), ("acute", 0xB4), ("aelig", 0xE6), ("agrave", 0xE0),
  ("amp", 0x26), ("aring", 0xE5), ("atilde", 0xE3), ("auml", 0xE4), ("brvbar", 0xA6),
  ("ccedil", 0xE7), ("cedil", 0xB8), ("cent", 0xA2), ("copy", 0xA9), ("curren", 0xA4),
  ("deg", 0xB0), ("divide", 0xF7), ("eacute", 0xE9), ("ecirc", 0xEA), ("egrave", 0xE8),
  ("eth", 0xF0), ("euml", 0xEB), ("frac12", 0xBD), ("frac14", 0xBC), ("frac34", 0xBE), ("gt", 0x3E),
  ("iacute", 0xED), ("icirc", 0xEE), ("iexcl", 0xA1), ("igrave", 0xEC), ("iquest", 0xBF),
  ("iuml", 0xEF), ("laquo", 0xAB), ("lt", 0x3C), ("macr", 0xAF), ("micro", 0xB5), ("middot", 0xB7),
  ("nbsp", 0xA0), ("not", 0xAC), ("ntilde", 0xF1), ("oacute", 0xF3), ("ocirc", 0xF4),
  ("ograve", 0xF2), ("ordf", 0xAA), ("ordm", 0xBA), ("oslash", 0xF8), ("otilde", 0xF5),
  ("ouml", 0xF6), ("para", 0xB6), ("plusmn", 0xB1), ("pound", 0xA3), ("quot", 0x22),
  ("raquo", 0xBB), ("reg", 0xAE), ("sect", 0xA7), ("shy", 0xAD), ("sup1", 0xB9), ("sup2", 0xB2),
  ("sup3", 0xB3), ("szlig", 0xDF), ("thorn", 0xFE), ("times", 0xD7), ("uacute", 0xFA),
  ("ucirc", 0xFB), ("ugrave", 0xF9), ("uml", 0xA8), ("uuml", 0xFC), ("yacute", 0xFD), ("yen", 0xA5),
  ("yuml", 0xFF)]

/-- The text that a name stands for that needs a semicolon. -/
def closedName? (name : Text) : Option Text :=
  (ReferenceTable.all.find? fun (known, _) => Text.ofString known == name).map fun (_, value) =>
    Text.ofString value

/-- The characters that a name stands for, with or without a semicolon at its end. -/
def named? (name : Text) : Option Text :=
  if name.getLast? = some (CodePoint.ofChar ';') then
    ((plainNames.lookup name.dropLast).map fun c => [c]).or (closedName? name.dropLast)
  else (plainNames.lookup name).map fun c => [c]

/-- Controls and the numbers that are set aside as no characters. -/
def isNonCharacter (n : Nat) : Bool :=
  (1 ≤ n && n ≤ 8) || n == 0x0B || (0x0E ≤ n && n ≤ 0x1F) || (0x7F ≤ n && n ≤ 0x9F) ||
    (0xFDD0 ≤ n && n ≤ 0xFDEF) || n % 0x10000 == 0xFFFE || n % 0x10000 == 0xFFFF

/-- The text that a number stands for. -/
def numbered (n : Nat) : Text :=
  if n = 0 then [0xFFFD]
  else if n = 0x0D then ['\r']
  else match windowsControls.lookup n with
    | some c => [c]
    | none =>
      if n = 0x81 ∨ n = 0x8D ∨ n = 0x8F ∨ n = 0x90 ∨ n = 0x9D then [Fin.ofNat _ n]
      else if 0xD800 ≤ n ∧ n ≤ 0xDFFF ∨ 0x10FFFF < n then [0xFFFD]
      else if isNonCharacter n then []
      else [Fin.ofNat _ n]

/-- The code points that a name is made of. -/
def isNamePart (c : CodePoint) : Bool :=
  !(c == '\t' || c == '\n' || c == '\x0c' || c == ' ' || c == '<' || c == '&' || c == '#' || c == ';')

/-- The longest beginning of a word, of at least two code points and at most `size`, that is a
name. -/
def longestName? (word : Text) : (size : Nat) → Option (Text × Nat)
  | 0 => none
  | size + 1 =>
    if size + 1 < 2 then none
    else match named? (word.take (size + 1)) with
      | some value => some (value, size + 1)
      | none => longestName? word size

/-- The text that a word after an ampersand stands for. -/
def resolveWord (word : Text) : Text :=
  match named? word with
  | some value => value
  | none =>
    match longestName? word (word.length - 1) with
    | some (value, size) => value ++ word.drop size
    | none => CodePoint.ofChar '&' :: word

/-- One if a text starts with a semicolon, and else zero. -/
def semicolonSize (t : Text) : Nat :=
  if t.head? = some (CodePoint.ofChar ';') then 1 else 0

/-- Reads the reference that an ampersand before the text starts: the number of code points that
belong to it and the text that it stands for. -/
def read? (t : Text) : Except Defect (Option (Nat × Text)) :=
  match t with
  | [] => .ok none
  | c :: rest =>
    if c = '#' then
      let digits := rest.takeWhile CodePoint.isAsciiDigit
      if !digits.isEmpty then
        if Numeral.digitLimit < digits.length then .error (.tooManyDigits digits.length)
        else
          let size := 1 + digits.length
          let n := Numeral.ofDigitValues 10 (digits.filterMap CodePoint.hexValue?)
          .ok (some (size + semicolonSize (t.drop size), numbered n))
      else match rest with
        | [] => .ok none
        | x :: tail =>
          let hexDigits := tail.takeWhile fun c => c.hexValue?.isSome
          if (x = 'x' ∨ x = 'X') ∧ !hexDigits.isEmpty then
            let size := 2 + hexDigits.length
            let n := Numeral.ofDigitValues 16 (hexDigits.filterMap CodePoint.hexValue?)
            .ok (some (size + semicolonSize (t.drop size), numbered n))
          else .ok none
    else
      let word := (t.take 32).takeWhile isNamePart
      if word.isEmpty then .ok none
      else
        let size := word.length + semicolonSize (t.drop word.length)
        .ok (some (size, resolveWord (t.take size)))

/-- Resolves the references of a text after passing over some code points. -/
def resolveAfter : (passed : Nat) → Text → Except Defect Text
  | _, [] => .ok []
  | passed + 1, _ :: t => resolveAfter passed t
  | 0, c :: t => do
    if c = '&' then
      match ← read? t with
      | some (size, value) => return value ++ (← resolveAfter size t)
      | none => return c :: (← resolveAfter 0 t)
    else return c :: (← resolveAfter 0 t)

/-- A text with the characters that its references stand for. -/
def resolve (t : Text) : Except Defect Text :=
  resolveAfter 0 t

end Retouch.Reference
