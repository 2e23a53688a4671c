/-!
# Code points, texts and bytes

A text is a list of code points, and a lone surrogate is a code point like any other: escape
sequences in source code can name one. Only texts without surrogates have a byte form.
-/

namespace Retouch

/-- A Unicode code point: a character, or a surrogate that stands alone. -/
abbrev CodePoint := Fin 0x110000

/-- There are code points, so a numeral can name one. -/
instance CodePoint.count_neZero : @NeZero Nat Zero.ofOfNat0 0x110000 := Nat.instNeZeroSucc

/-- A sequence of code points. -/
abbrev Text := List CodePoint

/-- The content of a file. -/
abbrev Bytes := List UInt8

namespace CodePoint

/-- The code point of a character. -/
def ofChar (c : Char) : CodePoint :=
  ⟨c.toNat, by
    have h : c.toNat.isValidChar := c.valid
    unfold Nat.isValidChar at h
    omega⟩

instance : Coe Char CodePoint := ⟨ofChar⟩

/-- Surrogates are no characters: they only occur in pairs, in the sixteen-bit form of a text. -/
def isSurrogate (c : CodePoint) : Bool :=
  decide (0xD800 ≤ c.val ∧ c.val ≤ 0xDFFF)

/-- Decides whether a code point lies between two numbers, both included. -/
def isBetween (c : CodePoint) (low high : Nat) : Bool :=
  decide (low ≤ c.val ∧ c.val ≤ high)

/-- Decides whether a code point lies in one of the ranges of a table. -/
def isIn (table : List (Nat × Nat)) (c : CodePoint) : Bool :=
  table.any fun (low, high) => c.isBetween low high

/-- An ASCII letter. -/
def isAsciiLetter (c : CodePoint) : Bool :=
  c.isBetween 0x41 0x5A || c.isBetween 0x61 0x7A

/-- An ASCII digit. -/
def isAsciiDigit (c : CodePoint) : Bool :=
  c.isBetween 0x30 0x39

/-- The value of an ASCII hexadecimal digit of either case. -/
def hexValue? (c : CodePoint) : Option Nat :=
  if c.isBetween 0x30 0x39 then some (c.val - 0x30)
  else if c.isBetween 0x41 0x46 then some (c.val - 0x41 + 10)
  else if c.isBetween 0x61 0x66 then some (c.val - 0x61 + 10)
  else none

/-- A small letter for an ASCII capital, and everything else unchanged. -/
def toAsciiLower (c : CodePoint) : CodePoint :=
  if c.isBetween 0x41 0x5A then Fin.ofNat _ (c.val + 0x20) else c

end CodePoint

namespace Text

/-- The code points of a string. -/
def ofString (s : String) : Text :=
  s.toList.map CodePoint.ofChar

instance : Coe String Text := ⟨ofString⟩

/-- A text that holds no surrogate: one that a string or a file can hold. -/
def isScalar (t : Text) : Bool :=
  t.all fun c => !c.isSurrogate

/-- The string of a text without surrogates. -/
def toString? (t : Text) : Option String :=
  if isScalar t then some (String.ofList (t.map fun c => Char.ofNat c.val)) else none

/-- The decimal numeral of a natural number. -/
def ofNat (n : Nat) : Text :=
  (Nat.toDigits 10 n).map CodePoint.ofChar

/-- The decimal numeral of an integer. -/
def ofInt : Int → Text
  | .ofNat n => ofNat n
  | .negSucc n => CodePoint.ofChar '-' :: ofNat (n + 1)

/-- A number in hexadecimal, filled up with zeros to a width. -/
def hex (width : Nat) (n : Nat) : Text :=
  let digits := (Nat.toDigits 16 n).map CodePoint.ofChar
  List.replicate (width - digits.length) (CodePoint.ofChar '0') ++ digits

/-- The number of sixteen-bit units of a text: two for a code point beyond the first 65536. -/
def units16 (t : Text) : Nat :=
  t.foldr (fun c n => (if c.val < 0x10000 then 1 else 2) + n) 0

/-- Texts joined with a separator between each two. -/
def join (separator : Text) : List Text → Text
  | [] => []
  | [t] => t
  | t :: ts => t ++ separator ++ join separator ts

/-- The parts of a text between the occurrences of one code point; a text without any is one
part. -/
def split (separator : CodePoint) : Text → List Text
  | [] => [[]]
  | c :: t =>
    if c = separator then [] :: split separator t
    else (split separator t).modifyHead (c :: ·)

end Text

/-- Drops the leading items that satisfy a test. -/
def trimStart (test : α → Bool) (l : List α) : List α :=
  l.dropWhile test

/-- Drops the final items that satisfy a test. -/
def trimEnd (test : α → Bool) (l : List α) : List α :=
  (l.reverse.dropWhile test).reverse

/-- Drops the items that satisfy a test from both ends. -/
def trim (test : α → Bool) (l : List α) : List α :=
  trimEnd test (trimStart test l)

end Retouch
