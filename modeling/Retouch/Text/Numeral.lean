import Retouch.Text.Blank
import Retouch.Text.Digit

/-!
# Reading integers

A numeral may stand between blanks, have a sign and single underscores between its digits, and use
the decimal digits of any script. Hexadecimal numerals may start with `0x`. Decimal numerals have at
most `digitLimit` digits: their conversion takes quadratic time.
-/

namespace Retouch.Numeral

/-- The radices in which numerals are read. -/
inductive Radix where
  | decimal
  | hexadecimal
  deriving DecidableEq

/-- Why a text is no numeral. -/
inductive Refusal where
  /-- The text is not of the form of a numeral. -/
  | malformed
  /-- The text starts with a decimal numeral of too many digits. -/
  | tooLong (digits : Nat)
  deriving DecidableEq

/-- The number of digits that a decimal numeral may have. -/
def digitLimit : Nat := 4300

/-- How the refusal of a numeral with too many digits is worded. -/
def tooLongMessage (digits : Nat) : Text :=
  "Exceeds the limit (" ++ Text.ofNat digitLimit ++ " digits) for integer string conversion: value has " ++
    Text.ofNat digits ++ " digits; use sys.set_int_max_str_digits() to increase the limit"

/-- The base of a radix. -/
def Radix.base : Radix → Nat
  | .decimal => 10
  | .hexadecimal => 16

/-- The value of an ASCII digit in a radix. -/
def Radix.digitValue? (radix : Radix) (c : CodePoint) : Option Nat :=
  c.hexValue?.filter (· < radix.base)

/-- The number that a list of digit values denotes, the most significant first. -/
def ofDigitValues (base : Nat) (values : List Nat) : Nat :=
  values.foldl (fun n d => n * base + d) 0

/-- The ASCII form of a code point in a numeral: digits of any script become ASCII digits, blanks
beyond ASCII spaces, and what has no part in a numeral a question mark. -/
def toAscii (c : CodePoint) : CodePoint :=
  if c.val < 0x7F then c
  else if c.isBlank then ' '
  else match c.decimalValue? with
    | some d => Fin.ofNat _ (0x30 + d)
    | none => '?'

/-- The blanks that ASCII numerals may stand between. -/
def isSpace (c : CodePoint) : Bool :=
  c.isBetween 0x09 0x0D || c == ' '

/-- Underscores stand singly between digits. -/
def underscoresFit : Text → Bool
  | [] => true
  | [c] => c != '_'
  | c :: d :: t => !(c == '_' && d == '_') && underscoresFit (d :: t)

/-- Reads the digits of a numeral up to its end. -/
def readDigits (radix : Radix) (t : Text) : Except Refusal Nat :=
  let isPart := fun c => (radix.digitValue? c).isSome || c == '_'
  let run := t.takeWhile isPart
  let values := run.filterMap radix.digitValue?
  if run.head? == some (CodePoint.ofChar '_') || !underscoresFit run then .error .malformed
  else if radix = .decimal ∧ digitLimit < values.length then .error (.tooLong values.length)
  else if values.isEmpty || !(t.dropWhile isPart).all isSpace then .error .malformed
  else .ok (ofDigitValues radix.base values)

/-- Drops the mark of a hexadecimal numeral, with one underscore after it. -/
def dropMark (radix : Radix) (t : Text) : Text :=
  match radix, t with
  | .hexadecimal, c :: d :: rest =>
    if c == '0' && (d == 'x' || d == 'X') then
      if rest.head? == some (CodePoint.ofChar '_') then rest.tail else rest
    else t
  | _, _ => t

/-- Reads an integer. -/
def read (radix : Radix) (t : Text) : Except Refusal Int :=
  match (t.map toAscii).dropWhile isSpace with
  | [] => .error .malformed
  | c :: rest =>
    if c == '-' then (readDigits radix (dropMark radix rest)).map fun n => -(n : Int)
    else if c == '+' then (readDigits radix (dropMark radix rest)).map Int.ofNat
    else (readDigits radix (dropMark radix (c :: rest))).map Int.ofNat

end Retouch.Numeral
