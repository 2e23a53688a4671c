import Retouch.Failure

/-!
# Component identifiers

An identifier names an element by the place of its opening tag: the path of the file, the line and
the column, with colons between them. The path may hold colons itself, so an identifier is read from
its end.
-/

namespace Retouch

/-- The place of an element in a project. -/
structure Location where
  path : Text
  line : Nat
  column : Nat
  path_ne_nil : path ≠ []
  path_isScalar : path.isScalar
  one_le_line : 1 ≤ line
  deriving DecidableEq

namespace Location

/-- The identifier of a location. -/
def encode (location : Location) : Text :=
  location.path ++ ":" ++ Text.ofNat location.line ++ ":" ++ Text.ofNat location.column

/-- Cuts the digits and the colon before them from a reversed text. -/
def cutNumeral? (reversed : Text) : Option (Text × Text) :=
  match reversed.takeWhile CodePoint.isDecimal, reversed.dropWhile CodePoint.isDecimal with
  | [], _ => none
  | _, [] => none
  | digits, c :: rest => if c = ':' then some (digits.reverse, rest) else none

/-- The path and the numerals of an identifier. One line feed may follow the last numeral. -/
def parts? (id : Text) : Option (Text × Text × Text) := do
  let reversed := id.reverse
  let trimmed := if reversed.head? = some (CodePoint.ofChar '\n') then reversed.tail else reversed
  let (column, rest) ← cutNumeral? trimmed
  let (line, path) ← cutNumeral? rest
  if path.isEmpty then none else return (path.reverse, line, column)

/-- The number of a numeral, whose digits may be of any script. -/
def readNumeral (digits : Text) : Except Failure Nat :=
  if Numeral.digitLimit < digits.length then .error (.unexpected (.tooManyDigits digits.length))
  else .ok (Numeral.ofDigitValues 10 (digits.filterMap CodePoint.decimalValue?))

/-- The location that an identifier names. -/
def decode (id : Text) : Except Failure Location :=
  match parts? id with
  | none => .error (.invalidId id)
  | some (path, lineDigits, columnDigits) => do
    let line ← readNumeral lineDigits
    let column ← readNumeral columnDigits
    if h : path ≠ [] ∧ path.isScalar ∧ 1 ≤ line then return ⟨path, line, column, h.1, h.2.1, h.2.2⟩
    else throw (.invalidId id)

end Location

end Retouch
