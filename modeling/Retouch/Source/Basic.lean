import Retouch.Text.Utf8

/-!
# Source code

Source code is a sequence of bytes. Offsets count bytes, columns count the sixteen-bit units that
browsers count, and lines start at one.
-/

namespace Retouch

/-- A line, counted from one, and a column in it, counted from zero. -/
structure Position where
  line : Nat
  column : Nat
  deriving DecidableEq

namespace Position

/-- A position as messages write it. -/
def message (p : Position) : Text :=
  Text.ofNat p.line ++ ":" ++ Text.ofNat p.column

end Position

namespace Bytes

/-- The byte that ends a line. -/
def newline : UInt8 := 10

/-- The bytes from one offset up to another. -/
def slice (source : Bytes) (start stop : Nat) : Bytes :=
  (source.drop start).take (stop - start)

/-- The bytes between the last line end before an offset and the offset. -/
def lineUpTo (source : Bytes) (offset : Nat) : Bytes :=
  ((source.take offset).reverse.takeWhile (· != newline)).reverse

/-- The offset at which the line of an offset starts. An offset behind the last byte counts as the
one after it. -/
def lineStart (source : Bytes) (offset : Nat) : Nat :=
  (source.take offset).length - (lineUpTo source offset).length

/-- The offset after the first line end from an offset on, or after the last byte. -/
def lineStop (source : Bytes) (offset : Nat) : Nat :=
  let rest := source.drop offset
  let line := rest.takeWhile (· != newline)
  (source.take offset).length + line.length + if line.length < rest.length then 1 else 0

/-- The position of an offset. -/
def position (source : Bytes) (offset : Nat) : Position :=
  ⟨(source.take offset).count newline + 1, Text.units16 (Utf8.decodeForgiving (lineUpTo source offset))⟩

end Bytes

end Retouch
