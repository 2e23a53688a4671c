import Retouch.Failure

/-!
# Edits

An edit replaces the bytes between two offsets of the source code. Edits are collected first and
carried out together, so that all offsets refer to the source code as it was.
-/

namespace Retouch

/-- A replacement of the bytes from one offset up to another. -/
structure Edit where
  start : Nat
  stop : Nat
  replacement : Bytes
  deriving DecidableEq

namespace Edit

/-- The edit that puts a text in place of a span; a text with surrogates cannot be written. -/
def replace (start stop : Nat) (text : Text) : Except Failure Edit :=
  match Utf8.encode text with
  | .ok bytes => .ok ⟨start, stop, bytes⟩
  | .error error => .error (.unexpected (.unencodable error))

/-- Edits are ordered by their start, and those with the same start by their stop. -/
def precedes (a b : Edit) : Bool :=
  a.start < b.start || a.start == b.start && a.stop ≤ b.stop

/-- Puts an edit before the first one that comes at or after it. -/
def insert (edit : Edit) : List Edit → List Edit
  | [] => [edit]
  | other :: others =>
    if edit.precedes other then edit :: other :: others else other :: insert edit others

/-- Sorts edits. Those with equal spans stay in their order. -/
def sort (edits : List Edit) : List Edit :=
  edits.foldr insert []

/-- Carries out sorted edits from an offset on. -/
def splice (source : Bytes) (offset : Nat) : List Edit → Except Failure Bytes
  | [] => .ok (source.drop offset)
  | edit :: edits =>
    if edit.start < offset then .error (.overlap edit.start)
    else do
      let rest ← splice source edit.stop edits
      return Bytes.slice source offset edit.start ++ edit.replacement ++ rest

/-- The source code after all edits. Edits whose spans overlap are refused. -/
def render (source : Bytes) (edits : List Edit) : Except Failure Bytes :=
  splice source 0 (sort edits)

end Edit

end Retouch
