import Retouch.Model.Issue
import Retouch.Text.Numeral
import Retouch.Text.Utf8

/-!
# Defects

Conditions that no answer foresees: they end an operation, and its answer only says that something
unexpected happened.
-/

namespace Retouch

/-- A condition that ends an operation without an answer of its own. -/
inductive Defect where
  /-- A stretch of source code is not a text. -/
  | undecodable (error : Utf8.DecodeError)
  /-- A character reference has more digits than are read. -/
  | tooManyDigits (digits : Nat)
  /-- New source code or the name of a file would hold a lone surrogate. -/
  | unencodable (error : Utf8.EncodeError)
  /-- A string literal does not even have its quote. -/
  | emptyLiteral
  /-- A path holds the code point zero. -/
  | nulInPath
  /-- Symbolic links lead in a circle. -/
  | linkLoop
  /-- Requested updates are not of the right form. -/
  | invalidUpdates (issues : List Issue)
  /-- An identifier is not a text. -/
  | idNotText
  deriving DecidableEq

end Retouch
