import Retouch.Text.Printable

/-!
# Quoted texts

Two quoted forms: `shown` for messages, which picks its quote and spells out what cannot be printed,
and `literal`, the double-quoted form that data files and source code share.
-/

namespace Retouch.Text

/-- A code point inside a text shown between the given quotes. -/
def showCodePoint (quote : CodePoint) (c : CodePoint) : Text :=
  if c == quote || c == '\\' then ['\\', c]
  else if c == '\t' then "\\t"
  else if c == '\n' then "\\n"
  else if c == '\r' then "\\r"
  else if c.isPrintable then [c]
  else if c.val ≤ 0xFF then "\\x" ++ hex 2 c.val
  else if c.val ≤ 0xFFFF then "\\u" ++ hex 4 c.val
  else "\\U" ++ hex 8 c.val

/-- A text between single quotes, or between double quotes if it holds single ones only. -/
def shown (t : Text) : Text :=
  let quote : CodePoint := if t.any (· == '\'') && !t.any (· == '"') then '"' else '\''
  [quote] ++ t.flatMap (showCodePoint quote) ++ [quote]

/-- A code point inside a literal: quotes, backslashes and controls are escaped. -/
def escapeCodePoint (c : CodePoint) : Text :=
  if c == '"' then "\\\""
  else if c == '\\' then "\\\\"
  else if c == '\n' then "\\n"
  else if c == '\r' then "\\r"
  else if c == '\t' then "\\t"
  else if c == '\x08' then "\\b"
  else if c == '\x0c' then "\\f"
  else if c.val < 0x20 then "\\u" ++ hex 4 c.val
  else [c]

/-- A text as a double-quoted literal. -/
def literal (t : Text) : Text :=
  "\"" ++ t.flatMap escapeCodePoint ++ "\""

end Retouch.Text
