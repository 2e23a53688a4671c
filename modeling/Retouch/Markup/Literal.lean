import Retouch.Markup.Reference
import Retouch.Source.Document

/-!
# Values of literals

What a string literal or a template without expressions denotes: escape sequences and character
references stand for characters, and everything else for itself.
-/

namespace Retouch

namespace Escape

/-- The characters that a single letter or digit after the backslash names. -/
def letters : List (CodePoint × CodePoint) := [
  ('0', 0x00), ('b', 0x08), ('f', 0x0C), ('n', 0x0A), ('r', 0x0D), ('t', 0x09), ('v', 0x0B)]

/-- The code point that hexadecimal digits name. -/
def codePoint? (digits : Text) : Option CodePoint :=
  match Numeral.read .hexadecimal digits with
  | .ok n => if h : 0 ≤ n ∧ n < 0x110000 then some ⟨n.toNat, by omega⟩ else none
  | .error _ => none

/-- The digits of a numeric escape, braces left out. -/
def digits : (body : Text) → Text
  | c :: d :: rest => if c = 'u' ∧ d = '\x7b' then rest.dropLast else d :: rest
  | body => body.drop 1

/-- The text that an escape sequence stands for. One that names nothing stands for what follows its
backslash, and one before a line break for nothing. -/
def decode (sequence : Text) : Text :=
  match sequence.drop 1 with
  | [] => sequence
  | c :: rest =>
    let body := c :: rest
    if (c = 'u' ∨ c = 'x') ∧ !rest.isEmpty then
      match codePoint? (digits body) with
      | some value => [value]
      | none => body
    else if c = '\r' ∨ c = '\n' then []
    else match rest, letters.lookup c with
      | [], some value => [value]
      | _, _ => body

end Escape

namespace Document

/-- The text that a part of a string literal stands for, unless it stands for itself. -/
def partValue? (document : Document) (part : Node) : Except Defect (Option Text) :=
  match part.kind with
  | .escape => return some (Escape.decode (← document.text part))
  | .reference => return some (← Reference.resolve (← document.text part))
  | _ => return none

/-- The value of a string literal from an offset on, given the parts of the literal that follow. -/
def stringValueFrom (document : Document) (stop : Nat) (offset : Nat) :
    List Node → Except Defect Text
  | [] => document.textBetween offset stop
  | part :: parts => do
    match ← document.partValue? part with
    | none => stringValueFrom document stop offset parts
    | some value =>
      let before ← document.textBetween offset part.start
      return before ++ value ++ (← stringValueFrom document stop part.stop parts)

/-- The offset of the closing quote of a string literal. Before the first byte stands the last. -/
def closingQuote (document : Document) (node : Node) : Nat :=
  if node.stop = 0 then document.source.length - 1 else node.stop - 1

/-- The value of a string literal. -/
def stringValue (document : Document) (node : Node) : Except Defect Text :=
  document.stringValueFrom (document.closingQuote node) (node.start + 1) node.children

/-- The value of a string literal or of a template without expressions, inside any parentheses. -/
def literalValue? (document : Document) (node : Node) : Except Defect (Option Text) :=
  match node.insideParentheses? with
  | none => .ok none
  | some inner =>
    match inner.kind with
    | .string => (document.stringValue inner).map some
    | .template =>
      if inner.children.any (·.kind = .substitution) then .ok none
      else (document.text inner).map fun t => some (t.drop 1).dropLast
    | _ => .ok none

end Document

end Retouch
