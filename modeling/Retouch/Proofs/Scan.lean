import Mathlib
import Retouch.Proofs.Numeral
import Retouch.Proofs.ReadBack

/-!
# Literals as they are scanned

A scan goes over source code from left to right and takes an escape as a whole: a backslash with a
`u` and four hexadecimal digits, or with one other code point (`Literal.Piece.scan`). It finds in
the literal of a text the pieces that were written for it (`Literal.Piece.scan_append`), so the
first quote that no escape takes in is the last code point of the literal, and a node whose escapes
are those of the scan has the text for its value (`Text.literal_scanned`).
-/

namespace Retouch

namespace Escape

/-- The number of code points that an escape takes in after its backslash: a `u` with four
hexadecimal digits, or one code point. -/
def extent (t : Text) : Nat :=
  let digits := (t.drop 1).take 4
  if t.head? = some (CodePoint.ofChar 'u') ∧ digits.length = 4 ∧
    digits.all (·.hexValue?.isSome) then 5 else 1

end Escape

namespace Literal.Piece

/-- The pieces of a text that is scanned from left to right. -/
def scan : Text → List Piece
  | [] => []
  | c :: t =>
    if c = '\\' then escape (c :: t.take (Escape.extent t)) :: scan (t.drop (Escape.extent t))
    else plain c :: scan t
termination_by t => t.length
decreasing_by
  · rw [List.length_drop, List.length_cons]
    omega
  · rw [List.length_cons]
    omega

/-- The number of code points before the first double quote that no escape takes in. -/
def closing? (t : Text) : Option Nat :=
  let before := (scan t).takeWhile (· ≠ plain '"')
  if before.length < (scan t).length then some (before.flatMap source).length else none

end Literal.Piece

namespace Text

/-- A code point is written as it is, with a backslash before a code point that is neither a control
nor a `u`, or as four hexadecimal digits. -/
lemma escapeCodePoint_cases (c : CodePoint) :
    (escapeCodePoint c = [c] ∧ c ≠ CodePoint.ofChar '"' ∧ c ≠ CodePoint.ofChar '\\' ∧
      0x20 ≤ c.val) ∨
      (∃ d : CodePoint, escapeCodePoint c = [CodePoint.ofChar '\\', d] ∧ d ≠ CodePoint.ofChar 'u' ∧
        0x20 ≤ d.val) ∨
      ∃ digits : Text, escapeCodePoint c = CodePoint.ofChar '\\' :: CodePoint.ofChar 'u' :: digits ∧
        digits.length = 4 ∧ ∀ d ∈ digits, d.hexValue?.isSome = true := by
  unfold escapeCodePoint
  split_ifs with quote backslash lineFeed carriageReturn tab backspace formFeed control
  · exact .inr (.inl ⟨CodePoint.ofChar '"', rfl, by decide, by decide⟩)
  · exact .inr (.inl ⟨CodePoint.ofChar '\\', rfl, by decide, by decide⟩)
  · exact .inr (.inl ⟨CodePoint.ofChar 'n', rfl, by decide, by decide⟩)
  · exact .inr (.inl ⟨CodePoint.ofChar 'r', rfl, by decide, by decide⟩)
  · exact .inr (.inl ⟨CodePoint.ofChar 't', rfl, by decide, by decide⟩)
  · exact .inr (.inl ⟨CodePoint.ofChar 'b', rfl, by decide, by decide⟩)
  · exact .inr (.inl ⟨CodePoint.ofChar 'f', rfl, by decide, by decide⟩)
  · have fourDigits : ∀ n < 0x20, (hex 4 n).length = 4 ∧
        (hex 4 n).all (·.hexValue?.isSome) = true := by decide
    obtain ⟨size, digits⟩ := fourDigits c.val control
    exact .inr (.inr ⟨hex 4 c.val, rfl, size, List.all_eq_true.1 digits⟩)
  · exact .inl ⟨rfl, mt beq_iff_eq.2 quote, mt beq_iff_eq.2 backslash, Nat.not_lt.1 control⟩

end Text

namespace Literal.Piece

/-- A character that is no backslash is a piece of its own. -/
lemma scan_plain {c : CodePoint} (other : c ≠ CodePoint.ofChar '\\') (rest : Text) :
    scan (c :: rest) = plain c :: scan rest := by
  rw [scan, if_neg other]

/-- What is written for a code point is scanned as one piece. -/
lemma scan_escapeCodePoint (c : CodePoint) (rest : Text) :
    scan (Text.escapeCodePoint c ++ rest) = ofCodePoint c :: scan rest := by
  rcases Text.escapeCodePoint_cases c with ⟨alone, _, other, _⟩ | ⟨d, shape, other, _⟩ |
    ⟨digits, shape, size, hexadecimal⟩
  · rw [ofCodePoint, if_pos alone, alone]
    exact scan_plain other rest
  · have extent : Escape.extent (d :: rest) = 1 := by
      rw [Escape.extent, if_neg]
      rintro ⟨begins, _⟩
      exact other (Option.some.inj begins)
    rw [ofCodePoint, if_neg (by simp [shape]), shape, List.cons_append, scan, if_pos rfl,
      List.cons_append, List.nil_append, extent]
    rfl
  · have first : ((CodePoint.ofChar 'u' :: digits ++ rest).drop 1).take 4 = digits := by
      rw [List.cons_append, List.drop_one, List.tail_cons, ← size, List.take_left]
    have extent : Escape.extent (CodePoint.ofChar 'u' :: digits ++ rest) = 5 := by
      simp only [Escape.extent, first]
      rw [if_pos ⟨rfl, size, List.all_eq_true.2 hexadecimal⟩]
    have whole : (CodePoint.ofChar 'u' :: digits).length = 5 := by
      rw [List.length_cons, size]
    rw [ofCodePoint, if_neg (by simp [shape]), shape, List.cons_append, scan, if_pos rfl,
      extent, ← whole, List.take_left, List.drop_left]

/-- What is written for a text is scanned as the pieces that were written. -/
lemma scan_append (t rest : Text) :
    scan (t.flatMap Text.escapeCodePoint ++ rest) = t.map ofCodePoint ++ scan rest := by
  induction t with
  | nil => rfl
  | cons c t ih =>
    rw [List.flatMap_cons, List.append_assoc, scan_escapeCodePoint, ih]
    rfl

/-- No quote that is written for a text stands for itself. -/
lemma quote_not_mem_ofCodePoint (t : Text) : plain '"' ∉ t.map ofCodePoint := by
  intro mem
  obtain ⟨c, _, same⟩ := List.mem_map.1 mem
  unfold ofCodePoint at same
  split at same
  · rename_i alone
    cases same
    exact absurd alone (by decide)
  · cases same

/-- A scan from the body of a literal on ends where the body does. -/
lemma closing?_append (t after : Text) :
    closing? (t.flatMap Text.escapeCodePoint ++ CodePoint.ofChar '"' :: after) =
      some (t.flatMap Text.escapeCodePoint).length := by
  have unclosed : ∀ piece ∈ t.map ofCodePoint,
      decide (piece ≠ plain (CodePoint.ofChar '"')) = true := by
    intro piece mem
    refine decide_eq_true ?_
    rintro rfl
    exact quote_not_mem_ofCodePoint t mem
  have before : (scan (t.flatMap Text.escapeCodePoint ++ CodePoint.ofChar '"' :: after)).takeWhile
      (· ≠ plain (CodePoint.ofChar '"')) = t.map ofCodePoint := by
    rw [scan_append, scan_plain (by decide), List.takeWhile_append_of_pos unclosed,
      List.takeWhile_cons_of_neg (by simp), List.append_nil]
  simp only [closing?, before]
  rw [if_pos, flatMap_source_ofCodePoint]
  rw [scan_append, scan_plain (by decide), List.length_append, List.length_cons]
  omega

/-- The literal of a text is scanned as its quotes with the pieces that were written between
them. -/
lemma scan_literal (t : Text) :
    scan (Text.literal t) = plain '"' :: (t.map ofCodePoint ++ [plain '"']) := by
  have last : scan [CodePoint.ofChar '"'] = [plain '"'] := by
    rw [scan_plain (by decide), scan]
  rw [literal_eq_between, between, flatMap_source_ofCodePoint, List.append_assoc,
    List.singleton_append, scan_plain (by decide), scan_append, last]

/-- A code point that stands for itself adds no escape. -/
lemma spans_concat (offset : Nat) (pieces : List Piece) (c : CodePoint) :
    spans offset (pieces ++ [plain c]) = spans offset pieces := by
  induction pieces generalizing offset with
  | nil => rfl
  | cons piece pieces ih =>
    cases piece with
    | plain d => simp only [List.cons_append, spans, ih]
    | escape sequence => simp only [List.cons_append, spans, ih]

/-- The escapes that are scanned in a literal are those that were written after its first quote. -/
lemma spans_scan_literal (offset : Nat) (t : Text) :
    spans offset (scan (Text.literal t)) = spans (offset + 1) (t.map ofCodePoint) := by
  have narrow : Utf8.size [CodePoint.ofChar '"'] = 1 := by decide
  rw [scan_literal, spans, narrow, spans_concat]

end Literal.Piece

namespace Text

/-- Controls are never written as they are. -/
lemma le_of_mem_escapeCodePoint {c d : CodePoint} (mem : d ∈ escapeCodePoint c) : 0x20 ≤ d.val := by
  rcases escapeCodePoint_cases c with
    ⟨shape, _, _, visible⟩ | ⟨e, shape, _, visible⟩ | ⟨digits, shape, _, hex⟩
  · rw [shape, List.mem_singleton] at mem
    rw [mem]
    exact visible
  · rw [shape, List.mem_cons, List.mem_singleton] at mem
    rcases mem with rfl | rfl
    · decide
    · exact visible
  · rw [shape, List.mem_cons, List.mem_cons] at mem
    rcases mem with rfl | rfl | mem
    · decide
    · decide
    · have bounds := CodePoint.hexValue?_isSome_iff.1 (hex d mem)
      omega

/-- The literal of a text begins and ends with a quote. Between them stand neither line ends nor a
quote that no escape takes in, so a scan from the first one ends at the last one, whatever follows.
A string node that covers the literal and whose escapes are those of the scan has the text for its
value. -/
theorem literal_scanned (t : Text) (scalar : t.isScalar = true) :
    (∃ body, literal t = [CodePoint.ofChar '"'] ++ body ++ [CodePoint.ofChar '"'] ∧
      CodePoint.ofChar '\r' ∉ body ∧ CodePoint.ofChar '\n' ∉ body ∧
      .plain '"' ∉ Literal.Piece.scan body ∧
      ∀ after, Literal.Piece.closing? (body ++ CodePoint.ofChar '"' :: after) = some body.length) ∧
    ∀ (document : Document) (node : Node),
      document.HoldsString node (literal t)
          (Literal.Piece.spans node.start (Literal.Piece.scan (literal t))) →
        document.stringValue node = .ok t := by
  have visible : ∀ d ∈ t.flatMap escapeCodePoint, 0x20 ≤ d.val := by
    intro d mem
    obtain ⟨c, _, mem⟩ := List.mem_flatMap.1 mem
    exact le_of_mem_escapeCodePoint mem
  constructor
  · refine ⟨t.flatMap escapeCodePoint, rfl, ?_, ?_, ?_, Literal.Piece.closing?_append t⟩
    · exact fun mem => absurd (visible _ mem) (by decide)
    · exact fun mem => absurd (visible _ mem) (by decide)
    · rw [← List.append_nil (t.flatMap escapeCodePoint), Literal.Piece.scan_append,
        Literal.Piece.scan, List.append_nil]
      exact Literal.Piece.quote_not_mem_ofCodePoint t
  · intro document node held
    rw [Literal.Piece.spans_scan_literal, Literal.Piece.literal_eq_between] at held
    rw [held.stringValue_eq_value (.inl rfl) (Literal.Piece.isScalar_source_ofCodePoint scalar),
      Literal.Piece.flatMap_value_ofCodePoint]

/-- A text with a line break, a quote and a character of two bytes is read from its literal. -/
theorem literal_scanned_sample :
    Sample.Quoted.text.isScalar = true ∧ Literal.Piece.scan (literal Sample.Quoted.text) =
        [.plain '"', .plain 'a', .escape "\\n", .escape "\\\"", .plain 'é', .plain '"'] ∧
      Sample.Quoted.document.HoldsString Sample.Quoted.literal (literal Sample.Quoted.text)
        (Literal.Piece.spans Sample.Quoted.literal.start
          (Literal.Piece.scan (literal Sample.Quoted.text))) ∧
      Sample.Quoted.document.stringValue Sample.Quoted.literal = .ok Sample.Quoted.text := by
  have scalar : Sample.Quoted.text.isScalar = true := by decide +kernel
  have scanned : Literal.Piece.scan (literal Sample.Quoted.text) =
      [.plain '"', .plain 'a', .escape "\\n", .escape "\\\"", .plain 'é', .plain '"'] := by
    decide +kernel
  have held : Sample.Quoted.document.HoldsString Sample.Quoted.literal (literal Sample.Quoted.text)
      (Literal.Piece.spans Sample.Quoted.literal.start
        (Literal.Piece.scan (literal Sample.Quoted.text))) := by
    rw [scanned]
    refine ⟨rfl, ?_, by decide +kernel, by decide +kernel, by decide +kernel⟩
    unfold Document.Spells
    decide +kernel
  exact ⟨scalar, scanned, held, (literal_scanned Sample.Quoted.text scalar).2 _ _ held⟩

end Text

end Retouch
