import Mathlib
import Retouch.Edit.Literal
import Retouch.Markup.Literal
import Retouch.Proofs.Utf8

/-!
# Written literals

What is written for a text without surrogates holds none (`Literal.isScalar_attributeValue`). The
body of a string literal is a list of pieces (`Literal.Piece`), and the value of a literal whose
escapes are parsed as such is what its pieces stand for (`Document.stringValue_pieces`). So a
literal that is parsed the way it was written has the value that was written
(`Document.stringValue_eq`).
-/

namespace Retouch

namespace CodePoint

/-- A character is no surrogate. -/
@[simp]
lemma isSurrogate_ofChar (c : Char) : (ofChar c).isSurrogate = false := by
  have valid : c.toNat < 0xD800 ∨ 0xDFFF < c.toNat ∧ c.toNat < 0x110000 := c.valid
  rw [isSurrogate, decide_eq_false_iff_not]
  change ¬(0xD800 ≤ c.toNat ∧ c.toNat ≤ 0xDFFF)
  omega

end CodePoint

namespace Text

/-- A string holds no surrogates. -/
@[simp]
lemma isScalar_ofString (s : String) : (ofString s).isScalar = true := by
  simp [isScalar, ofString]

/-- A hexadecimal numeral holds no surrogates. -/
@[simp]
lemma isScalar_hex (width n : Nat) : (hex width n).isScalar = true := by
  simp [isScalar, hex]

/-- What is written for a character holds no surrogates. -/
lemma isScalar_escapeCodePoint {c : CodePoint} (scalar : c.isSurrogate = false) :
    (escapeCodePoint c).isScalar = true := by
  have alone : isScalar [c] = true := by simp [isScalar, scalar]
  unfold escapeCodePoint
  repeat' split
  all_goals simp [alone]

/-- The literal of a text without surrogates holds none. -/
lemma isScalar_literal {t : Text} (scalar : t.isScalar = true) : (literal t).isScalar = true := by
  have inside : isScalar (t.flatMap escapeCodePoint) = true := by
    induction t with
    | nil => rfl
    | cons c t ih =>
      simp only [isScalar_cons, Bool.and_eq_true, Bool.not_eq_true'] at scalar
      simp [isScalar_escapeCodePoint scalar.1, ih scalar.2]
  simp [literal, inside]

end Text

namespace Literal

variable {value : Text}

/-- A text without surrogates is written between braces without any. -/
lemma isScalar_braced (scalar : value.isScalar = true) : (braced value).isScalar = true := by
  simp [braced, Text.isScalar_literal scalar]

/-- A value without surrogates is written without any, if the quotes are no surrogates. -/
lemma isScalar_attributeValue {quote : Text} (preferred : quote.isScalar = true)
    (scalar : value.isScalar = true) : (attributeValue quote value).isScalar = true := by
  unfold attributeValue
  split
  · exact isScalar_braced scalar
  · split
    · rename_i chosen found
      have listed := List.mem_of_find?_eq_some found
      have scalars : chosen.isScalar = true := by
        simp only [List.mem_cons, List.not_mem_nil, or_false] at listed
        rcases listed with rfl | rfl | rfl <;> simp [preferred]
      simp [scalars, scalar]
    · exact isScalar_braced scalar

end Literal

namespace Text

/-- The spans of the escapes in the literal of a text, which is written from an offset on. -/
def escapeSpans (offset : Nat) : Text → List (Nat × Nat)
  | [] => []
  | c :: t =>
    let next := offset + Utf8.size (escapeCodePoint c)
    if escapeCodePoint c = [c] then escapeSpans next t else (offset, next) :: escapeSpans next t

/-- An escape stands for the code point that it is written for. -/
lemma decode_escapeCodePoint {c : CodePoint} (escaped : escapeCodePoint c ≠ [c]) :
    Escape.decode (escapeCodePoint c) = [c] := by
  have controls : ∀ n (small : n < 0x20),
      Escape.decode (escapeCodePoint ⟨n, by omega⟩) = [⟨n, by omega⟩] := by
    decide +kernel
  by_cases control : c.val < 0x20
  · exact controls c.val control
  · by_cases quote : c = CodePoint.ofChar '"'
    · subst quote
      decide +kernel
    · by_cases backslash : c = CodePoint.ofChar '\\'
      · subst backslash
        decide +kernel
      · refine absurd ?_ escaped
        have other {d : CodePoint} (small : d.val < 0x20) : (c == d) = false := by
          rw [beq_eq_false_iff_ne]
          rintro rfl
          exact control small
        simp [escapeCodePoint, quote, backslash, control,
          other (d := CodePoint.ofChar '\n') (by decide), other (d := CodePoint.ofChar '\r')
            (by decide), other (d := CodePoint.ofChar '\t') (by decide),
          other (d := CodePoint.ofChar '\x08') (by decide),
          other (d := CodePoint.ofChar '\x0c') (by decide)]

end Text

namespace Literal

/-- A quote between which the value of an attribute can stand. -/
def IsQuote (c : CodePoint) : Prop :=
  c = '"' ∨ c = '\''

/-- What the body of a string literal is made of. -/
inductive Piece where
  /-- A code point that stands for itself. -/
  | plain (c : CodePoint)
  | escape (sequence : Text)
  deriving DecidableEq

namespace Piece

/-- A piece as it is written. -/
def source : Piece → Text
  | plain c => [c]
  | escape sequence => sequence

/-- The text that a piece stands for. -/
def value : Piece → Text
  | plain c => [c]
  | escape sequence => Escape.decode sequence

/-- The literal whose body is made of pieces. -/
def between (quote : CodePoint) (pieces : List Piece) : Text :=
  [quote] ++ pieces.flatMap source ++ [quote]

/-- The spans of the escapes among pieces that are written from an offset on. -/
def spans (offset : Nat) : List Piece → List (Nat × Nat)
  | [] => []
  | plain c :: pieces => spans (offset + Utf8.size [c]) pieces
  | escape sequence :: pieces =>
    (offset, offset + Utf8.size sequence) :: spans (offset + Utf8.size sequence) pieces

/-- The piece that is written for a code point. -/
def ofCodePoint (c : CodePoint) : Piece :=
  if Text.escapeCodePoint c = [c] then plain c else escape (Text.escapeCodePoint c)

/-- The piece for a code point is spelt as the code point is escaped. -/
@[simp]
lemma source_ofCodePoint (c : CodePoint) : (ofCodePoint c).source = Text.escapeCodePoint c := by
  unfold ofCodePoint
  split
  · rename_i alone
    exact alone.symm
  · rfl

/-- The piece for a code point denotes it. -/
@[simp]
lemma value_ofCodePoint (c : CodePoint) : (ofCodePoint c).value = [c] := by
  unfold ofCodePoint
  split
  · rfl
  · rename_i escaped
    exact Text.decode_escapeCodePoint escaped

/-- The pieces that are written for a text stand for it. -/
lemma flatMap_value_ofCodePoint (t : Text) : (t.map ofCodePoint).flatMap value = t := by
  rw [List.flatMap_map]
  simp only [value_ofCodePoint, List.flatMap_singleton']

/-- The pieces for a text are spelt as the text is escaped. -/
lemma flatMap_source_ofCodePoint (t : Text) :
    (t.map ofCodePoint).flatMap source = t.flatMap Text.escapeCodePoint := by
  rw [List.flatMap_map]
  simp only [source_ofCodePoint]

/-- The literal of a text is made of the pieces that are written for it. -/
lemma literal_eq_between (t : Text) : Text.literal t = between '"' (t.map ofCodePoint) := by
  rw [between, flatMap_source_ofCodePoint]
  rfl

/-- The pieces for a text without surrogates are spelt without surrogates. -/
lemma isScalar_source_ofCodePoint {t : Text} (scalar : t.isScalar = true) :
    Text.isScalar ((t.map ofCodePoint).flatMap source) = true := by
  have literal := Text.isScalar_literal scalar
  rw [literal_eq_between, between, Text.isScalar_append, Text.isScalar_append, Bool.and_eq_true,
    Bool.and_eq_true] at literal
  exact literal.1.2

/-- The escapes among the pieces for a text are where escaping puts them. -/
lemma spans_ofCodePoint (offset : Nat) (t : Text) :
    spans offset (t.map ofCodePoint) = Text.escapeSpans offset t := by
  induction t generalizing offset with
  | nil => rfl
  | cons c t ih =>
    rw [List.map_cons, ofCodePoint, Text.escapeSpans]
    split
    · rename_i alone
      rw [spans, ih, alone]
    · rw [spans, ih]

end Piece

end Literal

/-- A part of a string literal that does not stand for itself. -/
def Node.isCoded (part : Node) : Bool :=
  part.kind == .escape || part.kind == .reference

/-- The node that a grammar makes of the literal of a text: a string of which nothing but the
escapes is coded. -/
structure Node.IsLiteralOf (node : Node) (t : Text) : Prop where
  kind : node.kind = .string
  stop : node.stop = node.start + Utf8.size (Text.literal t)
  escapes : (node.children.filter isCoded).map (fun part => (part.kind, part.start, part.stop)) =
    (Text.escapeSpans (node.start + 1) t).map fun span => (.escape, span.1, span.2)

namespace Document

open Literal

variable {document : Document} {offset : Nat} {t u : Text}

/-- A text stands in the source code from an offset on. -/
def Spells (document : Document) (offset : Nat) (t : Text) : Prop :=
  Utf8.encodeAll t <+: document.source.drop offset

/-- Two texts stand one after the other. -/
lemma spells_append : document.Spells offset (t ++ u) ↔
    document.Spells offset t ∧ document.Spells (offset + Utf8.size t) u := by
  unfold Spells
  rw [Utf8.encodeAll_append, ← List.drop_drop]
  constructor
  · rintro ⟨rest, split⟩
    rw [List.append_assoc] at split
    refine ⟨⟨_, split⟩, ⟨rest, ?_⟩⟩
    rw [← split, Utf8.size, List.drop_left]
  · rintro ⟨⟨rest, split⟩, ⟨after, split'⟩⟩
    rw [← split, Utf8.size, List.drop_left] at split'
    exact ⟨after, by rw [← split, ← split', List.append_assoc]⟩

/-- A text is read where it stands. -/
lemma textBetween_of_spells (scalar : t.isScalar = true) (spelt : document.Spells offset t) :
    document.textBetween offset (offset + Utf8.size t) = .ok t := by
  obtain ⟨rest, split⟩ := spelt
  have cut : Bytes.slice document.source offset (offset + Utf8.size t) = Utf8.encodeAll t := by
    rw [Bytes.slice, ← split, Nat.add_sub_cancel_left, Utf8.size, List.take_left]
  rw [textBetween, cut, Utf8.decode_eq_ok.2 ⟨scalar, rfl⟩]
  rfl

/-- Nothing stands between an offset and itself. -/
lemma textBetween_self (document : Document) (offset : Nat) :
    document.textBetween offset offset = .ok [] := by
  rw [textBetween, Bytes.slice, Nat.sub_self, List.take_zero]
  rfl

/-- A part that is not coded stands for itself. -/
lemma partValue?_of_not_coded {part : Node} (plain : part.isCoded = false) :
    document.partValue? part = .ok none := by
  unfold partValue?
  split
  · rename_i kind
    simp [Node.isCoded, kind] at plain
  · rename_i kind
    simp [Node.isCoded, kind] at plain
  · rfl

/-- Only the coded parts of a string literal matter for its value. -/
lemma stringValueFrom_filter (document : Document) (stop offset : Nat) (parts : List Node) :
    document.stringValueFrom stop offset (parts.filter Node.isCoded) =
      document.stringValueFrom stop offset parts := by
  induction parts generalizing offset with
  | nil => rfl
  | cons part parts ih =>
    cases coded : part.isCoded with
    | true =>
      rw [List.filter_cons_of_pos coded]
      simp only [stringValueFrom, ih]
    | false =>
      rw [List.filter_cons_of_neg (by simp [coded]), ih, stringValueFrom,
        partValue?_of_not_coded coded]
      rfl

/-- The value of pieces from an offset on, up to which everything but some raw text has been
read. -/
lemma stringValueFrom_pieces (raw : Text) {pieces : List Piece} {parts : List Node}
    (scalar : (raw ++ pieces.flatMap Piece.source).isScalar = true)
    (spelt : document.Spells offset (raw ++ pieces.flatMap Piece.source))
    (escapes : parts.map (fun part => (part.kind, part.start, part.stop)) =
      (Piece.spans (offset + Utf8.size raw) pieces).map fun span => (.escape, span.1, span.2)) :
    document.stringValueFrom (offset + Utf8.size (raw ++ pieces.flatMap Piece.source))
      offset parts =
      .ok (raw ++ pieces.flatMap Piece.value) := by
  induction pieces generalizing offset raw parts with
  | nil =>
    rw [List.map_eq_nil_iff.1 escapes, stringValueFrom]
    rw [List.flatMap_nil, List.append_nil] at scalar spelt ⊢
    rw [List.flatMap_nil, List.append_nil]
    exact textBetween_of_spells scalar spelt
  | cons piece pieces ih =>
    rw [List.flatMap_cons] at scalar spelt ⊢
    rw [List.flatMap_cons]
    cases piece with
    | plain c =>
      -- A code point that stands for itself joins the raw text.
      rw [← List.append_assoc] at scalar spelt ⊢
      rw [← List.append_assoc]
      refine ih (raw ++ [c]) scalar spelt ?_
      rw [escapes, Piece.spans, Utf8.size_append, Nat.add_assoc]
    | escape sequence =>
      -- An escape is the next coded part: the raw text before it is read, and begins anew after it.
      obtain ⟨part, rest, rfl, shape, escapes⟩ := List.map_eq_cons_iff.1 escapes
      obtain ⟨kind, starts, stops⟩ : part.kind = .escape ∧ part.start = offset + Utf8.size raw ∧
          part.stop = offset + Utf8.size raw + Utf8.size sequence := by
        simpa using shape
      rw [Text.isScalar_append, Text.isScalar_append, Bool.and_eq_true, Bool.and_eq_true] at scalar
      rw [spells_append, spells_append] at spelt
      have before : document.textBetween offset part.start = .ok raw := by
        rw [starts]
        exact textBetween_of_spells scalar.1 spelt.1
      have escape : document.text part = .ok sequence := by
        rw [Document.text, stops, starts]
        exact textBetween_of_spells scalar.2.1 spelt.2.1
      have value : document.partValue? part = .ok (some (Escape.decode sequence)) := by
        rw [partValue?, kind]
        simp only [escape]
        rfl
      have after := ih [] scalar.2.2 spelt.2.2 (by simpa [Piece.source] using escapes)
      rw [List.nil_append, List.nil_append, Piece.source, ← stops] at after
      have ends : offset + Utf8.size
          (raw ++ ((Piece.escape sequence).source ++ pieces.flatMap Piece.source)) =
          part.stop + Utf8.size (pieces.flatMap Piece.source) := by
        rw [stops, Utf8.size_append, Utf8.size_append, Piece.source]
        omega
      rw [ends, stringValueFrom]
      simp only [value, before, after, ok_bind, List.append_assoc]
      rfl

/-- A string whose body is made of pieces has the value that they stand for. -/
lemma stringValue_pieces {node : Node} {quote : CodePoint} {pieces : List Piece}
    (quoted : IsQuote quote) (scalar : Text.isScalar (pieces.flatMap Piece.source) = true)
    (spelt : document.Spells node.start ([quote] ++ pieces.flatMap Piece.source))
    (stop : node.stop = node.start + Utf8.size ([quote] ++ pieces.flatMap Piece.source) + 1)
    (escapes : (node.children.filter Node.isCoded).map
      (fun part => (part.kind, part.start, part.stop)) =
      (Piece.spans (node.start + 1) pieces).map fun span => (.escape, span.1, span.2)) :
    document.stringValue node = .ok (pieces.flatMap Piece.value) := by
  have narrow : Utf8.size [quote] = 1 := by
    rcases quoted with rfl | rfl <;> decide
  rw [Utf8.size_append, narrow] at stop
  rw [spells_append, narrow] at spelt
  have last : document.closingQuote node =
      node.start + 1 + Utf8.size (pieces.flatMap Piece.source) := by
    rw [closingQuote, if_neg (by omega), stop]
    omega
  rw [stringValue, last, ← stringValueFrom_filter]
  exact stringValueFrom_pieces [] scalar spelt.2 escapes

/-- A string node that covers a literal: its escapes have the given spans, and it holds no
references. -/
structure HoldsString (document : Document) (node : Node) (literal : Text)
    (escapes : List (Nat × Nat)) : Prop where
  kind : node.kind = .string
  spelt : document.Spells node.start literal
  stop : node.stop = node.start + Utf8.size literal
  escapes : (node.children.filter (·.kind = .escape)).map
      (fun part => (part.start, part.stop)) = escapes
  references : ∀ part ∈ node.children, part.kind ≠ .reference

/-- A string node whose escapes are those among some pieces has the value that they stand for. -/
lemma HoldsString.stringValue_eq_value {node : Node} {quote : CodePoint} {pieces : List Piece}
    (held : document.HoldsString node (Piece.between quote pieces)
      (Piece.spans (node.start + 1) pieces))
    (quoted : IsQuote quote)
    (scalar : Text.isScalar (pieces.flatMap Piece.source) = true) :
    document.stringValue node = .ok (pieces.flatMap Piece.value) := by
  have narrow : Utf8.size [quote] = 1 := by
    rcases quoted with rfl | rfl <;> decide
  have coded : node.children.filter Node.isCoded = node.children.filter (·.kind = .escape) := by
    refine List.filter_congr fun part mem => ?_
    rw [Node.isCoded, beq_eq_false_iff_ne.2 (held.references part mem), Bool.or_false,
      beq_eq_decide]
  refine stringValue_pieces quoted scalar (spells_append.1 held.spelt).1 ?_ ?_
  · rw [held.stop, Piece.between, Utf8.size_append, narrow, Nat.add_assoc]
  · rw [coded, ← held.escapes, List.map_map]
    refine List.map_congr_left fun part mem => ?_
    have kind : part.kind = .escape := by simpa using (List.mem_filter.1 mem).2
    rw [kind]
    rfl

/-- A literal that is parsed as it was written has the value that was written. -/
theorem stringValue_eq {node : Node} (scalar : t.isScalar = true) (literal : node.IsLiteralOf t)
    (spelt : document.Spells node.start (Text.literal t)) : document.stringValue node = .ok t := by
  obtain ⟨_, stop, escapes⟩ := literal
  rw [Piece.literal_eq_between, Piece.between] at spelt stop
  rw [← Piece.spans_ofCodePoint] at escapes
  have quote : Utf8.size [CodePoint.ofChar '"'] = 1 := by decide
  rw [Utf8.size_append, quote, ← Nat.add_assoc] at stop
  rw [stringValue_pieces (.inl rfl) (Piece.isScalar_source_ofCodePoint scalar)
    (spells_append.1 spelt).1 stop
    escapes, Piece.flatMap_value_ofCodePoint]

/-- So has one that stands between braces. -/
lemma stringValue_braced {node : Node} {start : Nat} (scalar : t.isScalar = true)
    (literal : node.IsLiteralOf t) (inside : node.start = start + 1)
    (spelt : document.Spells start (Literal.braced t)) : document.stringValue node = .ok t := by
  have brace : Utf8.size (Text.ofString "\x7b") = 1 := by decide
  rw [Literal.braced, spells_append, spells_append, brace, ← inside] at spelt
  exact stringValue_eq scalar literal spelt.1.2

end Document

end Retouch
