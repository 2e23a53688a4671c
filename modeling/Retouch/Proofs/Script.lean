import Mathlib
import Retouch.Proofs.Literal
import Retouch.Proofs.Numeral
import Retouch.Proofs.Outcome

/-!
# String literals of scripts

What the language of scripts takes a string literal for, in sixteen-bit units: `Script.EscapeValue`
has its escape sequences in strict code and `Script.Denotes` the bodies of its literals. A string
whose escapes are parsed as such is read as the literal means it, unless a backslash continues its
line at a line or paragraph separator: then the separator is read where nothing should be
(`Script.Denotes.length_utf16`). These continuations are the only difference
(`Document.stringValue_utf16_iff`).
-/

namespace Retouch

/-- The sixteen-bit units of a code point: itself, or a pair of surrogates. -/
def CodePoint.utf16 (c : CodePoint) : List UInt16 :=
  if c.val < 0x10000 then [UInt16.ofNat c.val]
  else [UInt16.ofNat (0xD800 + (c.val - 0x10000) / 0x400),
    UInt16.ofNat (0xDC00 + (c.val - 0x10000) % 0x400)]

/-- The sixteen-bit units of a text. -/
def Text.utf16 (t : Text) : List UInt16 :=
  t.flatMap CodePoint.utf16

namespace Script

open Literal

/-- The characters that mean something else after a backslash, with what they mean. -/
def singleEscapes : List (CodePoint × UInt16) := [
  ('\'', 0x27), ('"', 0x22), ('\\', 0x5C), ('b', 0x08), ('f', 0x0C), ('n', 0x0A),
  ('r', 0x0D), ('t', 0x09), ('v', 0x0B)]

/-- The characters that do not mean themselves after a backslash. -/
def isEscapeCharacter (c : CodePoint) : Bool :=
  singleEscapes.any (·.1 == c) || c.isAsciiDigit || c == 'x' || c == 'u'

/-- The characters that end a line. -/
def isLineTerminator (c : CodePoint) : Bool :=
  c == '\n' || c == '\r' || c == 0x2028 || c == 0x2029

/-- What a line can end with. -/
def lineEnds : List Text := ["\n", "\r", "\r\n", [0x2028], [0x2029]]

/-- The escape sequences of strict code and the units that they stand for. -/
inductive EscapeValue : Text → List UInt16 → Prop where
  | single {c : CodePoint} {unit : UInt16} :
    (c, unit) ∈ singleEscapes →
    EscapeValue [CodePoint.ofChar '\\', c] [unit]
  | null :
    EscapeValue "\\0" [0]
  | hexadecimal {digits : Text} :
    digits.length = 2 → (∀ d ∈ digits, d.hexValue?.isSome = true) →
    EscapeValue ("\\x" ++ digits) [UInt16.ofNat digits.hexNumber]
  | unicode {digits : Text} :
    digits.length = 4 → (∀ d ∈ digits, d.hexValue?.isSome = true) →
    EscapeValue ("\\u" ++ digits) [UInt16.ofNat digits.hexNumber]
  | braced {digits : Text} {c : CodePoint} :
    digits ≠ [] → (∀ d ∈ digits, d.hexValue?.isSome = true) → digits.hexNumber = c.val →
    EscapeValue ("\\u\x7b" ++ digits ++ "\x7d") c.utf16
  | other {c : CodePoint} :
    isEscapeCharacter c = false → isLineTerminator c = false →
    EscapeValue [CodePoint.ofChar '\\', c] c.utf16
  | continuation {lineEnd : Text} :
    lineEnd ∈ lineEnds →
    EscapeValue (CodePoint.ofChar '\\' :: lineEnd) []

/-- The body of a literal between the given quotes and the units that it stands for. A zero after a
backslash is not followed by another digit. -/
inductive Denotes (quote : CodePoint) : List Piece → List UInt16 → Prop where
  | nil :
    Denotes quote [] []
  | plain {c : CodePoint} {pieces : List Piece} {units : List UInt16} :
    c ≠ quote → c ≠ CodePoint.ofChar '\\' → c ≠ CodePoint.ofChar '\n' → c ≠ CodePoint.ofChar '\r' →
    Denotes quote pieces units →
    Denotes quote (.plain c :: pieces) (c.utf16 ++ units)
  | escape {sequence : Text} {value units : List UInt16} {pieces : List Piece} :
    EscapeValue sequence value →
    (sequence = Text.ofString "\\0" → ∀ c ∈ (pieces.flatMap Piece.source).head?,
      c.isAsciiDigit = false) →
    Denotes quote pieces units →
    Denotes quote (.escape sequence :: pieces) (value ++ units)

end Script

/-- An escape that continues a line at a line or paragraph separator. -/
def Literal.Piece.isSeparated : Piece → Bool
  | plain _ => false
  | escape sequence =>
    sequence == [CodePoint.ofChar '\\', 0x2028] || sequence == [CodePoint.ofChar '\\', 0x2029]

/-- An escape of another character is none at a line or paragraph separator. -/
lemma Literal.Piece.isSeparated_of_ne {c : CodePoint} (rest : Text)
    (other : c ≠ 0x2028 ∧ c ≠ 0x2029) :
    (escape (CodePoint.ofChar '\\' :: c :: rest)).isSeparated = false := by
  simp [isSeparated, other]

/-- A code point of the basic plane is one unit. -/
lemma CodePoint.utf16_of_lt {c : CodePoint} (narrow : c.val < 0x10000) :
    c.utf16 = [UInt16.ofNat c.val] := by
  rw [utf16, if_pos narrow]

namespace Text

/-- A text of one code point has its units. -/
@[simp]
lemma utf16_singleton (c : CodePoint) : utf16 [c] = c.utf16 :=
  List.flatMap_singleton ..

/-- The units of a text are those of its parts. -/
@[simp]
lemma utf16_append (t u : Text) : utf16 (t ++ u) = t.utf16 ++ u.utf16 :=
  List.flatMap_append

end Text

namespace Escape

variable {c mark : CodePoint} {numeral : Text}

/-- Hexadecimal digits name the code point of their number. -/
lemma codePoint?_of_hex (filled : numeral ≠ []) (hex : ∀ d ∈ numeral, d.hexValue?.isSome = true)
    (value : numeral.hexNumber = c.val) : codePoint? numeral = some c := by
  have small := c.isLt
  rw [codePoint?, Numeral.read_hexadecimal filled hex]
  simp only [value]
  rw [dif_pos (by omega)]
  rfl

/-- A numeric escape stands for the code point that its digits name. -/
lemma decode_numeric {rest : Text}
    (marked : mark = CodePoint.ofChar 'u' ∨ mark = CodePoint.ofChar 'x') (filled : rest ≠ [])
    (named : codePoint? (digits (mark :: rest)) = some c) :
    decode (CodePoint.ofChar '\\' :: mark :: rest) = [c] := by
  have nonempty : rest.isEmpty = false := by simpa using filled
  simp only [decode, List.drop_one, List.tail_cons, nonempty, Bool.not_false, and_true,
    if_pos marked, named]

/-- The digits of an escape without braces follow its mark. -/
lemma digits_of_hex (filled : numeral ≠ []) (hex : ∀ d ∈ numeral, d.hexValue?.isSome = true) :
    digits (mark :: numeral) = numeral := by
  obtain ⟨d, rest, rfl⟩ := List.exists_cons_of_ne_nil filled
  have digit :=
    CodePoint.ne_of_isHex (hex d List.mem_cons_self) (d := CodePoint.ofChar '\x7b') (by decide)
  rw [digits, if_neg (fun braced => digit braced.2)]

/-- An escape of hexadecimal digits stands for the code point of their number. -/
lemma decode_hex (marked : mark = CodePoint.ofChar 'u' ∨ mark = CodePoint.ofChar 'x')
    (filled : numeral ≠ []) (hex : ∀ d ∈ numeral, d.hexValue?.isSome = true)
    (value : numeral.hexNumber = c.val) :
    decode (CodePoint.ofChar '\\' :: mark :: numeral) = [c] := by
  refine decode_numeric marked filled ?_
  rw [digits_of_hex filled hex]
  exact codePoint?_of_hex filled hex value

/-- So does one between braces. -/
lemma decode_braced (filled : numeral ≠ []) (hex : ∀ d ∈ numeral, d.hexValue?.isSome = true)
    (value : numeral.hexNumber = c.val) : decode ("\\u\x7b" ++ numeral ++ "\x7d") = [c] := by
  change decode (CodePoint.ofChar '\\' :: CodePoint.ofChar 'u' :: CodePoint.ofChar '\x7b' ::
    (numeral ++ [CodePoint.ofChar '\x7d'])) = [c]
  refine decode_numeric (.inl rfl) (List.cons_ne_nil _ _) ?_
  rw [digits, if_pos ⟨rfl, rfl⟩, List.dropLast_concat]
  exact codePoint?_of_hex filled hex value

/-- A code point that means itself after a backslash stands for itself. -/
lemma decode_other (escaped : Script.isEscapeCharacter c = false)
    (inside : Script.isLineTerminator c = false) : decode [CodePoint.ofChar '\\', c] = [c] := by
  simp only [Script.isEscapeCharacter, Script.isLineTerminator, Script.singleEscapes,
    List.any_cons, List.any_nil, Bool.or_eq_false_iff, beq_eq_false_iff_ne, ne_eq] at escaped inside
  obtain ⟨⟨⟨⟨_, _, _, b, f, n, r, t, v, _⟩, digit⟩, x⟩, u⟩ := escaped
  obtain ⟨⟨⟨lineFeed, carriageReturn⟩, _⟩, _⟩ := inside
  have zero : c ≠ CodePoint.ofChar '0' := by
    rintro rfl
    exact absurd digit (by decide)
  have unknown : letters.lookup c = none := by
    simp only [letters, List.lookup_cons, List.lookup_nil, beq_eq_false_iff_ne.2 zero,
      beq_eq_false_iff_ne.2 (Ne.symm b), beq_eq_false_iff_ne.2 (Ne.symm f),
      beq_eq_false_iff_ne.2 (Ne.symm n),
      beq_eq_false_iff_ne.2 (Ne.symm r), beq_eq_false_iff_ne.2 (Ne.symm t),
      beq_eq_false_iff_ne.2 (Ne.symm v)]
  simp [decode, u, x, lineFeed, carriageReturn, unknown]

end Escape

namespace Script

open Literal

variable {sequence : Text} {value units : List UInt16} {quote : CodePoint} {pieces : List Piece}

/-- The code point of a short hexadecimal numeral is one unit. -/
lemma exists_codePoint {digits : Text} (short : digits.length ≤ 4) :
    ∃ c : CodePoint, digits.hexNumber = c.val ∧ c.utf16 = [UInt16.ofNat digits.hexNumber] := by
  have small : digits.hexNumber < 0x10000 :=
    lt_of_lt_of_le digits.hexNumber_lt (Nat.pow_le_pow_right (by decide) short)
  exact ⟨⟨digits.hexNumber, by omega⟩, rfl, CodePoint.utf16_of_lt small⟩

/-- An escape of the language is read as it is meant, unless it continues a line at a separator:
then it means nothing, and the separator is read. -/
lemma EscapeValue.decode_cases (escape : EscapeValue sequence value) :
    ((Piece.escape sequence).isSeparated = false ∧ (Escape.decode sequence).utf16 = value) ∨
      ((Piece.escape sequence).isSeparated = true ∧ value = [] ∧
        (Escape.decode sequence).utf16.length = 1) := by
  cases escape with
  | @single c unit listed =>
    have meant : singleEscapes.all (fun entry =>
        decide ((Piece.escape [CodePoint.ofChar '\\', entry.1]).isSeparated = false ∧
          (Escape.decode [CodePoint.ofChar '\\', entry.1]).utf16 = [entry.2])) = true := by
      decide +kernel
    exact .inl (of_decide_eq_true (List.all_eq_true.1 meant (c, unit) listed))
  | null => exact .inl (by decide +kernel)
  | @hexadecimal digits size hex =>
    obtain ⟨c, value, unit⟩ := exists_codePoint (size.trans_le (by decide))
    have read := Escape.decode_hex (.inr rfl) (List.ne_nil_of_length_pos (by omega)) hex value
    refine .inl ⟨Piece.isSeparated_of_ne digits (by decide), ?_⟩
    exact (congrArg Text.utf16 read).trans ((Text.utf16_singleton c).trans unit)
  | @unicode digits size hex =>
    obtain ⟨c, value, unit⟩ := exists_codePoint size.le
    have read := Escape.decode_hex (.inl rfl) (List.ne_nil_of_length_pos (by omega)) hex value
    refine .inl ⟨Piece.isSeparated_of_ne digits (by decide), ?_⟩
    exact (congrArg Text.utf16 read).trans ((Text.utf16_singleton c).trans unit)
  | @braced digits c filled hex value =>
    refine .inl ⟨Piece.isSeparated_of_ne _ (by decide), ?_⟩
    rw [Escape.decode_braced filled hex value, Text.utf16_singleton]
  | @other c escaped inside =>
    have read := Escape.decode_other escaped inside
    simp only [isLineTerminator, Bool.or_eq_false_iff, beq_eq_false_iff_ne] at inside
    refine .inl ⟨Piece.isSeparated_of_ne [] ⟨inside.1.2, inside.2⟩, ?_⟩
    rw [read, Text.utf16_singleton]
  | @continuation lineEnd listed =>
    simp only [lineEnds, List.mem_cons, List.not_mem_nil, or_false] at listed
    rcases listed with rfl | rfl | rfl | rfl | rfl
    · exact .inl (by decide +kernel)
    · exact .inl (by decide +kernel)
    · exact .inl (by decide +kernel)
    · exact .inr (by decide +kernel)
    · exact .inr (by decide +kernel)

/-- A literal without continuations at separators is read as it is meant. -/
lemma Denotes.utf16_eq (denotes : Denotes quote pieces units)
    (joined : ∀ piece ∈ pieces, piece.isSeparated = false) :
    Text.utf16 (pieces.flatMap Piece.value) = units := by
  induction denotes with
  | nil => rfl
  | plain _ _ _ _ _ ih =>
    rw [List.flatMap_cons, Text.utf16_append,
      ih fun piece mem => joined piece (List.mem_cons_of_mem _ mem)]
    exact congrArg (· ++ _) (Text.utf16_singleton _)
  | escape escape _ _ ih =>
    rw [List.flatMap_cons, Text.utf16_append,
      ih fun piece mem => joined piece (List.mem_cons_of_mem _ mem)]
    rcases escape.decode_cases with ⟨_, same⟩ | ⟨separated, _⟩
    · exact congrArg (· ++ _) same
    · rw [joined _ List.mem_cons_self] at separated
      cases separated

/-- Each continuation at a separator is read as one unit too many. -/
lemma Denotes.length_utf16 (denotes : Denotes quote pieces units) :
    (Text.utf16 (pieces.flatMap Piece.value)).length =
      units.length + pieces.countP Piece.isSeparated := by
  induction denotes with
  | nil => rfl
  | @plain c pieces units _ _ _ _ _ ih =>
    rw [List.flatMap_cons, Text.utf16_append, List.length_append, ih,
      List.countP_cons_of_neg Bool.false_ne_true, List.length_append, Piece.value,
      Text.utf16_singleton, Nat.add_assoc]
  | @escape sequence value units pieces escape _ _ ih =>
    rw [List.flatMap_cons, Text.utf16_append, List.length_append, ih,
      List.length_append, Piece.value]
    rcases escape.decode_cases with ⟨joined, same⟩ | ⟨separated, rfl, single⟩
    · rw [same, List.countP_cons_of_neg (by simp [joined]), Nat.add_assoc]
    · rw [single, List.countP_cons_of_pos separated, List.length_nil]
      omega

end Script

namespace Document

open Literal

/-- A string whose escapes are those of a literal in strict code is read, and what is read is what
the literal stands for exactly if none of them continues a line at a line or paragraph separator. -/
theorem stringValue_utf16_iff (document : Document) (node : Node) {quote : CodePoint}
    {pieces : List Piece} {units : List UInt16} (quoted : IsQuote quote)
    (denotes : Script.Denotes quote pieces units)
    (scalar : Text.isScalar (pieces.flatMap Piece.source) = true)
    (held : document.HoldsString node (Piece.between quote pieces)
      (Piece.spans (node.start + 1) pieces)) :
    ∃ value, document.stringValue node = .ok value ∧
      (value.utf16 = units ↔ ∀ piece ∈ pieces, piece.isSeparated = false) := by
  refine ⟨pieces.flatMap Piece.value, held.stringValue_eq_value quoted scalar, ?_, denotes.utf16_eq⟩
  intro same
  have size := denotes.length_utf16
  rw [same] at size
  have none : pieces.countP Piece.isSeparated = 0 := by omega
  intro piece mem
  simpa using List.countP_eq_zero.1 none piece mem

end Document

namespace Sample.Scripted

open Literal

/-- A body with numeric escapes, a character of two bytes and a line that is continued. -/
def pieces : List Piece :=
  [.escape "\\x41", .plain 'é', .escape "\\u\x7b00041\x7d", .escape "\\0", .escape "\\\r\n"]

/-- The literal of the body, with its escapes. -/
def node : Node :=
  part .string 0 22 [mark "\"" 0 1, part .escape 1 5 [], part (.other "string_fragment") 5 7 [],
    part .escape 7 16 [], part .escape 16 18 [], part .escape 18 21 [], mark "\"" 21 22]

/-- A file that holds the literal. -/
def document : Document :=
  ⟨Utf8.encodeAll (Piece.between '"' pieces ++ ";"), part (.other "program") 0 23 [node], .tsx⟩

/-- The body denotes two letters with an accented one between them, and a null. -/
lemma denotes : Script.Denotes '"' pieces [0x41, 0xE9, 0x41, 0] := by
  have hexadecimal : Script.EscapeValue "\\x41" [0x41] :=
    @Script.EscapeValue.hexadecimal "41" rfl (List.all_eq_true.1 (by decide))
  have braced : Script.EscapeValue "\\u\x7b00041\x7d" [0x41] :=
    @Script.EscapeValue.braced "00041" 'A' (by decide) (List.all_eq_true.1 (by decide)) (by decide)
  have continued : Script.EscapeValue "\\\r\n" [] :=
    @Script.EscapeValue.continuation "\r\n" (by decide)
  have last : Script.Denotes '"' [.escape "\\\r\n"] [] :=
    .escape continued (fun other => absurd other (by decide)) .nil
  have null : Script.Denotes '"' [.escape "\\0", .escape "\\\r\n"] [0] :=
    .escape .null (fun _ c first => by cases first; decide) last
  exact .escape hexadecimal (fun other => absurd other (by decide))
    (.plain (by decide) (by decide) (by decide) (by decide)
      (.escape braced (fun other => absurd other (by decide)) null))

/-- The file holds the literal with the escapes of its pieces. -/
lemma held : document.HoldsString node (Piece.between '"' pieces) (Piece.spans 1 pieces) where
  kind := rfl
  spelt := by
    unfold Document.Spells
    decide +kernel
  stop := by decide +kernel
  escapes := by decide +kernel
  references := by simp [node, part, mark]

/-- A body with one escape, which continues the line at a line separator. -/
def separated : List Piece := [.escape ['\\', 0x2028]]

/-- The literal of this body. -/
def separatedNode : Node :=
  part .string 0 6 [mark "\"" 0 1, part .escape 1 5 [], mark "\"" 5 6]

/-- A file that holds this literal. -/
def separatedDocument : Document :=
  ⟨Utf8.encodeAll (Piece.between '"' separated ++ ";"),
    part (.other "program") 0 7 [separatedNode], .tsx⟩

/-- The file holds the literal with the one escape. -/
lemma separated_held : separatedDocument.HoldsString separatedNode
    (Piece.between '"' separated) (Piece.spans 1 separated) where
  kind := rfl
  spelt := by
    unfold Document.Spells
    decide +kernel
  stop := by decide +kernel
  escapes := by decide +kernel
  references := by simp [separatedNode, part, mark]

end Sample.Scripted

namespace Document

open Literal

/-- A literal with numeric escapes and a continued line is read as it is meant. -/
theorem stringValue_utf16_iff_sample :
    IsQuote '"' ∧ Script.Denotes '"' Sample.Scripted.pieces [0x41, 0xE9, 0x41, 0] ∧
      Text.isScalar (Sample.Scripted.pieces.flatMap Piece.source) = true ∧
      Sample.Scripted.document.HoldsString Sample.Scripted.node
        (Piece.between '"' Sample.Scripted.pieces) (Piece.spans 1 Sample.Scripted.pieces) ∧
      ∃ value, Sample.Scripted.document.stringValue Sample.Scripted.node = .ok value ∧
        value.utf16 = [0x41, 0xE9, 0x41, 0] := by
  have scalar : Text.isScalar (Sample.Scripted.pieces.flatMap Piece.source) = true := by
    decide +kernel
  obtain ⟨value, read, meant⟩ :=
    stringValue_utf16_iff Sample.Scripted.document Sample.Scripted.node (.inl rfl)
    Sample.Scripted.denotes scalar Sample.Scripted.held
  have joined : Sample.Scripted.pieces.all (fun piece => !piece.isSeparated) = true := by
    decide +kernel
  refine ⟨.inl rfl, Sample.Scripted.denotes, scalar, Sample.Scripted.held, value, read, meant.2 ?_⟩
  intro piece mem
  simpa using List.all_eq_true.1 joined piece mem

/-- A backslash before a line separator stands for nothing, but the separator is read. -/
theorem stringValue_keeps_separator :
    Script.Denotes '"' Sample.Scripted.separated [] ∧
      Sample.Scripted.separatedDocument.HoldsString Sample.Scripted.separatedNode
        (Piece.between '"' Sample.Scripted.separated)
        (Piece.spans 1 Sample.Scripted.separated) ∧
      Sample.Scripted.separatedDocument.stringValue Sample.Scripted.separatedNode = .ok [0x2028] ∧
      Text.utf16 [0x2028] ≠ [] := by
  refine ⟨?_, Sample.Scripted.separated_held, ?_, by decide⟩
  · exact .escape (@Script.EscapeValue.continuation [0x2028] (by decide))
      (fun other => absurd other (by decide)) .nil
  · exact Sample.Scripted.separated_held.stringValue_eq_value (.inl rfl) (by decide +kernel)

end Document

end Retouch
