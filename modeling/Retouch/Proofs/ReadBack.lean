import Mathlib
import Retouch.Proofs.Inert
import Retouch.Proofs.Literal
import Retouch.Proofs.Prediction
import Retouch.Proofs.Reference

/-!
# Texts that are written and read back

A text is written between tags plainly, or as a string between braces. `Document.Carries` says that
an element holds what was written for a text, parsed the way it was written. The text is then read
as it was asked for exactly if it reads back (`Text.ReadsBack`): no blanks but layout stand at its
ends, and if it is written plainly, it holds neither a tab nor anything that is taken for a
reference. These are the texts that can be asked for again without a change
(`Editor.text_reads_back`).
-/

namespace Retouch

/-- A text that is read as it is asked for, once it has been written between tags. -/
def Text.ReadsBack (t : Text) : Prop :=
  Text.strip t = trim CodePoint.isLayout t ∧
    (Literal.content t = t → CodePoint.ofChar '\t' ∉ t ∧ Reference.resolve t = .ok t)

instance : DecidablePred Text.ReadsBack :=
  fun _ => inferInstanceAs (Decidable (_ ∧ _))

/-- The node that a grammar makes of what is written for a text from an offset on: a text that
covers it, or a container that holds its literal. -/
inductive Node.Shows (t : Text) (start : Nat) : Node → Prop where
  | plain {node : Node} :
    Literal.content t = t →
    node.kind = .text → node.start = start → node.stop = start + Utf8.size t →
    Node.Shows t start node
  | braced {node literal : Node} :
    Literal.content t = Literal.braced t →
    node.kind = .container → node.start = start → node.stop = start + Utf8.size (Literal.braced t) →
    node.firstSignificant? = some literal → literal.start = start + 1 → literal.IsLiteralOf t →
    Node.Shows t start node

/-- An element that holds what was written for a text, and nothing else, between its tags. -/
structure Document.Carries (document : Document) (node : Node) (t : Text) (start : Nat)
    (child : Node) : Prop where
  span : node.contentSpan? = some (start, start + Utf8.size (Literal.content t))
  content : node.content = [child]
  shown : child.Shows t start
  spelt : document.Spells start (Literal.content t)

namespace Literal

variable {t : Text}

/-- The body of a literal is not shorter than its text. -/
lemma length_le_flatMap (t : Text) : t.length ≤ (t.flatMap Text.escapeCodePoint).length := by
  induction t with
  | nil => exact le_rfl
  | cons c t ih =>
    have filled : 1 ≤ (Text.escapeCodePoint c).length := by
      unfold Text.escapeCodePoint
      repeat' split
      all_goals simp [Text.ofString]
    rw [List.flatMap_cons, List.length_append, List.length_cons]
    omega

/-- A literal between braces is longer than its text. -/
lemma braced_ne_self (t : Text) : braced t ≠ t := by
  intro same
  have size := congrArg List.length same
  have body := length_le_flatMap t
  have brace : 0 < (Text.ofString "\x7b").length := by decide
  simp only [braced, Text.literal, List.length_append] at size
  omega

/-- A text that is written plainly holds no line breaks, and neither spaces nor tabs stand at its
ends. -/
lemma content_eq_self (plain : content t = t) :
    (∀ c ∈ t, isReserved c = false) ∧ t = trim CodePoint.isSpaceOrTab t := by
  unfold content at plain
  split at plain
  · exact absurd plain (braced_ne_self t)
  · rename_i allowed
    simp only [Bool.or_eq_true, List.any_eq_true, decide_eq_true_eq, ne_eq, not_or,
      not_not, not_exists, not_and, Bool.not_eq_true] at allowed
    exact ⟨allowed.1.1, allowed.2⟩

end Literal

namespace Text

variable {t u : Text} {c : CodePoint}

/-- What begins or ends a text that is written plainly is no layout. -/
lemma not_isLayout_of_plain (plain : Literal.content t = t)
    (outer : t.head? = some c ∨ t.getLast? = some c) : c.isLayout = false := by
  obtain ⟨allowed, trimmed⟩ := Literal.content_eq_self plain
  have unspaced : c.isSpaceOrTab = false := by
    rw [trimmed] at outer
    rcases outer with begins | ends
    · exact head?_trim begins
    · exact getLast?_trim ends
  have unreserved : Literal.isReserved c = false := by
    rcases outer with begins | ends
    · exact allowed c (List.mem_of_head? begins)
    · exact allowed c (List.mem_of_getLast? ends)
  simp only [CodePoint.isSpaceOrTab, Literal.isReserved, Bool.or_eq_false_iff]
    at unspaced unreserved
  simp only [CodePoint.isLayout, unspaced, unreserved, Bool.or_self]

/-- A text that is written plainly is one line. -/
lemma lineless_of_plain (plain : Literal.content t = t) :
    ∀ c ∈ t, c ≠ CodePoint.ofChar '\n' ∧ c ≠ CodePoint.ofChar '\r' := by
  intro c mem
  have unreserved := (Literal.content_eq_self plain).1 c mem
  simp only [Literal.isReserved, Bool.or_eq_false_iff, beq_eq_false_iff_ne] at unreserved
  exact ⟨unreserved.2, unreserved.1.2⟩

/-- If nothing but layout is lost when the references of a plain text are resolved, the text has no
blanks at its ends. -/
lemma strip_eq_self_of_ink (plain : Literal.content t = t) (filled : strip t ≠ [])
    (resolved : Reference.Resolved t u) (same : Layout.ink u = Layout.ink (strip t)) :
    strip t = t := by
  -- A blank at an end would be kept, but the stripped text has none there.
  obtain ⟨⟨first, begins', head⟩, last, ends', tail⟩ := Layout.exists_ink_strip filled
  apply trim_eq_self
  · intro c begins
    by_contra blank
    rw [Bool.not_eq_false] at blank
    have visible := not_isLayout_of_plain plain (.inl begins)
    obtain ⟨rest, rfl⟩ := List.head?_eq_some_iff.1 begins
    obtain ⟨kept, rfl⟩ := resolved.head (by rintro rfl; exact absurd blank (by decide))
    have same_head := Layout.head?_ink (t := c :: kept) rfl visible
    rw [same, begins'] at same_head
    cases same_head
    rw [blank] at head
    cases head
  · intro c ends
    by_contra blank
    rw [Bool.not_eq_false] at blank
    have visible := not_isLayout_of_plain plain (.inr ends)
    have same_last := Layout.getLast?_ink (resolved.getLast? ends blank) visible
    rw [same, ends'] at same_last
    cases same_last
    rw [blank] at tail
    cases tail

/-- A text that holds more than blanks holds more than spaces and tabs. -/
lemma isFilled_of_strip (filled : strip t ≠ []) : Layout.isFilled t = true := by
  obtain ⟨c, stripped⟩ := Option.ne_none_iff_exists'.1 (mt List.head?_eq_none_iff.1 filled)
  have visible := CodePoint.not_isLayout_of_not_isBlank (head?_trim stripped)
  obtain ⟨before, after, split, _, _⟩ := trim_split CodePoint.isBlank t
  have mem : c ∈ t := by
    rw [split]
    exact List.mem_append_left _ (List.mem_append_right _ (List.mem_of_head? stripped))
  refine List.any_eq_true.2 ⟨c, mem, ?_⟩
  simp only [CodePoint.isLayout, Bool.or_eq_false_iff] at visible
  simp only [CodePoint.isSpaceOrTab, visible, Bool.or_self, Bool.not_false]

/-- A plain text whose references are resolved is collapsed to what was asked for exactly if it
reads back. -/
lemma collapse_resolved_iff (plain : Literal.content t = t) (filled : strip t ≠ [])
    (resolves : Reference.resolve t = .ok u) :
    trim CodePoint.isLayout (Layout.collapse u) = strip t ↔ t.ReadsBack := by
  have lineless := lineless_of_plain plain
  constructor
  · intro same
    have resolved := Reference.resolved_of_resolve (fun mem => (lineless _ mem).2 rfl) resolves
    have inks : Layout.ink u = Layout.ink (strip t) := by
      rw [← same, ← Layout.ink_collapse u]
      exact (filter_trim CodePoint.isLayout _).symm
    -- Without blanks at its ends the text has kept its size, so nothing in it was replaced.
    have stripped := strip_eq_self_of_ink plain filled resolved inks
    rw [stripped] at inks same
    obtain rfl := resolved.eq_of_length (congrArg List.length inks)
    have laidOut : trim CodePoint.isLayout u = u :=
      trim_eq_self (fun c begins => not_isLayout_of_plain plain (.inl begins))
        fun c ends => not_isLayout_of_plain plain (.inr ends)
    refine ⟨stripped.trans laidOut.symm, fun _ => ⟨fun tab => ?_, resolves⟩⟩
    obtain ⟨before, after, split, _, _⟩ := trim_split CodePoint.isLayout (Layout.collapse u)
    rw [same] at split
    refine Layout.tab_not_mem_collapse u ?_
    rw [split]
    exact List.mem_append_left _ (List.mem_append_right _ tab)
  · rintro ⟨ends, whole⟩
    obtain ⟨tabless, unchanged⟩ := whole plain
    cases resolves.symm.trans unchanged
    rw [Layout.collapse_eq_self lineless tabless (isFilled_of_strip filled), ends]

end Text

namespace Document.Carries

variable {document : Document} {node child : Node} {t : Text} {start : Nat}

/-- The content of an element that carries a text is read node by node. -/
lemma ofElement_eq (carries : document.Carries node t start child)
    (plain : child.kind.isMarkup = false) : TextContent.ofElement document node =
      TextContent.ofNodes document (start + Utf8.size (Literal.content t)) [] [] start [child] := by
  rw [TextContent.ofElement, carries.content, carries.span]
  simp [plain]

/-- A text that is written plainly is read with its references resolved and its layout collapsed. -/
lemma ofElement_plain (scalar : t.isScalar = true) (carries : document.Carries node t start child)
    (plain : Literal.content t = t) (kind : child.kind = .text) (starts : child.start = start)
    (stops : child.stop = start + Utf8.size t) :
    TextContent.ofElement document node =
      (Reference.resolve t).map fun u => .static (trim CodePoint.isLayout (Layout.collapse u)) := by
  have spelt := carries.spelt
  rw [plain] at spelt
  have read : document.text child = .ok t := by
    rw [Document.text, starts, stops]
    exact textBetween_of_spells scalar spelt
  rw [carries.ofElement_eq (by rw [kind]; rfl), plain, TextContent.ofNodes]
  simp only [starts, textBetween_self, kind, read, ok_bind]
  cases Reference.resolve t with
  | error defect => rfl
  | ok u =>
    simp only [ok_bind, TextContent.ofNodes, stops, textBetween_self, List.nil_append,
      List.append_nil]
    rfl

/-- A text that is written as a string between braces is read without the layout at its ends. -/
lemma ofElement_braced {literal : Node} (scalar : t.isScalar = true)
    (carries : document.Carries node t start child) (braced : Literal.content t = Literal.braced t)
    (kind : child.kind = .container) (starts : child.start = start)
    (stops : child.stop = start + Utf8.size (Literal.braced t))
    (first : child.firstSignificant? = some literal) (inside : literal.start = start + 1)
    (parsed : literal.IsLiteralOf t) :
    TextContent.ofElement document node = .ok (.static (trim CodePoint.isLayout t)) := by
  have spelt := carries.spelt
  rw [braced] at spelt
  have value := stringValue_braced scalar parsed inside spelt
  have inner := Node.insideParentheses?_of_string parsed.kind
  rw [carries.ofElement_eq (by rw [kind]; rfl), braced, TextContent.ofNodes]
  have empty : Layout.collapse [] = [] := rfl
  simp only [starts, textBetween_self, kind, first, Option.bind_some, inner, parsed.kind,
    value, ok_bind, if_true, TextContent.ofNodes, stops, empty, List.nil_append, List.append_nil]
  rfl

end Document.Carries

namespace Editor

/-- A text that has been written between the tags of an element is read as it was asked for, and can
be asked for again without an edit, exactly if it reads back. -/
theorem text_reads_back (document : Document) (element : Element) (t : Text) {start : Nat}
    {child : Node} (scalar : t.isScalar = true) (filled : Text.strip t ≠ [])
    (carries : document.Carries element.node t start child) :
    (TextContent.ofElement document element.node = .ok (.static (Text.strip t)) ↔ t.ReadsBack) ∧
      (textEdits document element (some t) = .ok [] ↔ t.ReadsBack) := by
  rw [textEdits_eq_nil_iff carries.span, and_self]
  cases carries.shown with
  | plain plain kind starts stops =>
    rw [carries.ofElement_plain scalar plain kind starts stops]
    cases resolves : Reference.resolve t with
    | error defect =>
      refine ⟨nofun, fun back => ?_⟩
      cases resolves.symm.trans (back.2 plain).2
    | ok u =>
      rw [← Text.collapse_resolved_iff plain filled resolves]
      simp only [Except.map, Except.ok.injEq, TextContent.static.injEq]
  | braced braced kind starts stops first inside parsed =>
    rw [carries.ofElement_braced scalar braced kind starts stops first inside parsed]
    have marked : Literal.content t ≠ t := by
      rw [braced]
      exact Literal.braced_ne_self t
    simp only [Except.ok.injEq, TextContent.static.injEq, Text.ReadsBack, marked,
      false_imp_iff, and_true, eq_comm]

end Editor

namespace Sample.Quoted

/-- A text with a line break, a quote and a character of two bytes. -/
def text : Text := "a\n\"é"

/-- A file with a paragraph between whose tags the text has been written. -/
def source : Bytes := Utf8.encodeAll ("<p>" ++ Literal.content text ++ "</p>;")

/-- The literal of the text, of which a line break and a quote are escaped. -/
def literal : Node :=
  part .string 4 13 [mark "\"" 4 5, part (.other "string_fragment") 5 6 [], part .escape 6 8 [],
    part .escape 8 10 [], part (.other "string_fragment") 10 12 [], mark "\"" 12 13]

/-- The braces around the literal. -/
def container : Node :=
  part .container 3 14 [mark "\x7b" 3 4, literal, mark "\x7d" 13 14]

/-- The paragraph. -/
def paragraph : Node :=
  part .element 0 18 [
    part .openingTag 0 3 [mark "<" 0 1, tagName 1 2, mark ">" 2 3],
    container,
    part .closingTag 14 18 [mark "</" 14 16, tagName 16 17, mark ">" 17 18]]

/-- The tree of the file. -/
def tree : Node :=
  part (.other "program") 0 19
    [part (.other "expression_statement") 0 19 [paragraph, mark ";" 18 19]]

/-- The file as it is parsed. -/
def document : Document := ⟨source, tree, .tsx⟩

/-- The paragraph where it stands. -/
def element : Element :=
  ⟨⟨paragraph,
    [(part (.other "expression_statement") 0 19 [paragraph, mark ";" 18 19], 0), (tree, 0)]⟩,
    .paired, "p", ⟨1, 0⟩⟩

/-- The paragraph carries the text. -/
lemma carries : document.Carries element.node text 3 container where
  span := by decide +kernel
  content := by decide +kernel
  shown := @Node.Shows.braced text 3 container literal (by decide +kernel) rfl rfl
    (by decide +kernel) rfl rfl
    ⟨rfl, by decide +kernel, by decide +kernel⟩
  spelt := by
    unfold Document.Spells
    decide +kernel

end Sample.Quoted

namespace Editor

/-- A text with a line break is written between braces, and can be asked for again. -/
theorem text_reads_back_sample :
    Sample.Quoted.text.isScalar = true ∧ Text.strip Sample.Quoted.text ≠ [] ∧
      Sample.Quoted.document.Carries Sample.Quoted.element.node Sample.Quoted.text 3
        Sample.Quoted.container ∧
      textEdits Sample.Quoted.document Sample.Quoted.element
        (some Sample.Quoted.text) = .ok [] := by
  have scalar : Sample.Quoted.text.isScalar = true := by decide +kernel
  have filled : Text.strip Sample.Quoted.text ≠ [] := by decide +kernel
  exact ⟨scalar, filled, Sample.Quoted.carries,
    (text_reads_back Sample.Quoted.document Sample.Quoted.element
    Sample.Quoted.text scalar filled Sample.Quoted.carries).2.2 (by decide +kernel)⟩

/-- A text with a tab is written as it stands, but is read with a space: asking for it again writes
the file. So does a text with a reference that has no semicolon. -/
theorem text_rewritten :
    Literal.content "a\tb" = "a\tb" ∧
    (Sample.Short.report "a\tb").textContent = some (.static "a b") ∧
      (Sample.Short.echo "a\tb").1.changed = true ∧
      Literal.content "a&ampb" = "a&ampb" ∧
      (Sample.Short.report "a&ampb").textContent = some (.static "a&b") ∧
      (Sample.Short.echo "a&ampb").1.changed = true := by
  decide +kernel

end Editor

end Retouch
