import Mathlib
import Retouch.Proofs.Defect
import Retouch.Proofs.Splice

/-!
# Stretches of text

Between those children of an element that are not text there are stretches of text. A grammar
divides a stretch into texts and gaps between them as it likes. `Document.Divided` says that the
children stand in order, between characters, and that their texts hold no ampersand. The report on
the content is then the one that ignores every text and reads the stretches as gaps
(`TextContent.ofNodes_others`), so it does not depend on how they are divided
(`TextContent.ofElement_stretches`).
-/

namespace Retouch

/-- The offsets at which nodes start and stop, between the offset before them and the one after
them. -/
def Node.cuts (stop offset : Nat) : List Node → List Nat
  | [] => [offset, stop]
  | node :: nodes => offset :: node.start :: cuts stop node.stop nodes

/-- The children of an element that are not text. -/
def Node.others (nodes : List Node) : List Node :=
  nodes.filter (·.kind ≠ .text)

/-- The nodes between two offsets stand one after the other, start and stop between characters, and
no ampersand is in the texts among them. -/
structure Document.Divided (document : Document) (stop offset : Nat)
    (nodes : List Node) : Prop where
  ordered : (Node.cuts stop offset nodes).Pairwise (· ≤ ·)
  boundaries : ∀ cut ∈ Node.cuts stop offset nodes, Utf8.isBoundary document.source cut = true
  plain : ∀ node ∈ nodes, node.kind = .text → 0x26 ∉ document.bytes node

/-- Behind the first offset come the starts of all nodes, and the last offset. -/
lemma Node.mem_cuts {stop next : Nat} {nodes : List Node}
    (mem : next ∈ stop :: nodes.map Node.start) (offset : Nat) :
    next ∈ (cuts stop offset nodes).tail := by
  induction nodes generalizing offset with
  | nil => exact mem
  | cons node nodes ih =>
    have behind (mem : next ∈ stop :: nodes.map Node.start) :
        next ∈ (cuts stop offset (node :: nodes)).tail :=
      List.mem_cons_of_mem node.start (List.mem_of_mem_tail (ih mem node.stop))
    rcases List.mem_cons.1 mem with rfl | mem
    · exact behind List.mem_cons_self
    · rcases List.mem_cons.1 mem with rfl | mem
      · exact List.mem_cons_self
      · exact behind (List.mem_cons_of_mem stop mem)

namespace Document.Divided

variable {document : Document} {stop offset : Nat} {node : Node} {nodes : List Node}

/-- The first offset is between characters. -/
lemma begins (divided : document.Divided stop offset nodes) :
    Utf8.isBoundary document.source offset = true := by
  apply divided.boundaries
  cases nodes <;> exact List.mem_cons_self

/-- What is behind the first node is divided too. -/
lemma tail (divided : document.Divided stop offset (node :: nodes)) :
    document.Divided stop node.stop nodes where
  ordered := divided.ordered.tail.tail
  boundaries cut mem := divided.boundaries cut (.tail _ (.tail _ mem))
  plain other mem := divided.plain other (.tail _ mem)

/-- The nodes start between characters, behind the first offset, and so does what follows them. -/
lemma ahead (divided : document.Divided stop offset nodes) :
    ∀ next ∈ stop :: nodes.map Node.start, offset ≤ next ∧
      Utf8.isBoundary document.source next = true := by
  intro next mem
  have behind := Node.mem_cuts mem offset
  refine ⟨?_, divided.boundaries next (List.mem_of_mem_tail behind)⟩
  have ordered := divided.ordered
  cases nodes <;> exact List.rel_of_pairwise_cons ordered behind

/-- The first node stops behind its start. -/
lemma forward (divided : document.Divided stop offset (node :: nodes)) :
    node.start ≤ node.stop := by
  have ordered := divided.ordered.tail
  cases nodes <;> exact List.rel_of_pairwise_cons ordered List.mem_cons_self

end Document.Divided

namespace Reference

/-- A text without ampersands stands for itself. -/
lemma resolve_plain {t : Text} (plain : CodePoint.ofChar '&' ∉ t) : resolve t = .ok t := by
  rw [resolve]
  induction t with
  | nil => rfl
  | cons c t ih =>
    obtain ⟨first, rest⟩ := not_or.1 (mt List.mem_cons.2 plain)
    rw [resolveAfter, if_neg (Ne.symm first), ih rest]
    rfl

end Reference

namespace Document

variable {one two document : Document} {start stop offset : Nat} {node : Node}
    {nodes : List Node} {t : Text}

section Reading

variable (valid : Utf8.decode document.source = .ok t)
include valid

/-- What stands between two boundaries is read in two parts as it is read at once. -/
lemma textBetween_split {middle : Nat} (lower : start ≤ middle) (upper : middle ≤ stop)
    (starts : Utf8.isBoundary document.source start = true)
    (cut : Utf8.isBoundary document.source middle = true)
    (stops : Utf8.isBoundary document.source stop = true) :
    ∃ before after, document.textBetween start middle = .ok before ∧
      document.textBetween middle stop = .ok after ∧
      document.textBetween start stop = .ok (before ++ after) := by
  obtain ⟨before, read⟩ := textBetween_ok valid starts cut
  obtain ⟨after, read'⟩ := textBetween_ok valid cut stops
  refine ⟨before, after, read, read', ?_⟩
  rw [textBetween, mapError_eq_ok, Utf8.decode_eq_ok] at *
  rw [Edit.slice_split document.source lower upper, read.2, read'.2, Utf8.encodeAll_append,
    Text.isScalar_append, read.1, read'.1]
  exact ⟨rfl, rfl⟩

end Reading

/-- A text without an ampersand among its bytes stands for itself. -/
lemma resolve_of_plain (plain : 0x26 ∉ document.bytes node) (read : document.text node = .ok t) :
    Reference.resolve t = .ok t := by
  rw [text, textBetween, mapError_eq_ok, Utf8.decode_eq_ok] at read
  apply Reference.resolve_plain
  intro held
  apply plain
  rw [bytes, read.2]
  exact List.mem_flatMap.2 ⟨CodePoint.ofChar '&', held, by decide⟩

section Sources

variable (same : one.source = two.source)
include same

/-- Two documents with one source have the same text between two offsets. -/
lemma textBetween_congr (start stop : Nat) :
    one.textBetween start stop = two.textBetween start stop := by
  rw [textBetween, textBetween, same]

/-- A node has the same text in two documents with one source. -/
lemma text_congr (node : Node) : one.text node = two.text node :=
  textBetween_congr same node.start node.stop

/-- The rest of a string has the same value in two documents with one source. -/
lemma stringValueFrom_congr (stop offset : Nat) (parts : List Node) :
    one.stringValueFrom stop offset parts = two.stringValueFrom stop offset parts := by
  induction parts generalizing offset with
  | nil => exact textBetween_congr same offset stop
  | cons part parts ih =>
    have value : one.partValue? part = two.partValue? part := by
      rw [partValue?, partValue?, text_congr same]
    simp only [stringValueFrom, value, textBetween_congr same, ih]

/-- A string has the same value in two documents with one source. -/
lemma stringValue_congr (node : Node) : one.stringValue node = two.stringValue node := by
  rw [stringValue, stringValue, closingQuote, closingQuote, same, stringValueFrom_congr same]

end Sources

end Document

namespace TextContent

variable {one two document : Document} {start stop offset : Nat} {done run t : Text}
    {nodes : List Node}

/-- The report on the content depends on the source alone. -/
lemma ofNodes_congr (same : one.source = two.source) (stop offset : Nat) (done run : Text)
    (nodes : List Node) :
    ofNodes one stop done run offset nodes = ofNodes two stop done run offset nodes := by
  induction nodes generalizing offset done run with
  | nil => rw [ofNodes, ofNodes, Document.textBetween_congr same]
  | cons node nodes ih =>
    simp only [ofNodes, Document.textBetween_congr same, Document.text_congr same,
      Document.stringValue_congr same, ih]

section Stretches

variable {whole : Text} (valid : Utf8.decode document.source = .ok whole)
include valid

/-- What is read as literal text up to an offset may as well be left to the gap before the next
node. -/
lemma ofNodes_gap {middle : Nat} (le : offset ≤ middle)
    (begins : Utf8.isBoundary document.source offset = true)
    (cut : Utf8.isBoundary document.source middle = true)
    (ahead : ∀ next ∈ stop :: nodes.map Node.start, middle ≤ next ∧
      Utf8.isBoundary document.source next = true)
    (read : document.textBetween offset middle = .ok t) :
    ofNodes document stop done (run ++ t) middle nodes =
      ofNodes document stop done run offset nodes := by
  have joined : ∀ next ∈ stop :: nodes.map Node.start, ∃ gap,
      document.textBetween middle next = .ok gap ∧
      document.textBetween offset next = .ok (t ++ gap) := by
    intro next mem
    obtain ⟨upper, ends⟩ := ahead next mem
    obtain ⟨before, gap, read', rest, all⟩ :=
      Document.textBetween_split valid le upper begins cut ends
    cases read.symm.trans read'
    exact ⟨gap, rest, all⟩
  cases nodes with
  | nil =>
    obtain ⟨gap, rest, all⟩ := joined stop List.mem_cons_self
    rw [ofNodes, ofNodes, rest, all, ok_bind, ok_bind, List.append_assoc]
  | cons node nodes =>
    obtain ⟨gap, rest, all⟩ := joined node.start (by simp)
    rw [ofNodes, ofNodes, rest, all, ok_bind, ok_bind, List.append_assoc]

/-- Texts are read as the gaps that they leave behind. -/
lemma ofNodes_others (divided : document.Divided stop offset nodes) :
    ofNodes document stop done run offset nodes =
      ofNodes document stop done run offset (Node.others nodes) := by
  induction nodes generalizing offset done run with
  | nil => rfl
  | cons node nodes ih =>
    obtain ⟨lower, starts⟩ := divided.ahead node.start (by simp)
    by_cases text : node.kind = .text
    · obtain ⟨gap, value, before, inside, both⟩ :=
        Document.textBetween_split valid lower divided.forward divided.begins starts
          divided.tail.begins
      have resolved := Document.resolve_of_plain (divided.plain node List.mem_cons_self text) inside
      have hidden : Node.others (node :: nodes) = Node.others nodes := by simp [Node.others, text]
      have ahead : ∀ next ∈ stop :: (Node.others nodes).map Node.start,
          node.stop ≤ next ∧ Utf8.isBoundary document.source next = true := by
        intro next mem
        refine divided.tail.ahead next (List.cons_subset_cons _ (List.map_subset _ ?_) mem)
        exact List.filter_subset_self _
      rw [hidden, ← ofNodes_gap valid
        (lower.trans divided.forward) divided.begins divided.tail.begins ahead both,
        ← ih divided.tail, ofNodes, before, ok_bind]
      simp only [text, Document.text, inside, resolved, ok_bind, List.append_assoc]
    · have shown : Node.others (node :: nodes) = node :: Node.others nodes := by
        simp [Node.others, text]
      rw [shown, ofNodes, ofNodes]
      simp only [ih divided.tail]

omit valid in
/-- An element with content between its tags: whether it holds elements is seen from what is not
text. -/
lemma ofElement_eq {node : Node} (filled : node.content ≠ [])
    (span : node.contentSpan? = some (start, stop)) : ofElement document node =
      if (Node.others node.content).any (·.kind.isMarkup) then
        .ok (.dynamic .hasElementChildren none)
      else ofNodes document stop [] [] start node.content := by
  have markup : (Node.others node.content).any (·.kind.isMarkup) =
      node.content.any (·.kind.isMarkup) := by
    rw [Node.others, List.any_filter]
    congr 1
    funext part
    cases part.kind <;> rfl
  rw [markup, ofElement, span]
  cases held : node.content with
  | nil => exact absurd held filled
  | cons first rest => rfl

end Stretches

/-- The report on the content of an element does not depend on how the stretches between those of
its children that are not text are divided into texts and gaps. If all children are texts, it is the
whole text between the tags, collapsed and without layout at its ends. In a sound document there is
a report. -/
theorem ofElement_stretches {a b : Node} {whole : Text} (valid : Utf8.decode one.source = .ok whole)
    (same : one.source = two.source) (span : a.contentSpan? = some (start, stop))
    (span' : b.contentSpan? = some (start, stop)) (filled : a.content ≠ [])
    (filled' : b.content ≠ []) (divided : one.Divided stop start a.content)
    (divided' : two.Divided stop start b.content)
    (others : Node.others a.content = Node.others b.content) : ofElement one a = ofElement two b ∧
      ((∀ node ∈ a.content, node.kind = .text) → ∃ t, one.textBetween start stop = .ok t ∧
        ofElement one a = .ok (.static (trim CodePoint.isLayout (Layout.collapse t)))) ∧
      (one.Sound → a ∈ one.root.preorder → Succeeds (ofElement one a)) := by
  refine ⟨?_, ?_, fun sound mem => ofElement_ok sound valid mem⟩
  · rw [ofElement_eq filled span, ofElement_eq filled' span', ofNodes_others valid divided,
      ofNodes_others (same ▸ valid) divided', others, ofNodes_congr same]
  · intro texts
    have hidden : Node.others a.content = [] := by simpa [Node.others] using texts
    obtain ⟨t, read⟩ :=
      Document.textBetween_ok valid divided.begins (divided.ahead stop List.mem_cons_self).2
    refine ⟨t, read, ?_⟩
    rw [ofElement_eq filled span, ofNodes_others valid divided, hidden, ofNodes, read]
    rfl

end TextContent

namespace Sample.Stretched

/-- Text around a reference and a string between braces. -/
def text : Text := "<p> é &amp; b\x7b'c'\x7d d</p>"

/-- The bytes of the text. -/
def source : Bytes := Utf8.encodeAll text

/-- The paragraph, with what its content is divided into. -/
def paragraph (content : List Node) : Node :=
  part .element 0 25 ([part .openingTag 0 3 [mark "<" 0 1, tagName 1 2, mark ">" 2 3]] ++ content ++
    [part .closingTag 21 25 [mark "</" 21 23, tagName 23 24, mark ">" 24 25]])

/-- Every stretch is one text. -/
def full : Node :=
  paragraph [part .text 3 7 [], part .reference 7 12 [], part .text 12 14 [], bracedString 14 19,
    part .text 19 21 []]

/-- A stretch is left uncovered in part, one altogether, and one is covered by several texts. -/
def sparse : Node :=
  paragraph [part .text 4 6 [], part .reference 7 12 [], bracedString 14 19, part .text 19 20 [],
    part .text 20 20 [], part .text 20 21 []]

/-- The file, with one of its trees. -/
def document (root : Node) : Document := ⟨source, root, .tsx⟩

end Sample.Stretched

namespace TextContent

/-- Both divisions of the paragraph are reported as the same static text. -/
theorem ofElement_stretches_sample :
    (Sample.Stretched.document Sample.Stretched.full).Divided 21 3 Sample.Stretched.full.content ∧
      (Sample.Stretched.document Sample.Stretched.sparse).Divided 21 3
        Sample.Stretched.sparse.content ∧
      ofElement (Sample.Stretched.document Sample.Stretched.full) Sample.Stretched.full =
        .ok (.static "é & bc d") ∧
      ofElement (Sample.Stretched.document Sample.Stretched.sparse) Sample.Stretched.sparse =
        .ok (.static "é & bc d") := by
  have divided : (Sample.Stretched.document Sample.Stretched.full).Divided 21 3
      Sample.Stretched.full.content :=
    ⟨by decide +kernel, by decide +kernel, by decide +kernel⟩
  have divided' : (Sample.Stretched.document Sample.Stretched.sparse).Divided 21 3
      Sample.Stretched.sparse.content :=
    ⟨by decide +kernel, by decide +kernel, by decide +kernel⟩
  have valid : Utf8.decode Sample.Stretched.source = .ok Sample.Stretched.text := by decide +kernel
  have report : ofElement (Sample.Stretched.document Sample.Stretched.full) Sample.Stretched.full =
      .ok (.static "é & bc d") := by decide +kernel
  obtain ⟨same, _⟩ := @ofElement_stretches (Sample.Stretched.document Sample.Stretched.full)
    (Sample.Stretched.document Sample.Stretched.sparse) 3 21 Sample.Stretched.full
    Sample.Stretched.sparse _ valid rfl (by decide +kernel) (by decide +kernel)
    (by decide +kernel) (by decide +kernel) divided divided' (by decide +kernel)
  exact ⟨divided, divided', report, same.symm.trans report⟩

end TextContent

end Retouch
