import Mathlib
import Retouch.Proofs.Change
import Retouch.Proofs.Locate
import Retouch.Proofs.Outcome

/-!
# Updates stay inside their element

In a well-formed tree, class names are changed up to the anchor of the opening tag and texts from it
on. So the edits of an update never overlap, and every byte before and after the element is copied
(`Editor.update_inside`).
-/

namespace Retouch

/-- What an update relies on about a tree: it is laid out, attributes have a name for the grammar,
no opening tag is empty, and the opening tag of an element stands before its closing tag. -/
@[mk_iff]
structure Node.WellFormed (root : Node) : Prop where
  laid : root.LaidOut
  attribute_named : ∀ node ∈ root.preorder, node.kind = .attribute → node.named = true
  tag_filled : ∀ node ∈ root.preorder, node.kind = .openingTag ∨ node.kind = .selfClosing →
    node.start < node.stop
  opening_before_closing : ∀ node ∈ root.preorder, ∀ opening ∈ node.openingTag?,
    ∀ closing ∈ node.closingTag?, opening.stop ≤ closing.start

instance : DecidablePred Node.WellFormed :=
  fun root => decidable_of_iff _ (Node.wellFormed_iff root).symm

namespace Node

variable {node : Node} {document : Document} {name : Text} {attr : Attribute}

/-- An attribute that is found under a name stands among the children of the opening tag. -/
lemma attribute?_split (h : node.attribute? document name = .ok (some attr)) :
    attr.node.kind = .attribute ∧ ∃ before after,
      node.openingTag.children = before ++ attr.node :: after ∧
      attr.previous = before.getLast? := by
  obtain ⟨kind, before, after, split, previous⟩ :=
    Attribute.mem_amongChildren (Attribute.find?_eq_some h).1
  exact ⟨kind, before, after, split, by simpa using previous⟩

/-- An attribute that is found under a name is a child of the opening tag. -/
lemma attribute?_mem (h : node.attribute? document name = .ok (some attr)) :
    attr.node ∈ node.openingTag.children := by
  obtain ⟨_, before, after, split, _⟩ := attribute?_split h
  rw [split]
  exact List.mem_append_right before List.mem_cons_self

/-- What is removed with an attribute begins in the opening tag and not after the attribute. -/
lemma removalStart_within (laid : node.openingTag.LaidOut)
    (h : node.attribute? document name = .ok (some attr)) :
    node.openingTag.start ≤ attr.removalStart ∧ attr.removalStart ≤ attr.node.start := by
  obtain ⟨_, before, after, split, previous⟩ := attribute?_split h
  have inside := laid.nested.inside
  have apart := laid.nested.apart
  unfold Attribute.removalStart
  cases ends : before.getLast? with
  | none =>
    rw [previous, ends]
    exact ⟨(inside attr.node (attribute?_mem h)).1, le_rfl⟩
  | some last =>
    rw [previous, ends]
    have mem : last ∈ before := List.mem_of_getLast? ends
    have held : last ∈ node.openingTag.children := by
      rw [split]
      exact List.mem_append_left _ mem
    rw [split] at apart
    have follows := (List.pairwise_append.1 apart).2.2 last mem attr.node List.mem_cons_self
    exact ⟨(inside last held).1.trans (laid.child held).nested.span, follows⟩

end Node

namespace Element

variable {document : Document} {element : Element} {edits : List Edit}

/-- Class names are changed in the opening tag, up to the anchor. -/
lemma ClassNameChange.ordered (change : ClassNameChange document element edits)
    (laid : element.node.openingTag.LaidOut)
    (filled : element.node.openingTag.start < element.node.openingTag.stop)
    (named : ∀ child ∈ element.node.openingTag.children, child.kind = .attribute →
      child.named = true) :
    Edit.Ordered element.node.openingTag.start element.node.attributeAnchor edits := by
  have anchor := Node.attributeAnchor_within laid filled
  -- attributes are significant, so none of them reaches beyond the anchor
  have before {attr : Attribute}
      (found : element.node.attribute? document ClassName.attributeName = .ok (some attr)) :
      attr.node.stop ≤ element.node.attributeAnchor := by
    have mem := Node.attribute?_mem found
    have kind := (Node.attribute?_split found).1
    apply Node.stop_le_attributeAnchor laid mem
    simp [Node.isSignificant, named attr.node mem kind, kind]
  cases change with
  | none => exact .nil anchor.1
  | insert _ _ => exact .single anchor.1 le_rfl le_rfl
  | @replace attr value _ _ _ found valued _ _ =>
    have mem := Node.attribute?_mem found
    have tag := laid.nested.inside attr.node mem
    have held := Attribute.value?_mem valued
    have inside := (laid.child mem).nested.inside value held
    exact .single (tag.1.trans inside.1) ((laid.child mem).child held).nested.span
      (inside.2.trans (before found))
  | @remove attr value _ found _ _ =>
    have start := Node.removalStart_within laid found
    have span := (laid.child (Node.attribute?_mem found)).nested.span
    exact .single start.1 (start.2.trans span) (before found)

/-- Texts are changed from the anchor of the opening tag on, up to the end of the element. -/
lemma TextChange.ordered (change : TextChange document element edits) (laid : element.node.LaidOut)
    (filled : element.node.openingTag.start < element.node.openingTag.stop)
    (tags : ∀ opening ∈ element.node.openingTag?, ∀ closing ∈ element.node.closingTag?,
      opening.stop ≤ closing.start) :
    Edit.Ordered element.node.attributeAnchor element.node.stop edits := by
  have mem := element.node.openingTag_mem_preorder
  have anchor := (Node.attributeAnchor_within (laid.of_mem mem) filled).2
  have whole : element.node.attributeAnchor ≤ element.node.stop := anchor.trans (laid.within mem).2
  cases change with
  | none => exact .nil whole
  | content spanned _ _ =>
    obtain ⟨opening, closing, opens, closes, rfl, rfl⟩ := Node.contentSpan?_eq_some spanned
    have held := (Node.closingTag?_eq_some closes).2.1
    have span := (laid.child held).nested.span
    rw [Node.openingTag_of_opens opens] at anchor
    exact .single anchor (tags opening opens closing closes)
      (span.trans (laid.nested.inside closing held).2)
  | expand _ _ => exact .single le_rfl whole le_rfl

end Element

namespace Editor

variable {σ : Type} [Store σ]

/-- The node that holds the attributes of a located element is not empty. -/
lemma openingTag_filled {document : Document} {element : Element} (tree : document.root.WellFormed)
    (mem : element.node ∈ document.root.preorder)
    (kind : (∃ tag, element.node.openingTag? = some tag) ∨ element.node.kind = .selfClosing) :
    element.node.openingTag.start < element.node.openingTag.stop := by
  have held := Node.mem_preorder_trans element.node.openingTag_mem_preorder mem
  exact tree.tag_filled _ held (Node.openingTag_kind kind)

/-- The edits of an update follow one another inside the element. -/
lemma updateEdits_ordered {document : Document} {element : Element} {updates : Updates}
    {edits : List Edit} (tree : document.root.WellFormed)
    (mem : element.node ∈ document.root.preorder)
    (kind : (∃ tag, element.node.openingTag? = some tag) ∨ element.node.kind = .selfClosing)
    (recorded : updateEdits document element updates = .ok edits) :
    Edit.Ordered element.node.start element.node.stop edits := by
  have laid := tree.laid.of_mem mem
  have tag := element.node.openingTag_mem_preorder
  have filled := openingTag_filled tree mem kind
  have listed : ∀ child ∈ element.node.openingTag.children, child.kind = .attribute →
      child.named = true := by
    intro child held
    apply tree.attribute_named
    have below := Node.mem_preorder_of_child held child.self_mem_preorder
    exact Node.mem_preorder_trans below (Node.mem_preorder_trans tag mem)
  obtain ⟨first, second, rfl, named, worded⟩ := Element.updateEdits_changes recorded
  have early := named.ordered (laid.of_mem tag) filled listed
  have late := worded.ordered laid filled (tree.opening_before_closing _ mem)
  exact (early.append late).widen (laid.within tag).1 le_rfl

/-- The edits that an update records never overlap, whatever the class name and the text, and they
are carried out inside the element: every byte before and after it is copied. -/
theorem update_inside (editor : Editor) (store : σ) (root : Path) (id : Text) (updates : Updates)
    {target : Target} {document : Document} {element : Element} {edits : List Edit}
    (found : editor.find store root id false = .ok (target, document, element))
    (tree : document.root.WellFormed)
    (recorded : updateEdits document element updates = .ok edits) :
    edits.Pairwise Edit.Apart ∧ ∃ inside, Edit.render document.source edits =
      .ok (document.source.take element.node.start ++ inside ++
        document.source.drop element.node.stop) := by
  obtain ⟨_, _, located⟩ := find_eq_ok.1 found
  have mem := (Element.node_of_locate located).1
  have kind := Element.kind_of_locate located rfl
  have ordered := updateEdits_ordered tree mem kind recorded
  exact ⟨ordered.pairwise_apart, ordered.render document.source⟩

/-- The element of the sample that closes itself gets a class name and a text at one and the same
offset. -/
theorem update_inside_sample :
    Sample.editor.find Sample.store Sample.root "page.tsx:2:0" false =
        .ok (Sample.target 2 (by decide), Sample.document, Sample.boldElement) ∧
      Sample.document.root.WellFormed ∧
      updateEdits Sample.document Sample.boldElement ⟨some "c", some "z"⟩ =
        .ok [⟨33, 33, Placement.word " className=\"c\""⟩, ⟨33, 36, Placement.word ">z</b>"⟩] ∧
      List.Pairwise Edit.Apart
        [⟨33, 33, Placement.word " className=\"c\""⟩, ⟨33, 36, Placement.word ">z</b>"⟩] ∧
      ∃ inside, Edit.render Sample.source
          [⟨33, 33, Placement.word " className=\"c\""⟩, ⟨33, 36, Placement.word ">z</b>"⟩] =
        .ok (Sample.source.take 31 ++ inside ++ Sample.source.drop 36) := by
  have found : Sample.editor.find Sample.store Sample.root "page.tsx:2:0" false =
      .ok (Sample.target 2 (by decide), Sample.document, Sample.boldElement) := by decide +kernel
  have tree : Sample.document.root.WellFormed := by decide +kernel
  have recorded : updateEdits Sample.document Sample.boldElement ⟨some "c", some "z"⟩ =
      .ok [⟨33, 33, Placement.word " className=\"c\""⟩, ⟨33, 36, Placement.word ">z</b>"⟩] := by
    decide +kernel
  exact ⟨found, tree, recorded,
    update_inside Sample.editor Sample.store Sample.root "page.tsx:2:0"
      ⟨some "c", some "z"⟩ found tree
      recorded⟩

end Editor

end Retouch
