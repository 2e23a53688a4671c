import Mathlib
import Retouch.Element
import Retouch.Markup.Attribute
import Retouch.Proofs.Step
import Retouch.Proofs.Tree

/-!
# Spans of nodes

In a tree that is laid out (`Node.LaidOut`) a node's span holds the spans of its children, and these
follow one another. So everything below a node lies in its span, tags and attributes lie where their
element is, and the anchor for new attributes lies behind everything significant in a tag.
-/

namespace Retouch

/-- A node whose span holds the spans of its children, which follow one another. -/
@[mk_iff]
structure Node.Nested (node : Node) : Prop where
  span : node.start ≤ node.stop
  inside : ∀ child ∈ node.children, node.start ≤ child.start ∧ child.stop ≤ node.stop
  apart : node.children.Pairwise fun a b => a.stop ≤ b.start

/-- A tree in which every node holds its children in order. -/
def Node.LaidOut (root : Node) : Prop :=
  ∀ node ∈ root.preorder, node.Nested

namespace Node

instance : DecidablePred Nested :=
  fun node => decidable_of_iff _ (nested_iff node).symm

instance : DecidablePred LaidOut :=
  fun root => inferInstanceAs (Decidable (∀ node ∈ root.preorder, node.Nested))

/-- A subtree of a tree that is laid out is laid out. -/
lemma LaidOut.of_mem {root node : Node} (laid : root.LaidOut) (mem : node ∈ root.preorder) :
    node.LaidOut :=
  fun _ below => laid _ (mem_preorder_trans below mem)

/-- The root of a tree that is laid out holds its children in order. -/
lemma LaidOut.nested {root : Node} (laid : root.LaidOut) : root.Nested :=
  laid root (self_mem_preorder root)

/-- The tree of a child is laid out. -/
lemma LaidOut.child {root child : Node} (laid : root.LaidOut) (mem : child ∈ root.children) :
    child.LaidOut :=
  laid.of_mem (mem_preorder_of_child mem (self_mem_preorder child))

/-- Every node of a tree lies in the span of the root. -/
lemma LaidOut.within {root node : Node} (laid : root.LaidOut) (mem : node ∈ root.preorder) :
    root.start ≤ node.start ∧ node.stop ≤ root.stop := by
  induction root using childrenInduction with
  | step root ih =>
    rcases mem_preorder.1 mem with rfl | ⟨child, held, below⟩
    · exact ⟨le_rfl, le_rfl⟩
    · obtain ⟨lower, upper⟩ := ih child held (laid.child held) below
      obtain ⟨start, stop⟩ := laid.nested.inside child held
      exact ⟨start.trans lower, upper.trans stop⟩

/-- Two children lie apart. -/
lemma Nested.apart_of_ne {node a b : Node} (nested : node.Nested) (memA : a ∈ node.children)
    (memB : b ∈ node.children) (ne : a ≠ b) : a.stop ≤ b.start ∨ b.stop ≤ a.start := by
  have apart : node.children.Pairwise fun a b => a.stop ≤ b.start ∨ b.stop ≤ a.start :=
    nested.apart.imp .inl
  have symmetric : Std.Symm fun a b : Node => a.stop ≤ b.start ∨ b.stop ≤ a.start :=
    ⟨fun _ _ => Or.symm⟩
  exact apart.forall memA memB ne

/-- Of two nodes of a tree one is below the other, or they lie apart. -/
lemma LaidOut.below_or_apart {root a b : Node} (laid : root.LaidOut) (memA : a ∈ root.preorder)
    (memB : b ∈ root.preorder) :
    a ∈ b.preorder ∨ b ∈ a.preorder ∨ a.stop ≤ b.start ∨ b.stop ≤ a.start := by
  induction root using childrenInduction with
  | step root ih =>
    rcases mem_preorder.1 memA with rfl | ⟨first, heldA, belowA⟩
    · exact .inr (.inl memB)
    rcases mem_preorder.1 memB with rfl | ⟨second, heldB, belowB⟩
    · exact .inl memA
    by_cases same : first = second
    · cases same
      exact ih first heldA (laid.child heldA) belowA belowB
    · obtain ⟨startA, stopA⟩ := (laid.child heldA).within belowA
      obtain ⟨startB, stopB⟩ := (laid.child heldB).within belowB
      rcases laid.nested.apart_of_ne heldA heldB same with before | after
      · exact .inr (.inr (.inl (stopA.trans (before.trans startB))))
      · exact .inr (.inr (.inr (stopB.trans (after.trans startA))))

/-- The opening tag of an element is a child of it. -/
lemma openingTag?_eq_some {node tag : Node} (h : node.openingTag? = some tag) :
    node.kind = .element ∧ tag ∈ node.children ∧ tag.kind = .openingTag := by
  unfold openingTag? at h
  split at h
  · rename_i kind
    exact ⟨kind, List.mem_of_find?_eq_some h, by simpa using List.find?_some h⟩
  · cases h

/-- The closing tag of an element is a child of it. -/
lemma closingTag?_eq_some {node tag : Node} (h : node.closingTag? = some tag) :
    node.kind = .element ∧ tag ∈ node.children ∧ tag.kind = .closingTag := by
  unfold closingTag? at h
  split at h
  · rename_i kind
    exact ⟨kind, by simpa using List.mem_of_find?_eq_some h, by simpa using List.find?_some h⟩
  · cases h

/-- The content of an element lies between its two tags. -/
lemma contentSpan?_eq_some {node : Node} {start stop : Nat}
    (h : node.contentSpan? = some (start, stop)) :
    ∃ opening closing, node.openingTag? = some opening ∧ node.closingTag? = some closing ∧
      start = opening.stop ∧ stop = closing.start := by
  unfold contentSpan? at h
  split at h
  · rename_i opening closing opens closes
    cases h
    exact ⟨opening, closing, opens, closes, rfl, rfl⟩
  · cases h

/-- The node that holds the attributes is the element or a child of it. -/
lemma openingTag_cases (node : Node) :
    (node.openingTag? = none ∧ node.openingTag = node) ∨
      ∃ tag, node.openingTag? = some tag ∧ node.openingTag = tag := by
  unfold openingTag
  cases h : node.openingTag? with
  | none => exact .inl ⟨rfl, rfl⟩
  | some tag => exact .inr ⟨tag, rfl, rfl⟩

/-- The node that holds the attributes is a node of the element. -/
lemma openingTag_mem_preorder (node : Node) : node.openingTag ∈ node.preorder := by
  rcases openingTag_cases node with ⟨_, same⟩ | ⟨tag, opens, same⟩
  · rw [same]
    exact self_mem_preorder node
  · rw [same]
    exact mem_preorder_of_child (openingTag?_eq_some opens).2.1 (self_mem_preorder tag)

/-- The name of an element is a node of it. -/
lemma tagName?_mem {node name : Node} (named : node.tagName? = some name) :
    name ∈ node.preorder := by
  simp only [tagName?] at named
  split at named
  · have child : name ∈ node.openingTag.children := List.mem_of_find?_eq_some named
    exact mem_preorder_trans (mem_preorder_of_child child name.self_mem_preorder)
      node.openingTag_mem_preorder
  · cases named

/-- An element or fragment that is no fragment has an opening tag with a name, or closes itself. -/
lemma kind_of_not_fragment {node : Node} (markup : node.kind.isMarkup = true)
    (plain : node.isFragment = false) :
    (∃ tag, node.openingTag? = some tag) ∨ node.kind = .selfClosing := by
  cases kind : node.kind <;> simp [kind, Kind.isMarkup] at markup
  case element =>
    rcases openingTag_cases node with ⟨_, same⟩ | ⟨tag, opens, _⟩
    · simp [isFragment, kind, tagName?, same] at plain
    · exact .inl ⟨tag, opens⟩
  case selfClosing => exact .inr rfl
  case fragment => simp [isFragment, kind] at plain

/-- The attributes of an element with an opening tag are in that tag. -/
lemma openingTag_of_opens {node tag : Node} (opens : node.openingTag? = some tag) :
    node.openingTag = tag := by
  simp [openingTag, opens]

/-- The attributes of an element that closes itself are in the element. -/
lemma openingTag_of_selfClosing {node : Node} (kind : node.kind = .selfClosing) :
    node.openingTag = node := by
  simp [openingTag, openingTag?, kind]

/-- The attributes of an element that is no fragment are in a tag. -/
lemma openingTag_kind {node : Node}
    (kind : (∃ tag, node.openingTag? = some tag) ∨ node.kind = .selfClosing) :
    node.openingTag.kind = .openingTag ∨ node.openingTag.kind = .selfClosing := by
  rcases kind with ⟨tag, opens⟩ | closes
  · rw [openingTag_of_opens opens]
    exact .inl (openingTag?_eq_some opens).2.2
  · rw [openingTag_of_selfClosing closes]
    exact .inr closes

/-- Of nodes that follow one another none ends after the last one. -/
lemma stop_le_of_getLast? {nodes : List Node} {node last : Node}
    (apart : nodes.Pairwise fun a b => a.stop ≤ b.start) (span : last.start ≤ last.stop)
    (ends : nodes.getLast? = some last) (mem : node ∈ nodes) : node.stop ≤ last.stop := by
  obtain ⟨init, rfl⟩ := List.getLast?_eq_some_iff.1 ends
  rcases List.mem_append.1 mem with before | same
  · have follows :=
      (List.pairwise_append.1 apart).2.2 node before last (List.mem_singleton_self last)
    exact follows.trans span
  · rw [List.mem_singleton.1 same]

/-- The anchor for new attributes is the end of the last significant child of the opening tag, or
the offset after its first byte if there is none. -/
lemma attributeAnchor_cases (node : Node) :
    (∃ last ∈ node.openingTag.children,
        (node.openingTag.children.filter isSignificant).getLast? = some last ∧
        node.attributeAnchor = last.stop) ∨
      node.openingTag.children.filter isSignificant = [] ∧
        node.attributeAnchor = node.openingTag.start + 1 := by
  cases ends : (node.openingTag.children.filter isSignificant).getLast? with
  | none => exact .inr ⟨List.getLast?_eq_none_iff.1 ends, by simp [attributeAnchor, ends]⟩
  | some last =>
    have mem := List.mem_of_getLast? ends
    exact .inl ⟨last, (List.mem_filter.1 mem).1, rfl, by simp [attributeAnchor, ends]⟩

/-- Everything significant in an opening tag ends before the anchor. -/
lemma stop_le_attributeAnchor {node child : Node} (laid : node.openingTag.LaidOut)
    (mem : child ∈ node.openingTag.children) (significant : child.isSignificant = true) :
    child.stop ≤ node.attributeAnchor := by
  have listed : child ∈ node.openingTag.children.filter isSignificant :=
    List.mem_filter.2 ⟨mem, significant⟩
  rcases attributeAnchor_cases node with ⟨last, held, ends, anchor⟩ | ⟨none, _⟩
  · rw [anchor]
    exact stop_le_of_getLast? (laid.nested.apart.filter isSignificant)
      (laid.child held).nested.span ends
      listed
  · rw [none] at listed
    cases listed

/-- The anchor lies in the opening tag, unless that is empty. -/
lemma attributeAnchor_within {node : Node} (laid : node.openingTag.LaidOut)
    (filled : node.openingTag.start < node.openingTag.stop) :
    node.openingTag.start ≤ node.attributeAnchor ∧ node.attributeAnchor ≤ node.openingTag.stop := by
  rcases attributeAnchor_cases node with ⟨last, held, _, anchor⟩ | ⟨_, anchor⟩
  · obtain ⟨lower, upper⟩ := laid.nested.inside last held
    rw [anchor]
    exact ⟨lower.trans (laid.child held).nested.span, upper⟩
  · rw [anchor]
    exact ⟨Nat.le_succ _, filled⟩

end Node

deriving instance DecidableEq for Attribute

namespace Attribute

/-- The offset from which on an attribute is removed: the end of the node before it, if there is
one. -/
def removalStart (attr : Attribute) : Nat :=
  match attr.previous with
  | some previous => previous.stop
  | none => attr.node.start

/-- The attributes of a tag are children of it, and each knows the child before it. -/
lemma mem_amongChildren {attr : Attribute} {first : Option Node} {nodes : List Node}
    (mem : attr ∈ amongChildren first nodes) :
    attr.node.kind = .attribute ∧ ∃ before after, nodes = before ++ attr.node :: after ∧
      attr.previous = before.getLast?.or first := by
  induction nodes generalizing first with
  | nil => cases mem
  | cons node nodes ih =>
    have later (mem : attr ∈ amongChildren (some node) nodes) : attr.node.kind = .attribute ∧
        ∃ before after, node :: nodes = before ++ attr.node :: after ∧
          attr.previous = before.getLast?.or first := by
      obtain ⟨kind, before, after, rfl, previous⟩ := ih mem
      refine ⟨kind, node :: before, after, rfl, ?_⟩
      rw [previous, List.getLast?_cons]
      cases before.getLast? <;> rfl
    simp only [amongChildren] at mem
    split at mem
    · rename_i kind
      cases mem with
      | head => exact ⟨kind, [], nodes, rfl, rfl⟩
      | tail _ mem => exact later mem
    · exact later mem

/-- The attribute that is found under a name is one of those that were looked through, and it has
the name. -/
lemma find?_eq_some {document : Document} {name : Text} {attrs : List Attribute} {attr : Attribute}
    (found : find? document name attrs = .ok (some attr)) : attr ∈ attrs ∧
    attr.name document = .ok name := by
  induction attrs with
  | nil => cases found
  | cons first rest ih =>
    rw [find?, bind_eq_ok] at found
    obtain ⟨text, read, found⟩ := found
    split at found
    · rename_i same
      cases found
      exact ⟨List.mem_cons_self, by rw [read, same]⟩
    · obtain ⟨mem, named⟩ := ih found
      exact ⟨List.mem_cons_of_mem first mem, named⟩

/-- The value of an attribute is a child of it. -/
lemma value?_mem {attr : Attribute} {value : Node} (h : attr.value? = some value) :
    value ∈ attr.node.children :=
  (List.dropWhile_suffix _).subset (List.mem_of_find?_eq_some h)

end Attribute

end Retouch
