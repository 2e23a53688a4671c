import Mathlib
import Retouch.Proofs.Inert
import Retouch.Proofs.Update

/-!
# Updates leave program logic alone

An update replaces or removes bytes of the class name's attribute and of inert nodes only
(`Editor.update_spares_logic`). The judgement about a class name or a text looks at what is inside
braces and parentheses, while an edit covers whole spans. That a span holds nothing the judgement
has not seen follows from the shape of the tree: braces and parentheses hold one significant node at
most, and attributes a name and one value at most. Tokens are not looked into: a node inside one
goes with it (`Editor.update_touches_inside_tokens`). Where tokens are leaves there is no such node
(`Editor.replaceable_of_leaves`).
-/

namespace Retouch

/-- The node that names an attribute: the first significant one before the equals sign. -/
def Attribute.nameNode? (attr : Attribute) : Option Node :=
  (attr.node.children.takeWhile (·.kind ≠ .equals)).find? Node.isSignificant

/-- A node has the byte at an offset. -/
def Node.Covers (node : Node) (offset : Nat) : Prop :=
  node.start ≤ offset ∧ offset < node.stop

/-- An edit replaces or removes a byte of a node. -/
def Edit.Touches (edit : Edit) (node : Node) : Prop :=
  ∃ offset, edit.start ≤ offset ∧ offset < edit.stop ∧ node.Covers offset

instance (edit : Edit) (node : Node) : Decidable (edit.Touches node) :=
  decidable_of_iff (max edit.start node.start < min edit.stop node.stop) (by
    constructor
    · intro shared
      exact ⟨max edit.start node.start, by omega, by omega, by omega, by omega⟩
    · rintro ⟨offset, lower, upper, start, stop⟩
      omega)

/-- A tree that is laid out, in which braces and parentheses hold one significant node at most, and
attributes one before the equals sign, their name, and one at most after it, their value. -/
@[mk_iff]
structure Node.Regular (root : Node) : Prop where
  laid : root.LaidOut
  single : root.Single
  attribute_shape : ∀ node ∈ root.preorder, node.kind = .attribute →
    ((node.children.takeWhile (·.kind ≠ .equals)).filter isSignificant).length = 1 ∧
      ((node.children.dropWhile (·.kind ≠ .equals)).filter isSignificant).length ≤ 1

namespace Node

instance : DecidablePred Regular :=
  fun root => decidable_of_iff _ (regular_iff root).symm

/-- A subtree of a regular tree is regular. -/
lemma Regular.of_mem {root node : Node} (regular : root.Regular) (mem : node ∈ root.preorder) :
    node.Regular :=
  ⟨regular.laid.of_mem mem, regular.single.of_mem mem,
    fun _ below => regular.attribute_shape _ (mem_preorder_trans below mem)⟩

/-- The bytes of a node are bytes of the tree that it is in. -/
lemma LaidOut.covers {root node : Node} {offset : Nat} (laid : root.LaidOut)
    (mem : node ∈ root.preorder) (covers : node.Covers offset) : root.Covers offset := by
  obtain ⟨lower, upper⟩ := laid.within mem
  exact ⟨lower.trans covers.1, covers.2.trans_le upper⟩

/-- No two children have a byte in common. -/
lemma Nested.eq_of_covers {node a b : Node} {offset : Nat} (nested : node.Nested)
    (memA : a ∈ node.children) (memB : b ∈ node.children) (coversA : a.Covers offset)
    (coversB : b.Covers offset) : a = b := by
  by_contra ne
  obtain ⟨lowerA, upperA⟩ := coversA
  obtain ⟨lowerB, upperB⟩ := coversB
  rcases nested.apart_of_ne memA memB ne with before | after <;> omega

/-- Nodes below nodes of some trees are nodes of these trees. -/
lemma mem_preorderAll_trans {node middle : Node} {nodes : List Node}
    (lower : node ∈ middle.preorder) (upper : middle ∈ preorderAll nodes) :
    node ∈ preorderAll nodes := by
  obtain ⟨child, mem, upper⟩ := mem_preorderAll.1 upper
  exact mem_preorderAll.2 ⟨child, mem, mem_preorder_trans lower upper⟩

/-- What is in the opening tag is below the element. -/
lemma mem_preorderAll_of_openingTag {node child : Node} (mem : child ∈ node.openingTag.children) :
    child ∈ preorderAll node.children := by
  rcases openingTag_cases node with ⟨_, same⟩ | ⟨tag, opens, same⟩
  · rw [same] at mem
    exact mem_preorderAll.2 ⟨child, mem, child.self_mem_preorder⟩
  · rw [same] at mem
    have held := (openingTag?_eq_some opens).2.1
    exact mem_preorderAll.2 ⟨tag, held, mem_preorder_of_child mem child.self_mem_preorder⟩

/-- A node below an element that has a byte of the opening tag is in it. -/
lemma exists_child_of_openingTag {top node : Node} {offset : Nat} (laid : top.LaidOut)
    (below : node ∈ preorderAll top.children) (other : node ≠ top.openingTag)
    (covers : node.Covers offset) (tag : top.openingTag.Covers offset) :
    ∃ child ∈ top.openingTag.children, node ∈ child.preorder ∧ child.Covers offset := by
  obtain ⟨child, mem, below⟩ := mem_preorderAll.1 below
  have also := (laid.child mem).covers below covers
  rcases openingTag_cases top with ⟨_, same⟩ | ⟨opening, opens, same⟩
  · rw [same]
    exact ⟨child, mem, below, also⟩
  · rw [same] at tag other ⊢
    cases laid.nested.eq_of_covers mem (openingTag?_eq_some opens).2.1 also tag
    rcases mem_preorder.1 below with equal | ⟨inner, held, below⟩
    · exact absurd equal other
    · exact ⟨inner, held, below, ((laid.child mem).child held).covers below covers⟩

/-- A child that has a byte of what is removed with an attribute is that attribute. -/
lemma eq_of_removal {node child : Node} {document : Document} {name : Text} {attr : Attribute}
    {offset : Nat} (laid : node.openingTag.LaidOut)
    (found : node.attribute? document name = .ok (some attr))
    (mem : child ∈ node.openingTag.children) (covers : child.Covers offset)
    (lower : attr.removalStart ≤ offset) (upper : offset < attr.node.stop) : child = attr.node := by
  obtain ⟨_, before, after, split, previous⟩ := attribute?_split found
  have apart := laid.nested.apart
  rw [split] at apart mem
  rw [List.pairwise_append, List.pairwise_cons] at apart
  obtain ⟨first, ⟨follows, _⟩, _⟩ := apart
  rcases List.mem_append.1 mem with early | late
  · -- children before the attribute end where the removal begins
    cases ends : before.getLast? with
    | none =>
      rw [List.getLast?_eq_none_iff.1 ends] at early
      cases early
    | some last =>
      have held : last ∈ node.openingTag.children := by
        rw [split]
        exact List.mem_append_left _ (List.mem_of_getLast? ends)
      have stop := stop_le_of_getLast? first (laid.child held).nested.span ends early
      simp only [Attribute.removalStart, previous, ends] at lower
      exact absurd covers.2 (by omega)
  · rcases List.mem_cons.1 late with same | late
    · exact same
    · exact absurd (follows child late) (by have := covers.1; omega)

/-- Erasing the first node of a kind keeps all other nodes. -/
lemma mem_eraseP_of_find? {p : Node → Bool} {nodes : List Node} {node : Node} (mem : node ∈ nodes)
    (other : nodes.find? p ≠ some node) : node ∈ nodes.eraseP p := by
  induction nodes with
  | nil => cases mem
  | cons first rest ih =>
    rw [List.eraseP_cons]
    cases test : p first with
    | true =>
      rw [List.find?_cons_of_pos test] at other
      exact List.mem_of_ne_of_mem (fun same => other (by rw [same])) mem
    | false =>
      rw [List.find?_cons_of_neg (by simp [test])] at other
      rcases List.mem_cons.1 mem with rfl | later
      · exact List.mem_cons_self
      · exact List.mem_cons_of_mem first (ih later other)

/-- Erasing the opening tag does not change which closing tag is the last one. -/
lemma find?_reverse_eraseP (nodes : List Node) :
    (nodes.eraseP (·.kind = .openingTag)).reverse.find? (·.kind = .closingTag) =
      nodes.reverse.find? (·.kind = .closingTag) := by
  rcases List.exists_or_eq_self_of_eraseP
    (fun node : Node => decide (node.kind = .openingTag)) nodes with
    same | ⟨tag, before, after, _, kind, split, erased⟩
  · rw [same]
  · rw [erased, split]
    simp only [decide_eq_true_eq] at kind
    simp [List.find?_append, kind]

/-- A significant child of an element that is neither its opening nor its closing tag is content. -/
lemma mem_content {node child opening closing : Node} (opens : node.openingTag? = some opening)
    (closes : node.closingTag? = some closing) (mem : child ∈ node.children)
    (notOpening : child ≠ opening) (notClosing : child ≠ closing)
    (significant : child.isSignificant = true) : child ∈ node.content := by
  have kind := (openingTag?_eq_some opens).1
  simp only [openingTag?, closingTag?, if_pos kind] at opens closes
  simp only [content, kind, List.mem_filter, List.mem_reverse]
  refine ⟨mem_eraseP_of_find? (List.mem_reverse.2 (mem_eraseP_of_find? mem ?_)) ?_, significant⟩
  · rw [opens]
    exact fun same => notOpening (Option.some.inj same).symm
  · rw [find?_reverse_eraseP, closes]
    exact fun same => notClosing (Option.some.inj same).symm

/-- Content is made of children. -/
lemma mem_of_mem_content {node child : Node} (mem : child ∈ node.content) :
    child ∈ node.children := by
  unfold content at mem
  split at mem
  · cases mem
  · simp only [List.mem_filter, List.mem_reverse] at mem
    exact List.mem_of_mem_eraseP (List.mem_reverse.1 (List.mem_of_mem_eraseP mem.1))
  · exact (List.mem_filter.1 mem).1

end Node

namespace Element

/-- What an update may replace or remove below an element: the attribute of the class name, its
name, inert nodes, and parts of string literals and of templates without expressions. -/
inductive Replaceable (document : Document) (element : Element) : Node → Prop where
  | classAttribute {attr : Attribute} :
    element.node.attribute? document ClassName.attributeName = .ok (some attr) →
    Replaceable document element attr.node
  | className {attr : Attribute} {name : Node} :
    element.node.attribute? document ClassName.attributeName = .ok (some attr) →
    attr.nameNode? = some name →
    Replaceable document element name
  | inert {node : Node} :
    node.Inert →
    Replaceable document element node
  | part {literal node : Node} :
    literal ∈ Node.preorderAll element.node.children →
    literal.IsLiteral →
    node ∈ literal.preorder →
    Replaceable document element node

/-- The smallest units that are replaced or removed as a whole: nodes without a name, text,
character references, comments, and the name of the class name's attribute. -/
inductive Token (document : Document) (element : Element) : Node → Prop where
  | anonymous {node : Node} :
    node.named = false →
    Token document element node
  | text {node : Node} :
    node.kind = .text →
    Token document element node
  | reference {node : Node} :
    node.kind = .reference →
    Token document element node
  | comment {node : Node} :
    node.kind = .comment →
    Token document element node
  | className {attr : Attribute} {name : Node} :
    element.node.attribute? document ClassName.attributeName = .ok (some attr) →
    attr.nameNode? = some name →
    Token document element name

/-- A node inside a token of an element. -/
def InToken (document : Document) (element : Element) (node : Node) : Prop :=
  ∃ token ∈ Node.preorderAll element.node.children,
    Token document element token ∧ node ∈ Node.preorderAll token.children

variable {document : Document} {element : Element} {edits : List Edit} {edit : Edit} {node : Node}

/-- A node of the tree of a replaceable token is the token or inside it. -/
lemma replaceable_of_token {token : Node} (held : token ∈ Node.preorderAll element.node.children)
    (unit : Token document element token) (whole : Replaceable document element token)
    (below : node ∈ token.preorder) :
    Replaceable document element node ∨ InToken document element node := by
  rcases Node.mem_preorder.1 below with rfl | ⟨child, mem, below⟩
  · exact .inl whole
  · exact .inr ⟨token, held, unit, Node.mem_preorderAll.2 ⟨child, mem, below⟩⟩

/-- A named node of the tree of a node without a name is inside that node. -/
lemma inToken_of_anonymous {token : Node} (held : token ∈ Node.preorderAll element.node.children)
    (anonymous : token.named = false) (below : node ∈ token.preorder) (named : node.named = true) :
    InToken document element node := by
  rcases Node.mem_preorder.1 below with rfl | ⟨child, mem, below⟩
  · rw [anonymous] at named
    cases named
  · exact ⟨token, held, .anonymous anonymous, Node.mem_preorderAll.2 ⟨child, mem, below⟩⟩

/-- The named nodes of the tree of an insignificant node may be replaced: it is a comment, or it has
no name. -/
lemma replaceable_of_insignificant {token : Node}
    (held : token ∈ Node.preorderAll element.node.children)
    (insignificant : token.isSignificant = false) (below : node ∈ token.preorder)
    (named : node.named = true) :
    Replaceable document element node ∨ InToken document element node := by
  cases name : token.named with
  | false => exact .inr (inToken_of_anonymous held name below named)
  | true =>
    have comment : token.kind = .comment := by simpa [Node.isSignificant, name] using insignificant
    exact replaceable_of_token held (.comment comment) (.inert (.comment comment)) below

/-- The named nodes of the tree of an inert node may be replaced. -/
lemma replaceable_of_inert {top : Node} (inert : top.Inert)
    (held : top ∈ Node.preorderAll element.node.children) (below : node ∈ top.preorder)
    (named : node.named = true) :
    Replaceable document element node ∨ InToken document element node := by
  induction inert with
  | text kind => exact replaceable_of_token held (.text kind) (.inert (.text kind)) below
  | reference kind =>
    exact replaceable_of_token held (.reference kind) (.inert (.reference kind)) below
  | comment kind => exact replaceable_of_token held (.comment kind) (.inert (.comment kind)) below
  | literal literal => exact .inl (.part held literal below)
  | @wrapper top kind children ih =>
    rcases Node.mem_preorder.1 below with rfl | ⟨child, mem, below⟩
    · exact .inl (.inert (.wrapper kind children))
    · have also : child ∈ Node.preorderAll element.node.children :=
        Node.mem_preorderAll_trans (Node.mem_preorder_of_child mem child.self_mem_preorder) held
      cases name : child.named with
      | false => exact .inr (inToken_of_anonymous also name below named)
      | true => exact ih child mem name also below

/-- The named nodes of the attribute of a literal class name may be replaced. -/
lemma replaceable_of_attribute {attr : Attribute} {value : Node} (regular : attr.node.Regular)
    (found : element.node.attribute? document ClassName.attributeName = .ok (some attr))
    (valued : attr.value? = some value) (inert : value.Inert) (below : node ∈ attr.node.preorder)
    (named : node.named = true) :
    Replaceable document element node ∨ InToken document element node := by
  have held := Node.mem_preorderAll_of_openingTag (Node.attribute?_mem found)
  rcases Node.mem_preorder.1 below with rfl | ⟨child, mem, below⟩
  · exact .inl (.classAttribute found)
  have also : child ∈ Node.preorderAll element.node.children :=
    Node.mem_preorderAll_trans (Node.mem_preorder_of_child mem child.self_mem_preorder) held
  cases significant : child.isSignificant with
  | false => exact replaceable_of_insignificant also significant below named
  | true =>
    have kind := (Node.attribute?_split found).1
    obtain ⟨one, few⟩ := regular.attribute_shape _ attr.node.self_mem_preorder kind
    rw [← List.takeWhile_append_dropWhile (p := (·.kind ≠ .equals))
      (l := attr.node.children)] at mem
    rcases List.mem_append.1 mem with before | after
    · have name : attr.nameNode? = some child := Node.find?_of_significant one.le before significant
      exact replaceable_of_token also (.className found name) (.className found name) below
    · -- the value is significant as well, and there is one such node only
      have first := Node.find?_of_significant few after significant
      have listed := List.mem_of_find?_eq_some valued
      have notable := List.find?_some valued
      simp only [decide_eq_true_eq] at notable
      cases first.symm.trans (Node.find?_of_significant few listed notable.2)
      exact replaceable_of_inert inert also below named

/-- What is touched where the attribute of a literal class name stands, or between it and the node
before it, may be replaced. -/
lemma replaceable_of_removal {attr : Attribute} {value : Node} {current : Text} {offset : Nat}
    (regular : element.node.Regular)
    (found : element.node.attribute? document ClassName.attributeName = .ok (some attr))
    (valued : attr.value? = some value)
    (static : ClassName.ofValue document value = .ok (.static current))
    (below : node ∈ Node.preorderAll element.node.children) (named : node.named = true)
    (other : node ≠ element.node.openingTag) (covers : node.Covers offset)
    (lower : attr.removalStart ≤ offset) (upper : offset < attr.node.stop) :
    Replaceable document element node ∨ InToken document element node := by
  have tag := regular.of_mem element.node.openingTag_mem_preorder
  have held := Node.attribute?_mem found
  have inside : element.node.openingTag.Covers offset :=
    ⟨(Node.removalStart_within tag.laid found).1.trans lower,
      upper.trans_le (tag.laid.nested.inside attr.node held).2⟩
  obtain ⟨child, listed, below, also⟩ :=
    Node.exists_child_of_openingTag regular.laid below other covers inside
  cases Node.eq_of_removal tag.laid found listed also lower upper
  have inner := tag.of_mem (Node.mem_preorder_of_child held attr.node.self_mem_preorder)
  have reached := Node.mem_preorder_of_child (Attribute.value?_mem valued) value.self_mem_preorder
  have inert := ClassName.inert_of_static (inner.single.of_mem reached) static
  exact replaceable_of_attribute inner found valued inert below named

/-- What a change of the class name touches may be replaced. -/
lemma ClassNameChange.touched (change : ClassNameChange document element edits)
    (regular : element.node.Regular) (mem : edit ∈ edits)
    (below : node ∈ Node.preorderAll element.node.children) (named : node.named = true)
    (other : node ≠ element.node.openingTag) (touches : edit.Touches node) :
    Replaceable document element node ∨ InToken document element node := by
  obtain ⟨offset, lower, upper, covers⟩ := touches
  cases change with
  | none => cases mem
  | insert _ _ =>
    cases List.mem_singleton.1 mem
    exact absurd lower (not_le.2 upper)
  | @replace attr value _ _ _ found valued static _ =>
    cases List.mem_singleton.1 mem
    have laid := regular.laid.of_mem element.node.openingTag_mem_preorder
    have inside :=
      (laid.child (Node.attribute?_mem found)).nested.inside value (Attribute.value?_mem valued)
    have start := (Node.removalStart_within laid found).2
    exact replaceable_of_removal regular found valued static below named other covers
      (start.trans (inside.1.trans lower)) (upper.trans_le inside.2)
  | remove found valued static =>
    cases List.mem_singleton.1 mem
    exact replaceable_of_removal regular found valued static below named other covers lower upper

/-- What a change of the text touches may be replaced. -/
lemma TextChange.touched (change : TextChange document element edits)
    (regular : element.node.Regular) (mem : edit ∈ edits)
    (below : node ∈ Node.preorderAll element.node.children) (named : node.named = true)
    (touches : edit.Touches node) :
    Replaceable document element node ∨ InToken document element node := by
  obtain ⟨offset, lower, upper, covers⟩ := touches
  obtain ⟨child, held, below⟩ := Node.mem_preorderAll.1 below
  have also := (regular.laid.child held).covers below covers
  have listed := Node.mem_preorderAll.2 ⟨child, held, child.self_mem_preorder⟩
  cases significant : child.isSignificant with
  | false => exact replaceable_of_insignificant listed significant below named
  | true =>
    cases change with
    | none => cases mem
    | content spanned static _ =>
      cases List.mem_singleton.1 mem
      have single : ∀ child ∈ element.node.content, child.Single := by
        intro child mem
        have held := Node.mem_of_mem_content mem
        exact regular.single.of_mem (Node.mem_preorder_of_child held child.self_mem_preorder)
      have inert := TextContent.inert_of_static single spanned static
      obtain ⟨opening, closing, opens, closes, rfl, rfl⟩ := Node.contentSpan?_eq_some spanned
      have notOpening : child ≠ opening := by
        rintro rfl
        exact absurd also.2 (not_lt.2 lower)
      have notClosing : child ≠ closing := by
        rintro rfl
        exact absurd also.1 (not_le.2 upper)
      have content := Node.mem_content opens closes held notOpening notClosing significant
      exact replaceable_of_inert (inert child content) listed below named
    | expand kind _ =>
      -- a tag that closes itself is opened behind everything significant in it
      cases List.mem_singleton.1 mem
      have same := Node.openingTag_of_selfClosing kind
      have laid : element.node.openingTag.LaidOut := by
        rw [same]
        exact regular.laid
      have stop := Node.stop_le_attributeAnchor laid (by rwa [same]) significant
      exact absurd also.2 (not_lt.2 (stop.trans lower))

/-- What the edits of an update touch may be replaced. -/
lemma touched_of_updateEdits {updates : Updates} (regular : element.node.Regular)
    (recorded : Editor.updateEdits document element updates = .ok edits) (mem : edit ∈ edits)
    (below : node ∈ Node.preorderAll element.node.children) (named : node.named = true)
    (other : node ≠ element.node.openingTag) (touches : edit.Touches node) :
    Replaceable document element node ∨ InToken document element node := by
  obtain ⟨first, second, rfl, renamed, reworded⟩ := updateEdits_changes recorded
  rcases List.mem_append.1 mem with early | late
  · exact renamed.touched regular early below named other touches
  · exact reworded.touched regular late below named touches

/-- Tokens are leaves, as in the trees that parsers give. -/
def TokensAreLeaves (document : Document) (element : Element) : Prop :=
  ∀ token ∈ Node.preorderAll element.node.children, Token document element token →
    token.children = []

/-- Nothing is inside a token that is a leaf. -/
lemma TokensAreLeaves.not_inToken (leaves : TokensAreLeaves document element) :
    ¬ InToken document element node := by
  rintro ⟨token, held, unit, inside⟩
  rw [leaves token held unit] at inside
  cases inside

end Element

namespace Editor

variable {σ : Type} [Store σ]

/-- An update never overwrites program logic: what its edits replace or remove of the nodes below
the element, the opening tag itself apart, is the attribute of the class name or its name, is inert,
is part of a literal, or is inside a token. -/
theorem update_spares_logic (editor : Editor) (store : σ) (root : Path) (id : Text)
    (updates : Updates) {target : Target} {document : Document} {element : Element}
    {edits : List Edit} {edit : Edit} {node : Node}
    (found : editor.find store root id false = .ok (target, document, element))
    (tree : document.root.Regular) (recorded : updateEdits document element updates = .ok edits)
    (mem : edit ∈ edits)
    (below : node ∈ Node.preorderAll element.node.children)
    (named : node.named = true)
    (other : node ≠ element.node.openingTag)
    (touches : edit.Touches node) :
    Element.Replaceable document element node ∨ Element.InToken document element node := by
  obtain ⟨_, _, located⟩ := find_eq_ok.1 found
  have regular := tree.of_mem (Element.node_of_locate located).1
  exact Element.touched_of_updateEdits regular recorded mem below named other touches

/-- Where the class name of the sample is removed and its text is replaced, the string between the
braces is touched, and it is literal. -/
theorem update_spares_logic_sample :
    Sample.editor.find Sample.store Sample.root "page.tsx:1:0" false =
        .ok (Sample.target 1 (by decide), Sample.document, Sample.paragraphElement) ∧
      Sample.document.root.Regular ∧
      updateEdits Sample.document Sample.paragraphElement ⟨some "", some "z"⟩ =
        .ok [⟨2, 18, []⟩, ⟨19, 25, Placement.word "z"⟩] ∧
      Sample.part .string 21 24 [] ∈ Node.preorderAll Sample.paragraphElement.node.children ∧
      Sample.part .string 21 24 [] ≠ Sample.paragraphElement.node.openingTag ∧
      Edit.Touches ⟨19, 25, Placement.word "z"⟩ (Sample.part .string 21 24 []) ∧
      (Element.Replaceable Sample.document Sample.paragraphElement (Sample.part .string 21 24 []) ∨
        Element.InToken Sample.document Sample.paragraphElement
          (Sample.part .string 21 24 [])) := by
  have found : Sample.editor.find Sample.store Sample.root "page.tsx:1:0" false =
      .ok (Sample.target 1 (by decide), Sample.document, Sample.paragraphElement) := by
        decide +kernel
  have tree : Sample.document.root.Regular := by decide +kernel
  have recorded : updateEdits Sample.document Sample.paragraphElement ⟨some "", some "z"⟩ =
      .ok [⟨2, 18, []⟩, ⟨19, 25, Placement.word "z"⟩] := by decide +kernel
  have below : Sample.part .string 21 24 [] ∈
      Node.preorderAll Sample.paragraphElement.node.children := by
    decide +kernel
  have other : Sample.part .string 21 24 [] ≠ Sample.paragraphElement.node.openingTag := by
    decide +kernel
  have touches : Edit.Touches ⟨19, 25, Placement.word "z"⟩ (Sample.part .string 21 24 []) := by
    decide +kernel
  exact ⟨found, tree, recorded, below, other, touches,
    update_spares_logic Sample.editor Sample.store Sample.root "page.tsx:1:0"
      ⟨some "", some "z"⟩ found tree
      recorded (List.mem_cons_of_mem _ List.mem_cons_self) below rfl other touches⟩

/-- Where tokens are leaves, an update replaces or removes nothing but the attribute of the class
name, its name, inert nodes and parts of literals. -/
theorem replaceable_of_leaves {editor : Editor} {store : σ} {root : Path} {id : Text}
    {updates : Updates} {target : Target} {document : Document} {element : Element}
    {edits : List Edit} {edit : Edit} {node : Node}
    (found : editor.find store root id false = .ok (target, document, element))
    (tree : document.root.Regular) (leaves : Element.TokensAreLeaves document element)
    (recorded : updateEdits document element updates = .ok edits)
    (mem : edit ∈ edits)
    (below : node ∈ Node.preorderAll element.node.children)
    (named : node.named = true)
    (other : node ≠ element.node.openingTag)
    (touches : edit.Touches node) :
    Element.Replaceable document element node := by
  obtain ⟨_, _, located⟩ := find_eq_ok.1 found
  have regular := tree.of_mem (Element.node_of_locate located).1
  have either := Element.touched_of_updateEdits regular recorded mem below named other touches
  exact either.resolve_right leaves.not_inToken

end Editor

namespace Sample.Filled

/-- A paragraph with a class name, text, a character reference and a comment. -/
def source : Bytes :=
  Placement.word "<p className=\"a\">x&lt;\x7b/*c*/\x7d</p>;"

/-- An identifier. -/
def identifier (start stop : Nat) : Node :=
  part (.other "identifier") start stop []

/-- A class name with identifiers inside its name and inside the equals sign. -/
def classAttribute : Node :=
  part .attribute 3 16 [part (.other "property_identifier") 3 12 [identifier 3 12],
    ⟨.equals, false, false, none, 12, 13, [identifier 12 13]⟩, part .string 13 16 []]

/-- The paragraph, with identifiers inside the text, the reference and the comment too. -/
def paragraph : Node :=
  part .element 0 33 [
    part .openingTag 0 17 [mark "<" 0 1, tagName 1 2, classAttribute, mark ">" 16 17],
    part .text 17 18 [identifier 17 18],
    part .reference 18 22 [identifier 18 22],
    part .container 22 29 [mark "\x7b" 22 23, part .comment 23 28 [identifier 23 28],
      mark "\x7d" 28 29], part .closingTag 29 33 [mark "</" 29 31, tagName 31 32, mark ">" 32 33]]

/-- The statement around the paragraph. -/
def statement : Node :=
  part (.other "expression_statement") 0 34 [paragraph, mark ";" 33 34]

/-- The file as it is parsed. -/
def document : Document := ⟨source, part (.other "program") 0 34 [statement], .tsx⟩

/-- The paragraph where it stands. -/
def element : Element :=
  ⟨⟨paragraph, [(statement, 0), (document.root, 0)]⟩, .paired, "p", ⟨1, 0⟩⟩

/-- The identifiers inside tokens. -/
def inner : List Node :=
  [identifier 3 12, identifier 12 13, identifier 17 18, identifier 18 22, identifier 23 28]

/-- The identifiers inside tokens are not of the nodes that may be replaced by themselves. -/
lemma not_replaceable {node : Node} (mem : node ∈ inner) :
    ¬ Element.Replaceable document element node := by
  have kind : ∀ node ∈ inner, node.kind = .other "identifier" := by decide
  have looked : element.node.attribute? document ClassName.attributeName =
      .ok (some ⟨classAttribute, some (tagName 1 2)⟩) := by decide +kernel
  intro replaceable
  cases replaceable with
  | classAttribute found =>
    cases looked.symm.trans found
    exact absurd (kind _ mem) (by decide)
  | className found name =>
    have unnamed : ∀ node ∈ inner,
        (Attribute.mk classAttribute (some (tagName 1 2))).nameNode? ≠ some node := by
          decide +kernel
    cases looked.symm.trans found
    exact unnamed node mem name
  | inert inert =>
    have plain := kind node mem
    cases inert with
    | text text => simp [plain] at text
    | reference reference => simp [plain] at reference
    | comment comment => simp [plain] at comment
    | literal literal => simp [Node.IsLiteral, plain] at literal
    | wrapper wrapper _ => simp [plain] at wrapper
  | part held literal below =>
    have apart : ∀ literal ∈ Node.preorderAll element.node.children, literal.IsLiteral →
        ∀ node ∈ inner, node ∉ literal.preorder := by decide +kernel
    exact apart _ held literal node mem below

end Sample.Filled

/-- Tokens are replaced and removed as a whole: in a regular tree with identifiers inside the name
of the class name, inside its equals sign, inside text, a character reference and a comment, an
update that changes the file touches each of them. -/
theorem Editor.update_touches_inside_tokens :
    (Sample.editorFor Sample.Filled.source Sample.Filled.document.root).find
        (Sample.storeOf Sample.Filled.source) Sample.root "page.tsx:1:0" false =
        .ok (Sample.target 1 (by decide), Sample.Filled.document, Sample.Filled.element) ∧
      Sample.Filled.document.root.Regular ∧
      ((Sample.editorFor Sample.Filled.source Sample.Filled.document.root).update
        (Sample.storeOf Sample.Filled.source) Sample.root "page.tsx:1:0"
          ⟨some "", some "z"⟩).1.changed = true ∧
      updateEdits Sample.Filled.document Sample.Filled.element ⟨some "", some "z"⟩ =
        .ok [⟨2, 16, []⟩, ⟨17, 29, Placement.word "z"⟩] ∧
      ∀ node ∈ Sample.Filled.inner,
        node ∈ Node.preorderAll Sample.Filled.element.node.children ∧ node.named = true ∧
          node ≠ Sample.Filled.element.node.openingTag ∧
          (∃ edit ∈ [⟨2, 16, []⟩, ⟨17, 29, Placement.word "z"⟩], Edit.Touches edit node) ∧
          ¬ Element.Replaceable Sample.Filled.document Sample.Filled.element node := by
  refine ⟨by decide +kernel, by decide +kernel, by decide +kernel, by decide +kernel, ?_⟩
  have touched : ∀ node ∈ Sample.Filled.inner,
      node ∈ Node.preorderAll Sample.Filled.element.node.children ∧ node.named = true ∧
        node ≠ Sample.Filled.element.node.openingTag ∧
        ∃ edit ∈ [⟨2, 16, []⟩, ⟨17, 29, Placement.word "z"⟩], Edit.Touches edit node := by
          decide +kernel
  intro node mem
  obtain ⟨below, named, other, touches⟩ := touched node mem
  exact ⟨below, named, other, touches, Sample.Filled.not_replaceable mem⟩

end Retouch
