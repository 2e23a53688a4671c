import Mathlib
import Retouch.Analysis.ClassName
import Retouch.Analysis.TextContent
import Retouch.Proofs.Step
import Retouch.Proofs.Tree

/-!
# Inert nodes

A node is inert (`Node.Inert`) if nothing in it is computed: text, character references, comments,
string literals, templates without expressions, and braces or parentheses around nothing but such
nodes. What is judged to be literal, a class name or the content of an element, is made of inert
nodes (`ClassName.inert_of_static`, `TextContent.inert_of_static`), provided that braces and
parentheses hold one significant node at most.
-/

namespace Retouch

namespace Node

/-- A string, or a template without expressions in it. -/
def IsLiteral (node : Node) : Prop :=
  node.kind = .string ∨ node.kind = .template ∧ ∀ child ∈ node.children, child.kind ≠ .substitution

instance : DecidablePred IsLiteral :=
  fun node => inferInstanceAs (Decidable
    (node.kind = .string ∨ node.kind = .template ∧
      ∀ child ∈ node.children, child.kind ≠ .substitution))

/-- Nodes in which nothing is computed. -/
inductive Inert : Node → Prop where
  | text {node : Node} :
    node.kind = .text →
    Inert node
  | reference {node : Node} :
    node.kind = .reference →
    Inert node
  | comment {node : Node} :
    node.kind = .comment →
    Inert node
  | literal {node : Node} :
    node.IsLiteral →
    Inert node
  | wrapper {node : Node} :
    node.kind = .container ∨ node.kind = .parentheses →
    (∀ child ∈ node.children, child.named = true → Inert child) →
    Inert node

/-- Braces and parentheses that hold one significant node at most. -/
def Single (root : Node) : Prop :=
  ∀ node ∈ root.preorder, node.kind = .container ∨ node.kind = .parentheses →
    (node.children.filter isSignificant).length ≤ 1

instance : DecidablePred Single :=
  fun root => inferInstanceAs (Decidable (∀ node ∈ root.preorder,
    node.kind = .container ∨ node.kind = .parentheses →
    (node.children.filter isSignificant).length ≤ 1))

/-- What holds of the braces and parentheses of a tree holds of those of a subtree. -/
lemma Single.of_mem {root node : Node} (single : root.Single) (mem : node ∈ root.preorder) :
    node.Single :=
  fun _ below => single _ (mem_preorder_trans below mem)

/-- Where at most one node is significant, the first significant one is the only one. -/
lemma find?_of_significant {nodes : List Node} {node : Node}
    (single : (nodes.filter isSignificant).length ≤ 1) (mem : node ∈ nodes)
    (significant : node.isSignificant = true) : nodes.find? isSignificant = some node := by
  have listed : node ∈ nodes.filter isSignificant := List.mem_filter.2 ⟨mem, significant⟩
  rw [← List.head?_filter]
  match filtered : nodes.filter isSignificant with
  | [] =>
    rw [filtered] at listed
    cases listed
  | [only] =>
    rw [filtered] at listed
    rw [List.mem_singleton.1 listed]
    rfl
  | _ :: _ :: _ =>
    rw [filtered] at single
    simp at single

/-- Braces and parentheses are inert if the significant node in them is. -/
lemma inert_of_first {node : Node} (kind : node.kind = .container ∨ node.kind = .parentheses)
    (single : (node.children.filter isSignificant).length ≤ 1)
    (first : ∀ inner, node.firstSignificant? = some inner → inner.Inert) : node.Inert := by
  refine .wrapper kind ?_
  intro child mem named
  by_cases comment : child.kind = .comment
  · exact .comment comment
  · apply first child
    exact find?_of_significant single mem (by simp [isSignificant, named, comment])

/-- Inside the parentheses around the first significant node is what is inside its parentheses. -/
lemma insideFirst?_eq (nodes : List Node) :
    insideFirst? nodes = (nodes.find? isSignificant).bind insideParentheses? := by
  induction nodes with
  | nil => rfl
  | cons node nodes ih =>
    rw [insideFirst?, List.find?_cons]
    cases node.isSignificant with
    | true => rfl
    | false => exact ih

/-- Inside parentheses is what is inside the first significant node, and everything else is its own
inside. -/
lemma insideParentheses?_eq (node : Node) :
    node.insideParentheses? =
      if node.kind = .parentheses then node.firstSignificant?.bind insideParentheses?
      else some node := by
  cases node
  rw [insideParentheses?, insideFirst?_eq]
  rfl

/-- A string is its own inside. -/
lemma insideParentheses?_of_string {node : Node} (kind : node.kind = .string) :
    node.insideParentheses? = some node := by
  rw [insideParentheses?_eq, kind]
  rfl

/-- A node is inert if what is inside its parentheses is. -/
lemma inert_of_inside {node : Node} (single : node.Single)
    (inside : ∀ inner, node.insideParentheses? = some inner → inner.Inert) : node.Inert := by
  induction node using childrenInduction with
  | step node ih =>
    rw [insideParentheses?_eq] at inside
    by_cases parentheses : node.kind = .parentheses
    · simp only [if_pos parentheses] at inside
      apply inert_of_first (.inr parentheses)
        (single node node.self_mem_preorder (.inr parentheses))
      intro first held
      have mem : first ∈ node.children := List.mem_of_find?_eq_some held
      have below := mem_preorder_of_child mem first.self_mem_preorder
      apply ih first mem (single.of_mem below)
      intro inner reached
      exact inside inner (by simp [held, reached])
    · exact inside node (by rw [if_neg parentheses])

/-- The first significant child of a node is a node of its tree. -/
lemma mem_preorder_of_firstSignificant? {node first : Node}
    (held : node.firstSignificant? = some first) :
    first ∈ node.preorder :=
  mem_preorder_of_child (List.mem_of_find?_eq_some held) first.self_mem_preorder

/-- What stands inside parentheses is a node of the tree. -/
lemma mem_preorder_of_insideParentheses? {node inner : Node}
    (h : node.insideParentheses? = some inner) : inner ∈ node.preorder := by
  induction node using childrenInduction with
  | step node ih =>
    rw [insideParentheses?_eq] at h
    split at h
    · obtain ⟨first, held, inside⟩ := Option.bind_eq_some_iff.1 h
      have child : first ∈ node.children := List.mem_of_find?_eq_some held
      exact mem_preorder_of_child child (ih first child inside)
    · cases h
      exact self_mem_preorder _

end Node

/-- What has a literal value is a literal inside its parentheses. -/
lemma Document.literalValue?_eq_some {document : Document} {node : Node} {value : Text}
    (h : document.literalValue? node = .ok (some value)) :
    ∃ inner, node.insideParentheses? = some inner ∧ inner.IsLiteral := by
  unfold Document.literalValue? at h
  split at h
  · cases h
  · rename_i inner inside
    refine ⟨inner, inside, ?_⟩
    split at h
    · rename_i string
      exact .inl string
    · rename_i template
      split at h
      · cases h
      · rename_i plain
        exact .inr ⟨template, by simpa using plain⟩
    · cases h

/-- An expression that is reported as it is written is no literal class name. -/
lemma ClassName.ofExpression_ne_static {document : Document} {node : Node} {value : Text} :
    ClassName.ofExpression document node ≠ .ok (.static value) := by
  intro h
  simp only [ClassName.ofExpression, bind_eq_ok] at h
  obtain ⟨expression, _, h⟩ := h
  split at h
  · split at h
    · simp only [bind_eq_ok, pure_eq_ok] at h
      obtain ⟨_, _, _, _, _, _, h⟩ := h
      cases h
    · cases h
  · cases h

/-- The value of a literal class name is inert. -/
lemma ClassName.inert_of_static {document : Document} {value : Node} {current : Text}
    (single : value.Single) (h : ClassName.ofValue document value = .ok (.static current)) :
    value.Inert := by
  unfold ClassName.ofValue at h
  split at h
  · rename_i string
    exact .literal (.inl string)
  · rename_i container
    have few := single value value.self_mem_preorder (.inl container)
    apply Node.inert_of_first (.inl container) few
    intro inner held
    rw [held] at h
    simp only [bind_eq_ok] at h
    obtain ⟨literal, read, h⟩ := h
    cases literal with
    | none => exact absurd h ofExpression_ne_static
    | some text =>
      obtain ⟨inside, reached, literal⟩ := Document.literalValue?_eq_some read
      apply Node.inert_of_inside (single.of_mem (Node.mem_preorder_of_firstSignificant? held))
      intro other also
      cases reached.symm.trans also
      exact .literal literal
  · rw [bind_eq_ok] at h
    obtain ⟨_, _, h⟩ := h
    cases h

/-- Braces that are judged to be literal are inert. -/
lemma TextContent.inert_of_inside {node : Node} (single : node.Single)
    (container : node.kind = .container)
    (inside : ∀ inner, node.firstSignificant?.bind Node.insideParentheses? = some inner →
      inner.kind = .string) : node.Inert := by
  apply Node.inert_of_first (.inl container) (single node node.self_mem_preorder (.inl container))
  intro first held
  apply Node.inert_of_inside (single.of_mem (Node.mem_preorder_of_firstSignificant? held))
  intro inner reached
  exact .literal (.inl (inside inner (by rw [held]; exact reached)))

/-- Nodes that make up literal content are inert. -/
lemma TextContent.inert_of_ofNodes {document : Document} {stop offset : Nat} {done run value : Text}
    {nodes : List Node} (single : ∀ node ∈ nodes, node.Single)
    (h : ofNodes document stop done run offset nodes = .ok (.static value)) :
    ∀ node ∈ nodes, node.Inert := by
  induction nodes generalizing done run offset with
  | nil => nofun
  | cons node nodes ih =>
    -- the judgement goes on behind a literal node, and what follows is inert by induction
    have later {done run : Text} {offset : Nat} (inert : node.Inert)
        (h : ofNodes document stop done run offset nodes = .ok (.static value)) :
        ∀ other ∈ node :: nodes, other.Inert := by
      intro other mem
      cases mem with
      | head => exact inert
      | tail _ mem =>
        exact ih (fun other mem => single other (List.mem_cons_of_mem node mem)) h other mem
    have first := single node List.mem_cons_self
    rw [ofNodes, bind_eq_ok] at h
    obtain ⟨gap, _, h⟩ := h
    split at h
    · rename_i text
      simp only [bind_eq_ok] at h
      obtain ⟨_, _, _, _, h⟩ := h
      exact later (.text text) h
    · rename_i reference
      simp only [bind_eq_ok] at h
      obtain ⟨_, _, _, _, h⟩ := h
      exact later (.reference reference) h
    · rename_i container
      split at h
      · rename_i empty
        exact later (inert_of_inside first container (by simp [empty])) h
      · rename_i inner reached
        split at h
        · rename_i string
          rw [bind_eq_ok] at h
          obtain ⟨_, _, h⟩ := h
          apply later (inert_of_inside first container ?_) h
          intro other also
          cases reached.symm.trans also
          exact string
        · rw [bind_eq_ok] at h
          obtain ⟨_, _, h⟩ := h
          cases h
    · rw [bind_eq_ok] at h
      obtain ⟨_, _, h⟩ := h
      cases h

/-- The content of an element with literal text is inert. -/
lemma TextContent.inert_of_static {document : Document} {node : Node} {value : Text}
    {span : Nat × Nat} (single : ∀ child ∈ node.content, child.Single)
    (spanned : node.contentSpan? = some span) (h : ofElement document node = .ok (.static value)) :
    ∀ child ∈ node.content, child.Inert := by
  unfold ofElement at h
  split at h
  · rename_i empty
    rw [empty]
    nofun
  · rename_i absent _
    rw [absent] at spanned
    cases spanned
  · split at h
    · cases h
    · exact inert_of_ofNodes single h

end Retouch
