import Mathlib
import Retouch.Proofs.Placement

/-!
# Parentheses around an expression

Redundant parentheses should not matter for the judgement about a place. `Document.Parenthesized`
says that a document is another one with one pair of parentheses more, around the node at some
place, and `Place.Counterpart` which places of the two documents belong together. The nodes above a
place then keep their roles (`Placement.SameRole`), wherever the parentheses are put, and the
judgement stays the same with one exception: in parentheses a function that is handed to `map` is
not recognised any more (`Placement.parenthesized_iff`).
-/

namespace Retouch

namespace Node

/-- The node at the end of a way, each step of which is the number of a child. -/
def atWay? (node : Node) : List Nat → Option Node
  | [] => some node
  | i :: way => node.children[i]?.bind fun child => child.atWay? way

/-- The nodes on a way, from the first one on, without the one at its end. -/
def along (node : Node) : List Nat → List Node
  | [] => []
  | i :: way => node :: node.children[i]?.elim [] fun child => child.along way

/-- A tree with another node at the end of a way. -/
def modifyAt (f : Node → Node) : List Nat → Node → Node
  | [], node => f node
  | i :: way, node => { node with children := node.children.modify i (modifyAt f way) }

/-- A node in parentheses, with what stands in them before it and after it. For the node above, the
parentheses are the part that the node has been. -/
def parenthesized (front back : List Node) (node : Node) : Node :=
  ⟨.parentheses, true, false, node.field, node.start, node.stop,
    front ++ { node with field := none } :: back⟩

/-- A part of which the text is read: an operator, or the name of a member. -/
def isSpelt (node : Node) : Bool :=
  node.field = some .operator ∨ node.field = some .property

mutual

/-- Decides whether two trees of two documents are the same, but for where their nodes stand.
Operators and the names of members are spelt in the same way. -/
def alike (one two : Document) : Node → Node → Bool
  | a@⟨kind, named, missing, field, _, _, children⟩,
      b@⟨kind', named', missing', field', _, _, children'⟩ =>
    decide (kind = kind' ∧ named = named' ∧ missing = missing' ∧ field = field') &&
      (!a.isSpelt || one.bytes a == two.bytes b) && alikeAll one two children children'

/-- Decides whether the trees of two lists are the same, but for where their nodes stand. -/
def alikeAll (one two : Document) : List Node → List Node → Bool
  | [], [] => true
  | a :: as, b :: bs => alike one two a b && alikeAll one two as bs
  | _, _ => false

end

end Node

/-- The way to a place from the root. -/
def Place.way (place : Place) : List Nat :=
  place.path.reverse

/-- Two documents, the second of which has one pair of parentheses more: they stand around the node
at a place of the first one, with nothing significant before it in them. -/
structure Document.Parenthesized (one two : Document) (inner : Place)
    (front back : List Node) : Prop where
  place : Place.Of one.root inner
  inert : ∀ node ∈ front, node.isSignificant = false
  tree : Node.alike one two (one.root.modifyAt (Node.parenthesized front back) inner.way)
      two.root = true

/-- The places of one node in a document and in one with parentheses more. If these are on the way,
there is one step more behind them. -/
inductive Place.Counterpart (inner : Place) (step : Nat) (place place' : Place) : Prop where
  | beside :
    ¬ inner.way <+: place.way →
    place'.way = place.way →
    Counterpart inner step place place'
  | inside (rest : List Nat) :
    place.way = inner.way ++ rest →
    place'.way = inner.way ++ step :: rest →
    Counterpart inner step place place'

namespace Node

variable {one two : Document} {a b node : Node} {way : List Nat} {front back : List Node}

/-- Lists of trees are alike exactly if their trees are, one by one. -/
lemma alikeAll_iff {as bs : List Node} :
    alikeAll one two as bs = true ↔ List.Forall₂ (fun a b => alike one two a b = true) as bs := by
  induction as generalizing bs with
  | nil => cases bs <;> simp [alikeAll]
  | cons a as ih => cases bs <;> simp [alikeAll, ih]

/-- Trees are alike exactly if their nodes agree in everything but their offsets, and so do their
children. -/
lemma alike_iff : alike one two a b = true ↔
    (a.kind = b.kind ∧ a.named = b.named ∧ a.missing = b.missing ∧ a.field = b.field) ∧
      (a.isSpelt = true → one.bytes a = two.bytes b) ∧
      List.Forall₂ (fun a b => alike one two a b = true) a.children b.children := by
  cases a
  cases b
  rw [alike, Bool.and_eq_true, Bool.and_eq_true, decide_eq_true_eq, alikeAll_iff, and_assoc]
  refine and_congr_right fun _ => and_congr_left fun _ => ?_
  rw [Bool.or_eq_true, Bool.not_eq_true', beq_iff_eq, or_iff_not_imp_left, Bool.not_eq_false]

/-- Alike nodes are both significant, or neither is. -/
lemma isSignificant_of_alike (same : alike one two a b = true) :
    a.isSignificant = b.isSignificant := by
  obtain ⟨⟨kind, named, _⟩, _⟩ := alike_iff.1 same
  rw [isSignificant, kind, named]
  rfl

/-- A node of a tree with or without parentheses around what is at the end of a way from it. -/
inductive Edited (front back : List Node) (way : List Nat) (node : Node) : Node → Prop where
  | kept :
    Edited front back way node node
  | changed :
    (∀ inner, node.atWay? way = some inner → inner.isSignificant = true) →
    Edited front back way node (node.modifyAt (parenthesized front back) way)

namespace Edited

/-- An edited node is the same part of the node above it. -/
lemma field (edited : Edited front back way a b) : a.field = b.field := by
  cases edited with
  | kept => rfl
  | changed _ => cases way <;> rfl

/-- An edited node spells the same. -/
lemma bytes (edited : Edited front back way a b) (document : Document) :
    document.bytes a = document.bytes b := by
  cases edited with
  | kept => rfl
  | changed _ => cases way <;> rfl

/-- An edited node counts as much as before. -/
lemma isSignificant (edited : Edited front back way a b) : a.isSignificant = b.isSignificant := by
  cases edited with
  | kept => rfl
  | changed operand =>
    cases way with
    | nil => rw [operand a rfl]; rfl
    | cons i way => rfl

/-- Of the children of a node one is changed at most. -/
lemma children {i : Nat}
    (operand : ∀ inner, node.atWay? (i :: way) = some inner → inner.isSignificant = true) :
    List.Forall₂ (Edited front back way) node.children
      (node.children.modify i (modifyAt (parenthesized front back) way)) := by
  have changed : ∀ child, node.children[i]? = some child →
      ∀ inner, child.atWay? way = some inner → inner.isSignificant = true := by
    intro child found inner leads
    exact operand inner (by rw [atWay?, found, Option.bind_some, leads])
  clear operand
  generalize node.children = nodes at changed
  induction nodes generalizing i with
  | nil => rw [List.modify_nil]; exact .nil
  | cons child nodes ih =>
    cases i with
    | zero => exact .cons (.changed (changed child rfl)) (List.forall₂_same.2 fun _ _ => .kept)
    | succ i => exact .cons .kept (ih changed)

end Edited

/-- Two searches for a node meet nodes that satisfy the same tests. -/
lemma any_find? {R : Node → Node → Prop} {search p q : Node → Bool} {as bs : List Node}
    (related : List.Forall₂ R as bs) (found : ∀ a b, R a b → search a = search b)
    (tested : ∀ a ∈ as, ∀ b, R a b → search a = true → p a = q b) :
    (as.find? search).any p = (bs.find? search).any q := by
  induction related with
  | nil => rfl
  | @cons a b as bs here _ ih =>
    rw [List.find?_cons, List.find?_cons, ← found a b here]
    cases hit : search a with
    | true => exact tested a List.mem_cons_self b here hit
    | false => exact ih fun c mem => tested c (List.mem_cons_of_mem a mem)

end Node

namespace Placement

variable {one two document : Document} {a b node : Node} {way : List Nat} {front back : List Node}

/-- A member named `map`, in any number of parentheses. -/
def namesMap (document : Document) (node : Node) : Bool :=
  node.insideParentheses?.any fun callee =>
    callee.kind = .member && (callee.child? .property).any
      fun property => document.bytes property = word "map"

/-- A callee names `map` if it is a member of that name, or if what its parentheses hold does. -/
lemma namesMap_eq (document : Document) (node : Node) :
    namesMap document node =
      if node.kind = .parentheses then
        (node.children.find? Node.isSignificant).any (namesMap document)
      else node.kind = .member &&
        (node.children.find? (·.field = some .property)).any
          fun property => document.bytes property = word "map" := by
  rw [namesMap, Node.insideParentheses?_eq]
  split
  · rw [Node.firstSignificant?, Option.any_bind]
    rfl
  · rfl

/-- A call is one of `map` exactly if its callee names `map`. -/
lemma isMapCall_eq (document : Document) (node : Node) :
    isMapCall document node =
      (node.kind = .call && (node.children.find? (·.field = some .function)).any
        (namesMap document)) := by
  rw [isMapCall, Node.child?]
  congr 1
  cases node.children.find? (·.field = some .function) with
  | none => rfl
  | some callee =>
    rw [Option.bind_some, Option.any_some, namesMap]
    cases callee.insideParentheses? with
    | none => rfl
    | some member =>
      simp only [Option.any_some]
      cases member.child? .property <;> rfl

/-- A binary expression is logical exactly if its operator is one of the three. -/
lemma isLogical_eq (document : Document) (node : Node) :
    isLogical document node =
      (node.kind = .binary && (node.children.find? (·.field = some .operator)).any fun operator =>
        [word "&&", word "||", word "??"].contains (document.bytes operator)) := by
  rw [isLogical, Node.child?]
  cases node.children.find? (·.field = some .operator) <;> rfl

/-- Of two alike callees both name `map`, or neither does. -/
lemma namesMap_of_alike (same : Node.alike one two a b = true) :
    namesMap one a = namesMap two b := by
  induction a using Node.childrenInduction generalizing b with
  | step a ih =>
    obtain ⟨⟨kind, _⟩, _, children⟩ := Node.alike_iff.1 same
    rw [namesMap_eq, namesMap_eq, kind]
    split
    · exact Node.any_find? children (fun _ _ => Node.isSignificant_of_alike)
        fun c mem d same _ => ih c mem same
    · congr 1
      refine Node.any_find? children ?_ ?_
      · intro c d same
        rw [(Node.alike_iff.1 same).1.2.2.2]
      · intro c _ d same named
        have spelt : c.isSpelt = true := by
          simpa [Node.isSpelt] using .inr (of_decide_eq_true named)
        rw [(Node.alike_iff.1 same).2.1 spelt]

/-- Parentheses around a member, or around something in it, do not change its name. -/
lemma namesMap_of_edited (inert : ∀ node ∈ front, node.isSignificant = false)
    (edited : Node.Edited front back way a b) : namesMap document a = namesMap document b := by
  induction way generalizing a b with
  | nil =>
    cases edited with
    | kept => rfl
    | changed operand =>
      -- The first significant node in the parentheses is the one that they were put around.
      have first : (front ++ { a with field := none } :: back).find? Node.isSignificant =
          some { a with field := none } := by
        rw [List.find?_append, List.find?_eq_none.2 (by simpa using inert), Option.none_or]
        exact List.find?_cons_of_pos (operand a rfl)
      rw [namesMap_eq document (Node.modifyAt _ _ _)]
      simp only [Node.modifyAt, Node.parenthesized, if_true, first, Option.any_some]
      rw [namesMap_eq, namesMap_eq]
  | cons i way ih =>
    cases edited with
    | kept => rfl
    | changed operand =>
      have children : List.Forall₂ (Node.Edited front back way) a.children
          (a.children.modify i (Node.modifyAt (Node.parenthesized front back) way)) :=
            Node.Edited.children operand
      rw [namesMap_eq, namesMap_eq]
      by_cases kind : a.kind = .parentheses
      · simp only [Node.modifyAt, kind, if_true]
        exact Node.any_find? children (fun _ _ edited => edited.isSignificant)
          fun c _ d edited _ => ih edited
      · simp only [Node.modifyAt, kind, if_false]
        congr 1
        refine Node.any_find? children ?_ ?_
        · intro c d edited
          rw [edited.field]
        · intro c _ d edited _
          rw [edited.bytes]

/-- Two nodes of two documents that count the same for the judgement about what is below them. -/
structure SameRole (one two : Document) (a b : Node) : Prop where
  kind : a.kind = b.kind
  mapCall : isMapCall one a = isMapCall two b
  logical : isLogical one a = isLogical two b

/-- Two lists of nodes with the same roles. -/
abbrev SameRoles (one two : Document) : List Node → List Node → Prop :=
  List.Forall₂ (SameRole one two)

namespace SameRole

/-- A node has the role of itself. -/
lemma refl (document : Document) (node : Node) :
    SameRole document document node node := ⟨rfl, rfl, rfl⟩

/-- Roles are the same over several documents. -/
lemma trans {three : Document} {c : Node} (first : SameRole one two a b)
    (second : SameRole two three b c) : SameRole one three a c :=
  ⟨first.kind.trans second.kind, first.mapCall.trans second.mapCall,
    first.logical.trans second.logical⟩

/-- Where a node stands and what it is for the node above it does not matter. -/
lemma of_children (kind : a.kind = b.kind) (children : a.children = b.children) :
    SameRole document document a b where
  kind := kind
  mapCall := by rw [isMapCall_eq, isMapCall_eq, kind, children]
  logical := by rw [isLogical_eq, isLogical_eq, kind, children]

/-- Alike nodes have the same role. -/
lemma of_alike (same : Node.alike one two a b = true) : SameRole one two a b := by
  obtain ⟨⟨kind, _⟩, _, children⟩ := Node.alike_iff.1 same
  have field : ∀ c d, Node.alike one two c d = true → c.field = d.field :=
    fun c d same => (Node.alike_iff.1 same).1.2.2.2
  refine ⟨kind, ?_, ?_⟩
  · rw [isMapCall_eq, isMapCall_eq, kind]
    congr 1
    exact Node.any_find? children (fun c d same => by rw [field c d same])
      fun c _ d same _ => namesMap_of_alike same
  · rw [isLogical_eq, isLogical_eq, kind]
    congr 1
    refine Node.any_find? children (fun c d same => by rw [field c d same])
      fun c _ d same named => ?_
    have spelt : c.isSpelt = true := by simpa [Node.isSpelt] using .inl (of_decide_eq_true named)
    rw [(Node.alike_iff.1 same).2.1 spelt]

/-- A node keeps its role when parentheses are put around something below it. -/
lemma of_modifyAt {i : Nat} (inert : ∀ node ∈ front, node.isSignificant = false)
    (operand : ∀ inner, node.atWay? (i :: way) = some inner → inner.isSignificant = true) :
    SameRole document document node (node.modifyAt (Node.parenthesized front back) (i :: way)) := by
  have children : List.Forall₂ (Node.Edited front back way) node.children
      (node.children.modify i (Node.modifyAt (Node.parenthesized front back) way)) :=
        Node.Edited.children operand
  refine ⟨rfl, ?_, ?_⟩
  · rw [isMapCall_eq, isMapCall_eq]
    congr 1
    exact Node.any_find? children (fun c d edited => by rw [edited.field])
      fun c _ d edited _ => namesMap_of_edited inert edited
  · rw [isLogical_eq, isLogical_eq]
    congr 1
    exact Node.any_find? children (fun c d edited => by rw [edited.field]) fun c _ d edited _ => by
      rw [edited.bytes]

/-- Nodes with the same role give the same reason. -/
lemma reason? (same : SameRole one two a b) :
    Placement.reason? one a = Placement.reason? two b := by
  rw [Placement.reason?, Placement.reason?, same.kind, same.mapCall, same.logical]

end SameRole

section Ways

/-- The nodes on one way in alike trees have the same roles. -/
lemma along_of_alike (same : Node.alike one two a b = true) (way : List Nat) :
    SameRoles one two (a.along way) (b.along way) := by
  induction way generalizing a b with
  | nil => exact .nil
  | cons i way ih =>
    refine .cons (.of_alike same) ?_
    obtain ⟨size, children⟩ := List.forall₂_iff_get.1 (Node.alike_iff.1 same).2.2
    by_cases inside : i < a.children.length
    · have inside' : i < b.children.length := size ▸ inside
      rw [List.getElem?_eq_getElem inside, List.getElem?_eq_getElem inside']
      exact ih (children i inside inside')
    · rw [List.getElem?_eq_none (by omega), List.getElem?_eq_none (by omega)]
      exact .nil

/-- The nodes on a way keep their roles if parentheses are put where the way does not lead. -/
lemma along_beside (inert : ∀ node ∈ front, node.isSignificant = false)
    (operand : ∀ inner, node.atWay? way = some inner → inner.isSignificant = true)
    {other : List Nat} (beside : ¬ way <+: other) :
    SameRoles document document (node.along other)
      ((node.modifyAt (Node.parenthesized front back) way).along other) := by
  induction way generalizing node other with
  | nil => exact absurd List.nil_prefix beside
  | cons i way ih =>
    cases other with
    | nil => exact .nil
    | cons k other =>
      refine .cons (.of_modifyAt inert operand) ?_
      simp only [Node.modifyAt, List.getElem?_modify]
      cases found : node.children[k]? with
      | none => exact .nil
      | some child =>
        by_cases same : i = k
        · subst same
          simp only [Option.map_eq_map, Option.map_some, if_true, Option.elim_some]
          apply ih
          · intro inner leads
            exact operand inner (by rw [Node.atWay?, found, Option.bind_some, leads])
          · exact fun within => beside (List.cons_prefix_cons.2 ⟨rfl, within⟩)
        · simp only [Option.map_eq_map, Option.map_some, if_neg same, Option.elim_some]
          exact List.forall₂_same.2 fun other _ => .refl document other

/-- The nodes on the way to an expression keep their roles if parentheses are put around it. Behind
them come the parentheses. -/
lemma along_inside (document : Document) (inert : ∀ node ∈ front, node.isSignificant = false)
    (back : List Node) {inner : Node} (leads : node.atWay? way = some inner)
    (operand : inner.isSignificant = true) (rest : List Nat) : ∃ outer,
      SameRoles document document (node.along way) outer ∧
      (node.modifyAt (Node.parenthesized front back) way).along (way ++ front.length :: rest) =
        outer ++ inner.parenthesized front back ::
          Node.along { inner with field := none } rest := by
  induction way generalizing node with
  | nil =>
    cases leads
    refine ⟨[], .nil, ?_⟩
    simp only [Node.modifyAt, Node.parenthesized, List.nil_append, Node.along,
      List.getElem?_append_right le_rfl, Nat.sub_self, List.getElem?_cons_zero, Option.elim_some]
  | cons i way ih =>
    have unique : ∀ other, node.atWay? (i :: way) = some other → other.isSignificant = true := by
      intro other leads'
      cases leads.symm.trans leads'
      exact operand
    obtain ⟨child, found, leads⟩ := Option.bind_eq_some_iff.1 leads
    obtain ⟨outer, related, same⟩ := ih leads
    refine ⟨node.modifyAt (Node.parenthesized front back) (i :: way) :: outer, ?_, ?_⟩
    · rw [Node.along, found, Option.elim_some]
      exact .cons (.of_modifyAt inert unique) related
    · simp only [List.cons_append, Node.along, ← same]
      simp only [Node.modifyAt, List.getElem?_modify, found, Option.map_eq_map,
        Option.map_some, if_true, Option.elim_some]

/-- What a node is for the node above it does not matter below it. -/
lemma along_field (node : Node) (rest : List Nat) :
    SameRoles document document (node.along rest)
    (Node.along { node with field := none } rest) := by
  cases rest with
  | nil => exact .nil
  | cons i rest =>
    exact .cons (.of_children rfl rfl) (List.forall₂_same.2 fun other _ => .refl document other)

end Ways

end Placement

namespace Node

variable {node inner : Node} {way : List Nat}

/-- A way leads on from where its first part ends. -/
lemma atWay?_append (node : Node) (way rest : List Nat) :
    node.atWay? (way ++ rest) = (node.atWay? way).bind (·.atWay? rest) := by
  induction way generalizing node with
  | nil => rfl
  | cons i way ih =>
    rw [List.cons_append, atWay?, atWay?, Option.bind_assoc]
    congr 1
    funext child
    exact ih child

/-- On a way are the nodes on its first part, and then those on the rest. -/
lemma along_append (leads : node.atWay? way = some inner) (rest : List Nat) :
    node.along (way ++ rest) = node.along way ++ inner.along rest := by
  induction way generalizing node with
  | nil =>
    cases leads
    rfl
  | cons i way ih =>
    obtain ⟨child, found, leads⟩ := Option.bind_eq_some_iff.1 leads
    simp only [List.cons_append, along, found, Option.elim_some, ih leads]

end Node

namespace Place

/-- A place is at the end of its way, and the nodes above it are those on the way. -/
lemma Of.along {root : Node} {place : Place} (of : Of root place) :
    root.atWay? place.way = some place.node ∧ place.ancestors = (root.along place.way).reverse := by
  induction of with
  | root => exact ⟨rfl, rfl⟩
  | @child place child of mem ih =>
    obtain ⟨leads, above⟩ := ih
    obtain ⟨⟨node, i⟩, listed, rfl⟩ := List.mem_map.1 mem
    have found : place.node.children[i]? = some node := List.mem_zipIdx_iff_getElem?.1 listed
    have way : Place.way ⟨node, (place.node, i) :: place.trail⟩ = place.way ++ [i] := by
      simp [Place.way, path]
    constructor
    · rw [way, Node.atWay?_append, leads, Option.bind_some, Node.atWay?, found]
      rfl
    · rw [way, Node.along_append leads, List.reverse_append, ← above, Node.along, found]
      rfl

end Place

namespace Placement

variable {one two three : Document}

section Walk

variable {nodes nodes' above above' below : List Node} {parens function : Node}

/-- Lists of nodes have the same roles over several documents. -/
lemma SameRoles.trans {as bs cs : List Node} (first : SameRoles one two as bs)
    (second : SameRoles two three bs cs) : SameRoles one three as cs := by
  induction first generalizing cs with
  | nil => cases second; exact .nil
  | cons here _ ih =>
    cases second with
    | cons here' second => exact .cons (here.trans here') (ih second)

/-- A list with the roles of a list in two parts has two parts with their roles. -/
lemma SameRoles.split {as bs cs : List Node} (related : SameRoles one two (as ++ bs) cs) :
    ∃ as' bs', cs = as' ++ bs' ∧ SameRoles one two as as' ∧ SameRoles one two bs bs' := by
  induction as generalizing cs with
  | nil => exact ⟨[], cs, rfl, .nil, related⟩
  | cons a as ih =>
    cases related with
    | @cons _ c _ cs here related =>
      obtain ⟨as', bs', rfl, first, second⟩ := ih related
      exact ⟨c :: as', bs', rfl, .cons here first, second⟩

/-- A walk stops at none of the nodes if it stops at none with the same roles. -/
lemma SameRoles.goes (same : SameRoles one two nodes nodes')
    (goes : ∀ node ∈ nodes, stops node = false) : ∀ node ∈ nodes', stops node = false := by
  induction same with
  | nil => simp
  | cons first _ ih =>
    obtain ⟨here, rest⟩ := List.forall_mem_cons.1 goes
    refine List.forall_mem_cons.2 ⟨?_, ih rest⟩
    rwa [stops, ← first.kind]

/-- Whether a function is handed to `map` depends on the roles of the nodes above it only. -/
lemma isMapArgument_congr (same : SameRoles one two nodes nodes') :
    isMapArgument one nodes = isMapArgument two nodes' := by
  cases same with
  | nil => rfl
  | cons first rest =>
    cases rest with
    | nil => rfl
    | cons second _ => rw [isMapArgument, isMapArgument, first.kind, second.mapCall]

/-- A walk over nodes with the same roles meets the same reasons. -/
lemma reasons_congr (same : SameRoles one two nodes nodes') :
    reasons one nodes = reasons two nodes' := by
  induction same with
  | nil => rfl
  | cons first rest ih =>
    rw [reasons, reasons, isBoundary, isBoundary, first.kind, first.reason?,
      isMapArgument_congr rest, ih]

/-- A walk goes on behind parentheses. -/
lemma reasons_parentheses (document : Document) (kind : parens.kind = .parentheses)
    (above : List Node) : reasons document (parens :: above) = reasons document above := by
  have none : reason? document parens = none := by
    rw [reason?, isMapCall_eq, isLogical_eq, kind]
    rfl
  rw [reasons, isBoundary, kind, none]
  rfl

/-- A function in parentheses is not recognised as an argument. -/
lemma isMapArgument_of_parentheses (document : Document) (kind : parens.kind = .parentheses)
    (above : List Node) : isMapArgument document (parens :: above) = false := by
  cases above with
  | nil => rfl
  | cons node above => rw [isMapArgument, kind]; rfl

/-- A function is an argument of `map` or not whatever parentheses are put around a node above it,
unless this is the function itself or the list of arguments. -/
lemma isMapArgument_parentheses (same : SameRoles one two nodes nodes') (filled : nodes ≠ [])
    (operand : ∀ node ∈ nodes.getLast?, node.kind ≠ .arguments) :
    isMapArgument two (nodes' ++ parens :: above') = isMapArgument one (nodes ++ above) := by
  cases same with
  | nil => exact absurd rfl filled
  | @cons a b as bs first rest =>
    cases rest with
    | nil =>
      have other : a.kind ≠ .arguments := operand a rfl
      have other' : b.kind ≠ .arguments := first.kind ▸ other
      cases above with
      | nil => simp [isMapArgument, other']
      | cons c above => simp [isMapArgument, other, other']
    | cons second _ =>
      rw [List.cons_append, List.cons_append, List.cons_append, List.cons_append, isMapArgument,
        isMapArgument, first.kind, second.mapCall]

/-- A walk meets the same reasons whatever parentheses are put around a node on it, unless this is
the function where it stops. -/
lemma reasons_inside (kind : parens.kind = .parentheses) (same : SameRoles one two nodes nodes')
    (same' : SameRoles one two above above')
    (operand : ∀ node ∈ nodes.getLast?, node.kind ≠ .arguments)
    (plain : ∀ below function, nodes = below ++ [function] → (∀ node ∈ below, stops node = false) →
      function.kind.isFunction = true → isMapArgument one above = false) :
    reasons two (nodes' ++ parens :: above') = reasons one (nodes ++ above) := by
  induction same with
  | nil => rw [List.nil_append, reasons_parentheses two kind]; exact (reasons_congr same').symm
  | @cons a b as bs first rest ih =>
    have operand' : ∀ node ∈ as.getLast?, node.kind ≠ .arguments := by
      intro node last
      refine operand node ?_
      rw [List.getLast?_cons, Option.mem_def.1 last]
      rfl
    rw [List.cons_append, List.cons_append, reasons, reasons, isBoundary, isBoundary, ← first.kind,
      ← first.reason?]
    by_cases function : a.kind.isFunction = true
    · rw [if_pos function, if_pos function]
      by_cases empty : as = []
      · -- The parentheses stand around the function itself.
        subst empty
        cases rest
        rw [List.nil_append, List.nil_append, plain [] a rfl (by simp) function,
          isMapArgument_of_parentheses two kind]
      · rw [isMapArgument_parentheses rest empty operand']
    · rw [if_neg function, if_neg function]
      by_cases boundary : (a.kind.isMarkup || a.kind == .openingTag) = true
      · rw [if_pos boundary, if_pos boundary]
      · rw [if_neg boundary, if_neg boundary, ih operand']
        · intro below other split goes
          refine plain (a :: below) other (by rw [split, List.cons_append]) ?_
          rintro node (_ | ⟨_, mem⟩)
          · simp only [stops, Bool.eq_false_of_not_eq_true function, Bool.false_or]
            exact Bool.eq_false_of_not_eq_true boundary
          · exact goes node mem

/-- Up to a function, a walk takes the reason of each node. -/
lemma reasons_of_function (document : Document) (goes : ∀ node ∈ below, stops node = false)
    (kind : function.kind.isFunction = true) :
    reasons document (below ++ function :: above) =
      below.filterMap (reason? document) ++
        if isMapArgument document above then [.mapCall] else [] := by
  induction below with
  | nil => rw [List.nil_append, reasons, if_pos kind]; rfl
  | cons node below ih =>
    have boundary : node.kind.isFunction = false ∧ isBoundary node = false := by
      simpa [stops, isBoundary, and_assoc] using goes node List.mem_cons_self
    rw [List.cons_append, reasons, boundary.1, boundary.2,
      ih fun other mem => goes other (.tail _ mem), List.filterMap_cons]
    cases reason? document node <;> rfl

/-- Nodes with the same roles give the same reasons. -/
lemma filterMap_reason?_congr (same : SameRoles one two nodes nodes') :
    nodes.filterMap (reason? one) = nodes'.filterMap (reason? two) := by
  induction same with
  | nil => rfl
  | cons first _ ih => rw [List.filterMap_cons, List.filterMap_cons, first.reason?, ih]

/-- A call of `map` as the last reason counts unless there is one before it, or a choice. -/
lemma ofReasons_append_mapCall (found : List Reason) :
    ofReasons found = ofReasons (found ++ [.mapCall]) ↔
      .conditional ∈ found ∨ .mapCall ∈ found := by
  rw [ofReasons_eq, ofReasons_eq]
  by_cases chosen : Reason.conditional ∈ found
  · simp [chosen]
  · by_cases mapped : Reason.mapCall ∈ found
    · simp [chosen, mapped]
    · by_cases combined : Reason.complexParent ∈ found <;> simp [chosen, mapped, combined]

end Walk

/-- The walk from a place stops at a function that is handed to `map` as it is. -/
structure HandedOver (document : Document) (place function : Place) : Prop where
  within : function.way <+: place.way
  stop : beyond place = function.node :: function.ancestors
  kind : function.node.kind.isFunction = true
  argument : ∃ arguments call above, function.ancestors = arguments :: call :: above ∧
    arguments.kind = .arguments ∧ CallsMap document call

/-- The nodes above something end with the one from which the way to it starts. -/
lemma along_getLast? {a b : Node} {rest : List Nat}
    (last : b ∈ (a.along rest).reverse.getLast?) : b = a := by
  rw [List.getLast?_reverse] at last
  cases rest with
  | nil => cases last
  | cons i rest => cases last; rfl

/-- The nodes above a place in an expression, and above its counterpart. -/
lemma ancestors_inside {inner place place' : Place} {front back : List Node} {rest : List Nat}
    (more : one.Parenthesized two inner front back) (significant : inner.node.isSignificant = true)
    (stands : Place.Of one.root place) (stands' : Place.Of two.root place')
    (way : place.way = inner.way ++ rest) (way' : place'.way = inner.way ++ front.length :: rest) :
    place.ancestors = (inner.node.along rest).reverse ++ inner.ancestors ∧
      ∃ nodes parens above, place'.ancestors = nodes ++ parens :: above ∧
        parens.kind = .parentheses ∧
        SameRoles one two (inner.node.along rest).reverse nodes ∧
        SameRoles one two inner.ancestors above := by
  obtain ⟨leads, above⟩ := more.place.along
  constructor
  · rw [stands.along.2, way, Node.along_append leads, List.reverse_append, above]
  · obtain ⟨outer, kept, split⟩ := along_inside one more.inert back leads significant rest
    have related := along_of_alike more.tree (inner.way ++ front.length :: rest)
    rw [split] at related
    obtain ⟨outer', tail, split', first, second⟩ := SameRoles.split related
    cases second with
    | @cons _ parens _ nodes role inside =>
      refine ⟨nodes.reverse, parens, outer'.reverse, ?_, role.kind.symm, ?_, ?_⟩
      · rw [stands'.along.2, way', split']
        simp
      · exact List.forall₂_reverse_iff.2 (SameRoles.trans (along_field inner.node rest) inside)
      · rw [above]
        exact List.forall₂_reverse_iff.2 (SameRoles.trans kept first)

/-- The nodes before a function that is handed to `map` are around each place where the walk stops
at it. -/
lemma HandedOver.around_append {inner place : Place} {nodes : List Node}
    (handed : HandedOver one place inner) (split : place.ancestors = nodes ++ inner.ancestors) :
    nodes = around place ++ [inner.node] := by
  refine List.append_cancel_right (?_ : nodes ++ inner.ancestors = _)
  calc nodes ++ inner.ancestors
    _ = around place ++ beyond place := by
      rw [← split, around, beyond, List.takeWhile_append_dropWhile]
    _ = around place ++ [inner.node] ++ inner.ancestors := by
      rw [handed.stop, List.append_assoc]; rfl

/-- In parentheses a function that is handed to `map` is not recognised: the judgement stays the
same only where something else outranks it. -/
lemma ofPlace_of_handedOver {inner place place' : Place} {nodes nodes' above : List Node}
    {parens : Node} (handed : HandedOver one place inner)
    (split : place.ancestors = nodes ++ inner.ancestors)
    (split' : place'.ancestors = nodes' ++ parens :: above) (kind : parens.kind = .parentheses)
    (same : SameRoles one two nodes nodes') :
    ofPlace two place' = ofPlace one place ↔
      Chosen place ∨ ∃ node ∈ around place, CallsMap one node := by
  have parted := handed.around_append split
  subst parted
  obtain ⟨below, tail, rfl, roles, last⟩ := SameRoles.split same
  cases last with
  | @cons _ function _ _ role last =>
    cases last
    have goes : ∀ node ∈ around place, stops node = false := by
      intro node mem
      simpa using List.mem_takeWhile_imp mem
    have goes' : ∀ node ∈ below, stops node = false := roles.goes goes
    have seen : isMapArgument one inner.ancestors = true := isMapArgument_iff.2 handed.argument
    rw [ofPlace, ofPlace, split, split', List.append_assoc, List.append_assoc,
      List.singleton_append, List.singleton_append, reasons_of_function one goes handed.kind,
      reasons_of_function two goes' (role.kind ▸ handed.kind),
      isMapArgument_of_parentheses two kind, seen, ← filterMap_reason?_congr roles]
    simp only [Bool.false_eq_true, if_false, if_true, List.append_nil, ofReasons_append_mapCall]
    simp only [List.mem_filterMap, reason?_conditional, reason?_mapCall, Chosen]

/-- Parentheses around an expression, wherever it stands, change the judgement about a place in one
case only: they are put around a function that is handed to `map`, where the walk from the place
stops, and neither a choice nor another call of `map` is met before. -/
theorem parenthesized_iff {inner place place' : Place} {front back : List Node}
    (more : one.Parenthesized two inner front back) (significant : inner.node.isSignificant = true)
    (operand : inner.node.kind ≠ .arguments) (stands : Place.Of one.root place)
    (stands' : Place.Of two.root place')
    (same : Place.Counterpart inner front.length place place') :
    ofPlace two place' = ofPlace one place ↔
      ¬ (HandedOver one place inner ∧ ¬ Chosen place ∧
        ¬ ∃ node ∈ around place, CallsMap one node) := by
  cases same with
  | beside apart way =>
    have unique : ∀ other, one.root.atWay? inner.way = some other → other.isSignificant = true := by
      intro other leads
      cases more.place.along.1.symm.trans leads
      exact significant
    have roles : SameRoles one two place.ancestors place'.ancestors := by
      rw [stands.along.2, stands'.along.2, way]
      exact List.forall₂_reverse_iff.2
        (SameRoles.trans (along_beside more.inert unique apart)
          (along_of_alike more.tree place.way))
    rw [ofPlace, ofPlace, reasons_congr roles]
    exact iff_of_true rfl fun handed => apart handed.1.within
  | inside rest way way' =>
    obtain ⟨split, nodes, parens, above, split', kind, first, second⟩ :=
      ancestors_inside more significant stands stands' way way'
    by_cases handed : HandedOver one place inner
    · rw [and_iff_right handed, ofPlace_of_handedOver handed split split' kind first,
        ← not_or, not_not]
    · refine iff_of_true ?_ fun handed' => handed handed'.1
      rw [ofPlace, ofPlace, split, split', reasons_inside kind first second]
      · intro node last
        rwa [along_getLast? last]
      · -- If the walk stopped at an argument of `map` here, the function would be handed over.
        intro below function parted goes kind
        have top : function = inner.node :=
          along_getLast? (by rw [parted, List.getLast?_concat]; rfl)
        subst top
        by_contra handed'
        refine handed ⟨way ▸ List.prefix_append inner.way rest, ?_, kind, ?_⟩
        · rw [beyond, split, parted, List.append_assoc,
            List.dropWhile_append_of_pos (by simpa using goes)]
          exact List.dropWhile_cons_of_neg (by simp [stops, kind])
        · exact isMapArgument_iff.1 (Bool.eq_true_of_not_eq_false handed')

end Placement

namespace Sample.Listed

/-- The function `x=><li/>`. -/
def callback (offset : Nat) : Node :=
  part (.function .arrow) offset (offset + 8) [part (.other "identifier") offset (offset + 1) [],
    mark "=>" (offset + 1) (offset + 3), part .selfClosing (offset + 3) (offset + 8)
      [mark "<" (offset + 3) (offset + 4), tagName (offset + 4) (offset + 6),
        mark "/>" (offset + 6) (offset + 8)]]

/-- The member `xs.map`. -/
def callee (offset : Nat) : Node :=
  part .member offset (offset + 6) [part (.other "identifier") offset (offset + 2) [],
    mark "." (offset + 2) (offset + 3),
    { part (.other "property_identifier") (offset + 3)
      (offset + 6) [] with field := some .property }]

/-- A node between parentheses. -/
def parentheses (node : Node) : Node :=
  part .parentheses (node.start - 1) (node.stop + 1)
    [mark "(" (node.start - 1) node.start, node, mark ")" node.stop (node.stop + 1)]

/-- A call of a function with one argument. -/
def call (callee argument : Node) : Node :=
  part .call callee.start (argument.stop + 1) [{ callee with field := some .function },
    part .arguments callee.stop (argument.stop + 1)
      [mark "(" callee.stop argument.start, argument, mark ")" argument.stop (argument.stop + 1)]]

/-- The file with a call as its only statement. -/
def document (source : String) (call : Node) : Document :=
  ⟨Placement.word source, part (.other "program") 0 (call.stop + 1)
    [part (.other "expression_statement") 0
      (call.stop + 1) [call, mark ";" call.stop (call.stop + 1)]], .tsx⟩

/-- The function is handed to `map`: without parentheses, with some around the callee, and with some
around the function. -/
def plain : Document := document "xs.map(x=><li/>);" (call (callee 0) (callback 7))

@[inherit_doc plain]
def calleeInside : Document :=
  document "(xs.map)(x=><li/>);" (call (parentheses (callee 1)) (callback 9))

@[inherit_doc plain]
def callbackInside : Document :=
  document "xs.map((x=><li/>));" (call (callee 0) (parentheses (callback 8)))

/-- The first place of a node of some kind. -/
def first (document : Document) (kind : Kind) : Place :=
  ((Place.all document.root).find? (·.node.kind = kind)).getD (.root document.root)

end Sample.Listed

namespace Placement

/-- Parentheses around the callee do not matter. -/
theorem parenthesized_iff_sample :
    Sample.Listed.plain.Parenthesized Sample.Listed.calleeInside
      (Sample.Listed.first Sample.Listed.plain .member)
        [Sample.mark "(" 0 1] [Sample.mark ")" 7 8] ∧
      ofPlace Sample.Listed.plain (Sample.Listed.first Sample.Listed.plain .selfClosing) =
        .dynamic .mapCall ∧
      ofPlace Sample.Listed.calleeInside
        (Sample.Listed.first Sample.Listed.calleeInside .selfClosing) =
        ofPlace Sample.Listed.plain (Sample.Listed.first Sample.Listed.plain .selfClosing) := by
  have more : Sample.Listed.plain.Parenthesized Sample.Listed.calleeInside
      (Sample.Listed.first Sample.Listed.plain .member) [Sample.mark "(" 0 1]
        [Sample.mark ")" 7 8] :=
    ⟨Place.of_mem_all (by decide +kernel), by decide +kernel, by decide +kernel⟩
  refine ⟨more, by decide +kernel, ?_⟩
  have apart : ¬ (Sample.Listed.first Sample.Listed.plain .member).way <+:
      (Sample.Listed.first Sample.Listed.plain .selfClosing).way := by decide +kernel
  refine (parenthesized_iff more (by decide +kernel) (by decide +kernel)
    (Place.of_mem_all (by decide +kernel))
    (Place.of_mem_all (by decide +kernel)) (.beside apart (by decide +kernel))).2 ?_
  exact fun handed => apart handed.1.within

/-- Parentheses around the function do: the item is not taken for one of many any more. -/
theorem parenthesized_callback_static :
    Sample.Listed.plain.Parenthesized Sample.Listed.callbackInside
        (Sample.Listed.first Sample.Listed.plain (.function .arrow)) [Sample.mark "(" 7 8]
        [Sample.mark ")" 16 17] ∧
      (Sample.Listed.first Sample.Listed.plain (.function .arrow)).Counterpart 1
        (Sample.Listed.first Sample.Listed.plain .selfClosing)
        (Sample.Listed.first Sample.Listed.callbackInside .selfClosing) ∧
      ofPlace Sample.Listed.plain (Sample.Listed.first Sample.Listed.plain .selfClosing) =
        .dynamic .mapCall ∧
      ofPlace Sample.Listed.callbackInside
        (Sample.Listed.first Sample.Listed.callbackInside .selfClosing) = .static := by
  refine ⟨⟨Place.of_mem_all (by decide +kernel), by decide +kernel, by decide +kernel⟩,
    ?_, by decide +kernel, by decide +kernel⟩
  exact .inside [2] (by decide +kernel) (by decide +kernel)

end Placement

end Retouch
