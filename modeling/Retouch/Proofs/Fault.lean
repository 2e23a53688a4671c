import Mathlib
import Retouch.Proofs.Outcome

/-!
# The first fault

The search for the first fault of a tree passes over every subtree that holds none. Nothing is lost
by that: it finds what a search through all nodes, each before those below it, would find
(`Node.firstFault?_eq`). So parsing succeeds exactly where no node is a fault, and where it fails it
reports the first one (`Document.parse_reports_first`).
-/

namespace Retouch

namespace Node

/-- A fault is an error node, or one that is missing. -/
lemma isFault_iff (node : Node) :
    node.isFault = true ↔ node.kind = .error ∨ node.missing = true := by
  simp [isFault]

/-- What is no fault is neither an error node nor missing. -/
lemma not_isFault_iff (node : Node) :
    node.isFault = false ↔ node.kind ≠ .error ∧ node.missing = false := by
  simp [isFault]

/-- No node of a tree that holds no fault is one. -/
lemma find?_isFault_eq_none {node : Node} (clean : node.hasFault = false) :
    node.preorder.find? isFault = none := by
  rw [List.find?_eq_none]
  intro other mem fault
  have held := (hasFault_iff node).2 ⟨other, mem, fault⟩
  rw [clean] at held
  cases held

/-- A tree holds no fault exactly if none of its nodes is one. -/
lemma isClean_iff (root : Node) :
    root.hasFault = false ↔ ∀ node ∈ root.preorder, node.kind ≠ .error ∧ node.missing = false := by
  rw [← Bool.not_eq_true, hasFault_iff]
  simp only [← not_isFault_iff, not_exists, not_and, Bool.not_eq_true]

/-- If each tree of a list is searched as a whole, so is the list. -/
lemma firstFaultAmong?_eq {nodes : List Node}
    (each : ∀ node ∈ nodes, node.firstFault? = node.preorder.find? isFault) :
    firstFaultAmong? nodes = (preorderAll nodes).find? isFault := by
  induction nodes with
  | nil => rfl
  | cons node nodes ih =>
    have rest := ih fun other mem => each other (List.mem_cons_of_mem node mem)
    rw [firstFaultAmong?, preorderAll, List.find?_append, each node List.mem_cons_self, rest]
    cases flagged : node.hasFault with
    | false => simp [find?_isFault_eq_none flagged]
    | true => cases node.preorder.find? isFault <;> rfl

/-- The search that passes over trees without faults finds what a search through all nodes finds. -/
lemma firstFault?_eq (root : Node) : root.firstFault? = root.preorder.find? isFault := by
  induction root using childrenInduction with
  | step root ih =>
    have unfolded : root.firstFault? =
        if root.isFault then some root else firstFaultAmong? root.children := by
      cases root
      rw [firstFault?]
    rw [unfolded, preorder_eq, List.find?_cons, firstFaultAmong?_eq ih]
    cases root.isFault <;> rfl

/-- In a tree that holds a fault the search finds one, and all nodes before it are none. -/
lemma firstFault?_of_hasFault {root : Node} (faulty : root.hasFault = true) :
    ∃ before node after, root.firstFault? = some node ∧ root.preorder = before ++ node :: after ∧
      node.isFault = true ∧ ∀ other ∈ before, other.isFault = false := by
  obtain ⟨some_fault, mem, fault⟩ := (hasFault_iff root).1 faulty
  cases found : root.preorder.find? isFault with
  | none => exact absurd fault (List.find?_eq_none.1 found some_fault mem)
  | some node =>
    obtain ⟨isFault, before, after, split, clean⟩ := List.find?_eq_some_iff_append.1 found
    refine ⟨before, node, after, (firstFault?_eq root).trans found, split, isFault,
      fun other listed => ?_⟩
    simpa using clean other listed

end Node

namespace SyntaxFault

/-- What is reported of a node. -/
def ofNode (source : Bytes) (node : Node) : SyntaxFault :=
  ⟨if node.missing then some node.kind else none, Bytes.position source node.start⟩

/-- The report says that something is missing exactly if the node is. -/
lemma missing_ofNode (source : Bytes) (node : Node) :
    (ofNode source node).missing.isSome = node.missing := by
  unfold ofNode
  cases node.missing <;> rfl

/-- The report names the missing node, or says that it is a syntax error, and says where. -/
lemma message_ofNode (source : Bytes) (node : Node) :
    (ofNode source node).message =
      (if node.missing then "missing '" ++ Text.ofString node.kind.name ++ "'"
        else Text.ofString "syntax error") ++
        " at " ++ (Bytes.position source node.start).message := by
  unfold ofNode
  cases node.missing <;> rfl

/-- The wording says that something is missing exactly if the fault does. -/
lemma missing_prefix_iff (fault : SyntaxFault) :
    Text.ofString "missing" <+: fault.message ↔ fault.missing.isSome = true := by
  obtain ⟨missing, position⟩ := fault
  cases missing with
  | none =>
    refine ⟨fun ⟨rest, same⟩ => ?_, nofun⟩
    have first := congrArg List.head? same
    revert first
    simp [message, Text.ofString, CodePoint.ofChar]
  | some kind =>
    refine ⟨fun _ => rfl, fun _ => ?_⟩
    refine ⟨" '" ++ Text.ofString kind.name ++ "'" ++ " at " ++ position.message, ?_⟩
    simp [message, Text.ofString]

end SyntaxFault

namespace Document

/-- Parsing fails exactly if the tree holds a fault, and reports the one that the search finds. -/
lemma parse_eq_error {grammar : Grammar} {language : Language} {source : Bytes}
    {fault : SyntaxFault} : parse grammar language source = .error fault ↔
      (grammar language source).hasFault = true ∧
        fault = .ofNode source
          ((grammar language source).firstFault?.getD (grammar language source)) := by
  change (if (grammar language source).hasFault then Except.error (SyntaxFault.ofNode source _)
    else _) = _ ↔ _
  cases (grammar language source).hasFault with
  | true => exact ⟨fun same => ⟨rfl, (Except.error.inj same).symm⟩, fun ⟨_, same⟩ => same ▸ rfl⟩
  | false => exact ⟨nofun, nofun⟩

/-- Source code is parsed exactly if no node of its tree is an error or missing. Otherwise the
search, which passes over subtrees without faults, finds the first such node of the whole tree; its
position is reported, and it is reported as missing exactly if it is. -/
theorem parse_reports_first (grammar : Grammar) (language : Language) (source : Bytes) :
    (∀ document, parse grammar language source = .ok document ↔
      document = ⟨source, grammar language source, language⟩ ∧
        ∀ node ∈ document.root.preorder, node.kind ≠ .error ∧ node.missing = false) ∧
    ∀ fault, parse grammar language source = .error fault →
      ∃ before node after, (grammar language source).preorder = before ++ node :: after ∧
        (node.kind = .error ∨ node.missing = true) ∧
        (∀ other ∈ before, other.kind ≠ .error ∧ other.missing = false) ∧
        (grammar language source).firstFault? = some node ∧
        fault.position = position ⟨source, grammar language source, language⟩ node ∧
        fault.message =
          (if node.missing then "missing '" ++ Text.ofString node.kind.name ++ "'"
            else Text.ofString "syntax error") ++
            " at " ++ (Text.ofNat fault.position.line ++ ":" ++ Text.ofNat fault.position.column) ∧
        (Text.ofString "missing" <+: fault.message ↔ node.missing = true) := by
  constructor
  · intro document
    rw [parse_eq_ok, and_comm, ← Node.isClean_iff]
    exact and_congr_right fun same => by rw [same]
  · intro fault failed
    obtain ⟨faulty, rfl⟩ := parse_eq_error.1 failed
    obtain ⟨before, node, after, found, split, isFault, clean⟩ :=
      Node.firstFault?_of_hasFault faulty
    refine ⟨before, node, after, split, node.isFault_iff.1 isFault,
      fun other listed => other.not_isFault_iff.1 (clean other listed), found, ?_⟩
    rw [found, Option.getD_some, SyntaxFault.missing_prefix_iff, SyntaxFault.missing_ofNode]
    exact ⟨rfl, SyntaxFault.message_ofNode source node, Iff.rfl⟩

end Document

namespace Sample.Faulty

/-- A bracket that is missing. -/
def bracket : Node := ⟨.other ")", false, true, none, 6, 6, []⟩

/-- Two statements. The first is without fault; in the second a bracket is missing, and an error
comes after it. -/
def tree : Node :=
  part (.other "program") 0 9 [
    part (.other "expression_statement") 0 3 [part (.other "identifier") 0 2 [], mark ";" 2 3],
    part (.other "expression_statement") 4 8 [
      part .call 4 6 [part (.other "identifier") 4 5 [],
        part .arguments 5 6 [mark "(" 5 6, bracket]], mark ";" 6 7,
      part .error 7 8 []]]

end Sample.Faulty

namespace Document

/-- The missing bracket is reported, deep in the second statement, and not the error behind it. -/
theorem parse_reports_first_sample :
    ∃ fault, parse (fun _ _ => Sample.Faulty.tree) .tsx (Placement.word "ab;\nf(;!\n") =
      .error fault ∧
      Sample.Faulty.tree.firstFault? = some Sample.Faulty.bracket ∧
      fault.message = Text.ofString "missing ')' at 2:2" := by
  have failed : parse (fun _ _ => Sample.Faulty.tree) .tsx (Placement.word "ab;\nf(;!\n") =
      .error ⟨some (.other ")"), ⟨2, 2⟩⟩ := by decide +kernel
  obtain ⟨_, _, _, _, _, _, found, _, wording, _⟩ :=
    (parse_reports_first (fun _ _ => Sample.Faulty.tree) .tsx
      (Placement.word "ab;\nf(;!\n")).2 _ failed
  have bracket : Sample.Faulty.tree.firstFault? = some Sample.Faulty.bracket := by decide +kernel
  refine ⟨_, failed, bracket, wording.trans ?_⟩
  rw [← Option.some.inj (bracket.symm.trans found)]
  decide +kernel

end Document

end Retouch
