import Mathlib
import Retouch.Proofs.Inert
import Retouch.Proofs.Outcome

/-!
# What places an element dynamically

The judgement about a place is made from a walk over the nodes above it, which collects reasons and
stops at the first function, element or opening tag. Here the same judgement is a statement about
two parts of that list: the nodes `around` the place, before the walk stops, and those `beyond`,
from the stop on. A reason is collected exactly if a node around the place gives it, or if the walk
stops at a function that is handed to `map` (`mem_reasons`), so the order in which reasons are met
does not matter. Deletions depend on the judgement (`Editor.delete_gated`).
-/

namespace Retouch

namespace Node

/-- What is left of a node without its parentheses: at each level the first significant child goes
on. -/
inductive Wraps : Node → Node → Prop where
  | bare {node : Node} :
    node.kind ≠ .parentheses →
    Wraps node node
  | parentheses {node first inner : Node} :
    node.kind = .parentheses →
    node.firstSignificant? = some first →
    Wraps first inner →
    Wraps node inner

/-- What stands in parentheses is what they wrap. -/
lemma insideParentheses?_eq_some {node inner : Node} :
    node.insideParentheses? = some inner ↔ node.Wraps inner := by
  constructor
  · intro inside
    induction node using childrenInduction with
    | step node ih =>
      rw [insideParentheses?_eq] at inside
      split at inside
      · rename_i kind
        obtain ⟨first, held, inside⟩ := Option.bind_eq_some_iff.1 inside
        exact .parentheses kind held (ih first (List.mem_of_find?_eq_some held) inside)
      · rename_i kind
        cases inside
        exact .bare kind
  · intro wraps
    induction wraps with
    | bare kind => rw [insideParentheses?_eq, if_neg kind]
    | parentheses kind held _ ih =>
      rw [insideParentheses?_eq, if_pos kind, held, Option.bind_some, ih]

end Node

namespace Placement

/-- Functions, elements and opening tags: where the walk over the nodes above an element stops. -/
def stops (node : Node) : Bool :=
  node.kind.isFunction || node.kind.isMarkup || node.kind == .openingTag

/-- The nodes above a place, from the parent up to where the walk stops. -/
def around (place : Place) : List Node :=
  place.ancestors.takeWhile fun node => !stops node

/-- The nodes above a place from the one on at which the walk stops. -/
def beyond (place : Place) : List Node :=
  place.ancestors.dropWhile fun node => !stops node

/-- A call of a member named `map`, whatever parentheses stand around the callee. -/
def CallsMap (document : Document) (node : Node) : Prop :=
  node.kind = .call ∧ ∃ callee member property, node.child? .function = some callee ∧
  callee.Wraps member ∧
    member.kind = .member ∧ member.child? .property = some property ∧
    document.bytes property = word "map"

/-- A binary expression with one of the logical operators. -/
def Logical (document : Document) (node : Node) : Prop :=
  node.kind = .binary ∧ ∃ operator, node.child? .operator = some operator ∧
    (document.bytes operator = word "&&" ∨ document.bytes operator = word "||" ∨
      document.bytes operator = word "??")

/-- An element that stands in one of the branches of a choice, or in its condition. -/
def Chosen (place : Place) : Prop :=
  ∃ node ∈ around place, node.kind = .ternary

/-- An element that stands in a call of `map`, or in a function that is an argument of one. -/
def Mapped (document : Document) (place : Place) : Prop :=
  (∃ node ∈ around place, CallsMap document node) ∨
    ∃ function arguments call above, beyond place = function :: arguments :: call :: above ∧
      function.kind.isFunction = true ∧ arguments.kind = .arguments ∧ CallsMap document call

/-- An element that stands in an array, a sequence or a logical expression. -/
def Combined (document : Document) (place : Place) : Prop :=
  ∃ node ∈ around place, node.kind = .array ∨ node.kind = .sequence ∨ Logical document node

variable {document : Document} {node : Node} {nodes : List Node} {found : List Reason} {r : Reason}

/-- A node is judged to be a call of `map` exactly if it is one. -/
lemma isMapCall_iff : isMapCall document node = true ↔ CallsMap document node := by
  unfold isMapCall CallsMap
  rw [Bool.and_eq_true, decide_eq_true_eq]
  refine and_congr_right fun _ => ?_
  constructor
  · intro judged
    split at judged
    · rename_i member inside
      obtain ⟨callee, held, inside⟩ := Option.bind_eq_some_iff.1 inside
      simp only [Bool.and_eq_true, decide_eq_true_eq] at judged
      obtain ⟨kind, judged⟩ := judged
      split at judged
      · rename_i property named
        exact ⟨callee, member, property, held,
          Node.insideParentheses?_eq_some.1 inside, kind, named, of_decide_eq_true judged⟩
      · cases judged
    · cases judged
  · rintro ⟨callee, member, property, held, wraps, kind, named, spelt⟩
    simp [held, Node.insideParentheses?_eq_some.2 wraps, kind, named, spelt]

/-- A node is judged to be a logical expression exactly if it is one. -/
lemma isLogical_iff : isLogical document node = true ↔ Logical document node := by
  unfold isLogical Logical
  rw [Bool.and_eq_true, decide_eq_true_eq]
  refine and_congr_right fun _ => ?_
  cases node.child? .operator with
  | none => simp
  | some operator => simp

/-- A node is judged to be handed to `map` exactly if it is among the arguments of a call of it. -/
lemma isMapArgument_iff : isMapArgument document nodes = true ↔
    ∃ arguments call above, nodes = arguments :: call :: above ∧ arguments.kind = .arguments ∧
      CallsMap document call := by
  match nodes with
  | [] => simp [isMapArgument]
  | [_] => simp [isMapArgument]
  | arguments :: call :: above => simp [isMapArgument, isMapCall_iff]

section Reasons

/-- A node counts as a choice exactly if it is a ternary. -/
lemma reason?_conditional : reason? document node = some .conditional ↔ node.kind = .ternary := by
  unfold reason?
  split
  · simp_all
  · rename_i kind
    split
    · simp [kind]
    · split <;> simp [kind]

/-- A node counts as a call of `map` exactly if it is one. -/
lemma reason?_mapCall : reason? document node = some .mapCall ↔ CallsMap document node := by
  rw [← isMapCall_iff]
  unfold reason?
  split
  · rename_i kind
    simp [isMapCall, kind]
  · split
    · rename_i judged
      simp [judged]
    · rename_i judged
      split <;> simp [judged]

/-- A node counts as a complex parent exactly if it is an array, a sequence or a logical expression.
-/
lemma reason?_complexParent : reason? document node = some .complexParent ↔
    node.kind = .array ∨ node.kind = .sequence ∨ Logical document node := by
  rw [← isLogical_iff]
  unfold reason?
  split
  · rename_i kind
    simp [isLogical, kind]
  · split
    · -- a call is no array, no sequence and no binary expression
      rename_i judged
      have kind := (isMapCall_iff.1 judged).1
      simp [isLogical, kind]
    · split
      · rename_i parts
        simp only [true_iff]
        tauto
      · rename_i parts
        simp only [reduceCtorEq, false_iff]
        tauto

/-- A reason is collected exactly if a node before the stop gives it, or if the walk stops at a
function that is handed to `map`. -/
lemma mem_reasons : r ∈ reasons document nodes ↔
    (∃ node ∈ nodes.takeWhile fun node => !stops node, reason? document node = some r) ∨
      r = .mapCall ∧ ∃ function above, (nodes.dropWhile fun node => !stops node) =
        function :: above ∧
        function.kind.isFunction = true ∧ isMapArgument document above = true := by
  induction nodes with
  | nil => simp [reasons]
  | cons node above ih =>
    rw [reasons]
    cases function : node.kind.isFunction with
    | true =>
      have ends : stops node = true := by simp [stops, function]
      cases handed : isMapArgument document above with
      | true => simp [ends, function, handed]
      | false => simp [ends, handed]
    | false =>
      cases boundary : isBoundary node with
      | true =>
        have ends : stops node = true := by
          simpa [stops, isBoundary, function] using boundary
        simp [ends, function]
      | false =>
        have goes : stops node = false := by
          simpa [stops, isBoundary, function] using boundary
        simp [goes, ih, or_assoc]

end Reasons

section Verdict

variable (document) (place : Place)

/-- A choice is among the reasons exactly if the place is chosen. -/
lemma conditional_mem_reasons : .conditional ∈ reasons document place.ancestors ↔ Chosen place := by
  simp [mem_reasons, reason?_conditional, Chosen, around]

/-- A call of `map` is among the reasons exactly if the place is mapped. -/
lemma mapCall_mem_reasons : .mapCall ∈ reasons document place.ancestors ↔
    Mapped document place := by
  simp only [mem_reasons, reason?_mapCall, isMapArgument_iff, true_and]
  refine or_congr Iff.rfl ?_
  constructor
  · rintro ⟨function, _, stop, kind, arguments, call, above, rfl, handed, maps⟩
    exact ⟨function, arguments, call, above, stop, kind, handed, maps⟩
  · rintro ⟨function, arguments, call, above, stop, kind, handed, maps⟩
    exact ⟨function, _, stop, kind, arguments, call, above, rfl, handed, maps⟩

/-- A complex parent is among the reasons exactly if the place is combined. -/
lemma complexParent_mem_reasons :
    .complexParent ∈ reasons document place.ancestors ↔ Combined document place := by
  simp [mem_reasons, reason?_complexParent, Combined, around]

/-- Of the reasons that are collected the first one counts, in the order of their rank. -/
lemma ofReasons_eq (found : List Reason) : ofReasons found =
    if .conditional ∈ found then .dynamic .conditional
    else if .mapCall ∈ found then .dynamic .mapCall
    else if .complexParent ∈ found then .dynamic .complexParent
    else .static := by
  unfold ofReasons
  by_cases first : Reason.conditional ∈ found
  · simp [first]
  · by_cases second : Reason.mapCall ∈ found
    · simp [first, second]
    · by_cases third : Reason.complexParent ∈ found <;> simp [first, second, third]

end Verdict

end Placement

namespace Editor

variable {σ : Type} [Store σ]

/-- There are edits for a deletion only where the element is placed statically. -/
lemma deleteEdits_eq_ok {document : Document} {element : Element} {edits : List Edit} :
    deleteEdits document element = .ok edits ↔
      Placement.ofPlace document element.place = .static ∧ element.remove document = .ok edits := by
  unfold deleteEdits
  cases Placement.ofPlace document element.place with
  | static => simp
  | dynamic reason => simp

/-- The judgement about a place depends on what is around it alone: an element is placed in a choice
if there is a choice around it. Otherwise it is placed in a call of `map` if there is one around it,
or if the function beyond is an argument of one. Otherwise its parent is complex if an array, a
sequence or a logical expression is around it. Otherwise it is placed statically. A deletion leaves
the store alone unless the element that it has found is placed statically. -/
theorem delete_gated (editor : Editor) (store : σ) (root : Path) (id : Text) :
    (∀ document place,
        (Placement.ofPlace document place = .dynamic .conditional ↔ Placement.Chosen place) ∧
        (Placement.ofPlace document place = .dynamic .mapCall ↔
          ¬ Placement.Chosen place ∧ Placement.Mapped document place) ∧
        (Placement.ofPlace document place = .dynamic .complexParent ↔
          ¬ Placement.Chosen place ∧ ¬ Placement.Mapped document place ∧
            Placement.Combined document place) ∧
        (Placement.ofPlace document place = .static ↔
          ¬ Placement.Chosen place ∧ ¬ Placement.Mapped document place ∧
            ¬ Placement.Combined document place)) ∧
      ((editor.delete store root id).2 = store ∨
        ∃ target document element, editor.find store root id true =
          .ok (target, document, element) ∧
          Placement.ofPlace document element.place = .static) := by
  constructor
  · intro document place
    rw [Placement.ofPlace, Placement.ofReasons_eq, ← Placement.conditional_mem_reasons document,
      ← Placement.mapCall_mem_reasons, ← Placement.complexParent_mem_reasons]
    generalize Placement.reasons document place.ancestors = found
    by_cases chosen : Placement.Reason.conditional ∈ found
    · simp [chosen]
    · by_cases mapped : Placement.Reason.mapCall ∈ found
      · simp [chosen, mapped]
      · by_cases combined : Placement.Reason.complexParent ∈ found <;>
          simp [chosen, mapped, combined]
  · rcases delete_cases editor store root id with ⟨report, _, kept⟩ | ⟨_, _, _, plans, _⟩
    · exact .inl (by rw [kept])
    · cases plans with
      | delete found recorded => exact .inr ⟨_, _, _, found, (deleteEdits_eq_ok.1 recorded).1⟩

end Editor

end Retouch
