import Mathlib
import Retouch.Proofs.Logic
import Retouch.Proofs.Operation
import Retouch.Proofs.Placement
import Retouch.Proofs.Removal

/-!
# Line ends behind comments

A comment that begins with two slashes runs to the end of its line. If an edit takes the line end
but not the comment, what follows becomes part of the comment. Such an edit begins right behind the
comment (`Edit.takes_stop_iff`), and in source code whose tree is tidy, class names alone are taken
out like that: an attribute goes with everything behind the node before it, and that node may be a
comment (`Editor.line_end_taken_iff`, `Editor.update_joins_lines`).
-/

namespace Retouch

/-- An edit replaces or removes the byte at an offset. -/
def Edit.Takes (edit : Edit) (offset : Nat) : Prop :=
  edit.start ≤ offset ∧ offset < edit.stop

instance (edit : Edit) (offset : Nat) : Decidable (edit.Takes offset) :=
  inferInstanceAs (Decidable (edit.start ≤ offset ∧ offset < edit.stop))

/-- The byte behind a node that is not touched is taken exactly by the edits that begin there. -/
lemma Edit.takes_stop_iff {edit : Edit} {node : Node} (filled : node.start < node.stop)
    (spared : ¬ edit.Touches node) :
    edit.Takes node.stop ↔ edit.start = node.stop ∧ edit.start < edit.stop := by
  constructor
  · rintro ⟨lower, upper⟩
    have start : edit.start = node.stop := by
      by_contra earlier
      exact spared ⟨node.stop - 1, by omega, by omega, by omega, by omega⟩
    exact ⟨start, start.trans_lt upper⟩
  · rintro ⟨start, filled⟩
    exact ⟨start.le, start ▸ filled⟩

namespace Document

/-- A comment that runs to the end of its line. -/
def IsLineComment (document : Document) (node : Node) : Prop :=
  node.kind = .comment ∧ (document.bytes node).take 2 = Placement.word "//"

instance (document : Document) : DecidablePred document.IsLineComment :=
  fun node => inferInstanceAs (Decidable
    (node.kind = .comment ∧ (document.bytes node).take 2 = Placement.word "//"))

/-- The kinds of nodes with which an edit can begin. -/
def IsFirm (kind : Kind) : Prop :=
  kind.isMarkup = true ∨ kind ∈ [.attribute, .container, .parentheses, .string]

instance : DecidablePred IsFirm :=
  fun kind => inferInstanceAs (Decidable
    (kind.isMarkup = true ∨ kind ∈ [.attribute, .container, .parentheses, .string]))

/-- What holds where comments are in the trees of source code: the tree is laid out, a line comment
stays on its line, what edits can begin with does not begin with a line end, and neither a tag nor
anything in it but comments ends together with a comment. -/
@[mk_iff]
structure Tidy (document : Document) : Prop where
  laid : document.root.LaidOut
  one_line : ∀ comment ∈ document.root.preorder, document.IsLineComment comment →
    Bytes.newline ∉ document.bytes comment
  firm : ∀ node ∈ document.root.preorder, IsFirm node.kind →
    document.source[node.start]? ≠ some Bytes.newline
  ends_apart : ∀ tag ∈ document.root.preorder, tag.kind = .openingTag ∨ tag.kind = .selfClosing →
    ∀ node ∈ tag :: tag.children, node.kind ≠ .comment →
      ∀ comment ∈ document.root.preorder, comment.kind = .comment → node.stop ≠ comment.stop

instance : DecidablePred Tidy :=
  fun document => decidable_of_iff _ (tidy_iff document).symm

variable {document : Document} {comment : Node}

/-- A line comment holds at least its two slashes. -/
lemma IsLineComment.two_le (line : document.IsLineComment comment) :
    comment.start + 2 ≤ comment.stop := by
  have slashes := congrArg List.length line.2
  have bound : (document.bytes comment).length ≤ comment.stop - comment.start :=
    List.length_take_le _ _
  have two : (Placement.word "//").length = 2 := rfl
  rw [List.length_take, two] at slashes
  omega

/-- No line starts where a line comment of a tidy tree ends. -/
lemma Tidy.not_isLineStart (tidy : document.Tidy) (mem : comment ∈ document.root.preorder)
    (line : document.IsLineComment comment) {offset : Nat} :
    ¬ Bytes.IsLineStart document.source offset comment.stop := by
  intro starts
  have long := line.two_le
  rcases starts.begins with zero | before
  · omega
  · apply tidy.one_line comment mem line
    -- the byte before the start of the line is the last one of the comment
    have last : (document.bytes comment)[comment.stop - 1 - comment.start]? =
        some Bytes.newline := by
      rw [bytes, Bytes.slice, List.getElem?_take_of_lt (by omega), List.getElem?_drop, ← before]
      congr 1
      omega
    exact List.mem_of_getElem? last

end Document

namespace Attribute

variable {document : Document} {name : Text} {attr : Attribute}

/-- An attribute with a name has bytes. -/
lemma start_lt_stop (laid : attr.node.LaidOut) (named : attr.name document = .ok name)
    (filled : name ≠ []) : attr.node.start < attr.node.stop := by
  unfold Attribute.name at named
  split at named
  · cases named
    exact absurd rfl filled
  · rename_i first rest listed
    have mem : first ∈ attr.node.children := by
      have first_mem : first ∈ attr.node.namedChildren := by
        rw [listed]
        exact List.mem_cons_self
      exact (List.mem_filter.1 first_mem).1
    obtain ⟨lower, upper⟩ := laid.nested.inside first mem
    have span : first.start < first.stop := by
      by_contra empty
      have none : Bytes.slice document.source first.start first.stop = [] := by
        rw [Bytes.slice, Nat.sub_eq_zero_of_le (not_lt.1 empty), List.take_zero]
      rw [Document.text, Document.textBetween, none] at named
      cases named
      exact filled rfl
    omega

end Attribute

namespace Place

/-- What goes with a node is the node itself, braces or parentheses. -/
lemma taken_kind (place : Place) :
    place.taken = place.node ∨ place.taken.kind = .container ∨ place.taken.kind = .parentheses := by
  unfold taken
  split
  · exact .inl rfl
  · rename_i parent above listed
    split
    · exact .inl rfl
    · rename_i markup
      split
      · rename_i content
        rw [isContent_of_listed listed] at content
        simp only [markup, Bool.false_or, Bool.and_eq_true, beq_iff_eq] at content
        exact .inr (.inl content.1)
      · unfold outermost
        cases ends : (place.ancestors.takeWhile (·.kind = .parentheses)).getLast? with
        | none => exact .inl rfl
        | some last =>
          have kept := List.mem_takeWhile_imp (List.mem_of_getLast? ends)
          exact .inr (.inr (of_decide_eq_true kept))

end Place

namespace Element

variable {document : Document} {element : Element} {edits : List Edit} {edit : Edit}
    {comment : Node}

/-- An update takes out the attribute of a class name that is not empty. -/
structure Clears (document : Document) (element : Element) (updates : Updates)
    (attr : Attribute) : Prop where
  requested : updates.className = some []
  filled : ∃ current, ClassName.ofElement document element.node =
      .ok (.static current) ∧ current ≠ []
  found : element.node.attribute? document ClassName.attributeName = .ok (some attr)

/-- An update takes out an attribute that follows a comment, which ends where a given node does. -/
def ClearsBehind (document : Document) (element : Element) (updates : Updates)
    (comment : Node) : Prop :=
  ∃ attr previous, Clears document element updates attr ∧ attr.previous = some previous ∧
    previous.kind = .comment ∧ previous.stop = comment.stop

/-- The edit that takes out an attribute begins behind the node before it. -/
lemma Clears.recorded {updates : Updates} {attr : Attribute}
    (clears : Clears document element updates attr) :
    Editor.classNameEdits document element updates.className =
      .ok [⟨attr.removalStart, attr.node.stop, []⟩] := by
  obtain ⟨current, static, filled⟩ := clears.filled
  rw [clears.requested]
  simp only [Editor.classNameEdits, static, lift_ok, ok_bind, if_neg filled]
  simp only [List.isEmpty_nil, if_true, removeAttribute, clears.found, lift_ok, ok_bind]
  rfl

/-- A static class name is a string, or stands in braces. -/
lemma ofValue_static_kind {value : Node} {current : Text}
    (static : ClassName.ofValue document value = .ok (.static current)) :
    value.kind = .string ∨ value.kind = .container := by
  unfold ClassName.ofValue at static
  split at static
  · rename_i kind
    exact .inl kind
  · rename_i kind
    exact .inr kind
  · rw [bind_eq_ok] at static
    obtain ⟨_, _, static⟩ := static
    cases static

/-- An edit for a class name that takes something begins with the value that it replaces, or it
takes out the attribute. -/
lemma classNameEdits_begin {updates : Updates}
    (recorded : Editor.classNameEdits document element updates.className = .ok edits)
    (mem : edit ∈ edits) (filled : edit.start < edit.stop) :
    (∃ attr value, element.node.attribute? document ClassName.attributeName = .ok (some attr) ∧
        attr.value? = some value ∧ (value.kind = .string ∨ value.kind = .container) ∧
        edit.start = value.start) ∨
      ∃ attr, Clears document element updates attr ∧ edit.start = attr.removalStart := by
  cases requested : updates.className with
  | none =>
    rw [requested] at recorded
    cases recorded
    cases mem
  | some value =>
    simp only [requested, Editor.classNameEdits, bind_eq_ok, lift_eq_ok] at recorded
    obtain ⟨report, judged, recorded⟩ := recorded
    cases report with
    | dynamic _ _ _ _ => cases recorded
    | static current =>
      simp only at recorded
      split at recorded
      · cases recorded
        cases mem
      · rename_i differs
        split at recorded
        · rename_i empty
          cases List.isEmpty_iff.1 empty
          rcases ofElement_static judged with absent | ⟨attr, _, found, _, _⟩
          · simp only [removeAttribute, absent, lift_ok, ok_bind] at recorded
            cases recorded
            cases mem
          · simp only [removeAttribute, found, lift_ok, ok_bind] at recorded
            cases recorded
            cases List.mem_singleton.1 mem
            exact .inr ⟨attr, ⟨requested, ⟨current, judged, differs⟩, found⟩, rfl⟩
        · rcases setAttribute_cases judged recorded with
            ⟨_, _, _, _, rfl⟩ | ⟨attr, old, _, _, found, valued, static, _, rfl⟩
          · -- a new attribute takes nothing
            cases List.mem_singleton.1 mem
            exact absurd filled (lt_irrefl _)
          · cases List.mem_singleton.1 mem
            exact .inl ⟨attr, old, found, valued, ofValue_static_kind static, rfl⟩

/-- Where a tree is tidy, an edit for a class name that begins with the line end behind a comment
takes out the attribute that follows the comment. -/
lemma classNameEdits_behind {updates : Updates} (tidy : document.Tidy)
    (inside : element.node ∈ document.root.preorder)
    (tag : element.node.openingTag.kind = .openingTag ∨ element.node.openingTag.kind = .selfClosing)
    (held : comment ∈ document.root.preorder) (kind : comment.kind = .comment)
    (ends : document.source[comment.stop]? = some Bytes.newline)
    (recorded : Editor.classNameEdits document element updates.className = .ok edits)
    (mem : edit ∈ edits) (start : edit.start = comment.stop) (filled : edit.start < edit.stop) :
    ClearsBehind document element updates comment := by
  have within := Node.mem_preorder_trans element.node.openingTag_mem_preorder inside
  rcases classNameEdits_begin recorded mem filled with
    ⟨attr, value, found, valued, literal, same⟩ | ⟨attr, clears, same⟩
  · have below := Node.mem_preorder_of_child (Attribute.value?_mem valued) value.self_mem_preorder
    have reached := Node.mem_preorder_trans
      (Node.mem_preorder_of_child (Node.attribute?_mem found) below) within
    have firm : Document.IsFirm value.kind := by
      rcases literal with string | braces
      · simp [Document.IsFirm, string]
      · simp [Document.IsFirm, braces]
    rw [← start, same] at ends
    exact absurd ends (tidy.firm value reached firm)
  · obtain ⟨judged, before, after, split, previous⟩ := Node.attribute?_split clears.found
    have among := Node.attribute?_mem clears.found
    unfold Attribute.removalStart at same
    cases ahead : attr.previous with
    | none =>
      have reached := Node.mem_preorder_trans
        (Node.mem_preorder_of_child among attr.node.self_mem_preorder) within
      have firm : Document.IsFirm attr.node.kind := by simp [Document.IsFirm, judged]
      rw [ahead] at same
      rw [← start, same] at ends
      exact absurd ends (tidy.firm attr.node reached firm)
    | some last =>
      rw [ahead] at same
      refine ⟨attr, last, clears, ahead, ?_, same.symm.trans start⟩
      have listed : last ∈ element.node.openingTag.children := by
        rw [split]
        exact List.mem_append_left _ (List.mem_of_getLast? (previous.symm.trans ahead))
      by_contra other
      exact tidy.ends_apart _ within tag last
        (List.mem_cons_of_mem _ listed) other comment held kind
        (same.symm.trans start)

/-- Where a tree is tidy, no edit for a text begins right behind a comment. -/
lemma TextChange.not_behind (change : TextChange document element edits) (tidy : document.Tidy)
    (inside : element.node ∈ document.root.preorder)
    (tag : element.node.openingTag.kind = .openingTag ∨ element.node.openingTag.kind = .selfClosing)
    (held : comment ∈ document.root.preorder) (line : document.IsLineComment comment)
    (mem : edit ∈ edits) (start : edit.start = comment.stop) : ¬ edit.start < edit.stop := by
  intro filled
  have within := Node.mem_preorder_trans element.node.openingTag_mem_preorder inside
  have apart := tidy.ends_apart _ within tag
  cases change with
  | none => cases mem
  | content spanned _ _ =>
    cases List.mem_singleton.1 mem
    obtain ⟨opening, closing, opens, _, rfl, rfl⟩ := Node.contentSpan?_eq_some spanned
    have kind := (Node.openingTag?_eq_some opens).2.2
    rw [Node.openingTag_of_opens opens] at apart
    exact apart opening List.mem_cons_self (by simp [kind]) comment held line.1 start
  | expand closes _ =>
    cases List.mem_singleton.1 mem
    rcases Node.attributeAnchor_cases element.node with ⟨last, listed, ending, anchor⟩ | ⟨_, anchor⟩
    · have significant := (List.mem_filter.1 (List.mem_of_getLast? ending)).2
      have other : last.kind ≠ .comment := by
        intro kind
        simp [Node.isSignificant, kind] at significant
      exact apart last (List.mem_cons_of_mem _ listed) other comment held line.1
        (anchor.symm.trans start)
    · -- a tag with nothing significant in it is expanded from its second byte on, where no
      -- comment can end
      have long := line.two_le
      simp only [anchor, Node.openingTag_of_selfClosing closes] at start filled
      rcases tidy.laid.below_or_apart held inside with below | below | before | after
      · have bounds := (tidy.laid.of_mem inside).within below
        omega
      · have bounds := (tidy.laid.of_mem held).within below
        omega
      · omega
      · have span := (tidy.laid.of_mem inside).nested.span
        omega

/-- Where a tree is tidy, no edit that removes an element begins with the line end behind a
comment. -/
lemma remove_not_behind (tidy : document.Tidy) (place : element.place ∈ Place.markup document.root)
    (held : comment ∈ document.root.preorder) (line : document.IsLineComment comment)
    (ends : document.source[comment.stop]? = some Bytes.newline)
    (recorded : element.remove document = .ok edits) (mem : edit ∈ edits) :
    edit.start ≠ comment.stop := by
  intro start
  obtain ⟨visited, markup⟩ := List.mem_filter.1 place
  have above : element.place.ancestors ≠ [] := by
    intro top
    simp only [remove, top] at recorded
    cases recorded
  have firm : document.source[element.place.taken.start]? ≠ some Bytes.newline := by
    apply tidy.firm _ (Place.of_mem_all visited).taken.1
    rcases element.place.taken_kind with same | braces | parentheses
    · rw [same]
      exact .inl markup
    · simp [Document.IsFirm, braces]
    · simp [Document.IsFirm, parentheses]
  cases recorded.symm.trans (remove_eq document above)
  cases List.mem_singleton.1 mem
  split at start
  · obtain ⟨first, last, starts, _, ⟨_, lines⟩ | ⟨_, span⟩⟩ :=
      removeSpan_cases document.source element.place.taken.start element.place.taken.stop
    · rw [lines] at start
      cases start
      exact tidy.not_isLineStart held line starts
    · rw [span] at start
      rw [← start] at ends
      exact firm ends
  · rw [← start] at ends
    exact firm ends

/-- Taking out an attribute that follows a comment takes what is right behind the comment. -/
lemma ClearsBehind.takes {updates : Updates}
    (clears : ClearsBehind document element updates comment)
    (laid : element.node.openingTag.LaidOut)
    (recorded : Editor.updateEdits document element updates = .ok edits) :
    ∃ edit ∈ edits, edit.Takes comment.stop := by
  obtain ⟨attr, previous, clears, ahead, _, same⟩ := clears
  simp only [Editor.updateEdits, clears.recorded, ok_bind, bind_eq_ok, pure_eq_ok] at recorded
  obtain ⟨second, _, rfl⟩ := recorded
  refine ⟨_, List.mem_append_left second (List.mem_singleton_self _), ?_⟩
  have start : attr.removalStart = comment.stop := by
    simp only [Attribute.removalStart, ahead, same]
  have bound := (Node.removalStart_within laid clears.found).2
  have named := (Attribute.find?_eq_some clears.found).2
  have filled :=
    Attribute.start_lt_stop (laid.child (Node.attribute?_mem clears.found)) named (by decide)
  rw [start] at bound ⊢
  exact ⟨le_rfl, bound.trans_lt filled⟩

end Element

namespace Editor

variable {σ : Type} [Store σ]

/-- Where a tree is tidy, a plan with an edit that begins with the line end behind a line comment is
one that takes out the class name behind the comment. -/
lemma Plans.behind {editor : Editor} {store : σ} {root : Path} {request : Request} {path : Path}
    {document : Document} {edits : List Edit} {edit : Edit} {comment : Node}
    (plans : editor.Plans store root request path document edits) (tidy : document.Tidy)
    (held : comment ∈ document.root.preorder) (line : document.IsLineComment comment)
    (ends : document.source[comment.stop]? = some Bytes.newline) (mem : edit ∈ edits)
    (start : edit.start = comment.stop) (filled : edit.start < edit.stop) :
    ∃ id updates target element, request = .update id updates ∧
      editor.find store root id false = .ok (target, document, element) ∧
      element.ClearsBehind document updates comment := by
  cases plans with
  | @update id updates target _ element _ found recorded =>
    obtain ⟨_, _, located⟩ := find_eq_ok.1 found
    have inside := (Element.node_of_locate located).1
    have tag := Node.openingTag_kind (Element.kind_of_locate located rfl)
    refine ⟨id, updates, target, element, rfl, found, ?_⟩
    simp only [updateEdits, bind_eq_ok, pure_eq_ok] at recorded
    obtain ⟨first, named, second, worded, rfl⟩ := recorded
    rcases List.mem_append.1 mem with early | late
    · exact Element.classNameEdits_behind tidy inside tag held line.1 ends named early start filled
    · exact absurd filled
        ((Element.textEdits_change worded).not_behind tidy inside tag held line late start)
  | delete found recorded =>
    obtain ⟨_, _, located⟩ := find_eq_ok.1 found
    have place := (Element.search_eq_ok located).1
    have removed := (deleteEdits_eq_ok.1 recorded).2
    exact absurd start (Element.remove_not_behind tidy place held line ends removed mem)

/-- A request that changes a file takes the line end behind a line comment that it spares exactly if
one of its edits begins there. Where the tree is tidy, this is exactly if the request takes out a
class name whose attribute follows the comment: no other update and no deletion makes what follows
part of the comment. -/
theorem line_end_taken_iff (editor : Editor) (store : σ) (root : Path) (request : Request)
    (changed : (editor.answer root store request).1.changed = true) :
    ∃ path document edits bytes, editor.Plans store root request path document edits ∧
      Edit.render document.source edits = .ok bytes ∧
      Store.write store path bytes = (.ok (), (editor.answer root store request).2) ∧
      ∀ comment ∈ document.root.preorder, document.IsLineComment comment →
        (∀ edit ∈ edits, ¬ edit.Touches comment) →
        document.source[comment.stop]? = some Bytes.newline →
        ((∃ edit ∈ edits, edit.Takes comment.stop) ↔
          ∃ edit ∈ edits, edit.start = comment.stop ∧ edit.start < edit.stop) ∧
        (document.Tidy →
          ((∃ edit ∈ edits, edit.Takes comment.stop) ↔
            ∃ id updates target element, request = .update id updates ∧
              editor.find store root id false = .ok (target, document, element) ∧
              element.ClearsBehind document updates comment)) := by
  obtain ⟨path, document, edits, bytes, plans, rendered, wrote⟩ := answer_changed changed
  refine ⟨path, document, edits, bytes, plans, rendered, wrote, ?_⟩
  intro comment held line spared ends
  have long := line.two_le
  have begins : (∃ edit ∈ edits, edit.Takes comment.stop) ↔
      ∃ edit ∈ edits, edit.start = comment.stop ∧ edit.start < edit.stop :=
    exists_congr fun edit => and_congr_right
      fun mem => Edit.takes_stop_iff (by omega) (spared edit mem)
  refine ⟨begins, fun tidy => ⟨?_, ?_⟩⟩
  · intro taken
    obtain ⟨edit, mem, start, filled⟩ := begins.1 taken
    exact plans.behind tidy held line ends mem start filled
  · rintro ⟨id, updates, target, element, rfl, found, clears⟩
    cases plans with
    | update again recorded =>
      cases found.symm.trans again
      obtain ⟨_, _, located⟩ := find_eq_ok.1 found
      have laid := tidy.laid.of_mem (Element.node_of_locate located).1
      exact clears.takes (laid.of_mem element.node.openingTag_mem_preorder) recorded

end Editor

namespace Sample.Commented

/-- A paragraph with a comment between its name and its class name, and another attribute behind
that. -/
def source : Bytes :=
  Placement.word "<p // c\n className='x' id='y'\n>t</p>;"

/-- The comment behind the name of the tag. -/
def comment : Node :=
  part .comment 3 7 []

/-- An attribute with a string as its value. -/
def attr (start middle stop : Nat) : Node :=
  part .attribute start stop [part (.other "property_identifier") start middle [],
    ⟨.equals, false, false, none, middle, middle + 1, []⟩, part .string (middle + 1) stop []]

/-- The paragraph with its two attributes. -/
def paragraph : Node :=
  part .element 0 36 [
    part .openingTag 0 31 [mark "<" 0 1, tagName 1 2, comment, attr 9 18 22, attr 23 25 29,
      mark ">" 30 31], part .text 31 32 [],
    part .closingTag 32 36 [mark "</" 32 34, tagName 34 35, mark ">" 35 36]]

/-- The statement that the paragraph is. -/
def statement : Node :=
  part (.other "expression_statement") 0 37 [paragraph, mark ";" 36 37]

/-- The file, with its tree. -/
def document : Document := ⟨source, part (.other "program") 0 37 [statement], .tsx⟩

/-- The paragraph where it stands. -/
def element : Element :=
  ⟨⟨paragraph, [(statement, 0), (document.root, 0)]⟩, .paired, "p", ⟨1, 0⟩⟩

/-- An editor that parses the file as it should be. -/
def editor : Editor := editorFor source document.root

/-- The class name and the text that are asked for, in the file with the comment. -/
def answer (className : Text) (textContent : Option Text) : Answer × MemoryStore :=
  editor.answer root (storeOf source) (.update "page.tsx:1:0" ⟨some className, textContent⟩)

end Sample.Commented

namespace Editor

/-- A class name that is set, and not taken out, leaves the line end behind the comment alone. -/
theorem line_end_taken_iff_sample :
    (Sample.Commented.answer "z" (some "u")).1.changed = true ∧
      Sample.Commented.document.Tidy ∧
      updateEdits Sample.Commented.document Sample.Commented.element ⟨some "z", some "u"⟩ =
        .ok [⟨19, 22, Placement.word "'z'"⟩, ⟨31, 32, Placement.word "u"⟩] ∧
      Sample.Commented.comment ∈ Sample.Commented.document.root.preorder ∧
      Sample.Commented.document.IsLineComment Sample.Commented.comment ∧
      Sample.Commented.source[7]? = some Bytes.newline ∧
      ¬ ∃ edit ∈ [⟨19, 22, Placement.word "'z'"⟩, ⟨31, 32, Placement.word "u"⟩],
        Edit.Takes edit 7 := by
  have changed : (Sample.Commented.answer "z" (some "u")).1.changed = true := by decide +kernel
  have found : Sample.Commented.editor.find
      (Sample.storeOf Sample.Commented.source) Sample.root "page.tsx:1:0" false =
      .ok (Sample.target 1 (by decide), Sample.Commented.document, Sample.Commented.element) := by
        decide +kernel
  have tidy : Sample.Commented.document.Tidy := by decide +kernel
  have expected : updateEdits Sample.Commented.document Sample.Commented.element
      ⟨some "z", some "u"⟩ =
      .ok [⟨19, 22, Placement.word "'z'"⟩, ⟨31, 32, Placement.word "u"⟩] := by decide +kernel
  have held : Sample.Commented.comment ∈ Sample.Commented.document.root.preorder := by
    decide +kernel
  have line : Sample.Commented.document.IsLineComment Sample.Commented.comment := by decide +kernel
  have ends : Sample.Commented.source[7]? = some Bytes.newline := by decide +kernel
  have spared : ∀ edit ∈ [⟨19, 22, Placement.word "'z'"⟩, ⟨31, 32, Placement.word "u"⟩],
      ¬ Edit.Touches edit Sample.Commented.comment := by decide +kernel
  refine ⟨changed, tidy, expected, held, line, ends, ?_⟩
  obtain ⟨_, document, edits, _, plans, _, _, taken⟩ := line_end_taken_iff Sample.Commented.editor
    (Sample.storeOf Sample.Commented.source) Sample.root
    (.update "page.tsx:1:0" ⟨some "z", some "u"⟩) changed
  cases plans with
  | update again recorded =>
    cases found.symm.trans again
    cases expected.symm.trans recorded
    intro takes
    obtain ⟨id, updates, _, element, same, _, clears⟩ :=
      ((taken _ held line spared ends).2 tidy).1 takes
    obtain ⟨attr, _, clears, _⟩ := clears
    cases same
    exact absurd clears.requested (by decide)

/-- A class name that is taken out takes along the line end behind the comment, although the tree is
laid out and the comment itself is spared: the attribute behind the class name becomes part of the
comment, and the file is written. -/
theorem update_joins_lines :
    Sample.Commented.document.root.LaidOut ∧
      Sample.Commented.editor.find (Sample.storeOf Sample.Commented.source) Sample.root
        "page.tsx:1:0" false =
        .ok (Sample.target 1 (by decide), Sample.Commented.document, Sample.Commented.element) ∧
      (Sample.Commented.answer "" none).1.changed = true ∧
      updateEdits Sample.Commented.document Sample.Commented.element ⟨some "", none⟩ =
        .ok [⟨7, 22, []⟩] ∧
      Sample.Commented.comment ∈ Sample.Commented.document.root.preorder ∧
      Sample.Commented.document.IsLineComment Sample.Commented.comment ∧
      ¬ Edit.Touches ⟨7, 22, []⟩ Sample.Commented.comment ∧
      Sample.Commented.source[7]? = some Bytes.newline ∧ Edit.Takes ⟨7, 22, []⟩ 7 ∧
      (Sample.Commented.answer "" none).2.get? Sample.path =
        some (Placement.word "<p // c id='y'\n>t</p>;") := by
  refine ⟨by decide +kernel, by decide +kernel, by decide +kernel, by decide +kernel,
    by decide +kernel, by decide +kernel, by decide +kernel, by decide +kernel,
    by decide +kernel, by decide +kernel⟩

end Editor

end Retouch
