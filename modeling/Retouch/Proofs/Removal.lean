import Mathlib
import Retouch.Proofs.Outcome
import Retouch.Proofs.Render
import Retouch.Proofs.Span

/-!
# What a removal takes

An element goes together with the braces or the parentheses directly around it (`Place.taken`).
Among the children of another element nothing is left of it, and the lines on which nothing else
stands go too; elsewhere an expression that renders nothing comes in its place
(`Element.remove_exact`). That expression is a word, and whether it stands apart from the words next
to it depends on the statement around it (`Element.remove_detached_iff`, `Element.remove_fuses`).
-/

namespace Retouch

namespace Bytes

variable {source : Bytes} {offset : Nat}

/-- The line of an offset starts at the beginning or after a line end, and no line ends between its
start and the offset. -/
structure IsLineStart (source : Bytes) (offset first : Nat) : Prop where
  le : first ≤ offset
  clear : newline ∉ slice source first offset
  begins : first = 0 ∨ source[first - 1]? = some newline

/-- The line of an offset stops after the first line end from the offset on, or with the source
code. -/
inductive IsLineStop (source : Bytes) (offset : Nat) : Nat → Prop where
  | ended {last : Nat} :
    offset ≤ last →
    newline ∉ slice source offset last →
    source[last]? = some newline →
    IsLineStop source offset (last + 1)
  | final :
    newline ∉ source.drop offset →
    IsLineStop source offset source.length

/-- What stands before an offset is the beginning of its line, after nothing or a line end. -/
lemma exists_lineUpTo (source : Bytes) (offset : Nat) : ∃ front,
    source.take offset = front ++ lineUpTo source offset ∧ newline ∉ lineUpTo source offset ∧
      (front = [] ∨ front.getLast? = some newline) := by
  have split :=
    List.takeWhile_append_dropWhile (p := (· != newline)) (l := (source.take offset).reverse)
  refine ⟨((source.take offset).reverse.dropWhile (· != newline)).reverse, ?_, ?_, ?_⟩
  · rw [lineUpTo, ← List.reverse_append, split, List.reverse_reverse]
  · intro mem
    have kept := List.mem_takeWhile_imp (List.mem_reverse.1 mem)
    simp at kept
  · rw [List.getLast?_reverse, List.reverse_eq_nil_iff]
    cases left : (source.take offset).reverse.dropWhile (· != newline) with
    | nil => exact .inl rfl
    | cons b _ =>
      have failed := List.head?_dropWhile_not (· != newline) (source.take offset).reverse
      rw [left] at failed
      exact .inr (by simpa using failed)

/-- The start of a line is computed. -/
lemma lineStart_spec (source : Bytes) (offset : Nat) :
    IsLineStart source offset (lineStart source offset) := by
  obtain ⟨front, split, clear, begins⟩ := exists_lineUpTo source offset
  have length : lineStart source offset = front.length := by
    rw [lineStart, split, List.length_append, Nat.add_sub_cancel]
  have bound : front.length ≤ offset := by
    have total := congrArg List.length split
    rw [List.length_append, List.length_take] at total
    omega
  have line : slice source front.length offset = lineUpTo source offset := by
    rw [slice, ← List.drop_take, split, List.drop_left]
  rw [length]
  refine ⟨bound, by rwa [line], ?_⟩
  rcases begins with rfl | ends
  · exact .inl rfl
  · right
    have filled : front ≠ [] := by
      rintro rfl
      cases ends
    have inside : front.length - 1 < front.length := by
      have := List.length_pos_iff.2 filled
      omega
    rw [List.getLast?_eq_getElem?] at ends
    rw [← List.getElem?_take_of_lt (inside.trans_le bound), split,
      List.getElem?_append_left inside, ends]

/-- The end of a line is computed. -/
lemma lineStop_spec (source : Bytes) (offset : Nat) :
    IsLineStop source offset (lineStop source offset) := by
  have split := List.takeWhile_append_dropWhile (p := (· != newline)) (l := source.drop offset)
  have clear : newline ∉ (source.drop offset).takeWhile (· != newline) := by
    intro mem
    have kept := List.mem_takeWhile_imp mem
    simp at kept
  have length := congrArg List.length (List.take_append_drop offset source)
  rw [List.length_append] at length
  simp only [lineStop]
  cases left : (source.drop offset).dropWhile (· != newline) with
  | nil =>
    rw [left, List.append_nil] at split
    rw [split, if_neg (lt_irrefl _), Nat.add_zero, length]
    rw [split] at clear
    exact .final clear
  | cons b rest =>
    have found : b = newline := by
      have failed := List.head?_dropWhile_not (· != newline) (source.drop offset)
      rw [left] at failed
      simpa using failed
    rw [left, found] at split
    generalize (source.drop offset).takeWhile (· != newline) = line at split clear ⊢
    have inside : offset ≤ source.length := by
      have total := congrArg List.length split
      simp only [List.length_append, List.length_cons, List.length_drop] at total
      omega
    have longer : line.length < (source.drop offset).length := by
      rw [← split, List.length_append, List.length_cons]
      omega
    rw [if_pos longer, List.length_take, min_eq_left inside]
    refine .ended (Nat.le_add_right _ _) ?_ ?_
    · rwa [slice, Nat.add_sub_cancel_left, ← split, List.take_left]
    · rw [← List.getElem?_drop, ← split, List.getElem?_append_right le_rfl, Nat.sub_self,
        List.getElem?_cons_zero]

/-- From an offset to the stop of its line there is one line end at most. -/
lemma IsLineStop.count_le {last : Nat} (stop : IsLineStop source offset last) :
    (slice source offset last).count newline ≤ 1 := by
  cases stop with
  | @ended last le clear _ =>
    rw [Edit.slice_split source le (Nat.le_succ last), List.count_append,
      List.count_eq_zero_of_not_mem clear, Nat.zero_add]
    calc (slice source last (last + 1)).count newline
      _ ≤ (slice source last (last + 1)).length := List.count_le_length
      _ ≤ last + 1 - last := List.length_take_le _ _
      _ = 1 := Nat.add_sub_cancel_left last 1
  | final clear =>
    have none : newline ∉ slice source offset source.length :=
      fun mem => clear (List.mem_of_mem_take mem)
    rw [List.count_eq_zero_of_not_mem none]
    exact Nat.zero_le 1

/-- The line of an offset does not stop before the offset, unless the source code does. -/
lemma IsLineStop.min_le {last : Nat} (stop : IsLineStop source offset last) :
    min offset source.length ≤ last := by
  cases stop with
  | ended le _ _ => exact (min_le_left _ _).trans (le.trans (Nat.le_succ _))
  | final _ => exact min_le_right _ _

/-- There is nothing between an offset and itself. -/
@[simp]
lemma slice_self (source : Bytes) (offset : Nat) : slice source offset offset = [] := by
  rw [slice, Nat.sub_self, List.take_zero]

end Bytes

namespace Place

/-- Decides whether a place is among the children of an element, directly or with braces around
it. -/
def isContent (place : Place) : Bool :=
  match place.ancestors with
  | [] => false
  | parent :: above =>
    parent.kind.isMarkup || parent.kind == .container && above.head?.any (·.kind.isMarkup)

/-- The outermost of the parentheses directly around a place, or else the node at the place. -/
def outermost (place : Place) : Node :=
  (place.ancestors.takeWhile (·.kind = .parentheses)).getLast?.getD place.node

/-- The first node above a place that is not one of the parentheses directly around it. -/
def enclosing? (place : Place) : Option Node :=
  (place.ancestors.dropWhile (·.kind = .parentheses)).head?

/-- What goes when the node at a place is removed: the node itself among the children of an element,
with the braces that are a child in its stead, and elsewhere with all parentheses directly around
it. -/
def taken (place : Place) : Node :=
  match place.ancestors with
  | [] => place.node
  | parent :: _ =>
    if parent.kind.isMarkup then place.node
    else if place.isContent then parent
    else place.outermost

variable {root parent : Node} {above : List Node} {place : Place}

/-- A place is content exactly if markup is above it, directly or with braces between them. -/
lemma isContent_of_listed (listed : place.ancestors = parent :: above) : place.isContent =
    (parent.kind.isMarkup || parent.kind == .container && above.head?.any (·.kind.isMarkup)) := by
  rw [isContent, listed]

/-- Of what stands directly in markup, the node itself goes. -/
lemma taken_of_markup (listed : place.ancestors = parent :: above)
    (markup : parent.kind.isMarkup = true) : place.taken = place.node := by
  simp [taken, listed, markup]

/-- Of what stands in braces in markup, the braces go. -/
lemma taken_of_braces (listed : place.ancestors = parent :: above)
    (braces : parent.kind = .container) (content : place.isContent = true) :
    place.taken = parent := by
  simp [taken, listed, braces, content, Kind.isMarkup]

/-- Of what stands in an expression, the node goes with the parentheses around it. -/
lemma taken_of_expression (expression : place.isContent = false) :
    place.taken = place.outermost := by
  unfold taken
  split
  · rename_i top
    simp [outermost, top]
  · rename_i parent above listed
    rw [isContent_of_listed listed, Bool.or_eq_false_iff] at expression
    simp [isContent_of_listed listed, expression]

/-- What goes is the node at the place or a node above it. -/
lemma taken_cases (place : Place) : place.taken = place.node ∨ place.taken ∈ place.ancestors := by
  unfold taken
  split
  · exact .inl rfl
  · rename_i parent above listed
    split
    · exact .inl rfl
    · split
      · exact .inr (by rw [listed]; exact List.mem_cons_self)
      · unfold outermost
        cases ends : (place.ancestors.takeWhile (·.kind = .parentheses)).getLast? with
        | none => exact .inl rfl
        | some last => exact .inr ((List.takeWhile_sublist _).subset (List.mem_of_getLast? ends))

/-- What goes with a node of a tree is a node of the tree with that node in it. -/
lemma Of.taken (of : Of root place) :
    place.taken ∈ root.preorder ∧ place.node ∈ place.taken.preorder := by
  rcases place.taken_cases with same | above
  · rw [same]
    exact ⟨of.node_mem, place.node.self_mem_preorder⟩
  · exact of.ancestor above

end Place

namespace Element

variable {document : Document} {element : Element}

/-- The node taken with its parentheses is the outermost of them, and what encloses it comes next.
-/
lemma withParentheses_eq (node : Node) (above : List Node) : withParentheses node above =
    ((above.takeWhile (·.kind = .parentheses)).getLast?.getD node,
      (above.dropWhile (·.kind = .parentheses)).head?) := by
  induction above generalizing node with
  | nil => rfl
  | cons parent above ih =>
    rw [withParentheses]
    by_cases kind : parent.kind = .parentheses
    · simp [kind, ih, List.getLast?_cons]
    · simp [kind]

/-- A removal of an element that is not the root is one edit. -/
lemma remove_eq (document : Document) (below : element.place.ancestors ≠ []) :
    element.remove document = .ok [
      if element.place.isContent then
        removeSpan document.source element.place.taken.start element.place.taken.stop
      else
        ⟨element.place.taken.start, element.place.taken.stop,
          emptyExpression document.source element.place.taken element.place.enclosing?⟩] := by
  obtain ⟨parent, above, listed⟩ := List.exists_cons_of_ne_nil below
  have judged := Place.isContent_of_listed listed
  simp only [remove, listed]
  by_cases markup : parent.kind.isMarkup = true
  · have content : element.place.isContent = true := by simp [judged, markup]
    rw [if_pos markup, if_pos content, Place.taken_of_markup listed markup]
    rfl
  · rw [if_neg markup]
    by_cases braces : parent.kind = .container ∧ above.head?.any (·.kind.isMarkup) = true
    · have content : element.place.isContent = true := by simp [judged, braces]
      rw [if_pos braces, if_pos content, Place.taken_of_braces listed braces.1 content]
    · have expression : element.place.isContent = false := by simpa [judged, markup] using braces
      rw [if_neg braces, if_neg (by simp [expression]), Place.taken_of_expression expression,
        withParentheses_eq, Place.outermost, Place.enclosing?, listed]
      rfl

/-- Where a word before an expression is set apart: in a return statement or as the body of an arrow
function. -/
def SetsApart (parent : Option Node) : Prop :=
  ∃ node ∈ parent, node.kind = .returnStatement ∨ node.kind = .function .arrow

/-- A space comes before the expression that renders nothing exactly after a letter or a digit that
is set apart. -/
lemma emptyExpression_cases (source : Bytes) (target : Node) (parent : Option Node) :
    (SetsApart parent ∧
      (Bytes.slice source (target.start - 1) target.start).any isWordByte = true) ∧
        emptyExpression source target parent = Placement.word " null" ∨
      ¬ (SetsApart parent ∧
        (Bytes.slice source (target.start - 1) target.start).any isWordByte = true) ∧
        emptyExpression source target parent = Placement.word "null" := by
  unfold emptyExpression
  cases parent with
  | none => exact .inr ⟨by simp [SetsApart], rfl⟩
  | some parent =>
    have judged : SetsApart (some parent) ↔
        parent.kind = .returnStatement ∨ parent.kind = .function .arrow := by
      simp [SetsApart]
    rw [judged]
    simp only
    split
    · rename_i spaced
      exact .inl ⟨spaced, rfl⟩
    · rename_i bare
      exact .inr ⟨bare, rfl⟩

/-- Nothing but blanks stands on the lines of a span before and after it. -/
def StandsAlone (source : Bytes) (first start stop last : Nat) : Prop :=
  (∀ b ∈ Bytes.slice source first start, b ∈ Placement.word " \t") ∧
    ∀ b ∈ Bytes.slice source stop last, b ∈ Placement.word " \t\r\n"

/-- A span is removed with its lines if it stands alone on them, and by itself otherwise. -/
lemma removeSpan_cases (source : Bytes) (start stop : Nat) : ∃ first last,
    Bytes.IsLineStart source start first ∧ Bytes.IsLineStop source stop last ∧
      (StandsAlone source first start stop last ∧ removeSpan source start stop = ⟨first, last, []⟩ ∨
        ¬ StandsAlone source first start stop last ∧
          removeSpan source start stop = ⟨start, stop, []⟩) := by
  refine ⟨_, _, Bytes.lineStart_spec source start, Bytes.lineStop_spec source stop, ?_⟩
  have spaces : ∀ b, isHorizontalSpace b = true ↔ b ∈ Placement.word " \t" := by
    simp [isHorizontalSpace, Placement.word]
  have blanks : ∀ b, isLayoutByte b = true ↔ b ∈ Placement.word " \t\r\n" := by
    simp [isLayoutByte, isHorizontalSpace, Placement.word, or_assoc]
  have judged : ((Bytes.slice source (Bytes.lineStart source start) start).all isHorizontalSpace &&
      (Bytes.slice source stop (Bytes.lineStop source stop)).all isLayoutByte) = true ↔
      StandsAlone source (Bytes.lineStart source start) start stop
        (Bytes.lineStop source stop) := by
    simp only [Bool.and_eq_true, List.all_eq_true, spaces, blanks, StandsAlone]
  simp only [removeSpan]
  split
  · rename_i alone
    exact .inl ⟨judged.1 alone, rfl⟩
  · rename_i shared
    exact .inr ⟨mt judged.2 shared, rfl⟩

/-- What the removal of the node at a place does to source code. -/
structure Removal (source : Bytes) (place : Place) (edit : Edit) : Prop where
  /-- An expression is replaced by one that renders nothing. -/
  expression : place.isContent = false →
    edit.start = place.taken.start ∧ edit.stop = place.taken.stop ∧
      (edit.replacement = Placement.word "null" ∨ edit.replacement = Placement.word " null")
  /-- Nothing is left of a child, nor of its lines if nothing else stands on them. -/
  content : place.isContent = true →
    edit.replacement = [] ∧ ∃ first last,
      Bytes.IsLineStart source place.taken.start first ∧
      Bytes.IsLineStop source place.taken.stop last ∧
        (StandsAlone source first place.taken.start place.taken.stop last →
          edit.start = first ∧ edit.stop = last) ∧
        (¬ StandsAlone source first place.taken.start place.taken.stop last →
          edit.start = place.taken.start ∧ edit.stop = place.taken.stop)
  /-- The node goes. -/
  removed : edit.start ≤ place.node.start ∧ min place.node.stop source.length ≤ edit.stop
  /-- Everything before and after the edit stays. -/
  kept : Edit.render source [edit] =
    .ok (source.take edit.start ++ edit.replacement ++ source.drop edit.stop)
  /-- Besides what is taken, only blanks go. -/
  blank : ∀ b ∈ Bytes.slice source edit.start place.taken.start ++
      Bytes.slice source place.taken.stop edit.stop,
    b ∈ Placement.word " \t\r\n"
  /-- Besides what is taken, one line end goes at most. -/
  line_ends : (Bytes.slice source edit.start place.taken.start ++
    Bytes.slice source place.taken.stop edit.stop).count Bytes.newline ≤ 1

/-- A single edit puts its replacement between what is before its span and what is behind it. -/
lemma render_single (source : Bytes) (edit : Edit) : Edit.render source [edit] =
    .ok (source.take edit.start ++ edit.replacement ++ source.drop edit.stop) := by
  simp [Edit.render, Edit.sort, Edit.insert, Edit.splice, Bytes.slice]

/-- In an expression, an empty expression in place of what goes is a removal. -/
lemma Removal.of_expression {source : Bytes} {place : Place} (expression : place.isContent = false)
    (within : place.taken.start ≤ place.node.start ∧ place.node.stop ≤ place.taken.stop) :
    Removal source place
      ⟨place.taken.start, place.taken.stop,
        emptyExpression source place.taken place.enclosing?⟩ where
  expression := by
    intro _
    rcases emptyExpression_cases source place.taken place.enclosing? with ⟨_, spaced⟩ | ⟨_, bare⟩
    · exact ⟨rfl, rfl, .inr spaced⟩
    · exact ⟨rfl, rfl, .inl bare⟩
  content := by
    intro content
    rw [expression] at content
    cases content
  removed := ⟨within.1, (min_le_left _ _).trans within.2⟩
  kept := render_single _ _
  blank := by simp
  line_ends := by simp

/-- In content, leaving out what goes is a removal. -/
lemma Removal.of_content {source : Bytes} {place : Place} (content : place.isContent = true)
    (within : place.taken.start ≤ place.node.start ∧ place.node.stop ≤ place.taken.stop) :
    Removal source place (removeSpan source place.taken.start place.taken.stop) := by
  have absurdity {P : Prop} (expression : place.isContent = false) : P := by
    rw [content] at expression
    cases expression
  obtain ⟨first, last, start, stop, ⟨alone, lines⟩ | ⟨shared, span⟩⟩ :=
    removeSpan_cases source place.taken.start place.taken.stop
  · rw [lines]
    exact {
      expression := absurdity
      content := fun _ =>
        ⟨rfl, first, last, start, stop, fun _ => ⟨rfl, rfl⟩, fun shared => absurd alone shared⟩
      removed := ⟨start.le.trans within.1, (min_le_min_right _ within.2).trans stop.min_le⟩
      kept := render_single _ _
      blank := by
        intro b mem
        rcases List.mem_append.1 mem with before | after
        · have among : Placement.word " \t" ⊆ Placement.word " \t\r\n" := by decide
          exact among (alone.1 b before)
        · exact alone.2 b after
      line_ends := by
        rw [List.count_append, List.count_eq_zero_of_not_mem start.clear, Nat.zero_add]
        exact stop.count_le }
  · rw [span]
    exact {
      expression := absurdity
      content := fun _ =>
        ⟨rfl, first, last, start, stop, fun alone => absurd alone shared, fun _ => ⟨rfl, rfl⟩⟩
      removed := ⟨within.1, (min_le_left _ _).trans within.2⟩
      kept := render_single _ _
      blank := by simp
      line_ends := by simp }

/-- Removing an element that is not the root of its tree records one edit. It takes the element with
the braces or parentheses directly around it, and besides them nothing but blanks of the lines on
which they stand alone. -/
theorem remove_exact (document : Document) (element : Element) (laid : document.root.LaidOut)
    (mem : element.place ∈ Place.markup document.root)
    (below : element.place ≠ Place.root document.root) :
    ∃ edit, element.remove document = .ok [edit] ∧ Removal document.source element.place edit := by
  have of := Place.of_mem_all (List.mem_filter.1 mem).1
  have above : element.place.ancestors ≠ [] := mt of.eq_root below
  have within := (laid.of_mem of.taken.1).within of.taken.2
  refine ⟨_, remove_eq document above, ?_⟩
  cases standing : element.place.isContent with
  | false => exact .of_expression standing within
  | true => exact .of_content standing within

end Element

namespace Sample.Lined

/-- A paragraph that holds, on a line of its own, an element between braces. -/
def source : Bytes :=
  Placement.word "<p>\n  \x7b<b/>\x7d \r\n</p>;"

/-- The element between the braces. -/
def bold : Node :=
  part .selfClosing 7 11 [mark "<" 7 8, tagName 8 9, mark "/>" 9 11]

/-- The braces around the element. -/
def braces : Node :=
  part .container 6 12 [mark "\x7b" 6 7, bold, mark "\x7d" 11 12]

/-- The paragraph with the line ends around the braces. -/
def paragraph : Node :=
  part .element 0 19 [part .openingTag 0 3 [mark "<" 0 1, tagName 1 2, mark ">" 2 3],
    part .text 3 6 [], braces,
    part .text 12 15 [], part .closingTag 15 19 [mark "</" 15 17, tagName 17 18, mark ">" 18 19]]

/-- The statement that the paragraph is. -/
def statement : Node :=
  part (.other "expression_statement") 0 20 [paragraph, mark ";" 19 20]

/-- The file, with its tree. -/
def document : Document := ⟨source, part (.other "program") 0 20 [statement], .tsx⟩

/-- The element where it stands. -/
def element : Element :=
  ⟨⟨bold, [(braces, 1), (paragraph, 2), (statement, 0), (document.root, 0)]⟩,
    .selfClosing, "b", ⟨2, 3⟩⟩

end Sample.Lined

/-- The line goes with the braces, the blanks and the line end behind them. -/
theorem Element.remove_exact_sample :
    Sample.Lined.document.root.LaidOut ∧
      Sample.Lined.element.place ∈ Place.markup Sample.Lined.document.root ∧
      Sample.Lined.element.place ≠ Place.root Sample.Lined.document.root ∧
      Sample.Lined.element.remove Sample.Lined.document = .ok [⟨4, 15, []⟩] ∧
      Removal Sample.Lined.source Sample.Lined.element.place ⟨4, 15, []⟩ := by
  have laid : Sample.Lined.document.root.LaidOut := by decide +kernel
  have mem : Sample.Lined.element.place ∈ Place.markup Sample.Lined.document.root := by
    decide +kernel
  have below : Sample.Lined.element.place ≠ Place.root Sample.Lined.document.root := by
    decide +kernel
  have recorded : Sample.Lined.element.remove Sample.Lined.document = .ok [⟨4, 15, []⟩] := by
    decide +kernel
  obtain ⟨edit, same, removal⟩ :=
    remove_exact Sample.Lined.document Sample.Lined.element laid mem below
  cases recorded.symm.trans same
  exact ⟨laid, mem, below, recorded, removal⟩

namespace Element

/-- A byte that can be part of an identifier: letters, digits, `_`, `$`, and every byte of a
character beyond ASCII. -/
def isIdentifierByte (b : UInt8) : Bool :=
  isWordByte b || b == 0x5F || b == 0x24 || 0x80 ≤ b

/-- Neither the byte before nor the byte after what stands between two parts can be part of an
identifier. -/
def Detached (front back : Bytes) : Prop :=
  (∀ b ∈ front.getLast?, isIdentifierByte b = false) ∧ ∀ b ∈ back.head?, isIdentifierByte b = false

instance (front back : Bytes) : Decidable (Detached front back) :=
  inferInstanceAs (Decidable ((∀ b ∈ front.getLast?, isIdentifierByte b = false) ∧
    ∀ b ∈ back.head?, isIdentifierByte b = false))

/-- The byte before an offset is the last one of those up to it. -/
lemma slice_before {source : Bytes} {offset : Nat} (inside : offset ≤ source.length) :
    Bytes.slice source (offset - 1) offset = (source.take offset).getLast?.toList := by
  cases offset with
  | zero => simp [Bytes.slice]
  | succ n =>
    have last : (source.take (n + 1)).getLast? = source[n]? := by
      rw [List.getLast?_eq_getElem?, List.length_take, min_eq_left inside, Nat.add_sub_cancel,
        List.getElem?_take_of_lt (Nat.lt_succ_self n)]
    rw [last, Bytes.slice, Nat.add_sub_cancel, Nat.add_sub_cancel_left, List.take_one,
      List.head?_drop]

/-- A letter or digit stands before an offset. -/
lemma any_slice_before {source : Bytes} {offset : Nat} (inside : offset ≤ source.length) :
    (Bytes.slice source (offset - 1) offset).any isWordByte = true ↔
      ∃ b ∈ (source.take offset).getLast?, isWordByte b = true := by
  rw [slice_before inside]
  simp

/-- What stands after a space is apart from its neighbours if nothing that can be part of an
identifier follows. -/
lemma detached_space {front back : Bytes} :
    Detached (front ++ [0x20]) back ↔ ∀ b ∈ back.head?, isIdentifierByte b = false := by
  rw [Detached, List.getLast?_append, List.getLast?_singleton, Option.some_or]
  refine and_iff_right ?_
  intro b same
  cases same
  rfl

/-- The expression that renders nothing, which is put in the place of an element, stands apart from
its neighbours exactly if nothing that can be part of an identifier follows, and if what stands
before it is no such thing, or else a letter or a digit in a return statement or before the body of
an arrow function. -/
theorem remove_detached_iff (document : Document) (element : Element)
    (below : element.place.ancestors ≠ []) (expression : element.place.isContent = false)
    (inside : element.place.taken.start ≤ document.source.length) :
    ∃ edit front, element.remove document = .ok [edit] ∧
      Edit.render document.source [edit] =
        .ok (front ++ Placement.word "null" ++ document.source.drop element.place.taken.stop) ∧
      front.length + 4 = element.place.taken.start + edit.replacement.length ∧
      (Detached front (document.source.drop element.place.taken.stop) ↔
        (∀ b ∈ (document.source.take element.place.taken.start).getLast?,
          isIdentifierByte b = true →
            isWordByte b = true ∧ SetsApart element.place.enclosing?) ∧
          ∀ b ∈ document.source[element.place.taken.stop]?, isIdentifierByte b = false) := by
  have recorded := remove_eq document below
  rw [if_neg (by simp [expression])] at recorded
  have length : (document.source.take element.place.taken.start).length =
      element.place.taken.start := by
    rw [List.length_take, min_eq_left inside]
  have judged := emptyExpression_cases document.source element.place.taken element.place.enclosing?
  rw [any_slice_before inside] at judged
  rcases judged with ⟨⟨apart, b, last, letter⟩, text⟩ | ⟨bare, text⟩
  · rw [text] at recorded
    refine ⟨_, document.source.take element.place.taken.start ++ [0x20], recorded, ?_, ?_, ?_⟩
    · rw [render_single]
      simp [Placement.word]
    · rw [List.length_append, length]
      rfl
    · rw [detached_space, List.head?_drop]
      refine (and_iff_right ?_).symm
      intro other same _
      cases last.symm.trans same
      exact ⟨letter, apart⟩
  · rw [text] at recorded
    refine ⟨_, document.source.take element.place.taken.start, recorded, render_single _ _, ?_, ?_⟩
    · rw [length]
      rfl
    · rw [Detached, List.head?_drop]
      refine and_congr_left fun _ => ⟨?_, ?_⟩
      · intro plain b last identifier
        rw [plain b last] at identifier
        cases identifier
      · intro word b last
        by_contra identifier
        obtain ⟨letter, apart⟩ := word b last (by simpa using identifier)
        exact bare ⟨apart, b, last, letter⟩

end Element

namespace Sample.Keyword

/-- A keyword directly before an element between parentheses. -/
def source (keyword : String) : Bytes :=
  Placement.word keyword ++ Placement.word "(<b/>);"

/-- The element, behind its opening parenthesis. -/
def bold (offset : Nat) : Node :=
  part .selfClosing (offset + 1) (offset + 5)
    [mark "<" (offset + 1) (offset + 2), tagName (offset + 2) (offset + 3),
      mark "/>" (offset + 3) (offset + 5)]

/-- The parentheses around the element. -/
def parentheses (offset : Nat) : Node :=
  part .parentheses offset (offset + 6)
    [mark "(" offset (offset + 1), bold offset, mark ")" (offset + 5) (offset + 6)]

/-- A statement of some kind that begins with the keyword. -/
def statement (keyword : String) (kind : Kind) : Node :=
  part kind 0 (keyword.length + 7) [mark keyword 0 keyword.length, parentheses keyword.length,
    mark ";" (keyword.length + 6) (keyword.length + 7)]

/-- The file with the statement. -/
def document (keyword : String) (kind : Kind) : Document :=
  ⟨source keyword, part (.other "program") 0 (keyword.length + 7) [statement keyword kind], .tsx⟩

/-- The element where it stands. -/
def element (keyword : String) (kind : Kind) : Element :=
  ⟨⟨bold keyword.length, [(parentheses keyword.length, 1), (statement keyword kind, 1),
    ((document keyword kind).root, 0)]⟩, .selfClosing, "b", ⟨1, keyword.length + 1⟩⟩

end Sample.Keyword

namespace Element

/-- After `return` a space is put, so that the expression stands apart. -/
theorem remove_detached_iff_sample :
    (Sample.Keyword.element "return" .returnStatement).place.ancestors ≠ [] ∧
      (Sample.Keyword.element "return" .returnStatement).place.isContent = false ∧
      (Sample.Keyword.element "return" .returnStatement).place.taken.start ≤
        (Sample.Keyword.source "return").length ∧
      (Sample.Keyword.element "return" .returnStatement).remove
        (Sample.Keyword.document "return" .returnStatement) =
          .ok [⟨6, 12, Placement.word " null"⟩] ∧
      Edit.render (Sample.Keyword.source "return") [⟨6, 12, Placement.word " null"⟩] =
        .ok (Placement.word "return " ++ Placement.word "null" ++ Placement.word ";") ∧
      Detached (Placement.word "return ") (Placement.word ";") := by
  have below : (Sample.Keyword.element "return" .returnStatement).place.ancestors ≠ [] := by
    decide +kernel
  have expression : (Sample.Keyword.element "return" .returnStatement).place.isContent = false := by
    decide +kernel
  have inside : (Sample.Keyword.element "return" .returnStatement).place.taken.start ≤
      (Sample.Keyword.source "return").length := by decide +kernel
  have recorded : (Sample.Keyword.element "return" .returnStatement).remove
      (Sample.Keyword.document "return" .returnStatement) =
        .ok [⟨6, 12, Placement.word " null"⟩] := by
    decide +kernel
  have rendered : Edit.render (Sample.Keyword.source "return") [⟨6, 12, Placement.word " null"⟩] =
      .ok (Placement.word "return " ++ Placement.word "null" ++ Placement.word ";") := by
    decide +kernel
  have rest : (Sample.Keyword.source "return").drop
      (Sample.Keyword.element "return" .returnStatement).place.taken.stop = Placement.word ";" := by
    decide +kernel
  obtain ⟨edit, front, same, output, _, detached⟩ := remove_detached_iff
    (Sample.Keyword.document "return" .returnStatement)
    (Sample.Keyword.element "return" .returnStatement) below expression inside
  cases recorded.symm.trans same
  have split := Except.ok.inj (rendered.symm.trans output)
  simp only [Sample.Keyword.document, rest] at split detached
  cases List.append_cancel_right (List.append_cancel_right split)
  refine ⟨below, expression, inside, recorded, rendered, detached.2 ⟨?_, by decide +kernel⟩⟩
  intro b last _
  cases last
  exact ⟨rfl, _, rfl, .inl rfl⟩

/-- After `throw` none is: in a tree that is laid out, the expression that replaces an element
between parentheses runs into the keyword, and the file is written. -/
theorem remove_fuses :
    (Sample.Keyword.document "throw" (.other "throw_statement")).root.LaidOut ∧
      (Sample.Keyword.element "throw" (.other "throw_statement")).place ∈
        Place.markup (Sample.Keyword.document "throw" (.other "throw_statement")).root ∧
      (Sample.Keyword.element "throw" (.other "throw_statement")).place.isContent = false ∧
      (Sample.Keyword.source "throw")[5]? = some 0x28 ∧
      (Sample.Keyword.source "throw")[10]? = some 0x29 ∧
      (Sample.Keyword.element "throw" (.other "throw_statement")).remove
        (Sample.Keyword.document "throw" (.other "throw_statement")) =
          .ok [⟨5, 11, Placement.word "null"⟩] ∧
      Edit.render (Sample.Keyword.source "throw") [⟨5, 11, Placement.word "null"⟩] =
        .ok (Placement.word "throw" ++ Placement.word "null" ++ Placement.word ";") ∧
      ¬ Detached (Placement.word "throw") (Placement.word ";") ∧
      ((Sample.editorFor (Sample.Keyword.source "throw")
          (Sample.Keyword.document "throw" (.other "throw_statement")).root).delete
        (Sample.storeOf (Sample.Keyword.source "throw")) Sample.root "page.tsx:1:6").2.get?
          Sample.path = some (Placement.word "thrownull;") := by
  refine ⟨by decide +kernel, by decide +kernel, by decide +kernel, by decide +kernel,
    by decide +kernel, by decide +kernel, by decide +kernel, by decide +kernel,
    by decide +kernel⟩

end Element

end Retouch
