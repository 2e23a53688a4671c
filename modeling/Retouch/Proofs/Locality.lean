import Mathlib
import Retouch.Proofs.LineComment
import Retouch.Proofs.Position
import Retouch.Proofs.Render

/-!
# Positions after edits

Edits that neither take out nor put in a line end leave every line its number. An offset that no
edit takes is carried on by what is put in and taken out before it, to an offset on the line of the
same number, and in the same column too unless there is an edit before it on its line
(`Editor.class_name_keeps_positions`).
-/

namespace Retouch

namespace Edit

/-- An edit takes out no line end and puts in none. -/
def KeepsLines (source : Bytes) (edit : Edit) : Prop :=
  Bytes.newline ∉ Bytes.slice source edit.start edit.stop ∧ Bytes.newline ∉ edit.replacement

instance (source : Bytes) : DecidablePred (KeepsLines source) :=
  fun edit => inferInstanceAs
    (Decidable (Bytes.newline ∉ Bytes.slice source edit.start edit.stop ∧
      Bytes.newline ∉ edit.replacement))

/-- The edits before an offset. -/
def behind (edits : List Edit) (offset : Nat) : List Edit :=
  edits.filter (·.stop ≤ offset)

/-- How many bytes edits put in before an offset. -/
def added (edits : List Edit) (offset : Nat) : Nat :=
  ((behind edits offset).map (·.replacement.length)).sum

/-- How many bytes edits take out before an offset. -/
def removed (edits : List Edit) (offset : Nat) : Nat :=
  ((behind edits offset).map fun edit => edit.stop - edit.start).sum

/-- Where an offset is after edits. -/
def shift (edits : List Edit) (offset : Nat) : Nat :=
  offset + added edits offset - removed edits offset

variable {source : Bytes} {edit : Edit} {edits others : List Edit} {lo hi offset : Nat}

/-- Where an offset is after edits does not depend on their order. -/
lemma shift_perm (perm : edits.Perm others) (offset : Nat) :
    shift edits offset = shift others offset := by
  have same : (behind edits offset).Perm (behind others offset) := perm.filter _
  rw [shift, shift, added, added, removed, removed, (same.map _).sum_eq,
    (same.map fun edit => edit.stop - edit.start).sum_eq]

/-- An edit that stops before an offset is among those behind it. -/
lemma behind_cons_of_le (le : edit.stop ≤ offset) :
    behind (edit :: edits) offset = edit :: behind edits offset :=
  List.filter_cons_of_pos (by simpa using le)

/-- No edit is before an offset that the first one does not leave behind. -/
lemma Ordered.behind_eq_nil (ordered : Ordered lo hi edits) (lt : offset < lo) :
    behind edits offset = [] := by
  refine List.filter_eq_nil_iff.2 fun edit mem => ?_
  have bounds := ordered.mem mem
  simp only [decide_eq_true_eq]
  omega

/-- Between two offsets are as many bytes as they are apart. -/
lemma length_slice (source : Bytes) (start : Nat) {stop : Nat} (le : stop ≤ source.length) :
    (Bytes.slice source start stop).length = stop - start := by
  rw [Bytes.slice, List.length_take, List.length_drop]
  omega

/-- The first byte behind an offset is the one at the offset. -/
lemma head?_slice (source : Bytes) {start stop : Nat} (lt : start < stop) :
    (Bytes.slice source start stop).head? = source[start]? := by
  rw [Bytes.slice, List.head?_take, if_neg (by omega), List.head?_drop]

/-- What stands before an offset after edits from another offset on: some bytes with as many line
ends as there were before a mark, and behind them the source code from the mark up to the offset.
The mark is where the last edit before the offset stops. -/
structure Carried (source : Bytes) (edits : List Edit) (lo offset : Nat)
    (output : Bytes) (mark : Nat) (front rest : Bytes) : Prop where
  lower : lo ≤ mark
  upper : mark ≤ offset
  output_eq : output = front ++ Bytes.slice source mark offset ++ rest
  length : lo + front.length + (offset - mark) + removed edits offset = offset + added edits offset
  lines : front.count Bytes.newline = (Bytes.slice source lo mark).count Bytes.newline
  origin : mark = lo ∧ front = [] ∨ ∃ edit ∈ edits, edit.stop = mark
  next : offset < source.length → (∀ edit ∈ edits, ¬ edit.Takes offset) →
    rest.head? = source[offset]?

/-- An offset before the first edit is not carried on. -/
lemma carried_of_behind_eq_nil {output rest : Bytes} (none : behind edits offset = [])
    (le : lo ≤ offset) (split : output = Bytes.slice source lo offset ++ rest)
    (next : offset < source.length → (∀ edit ∈ edits, ¬ edit.Takes offset) →
      rest.head? = source[offset]?) :
    Carried source edits lo offset output lo [] rest where
  lower := le_rfl
  upper := le
  output_eq := split
  length := by
    simp only [removed, added, none, List.map_nil, List.sum_nil, List.length_nil]
    omega
  lines := by simp [Bytes.slice]
  origin := .inl ⟨rfl, rfl⟩
  next := next

/-- An offset behind an edit is carried on by this edit and by those behind it. -/
lemma Carried.cons {output front rest : Bytes} {mark : Nat}
    (carried : Carried source edits edit.stop offset output mark front rest)
    (keeps : edit.KeepsLines source) (lower : lo ≤ edit.start) (span : edit.start ≤ edit.stop)
    (within : offset ≤ source.length) :
    Carried source (edit :: edits) lo offset
      (Bytes.slice source lo edit.start ++ edit.replacement ++ output) mark
      (Bytes.slice source lo edit.start ++ edit.replacement ++ front) rest where
  lower := lower.trans (span.trans carried.lower)
  upper := carried.upper
  output_eq := by simp only [carried.output_eq, List.append_assoc]
  length := by
    have le := carried.lower.trans carried.upper
    have copied := length_slice source lo (span.trans (le.trans within))
    have rest := carried.length
    simp only [removed, added] at rest ⊢
    rw [behind_cons_of_le le, List.map_cons, List.map_cons, List.sum_cons, List.sum_cons,
      List.length_append, List.length_append, copied]
    omega
  lines := by
    have taken := List.count_eq_zero_of_not_mem keeps.1
    have put := List.count_eq_zero_of_not_mem keeps.2
    rw [slice_split source (lower.trans span) carried.lower, slice_split source lower span,
      List.count_append, List.count_append, List.count_append, List.count_append, taken, put,
      carried.lines]
  origin := by
    rcases carried.origin with ⟨rfl, -⟩ | ⟨last, mem, stop⟩
    · exact .inr ⟨edit, List.mem_cons_self, rfl⟩
    · exact .inr ⟨last, List.mem_cons_of_mem edit mem, stop⟩
  next := fun filled spared => carried.next filled (List.forall_mem_cons.1 spared).2

/-- Carrying out edits in order carries on every offset that is inside none of them. -/
lemma Ordered.carried (ordered : Ordered lo hi edits)
    (keeps : ∀ edit ∈ edits, edit.KeepsLines source)
    (outside : ∀ edit ∈ edits, offset ≤ edit.start ∨ edit.stop ≤ offset) (le : lo ≤ offset)
    (within : offset ≤ source.length) :
    ∃ output mark front rest, Edit.splice source lo edits = .ok output ∧
      Carried source edits lo offset output mark front rest := by
  induction ordered with
  | @nil lo hi _ =>
    refine ⟨source.drop lo, lo, [], source.drop offset, rfl,
      carried_of_behind_eq_nil rfl le ?_ fun _ _ => ?_⟩
    · rw [slice_append_drop source le]
    · exact List.head?_drop
  | @cons lo hi edit edits lower span rest ih =>
    have fits : ¬ edit.start < lo := by omega
    rcases Nat.lt_or_ge offset edit.stop with ahead | behind
    · -- the offset is before this edit, and so before all
      have before : offset ≤ edit.start :=
        (outside edit List.mem_cons_self).resolve_right (by omega)
      have none : Edit.behind (edit :: edits) offset = [] := by
        rw [Edit.behind, List.filter_cons_of_neg (by simpa using ahead)]
        exact rest.behind_eq_nil ahead
      obtain ⟨tail, spliced⟩ : ∃ tail, Edit.splice source edit.stop edits = .ok tail :=
        (rest.splice source le_rfl).imp' _ fun _ spliced => spliced
      refine ⟨Bytes.slice source lo edit.start ++ edit.replacement ++ tail, lo, [],
        Bytes.slice source offset edit.start ++ (edit.replacement ++ tail), ?_,
        carried_of_behind_eq_nil none le ?_ fun filled spared => ?_⟩
      · rw [Edit.splice, if_neg fits, spliced]
        rfl
      · rw [slice_split source le before, List.append_assoc, List.append_assoc]
      · have start : offset < edit.start := by
          have free := spared edit List.mem_cons_self
          simp only [Takes] at free
          omega
        rw [List.head?_append, head?_slice source start, List.getElem?_eq_getElem filled,
          Option.some_or]
    · obtain ⟨output, mark, front, after, spliced, carried⟩ :=
        ih (List.forall_mem_cons.1 keeps).2 (List.forall_mem_cons.1 outside).2 behind
      refine ⟨_, mark, _, after, ?_, carried.cons (keeps edit List.mem_cons_self) lower span within⟩
      rw [Edit.splice, if_neg fits, spliced]
      rfl

/-- What is before an offset is what is before an earlier one, and what is between the two. -/
lemma take_eq_append_slice (source : Bytes) {i j : Nat} (le : i ≤ j) :
    source.take j = Bytes.slice source 0 i ++ Bytes.slice source i j := by
  have whole := slice_split source (Nat.zero_le i) le
  rwa [Bytes.slice, List.drop_zero, Nat.sub_zero] at whole

/-- Between offsets on different lines there is a line end. -/
lemma newline_mem_slice {i j : Nat} (le : i ≤ j)
    (ne : (source.position i).line ≠ (source.position j).line) :
    Bytes.newline ∈ Bytes.slice source i j := by
  by_contra absent
  apply ne
  rw [Bytes.position, Bytes.position, take_eq_append_slice source le, List.count_append,
    List.count_eq_zero_of_not_mem absent, Bytes.slice, List.drop_zero]
  rfl

/-- An edit without line ends stops on the line on which it starts. -/
lemma KeepsLines.line_stop (keeps : edit.KeepsLines source) (span : edit.start ≤ edit.stop) :
    (source.position edit.stop).line = (source.position edit.start).line := by
  by_contra ne
  exact keeps.1 (newline_mem_slice span (Ne.symm ne))

/-- What is not on the line of an edit without line ends is not inside the edit. -/
lemma KeepsLines.outside (keeps : edit.KeepsLines source)
    (ne : (source.position offset).line ≠ (source.position edit.start).line) :
    offset ≤ edit.start ∨ edit.stop ≤ offset := by
  by_contra inside
  have lower : edit.start ≤ offset := by omega
  have upper : offset ≤ edit.stop := by omega
  apply keeps.1
  rw [slice_split source lower upper]
  exact List.mem_append_left _ (newline_mem_slice lower (Ne.symm ne))

/-- An offset is, after edits, behind what they carry to its front. -/
lemma Carried.shift_eq {output front rest : Bytes} {mark : Nat}
    (carried : Carried source edits 0 offset output mark front rest)
    (within : offset ≤ source.length) :
    shift edits offset = (front ++ Bytes.slice source mark offset).length := by
  have length := carried.length
  rw [List.length_append, length_slice source mark within, shift]
  omega

/-- An offset that is carried on stays on its line, and in its column too if there is a line end
since the mark. -/
lemma Carried.position {output front rest : Bytes} {mark : Nat}
    (carried : Carried source edits 0 offset output mark front rest)
    (within : offset ≤ source.length) :
    (output.position (shift edits offset)).line = (source.position offset).line ∧
      (front = [] ∧ mark = 0 ∨ Bytes.newline ∈ Bytes.slice source mark offset →
        output.position (shift edits offset) = source.position offset) := by
  have reached : output.take (shift edits offset) = front ++ Bytes.slice source mark offset := by
    rw [carried.shift_eq within, carried.output_eq, List.take_left]
  have before := take_eq_append_slice source carried.upper
  rw [Bytes.position_eq_ending, Bytes.position_eq_ending, reached, before,
    Bytes.ending, Bytes.ending, List.count_append, List.count_append, carried.lines]
  refine ⟨rfl, ?_⟩
  rintro (⟨rfl, rfl⟩ | ended)
  · simp [Bytes.slice]
  · rw [Bytes.lastLine_append_of_mem _ ended, Bytes.lastLine_append_of_mem _ ended]

/-- The byte at an offset is carried on with it, if no edit takes it. -/
lemma Carried.getElem? {output front rest : Bytes} {mark : Nat}
    (carried : Carried source edits 0 offset output mark front rest)
    (filled : offset < source.length) (spared : ∀ edit ∈ edits, ¬ edit.Takes offset) :
    output[shift edits offset]? = source[offset]? := by
  rw [carried.shift_eq filled.le, carried.output_eq,
    List.getElem?_append_right le_rfl, Nat.sub_self, ← carried.next filled spared,
    List.head?_eq_getElem?]

/-- Edits that do not overlap and keep the lines are carried out, and every offset inside none of
them stays on its line; it stays in its column too if no edit before it is on its line, and the byte
there is copied if no edit takes it. -/
lemma render_positions (apart : edits.Pairwise Apart)
    (spans : ∀ edit ∈ edits, edit.start ≤ edit.stop)
    (keeps : ∀ edit ∈ edits, edit.KeepsLines source) :
    ∃ output, render source edits = .ok output ∧ ∀ i ≤ source.length,
      (∀ edit ∈ edits, i ≤ edit.start ∨ edit.stop ≤ i) →
        (output.position (shift edits i)).line = (source.position i).line ∧
        ((∀ edit ∈ edits, edit.stop ≤ i →
          (source.position edit.start).line ≠ (source.position i).line) →
          output.position (shift edits i) = source.position i) ∧
        (i < source.length → (∀ edit ∈ edits, ¬ edit.Takes i) →
          output[shift edits i]? = source[i]?) := by
  have perm := sort_perm edits
  have ordered : Ordered 0 (edits.map (·.stop)).sum (sort edits) := by
    refine ordered_of_apart (isStableSort_sort edits).1 ((perm.pairwise_iff Apart.symm).2 apart) ?_
      (fun _ _ => Nat.zero_le _) (Nat.zero_le _)
    intro edit mem
    have held := perm.mem_iff.1 mem
    exact ⟨spans edit held, List.le_sum_of_mem (List.mem_map_of_mem held)⟩
  obtain ⟨_, spliced⟩ := ordered.splice source le_rfl
  refine ⟨_, spliced, fun i within outside => ?_⟩
  -- the edits are carried out once, and every offset is carried on by the same output
  obtain ⟨output, mark, front, rest, same, carried⟩ := ordered.carried
    (fun edit mem => keeps edit (perm.mem_iff.1 mem))
    (fun edit mem => outside edit (perm.mem_iff.1 mem)) (Nat.zero_le i) within
  cases spliced.symm.trans same
  rw [← shift_perm perm]
  obtain ⟨line, column⟩ := carried.position within
  refine ⟨line, fun elsewhere => column ?_, fun filled spared => ?_⟩
  · rcases carried.origin with ⟨start, none⟩ | ⟨edit, mem, rfl⟩
    · exact .inl ⟨none, start⟩
    · -- the last edit before the offset stops on the line on which it starts, which is another one
      have held := perm.mem_iff.1 mem
      have stop := (keeps edit held).line_stop (spans edit held)
      refine .inr (newline_mem_slice carried.upper ?_)
      rw [stop]
      exact elsewhere edit held carried.upper
  · exact carried.getElem? filled fun edit mem => spared edit (perm.mem_iff.1 mem)

end Edit

namespace Element

variable {document : Document} {element : Element} {edits : List Edit}

/-- Where no text is asked for, there are no edits but those for the class name. -/
lemma updateEdits_className {className : Text}
    (recorded : Editor.updateEdits document element ⟨some className, none⟩ = .ok edits) :
    ClassNameChange document element edits := by
  simp only [Editor.updateEdits, bind_eq_ok, pure_eq_ok] at recorded
  obtain ⟨first, named, second, worded, rfl⟩ := recorded
  cases worded
  rw [List.append_nil]
  exact classNameEdits_change named

/-- A class name is changed by one edit. -/
lemma ClassNameChange.exists_single (change : ClassNameChange document element edits)
    (some : edits ≠ []) : ∃ edit, edits = [edit] := by
  cases change with
  | none => exact absurd rfl some
  | insert _ _ => exact ⟨_, rfl⟩
  | replace _ _ _ _ => exact ⟨_, rfl⟩
  | remove _ _ _ => exact ⟨_, rfl⟩

end Element

namespace Editor

variable {σ : Type} [Store σ]

/-- An update that changes the file has edits. -/
lemma ne_nil_of_changed {editor : Editor} {store : σ} {root : Path} {id : Text} {updates : Updates}
    {target : Target} {document : Document} {element : Element} {edits : List Edit}
    (found : editor.find store root id false = .ok (target, document, element))
    (recorded : updateEdits document element updates = .ok edits)
    (changed : (editor.update store root id updates).1.changed = true) : edits ≠ [] := by
  rintro rfl
  rw [update_of_edits found recorded] at changed
  cases changed

/-- Edits that do not overlap, and that neither take out nor put in a line end, leave every offset
inside none of them on its line, and in its column too if no edit before it is on its line. So an
update of a class name alone, if its edit is such, leaves the position of every opening tag on
another line as it is. -/
theorem class_name_keeps_positions :
    (∀ (source : Bytes) (edits : List Edit), edits.Pairwise Edit.Apart →
      (∀ edit ∈ edits, edit.start ≤ edit.stop) → (∀ edit ∈ edits, edit.KeepsLines source) →
      ∃ output, Edit.render source edits = .ok output ∧ ∀ i ≤ source.length,
        (∀ edit ∈ edits, i ≤ edit.start ∨ edit.stop ≤ i) →
          (output.position (Edit.shift edits i)).line = (source.position i).line ∧
          ((∀ edit ∈ edits, edit.stop ≤ i →
            (source.position edit.start).line ≠ (source.position i).line) →
            output.position (Edit.shift edits i) = source.position i) ∧
          (i < source.length → (∀ edit ∈ edits, ¬ edit.Takes i) →
            output[Edit.shift edits i]? = source[i]?)) ∧
    ∀ (editor : Editor) (store : σ) (root : Path) (id className : Text),
      (editor.update store root id ⟨some className, none⟩).1.changed = true →
      ∃ target document element edit bytes,
        editor.find store root id false = .ok (target, document, element) ∧
        updateEdits document element ⟨some className, none⟩ = .ok [edit] ∧
        Edit.render document.source [edit] = .ok bytes ∧
        Store.write store target.path bytes =
          (.ok (), (editor.update store root id ⟨some className, none⟩).2) ∧
        (document.root.WellFormed → edit.start ≤ edit.stop) ∧
        (edit.start ≤ edit.stop → edit.KeepsLines document.source →
          ∀ place ∈ Place.markup document.root,
            place.node.openingTag.start ≤ document.source.length →
            (document.position place.node.openingTag).line ≠
              (document.source.position edit.start).line →
            bytes.position (Edit.shift [edit] place.node.openingTag.start) =
              document.position place.node.openingTag) := by
  refine ⟨fun source edits => Edit.render_positions,
    fun editor store root id className changed => ?_⟩
  obtain ⟨path, document, edits, bytes, plans, rendered, wrote⟩ :=
    written_of_changed (update_cases editor store root id ⟨some className, none⟩) changed
  cases plans with
  | @update _ _ target _ element _ found recorded =>
    obtain ⟨edit, rfl⟩ := (Element.updateEdits_className recorded).exists_single
      (ne_nil_of_changed found recorded changed)
    refine ⟨target, document, element, edit, bytes, found, recorded, rendered, wrote,
      fun tree => ?_, ?_⟩
    · obtain ⟨_, _, located⟩ := find_eq_ok.1 found
      have ordered := updateEdits_ordered tree (Element.node_of_locate located).1
        (Element.kind_of_locate located rfl) recorded
      exact (ordered.mem (List.mem_singleton_self edit)).2.1
    · intro span keeps place mem within other
      obtain ⟨output, same, kept⟩ := Edit.render_positions (List.pairwise_singleton Edit.Apart edit)
        (List.forall_mem_singleton.2 span) (List.forall_mem_singleton.2 keeps)
      cases rendered.symm.trans same
      refine (kept _ within ?_).2.1 ?_
      · exact List.forall_mem_singleton.2 (keeps.outside other)
      · exact List.forall_mem_singleton.2 fun _ => Ne.symm other

end Editor

/-- A space behind the paragraph of the sample, and nothing in place of its class name. -/
def Sample.shortened : List Edit := [⟨29, 29, Placement.word " "⟩, ⟨13, 18, []⟩]

namespace Editor

/-- Two edits on the first line leave the tag on the second line at its beginning, and so does a
longer class name for the element on the first line. -/
theorem class_name_keeps_positions_sample :
    (Sample.shortened.Pairwise Edit.Apart ∧ (∀ edit ∈ Sample.shortened, edit.start ≤ edit.stop) ∧
      (∀ edit ∈ Sample.shortened, edit.KeepsLines Sample.source) ∧
      ∃ output, Edit.render Sample.source Sample.shortened = .ok output ∧
        output.position 27 = ⟨2, 0⟩ ∧ output[27]? = Sample.source[31]?) ∧
    (Sample.editor.update Sample.store Sample.root "page.tsx:1:0" ⟨some "longer", none⟩).1.changed =
      true ∧
      updateEdits Sample.document Sample.paragraphElement ⟨some "longer", none⟩ =
        .ok [⟨13, 18, Placement.word "\"longer\""⟩] ∧
      Edit.KeepsLines Sample.source ⟨13, 18, Placement.word "\"longer\""⟩ ∧
      ∃ bytes, Edit.render Sample.source [⟨13, 18, Placement.word "\"longer\""⟩] = .ok bytes ∧
        bytes.position 34 = ⟨2, 0⟩ := by
  obtain ⟨general, named⟩ := class_name_keeps_positions (σ := MemoryStore)
  constructor
  · have apart : Sample.shortened.Pairwise Edit.Apart := List.pairwise_pair.2 (.inr (by decide))
    have spans : ∀ edit ∈ Sample.shortened, edit.start ≤ edit.stop := by decide
    have keeps : ∀ edit ∈ Sample.shortened, edit.KeepsLines Sample.source := by decide +kernel
    obtain ⟨output, rendered, kept⟩ := general Sample.source Sample.shortened apart spans keeps
    obtain ⟨_, column, byte⟩ := kept 31 (by decide +kernel) (by decide)
    exact ⟨apart, spans, keeps, output, rendered, column (by decide +kernel),
      byte (by decide +kernel) (by decide)⟩
  · have changed : (Sample.editor.update Sample.store Sample.root "page.tsx:1:0"
        ⟨some "longer", none⟩).1.changed = true := by decide +kernel
    have found : Sample.editor.find Sample.store Sample.root "page.tsx:1:0" false =
        .ok (Sample.target 1 (by decide), Sample.document, Sample.paragraphElement) := by
          decide +kernel
    have expected : updateEdits Sample.document Sample.paragraphElement ⟨some "longer", none⟩ =
        .ok [⟨13, 18, Placement.word "\"longer\""⟩] := by decide +kernel
    have keeps : Edit.KeepsLines Sample.source ⟨13, 18, Placement.word "\"longer\""⟩ := by
      decide +kernel
    have held : Sample.boldElement.place ∈ Place.markup Sample.document.root := by decide +kernel
    obtain ⟨_, _, _, _, bytes, again, recorded, rendered, _, _, kept⟩ :=
      named Sample.editor Sample.store Sample.root "page.tsx:1:0" "longer" changed
    cases found.symm.trans again
    cases expected.symm.trans recorded
    exact ⟨changed, expected, keeps, bytes, rendered,
      kept (by decide) keeps Sample.boldElement.place held (by decide +kernel) (by decide +kernel)⟩

end Editor

end Retouch
