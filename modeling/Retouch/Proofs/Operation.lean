import Mathlib
import Retouch.Proofs.Outcome

/-!
# Operations step by step

What each of the three operations answers, given what the search for its element has given. An
analysis fails with the search, or meets a defect, or reports on the element
(`Editor.analyze_cases`). An update and a deletion fail with the search too; after a search that
succeeds they fail with their edits or carry them out.
-/

namespace Retouch

namespace Editor

variable {σ : Type} [Store σ] {editor : Editor} {store : σ} {root : Path} {id : Text}

/-- A file that cannot be loaded cannot be read or does not parse. -/
lemma load_kind {target : Target} {failure : Failure}
    (h : editor.load store target = .error failure) :
    failure.kind = .fileRead ∨ failure.kind = .parse := by
  unfold load at h
  split at h
  · cases h
    exact .inl rfl
  · rename_i source _
    split at h
    · cases h
      exact .inl rfl
    · cases parsed : Document.parse editor.grammar target.language source with
      | error fault =>
        rw [parsed] at h
        cases h
        exact .inr rfl
      | ok document =>
        rw [parsed] at h
        cases h

/-- A search fails in one of its three steps. -/
lemma find_eq_error {fragments : Bool} {failure : Failure}
    (h : editor.find store root id fragments = .error failure) :
    Editor.target store root id = .error failure ∨
      ∃ target, Editor.target store root id = .ok target ∧
        (editor.load store target = .error failure ∨
          ∃ document, editor.load store target = .ok document ∧
            editor.locate document target.location fragments = .error failure) := by
  unfold find at h
  cases leads : Editor.target store root id with
  | error other =>
    rw [leads] at h
    cases h
    exact .inl rfl
  | ok target =>
    refine .inr ⟨target, rfl, ?_⟩
    rw [leads, ok_bind] at h
    cases loaded : editor.load store target with
    | error other =>
      rw [loaded] at h
      cases h
      exact .inl rfl
    | ok document =>
      refine .inr ⟨document, rfl, ?_⟩
      rw [loaded, ok_bind] at h
      cases located : editor.locate document target.location fragments with
      | error other =>
        rw [located] at h
        cases h
        rfl
      | ok element =>
        rw [located] at h
        cases h

/-- A search fails if the identifier does not lead to a file. -/
lemma find_of_target_error {fragments : Bool} {failure : Failure}
    (lost : Editor.target store root id = .error failure) :
    editor.find store root id fragments = .error failure := by
  simp only [find, lost, error_bind]

/-- An analysis that finds no element fails as the search does. -/
lemma analyze_of_error {failure : Failure}
    (lost : editor.find store root id false = .error failure) :
    editor.analyze store root id = .failed id failure := by
  simp only [analyze, lost, error_bind]

/-- An analysis of an element that is found meets a defect in its class name or its text, or it
reports both. -/
lemma analyze_of_found {target : Target} {document : Document} {element : Element}
    (found : editor.find store root id false = .ok (target, document, element)) :
    (∃ defect, (ClassName.ofElement document element.node = .error defect ∨
          TextContent.ofElement document element.node = .error defect) ∧
        editor.analyze store root id = .failed id (.unexpected defect)) ∨
      ∃ className textContent, ClassName.ofElement document element.node = .ok className ∧
        TextContent.ofElement document element.node = .ok textContent ∧
        editor.analyze store root id =
          .found id element.tag className textContent
            (Placement.ofPlace document element.place) := by
  unfold analyze
  rw [found]
  cases named : ClassName.ofElement document element.node with
  | error defect =>
    exact .inl ⟨defect, .inl rfl, by simp only [ok_bind, named, lift_error, error_bind]⟩
  | ok className =>
    cases worded : TextContent.ofElement document element.node with
    | error defect =>
      exact .inl ⟨defect,
        .inr rfl, by simp only [ok_bind, named, worded, lift_ok, lift_error, error_bind]⟩
    | ok textContent =>
      refine .inr ⟨className, textContent, rfl, rfl, ?_⟩
      simp only [ok_bind, named, worded, lift_ok]
      rfl

/-- An analysis fails because no element is found, or because of a defect in what is found, or it
reports the tag, the class name, the text and the placement of the element that is found. -/
lemma analyze_cases (editor : Editor) (store : σ) (root : Path) (id : Text) :
    (∃ failure, editor.find store root id false = .error failure ∧
        editor.analyze store root id = .failed id failure) ∨
      (∃ defect, editor.analyze store root id = .failed id (.unexpected defect)) ∨
      ∃ target document element className textContent,
        editor.find store root id false = .ok (target, document, element) ∧
        ClassName.ofElement document element.node = .ok className ∧
        TextContent.ofElement document element.node = .ok textContent ∧
        editor.analyze store root id =
          .found id element.tag className textContent
            (Placement.ofPlace document element.place) := by
  cases search : editor.find store root id false with
  | error failure => exact .inl ⟨failure, rfl, analyze_of_error search⟩
  | ok found =>
    obtain ⟨target, document, element⟩ := found
    rcases analyze_of_found search with
      ⟨defect, _, failed⟩ | ⟨className, textContent, named, worded, report⟩
    · exact .inr (.inl ⟨defect, failed⟩)
    · exact .inr
        (.inr ⟨target, document, element, className, textContent, rfl, named, worded, report⟩)

/-- An analysis that succeeds reports on the element that is found. -/
lemma analyze_success (analyzed : (editor.analyze store root id).success = true) :
    ∃ target document element className textContent,
      editor.find store root id false = .ok (target, document, element) ∧
      ClassName.ofElement document element.node = .ok className ∧
      TextContent.ofElement document element.node = .ok textContent ∧
      editor.analyze store root id =
        .found id element.tag className textContent (Placement.ofPlace document element.place) := by
  rcases analyze_cases editor store root id with ⟨_, _, failed⟩ | ⟨_, failed⟩ | found
  · rw [failed] at analyzed
    cases analyzed
  · rw [failed] at analyzed
    cases analyzed
  · exact found

/-- An update that finds no element fails as the search does. -/
lemma update_of_error {updates : Updates} {failure : Failure}
    (lost : editor.find store root id false = .error failure) :
    editor.update store root id updates = (.failed failure, store) := by
  simp only [update, lost, error_bind]

/-- An update of an element that is found fails if its edits do. -/
lemma update_of_refusal {updates : Updates} {target : Target} {document : Document}
    {element : Element} {failure : Failure}
    (found : editor.find store root id false = .ok (target, document, element))
    (refused : updateEdits document element updates = .error failure) :
    editor.update store root id updates = (.failed failure, store) := by
  simp only [update, found, refused, ok_bind, error_bind]

/-- An update of an element that is found carries out its edits, if there are any. -/
lemma update_of_edits {updates : Updates} {target : Target} {document : Document}
    {element : Element} {edits : List Edit}
    (found : editor.find store root id false = .ok (target, document, element))
    (recorded : updateEdits document element updates = .ok edits) :
    editor.update store root id updates =
      if edits.isEmpty then (.done target.path false, store)
      else editor.commit store target.path document edits := by
  simp only [update, found, recorded, ok_bind]
  rfl

/-- Carrying out edits fails because they give no source code, or because the file cannot be
written, or it writes the source code that they give. -/
lemma commit_outcome (editor : Editor) (store : σ) (path : Path) (document : Document)
    (edits : List Edit) : (∃ failure, editor.output path document edits = .error failure ∧
        editor.commit store path document edits = (.failed failure, store)) ∨
      (∃ error after, editor.commit store path document edits =
        (.failed (.unwritable path error), after)) ∨
      ∃ bytes after, editor.output path document edits = .ok bytes ∧
        Store.write store path bytes = (.ok (), after) ∧
        editor.commit store path document edits = (.done path true, after) := by
  unfold commit
  split
  · rename_i failure refused
    exact .inl ⟨failure, refused, rfl⟩
  · rename_i bytes given
    split
    · rename_i error after _
      exact .inr (.inl ⟨error, after, rfl⟩)
    · rename_i after wrote
      exact .inr (.inr ⟨bytes, after, given, wrote, rfl⟩)

/-- Where there is nothing to do, or else a plan is carried out, a change that is reported has been
written as planned. -/
lemma written_of_changed {result : MutationReport × σ}
    {planned : Path → Document → List Edit → Prop}
    (outcome : (∃ report, report.changed = false ∧ result = (report, store)) ∨
      ∃ path document edits, planned path document edits ∧
        result = editor.commit store path document edits)
    (changed : result.1.changed = true) :
    ∃ path document edits bytes, planned path document edits ∧
      Edit.render document.source edits = .ok bytes ∧
      Store.write store path bytes = (.ok (), result.2) := by
  rcases outcome with ⟨report, same, rfl⟩ | ⟨path, document, edits, plans, rfl⟩
  · rw [same] at changed
    cases changed
  · rcases commit_outcome editor store path document edits with
      ⟨_, _, failed⟩ | ⟨_, _, failed⟩ | ⟨bytes, after, given, wrote, done⟩
    · rw [failed] at changed
      cases changed
    · rw [failed] at changed
      cases changed
    · rw [done]
      exact ⟨path, document, edits, bytes, plans, (output_eq_ok given).1, wrote⟩

/-- A request that changes a file carries out what it plans. -/
lemma answer_changed {request : Request}
    (changed : (editor.answer root store request).1.changed = true) :
    ∃ path document edits bytes, editor.Plans store root request path document edits ∧
      Edit.render document.source edits = .ok bytes ∧
      Store.write store path bytes = (.ok (), (editor.answer root store request).2) := by
  cases request with
  | analyze id => cases changed
  | update id updates =>
    exact written_of_changed (update_cases editor store root id updates) changed
  | delete id => exact written_of_changed (delete_cases editor store root id) changed

/-- A deletion that finds no element fails as the search does. -/
lemma delete_of_error {failure : Failure} (lost : editor.find store root id true = .error failure) :
    editor.delete store root id = (.failed failure, store) := by
  simp only [delete, lost, error_bind]

/-- A deletion of an element that is found fails if its edits do. -/
lemma delete_of_refusal {target : Target} {document : Document} {element : Element}
    {failure : Failure} (found : editor.find store root id true = .ok (target, document, element))
    (refused : deleteEdits document element = .error failure) :
    editor.delete store root id = (.failed failure, store) := by
  simp only [delete, found, refused, ok_bind, error_bind]

/-- A deletion of an element that is found carries out its edits. -/
lemma delete_of_edits {target : Target} {document : Document} {element : Element}
    {edits : List Edit} (found : editor.find store root id true = .ok (target, document, element))
    (recorded : deleteEdits document element = .ok edits) :
    editor.delete store root id = editor.commit store target.path document edits := by
  simp only [delete, found, recorded, ok_bind]
  rfl

/-- The edits of a deletion are refused for the place of the element. -/
lemma deleteEdits_kind {document : Document} {element : Element} {failure : Failure}
    (h : deleteEdits document element = .error failure) :
    failure.kind = .unsafeDeletion ∨ failure.kind = .serialization := by
  unfold deleteEdits at h
  split at h
  · cases h
    exact .inl rfl
  · simp only [Element.remove] at h
    split at h
    · cases h
      exact .inr rfl
    · split at h
      · cases h
      · split at h <;> cases h

/-- A deletion that succeeds has found an element that is placed statically, and has written the
file without it. -/
lemma delete_success (deleted : (editor.delete store root id).1.success = true) :
    ∃ target document element edits bytes,
      editor.find store root id true = .ok (target, document, element) ∧
      Placement.ofPlace document element.place = .static ∧ element.remove document = .ok edits ∧
      Edit.render document.source edits = .ok bytes ∧
      Store.write store target.path bytes = (.ok (), (editor.delete store root id).2) := by
  unfold delete at deleted ⊢
  cases search : editor.find store root id true with
  | error failure =>
    rw [search] at deleted
    cases deleted
  | ok found =>
    obtain ⟨target, document, element⟩ := found
    simp only [search, ok_bind, deleteEdits] at deleted ⊢
    cases placed : Placement.ofPlace document element.place with
    | dynamic reason =>
      rw [placed] at deleted
      cases deleted
    | static =>
      simp only [placed] at deleted ⊢
      cases removed : element.remove document with
      | error failure =>
        rw [removed] at deleted
        cases deleted
      | ok edits =>
        simp only [removed, ok_bind, pure, Except.pure] at deleted ⊢
        rcases commit_outcome editor store target.path document edits with
          ⟨_, _, failed⟩ | ⟨_, _, failed⟩ | ⟨bytes, after, given, wrote, done⟩
        · rw [failed] at deleted
          cases deleted
        · rw [failed] at deleted
          cases deleted
        · refine ⟨target, document, element, edits, bytes, rfl, placed, removed,
            (output_eq_ok given).1, ?_⟩
          rw [done]
          exact wrote

end Editor

end Retouch
