import Mathlib
import Retouch.Editor
import Retouch.Proofs.Span
import Retouch.Proofs.Splice

/-!
# What updates record

The edits that an update records are described by two relations, one for the class name and one for
the text. `ClassNameChange` holds for no edit, for a new attribute at the anchor of the tag, for a
new value in place of a literal one, and for the removal of an attribute with a literal value.
`TextChange` holds for no edit, for new content between the tags where all content is literal, and
for a tag that closes itself and is opened (`updateEdits_changes`).
-/

namespace Retouch

namespace Element

variable {document : Document} {element : Element} {edits : List Edit}

/-- The edits that a change of the class name can consist of. -/
inductive ClassNameChange (document : Document) (element : Element) : List Edit → Prop where
  | none : ClassNameChange document element []
  | insert {text : Text} {bytes : Bytes} :
    element.node.attribute? document ClassName.attributeName = .ok none →
    Utf8.encode text = .ok bytes →
    ClassNameChange document element
      [⟨element.node.attributeAnchor, element.node.attributeAnchor, bytes⟩]
  | replace {attr : Attribute} {value : Node} {current text : Text} {bytes : Bytes} :
    element.node.attribute? document ClassName.attributeName = .ok (some attr) →
    attr.value? = some value →
    ClassName.ofValue document value = .ok (.static current) →
    Utf8.encode text = .ok bytes →
    ClassNameChange document element [⟨value.start, value.stop, bytes⟩]
  | remove {attr : Attribute} {value : Node} {current : Text} :
    element.node.attribute? document ClassName.attributeName = .ok (some attr) →
    attr.value? = some value →
    ClassName.ofValue document value = .ok (.static current) →
    ClassNameChange document element [⟨attr.removalStart, attr.node.stop, []⟩]

/-- The edits that a change of the text can consist of. -/
inductive TextChange (document : Document) (element : Element) : List Edit → Prop where
  | none : TextChange document element []
  | content {start stop : Nat} {current text : Text} {bytes : Bytes} :
    element.node.contentSpan? = some (start, stop) →
    TextContent.ofElement document element.node = .ok (.static current) →
    Utf8.encode text = .ok bytes →
    TextChange document element [⟨start, stop, bytes⟩]
  | expand {text : Text} {bytes : Bytes} :
    element.node.kind = .selfClosing →
    Utf8.encode text = .ok bytes →
    TextChange document element [⟨element.node.attributeAnchor, element.node.stop, bytes⟩]

/-- A class name is literal if there is none, or if its attribute has a literal value. -/
lemma ofElement_static {current : Text}
    (h : ClassName.ofElement document element.node = .ok (.static current)) :
    element.node.attribute? document ClassName.attributeName = .ok none ∨
      ∃ attr value, element.node.attribute? document ClassName.attributeName = .ok (some attr) ∧
        attr.value? = some value ∧ ClassName.ofValue document value = .ok (.static current) := by
  rw [ClassName.ofElement, bind_eq_ok] at h
  obtain ⟨found, looked, h⟩ := h
  cases found with
  | none => exact .inl looked
  | some attr =>
    simp only [ClassName.ofAttribute] at h
    split at h
    · -- an attribute without a value is a truth value
      rw [bind_eq_ok] at h
      obtain ⟨_, _, h⟩ := h
      cases h
    · rename_i value held
      exact .inr ⟨attr, value, looked, held, h⟩

/-- Setting a class name where it is literal inserts an attribute or replaces a literal value. -/
lemma setAttribute_cases {current value : Text}
    (static : ClassName.ofElement document element.node = .ok (.static current))
    (h : element.setAttribute document ClassName.attributeName value = .ok edits) :
    (∃ text bytes, element.node.attribute? document ClassName.attributeName = .ok none ∧
        Utf8.encode text = .ok bytes ∧
        edits = [⟨element.node.attributeAnchor, element.node.attributeAnchor, bytes⟩]) ∨
      ∃ attr old text bytes, element.node.attribute? document ClassName.attributeName =
        .ok (some attr) ∧
        attr.value? = some old ∧ ClassName.ofValue document old = .ok (.static current) ∧
        Utf8.encode text = .ok bytes ∧ edits = [⟨old.start, old.stop, bytes⟩] := by
  rw [setAttribute, bind_eq_ok] at h
  obtain ⟨found, looked, h⟩ := h
  rw [lift_eq_ok] at looked
  rcases ofElement_static static with absent | ⟨attr, old, held, valued, literal⟩
  · cases looked.symm.trans absent
    simp only [bind_eq_ok, pure_eq_ok, Edit.replace_eq_ok] at h
    obtain ⟨edit, ⟨bytes, encoded, rfl⟩, rfl⟩ := h
    exact .inl ⟨_, bytes, absent, encoded, rfl⟩
  · cases looked.symm.trans held
    simp only [valued, bind_eq_ok, pure_eq_ok, Edit.replace_eq_ok] at h
    obtain ⟨quote, _, edit, ⟨bytes, encoded, rfl⟩, rfl⟩ := h
    exact .inr ⟨attr, old, _, bytes, held, valued, literal, encoded, rfl⟩

/-- Setting a class name where it is literal is a change of the class name. -/
lemma setAttribute_change {current value : Text}
    (static : ClassName.ofElement document element.node = .ok (.static current))
    (h : element.setAttribute document ClassName.attributeName value = .ok edits) :
    ClassNameChange document element edits := by
  rcases setAttribute_cases static h with
    ⟨_, _, absent, encoded, rfl⟩ | ⟨_, _, _, _, held, valued, literal, encoded, rfl⟩
  · exact .insert absent encoded
  · exact .replace held valued literal encoded

/-- Removing a class name where it is literal is a change of the class name. -/
lemma removeAttribute_change {current : Text}
    (static : ClassName.ofElement document element.node = .ok (.static current))
    (h : element.removeAttribute document ClassName.attributeName = .ok edits) :
    ClassNameChange document element edits := by
  rw [removeAttribute, bind_eq_ok] at h
  obtain ⟨found, looked, h⟩ := h
  rw [lift_eq_ok] at looked
  rcases ofElement_static static with absent | ⟨attr, old, held, valued, literal⟩
  · cases looked.symm.trans absent
    cases h
    exact .none
  · cases looked.symm.trans held
    cases h
    exact .remove held valued literal

/-- The edits for a class name are a change of it. -/
lemma classNameEdits_change {requested : Option Text}
    (h : Editor.classNameEdits document element requested = .ok edits) :
    ClassNameChange document element edits := by
  cases requested with
  | none =>
    cases h
    exact .none
  | some value =>
    simp only [Editor.classNameEdits, bind_eq_ok, lift_eq_ok] at h
    obtain ⟨report, judged, h⟩ := h
    cases report with
    | dynamic _ _ _ _ => cases h
    | static current =>
      simp only at h
      split at h
      · cases h
        exact .none
      · split at h
        · exact removeAttribute_change judged h
        · exact setAttribute_change judged h

/-- Setting the text where the content is literal is a change of the text. -/
lemma setContent_change {current text : Text}
    (static : TextContent.ofElement document element.node = .ok (.static current))
    (h : element.setContent text = .ok edits) : TextChange document element edits := by
  simp only [setContent] at h
  generalize (if (Text.strip text).isEmpty = true then [] else Literal.content text) = content at h
  split at h
  · rename_i start stop spanned
    simp only [bind_eq_ok, pure_eq_ok, Edit.replace_eq_ok] at h
    obtain ⟨edit, ⟨bytes, encoded, rfl⟩, rfl⟩ := h
    exact .content spanned static encoded
  · split at h
    · cases h
    · rename_i closes
      split at h
      · cases h
        exact .none
      · simp only [bind_eq_ok, pure_eq_ok, Edit.replace_eq_ok] at h
        obtain ⟨edit, ⟨bytes, encoded, rfl⟩, rfl⟩ := h
        exact .expand (not_not.1 closes) encoded

/-- The edits for a text are a change of it. -/
lemma textEdits_change {requested : Option Text}
    (h : Editor.textEdits document element requested = .ok edits) :
    TextChange document element edits := by
  cases requested with
  | none =>
    cases h
    exact .none
  | some text =>
    simp only [Editor.textEdits, bind_eq_ok, lift_eq_ok] at h
    obtain ⟨report, judged, h⟩ := h
    cases report with
    | dynamic _ _ => cases h
    | static current =>
      simp only at h
      split at h
      · cases h
        exact .none
      · exact setContent_change judged h

/-- The edits of an update are those for the class name, then those for the text. -/
lemma updateEdits_changes {updates : Updates}
    (h : Editor.updateEdits document element updates = .ok edits) :
    ∃ first second, edits = first ++ second ∧ ClassNameChange document element first ∧
      TextChange document element second := by
  simp only [Editor.updateEdits, bind_eq_ok, pure_eq_ok] at h
  obtain ⟨first, named, second, worded, rfl⟩ := h
  exact ⟨first, second, rfl, classNameEdits_change named, textEdits_change worded⟩

end Element

end Retouch
