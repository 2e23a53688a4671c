import Mathlib
import Retouch.Proofs.Confinement
import Retouch.Proofs.Inert
import Retouch.Proofs.Logic
import Retouch.Proofs.Prediction
import Retouch.Proofs.Search

/-!
# Requests without defects

`Document.Sound` says what reading a document relies on: nodes start and stop between characters,
strings stand between quotes of one byte, and no decimal reference is too long to be read. In a
sound document everything that is classified can be read, and what is asked for can be written, so
no request for a name that a file system admits meets a defect (`Editor.no_defect`).
-/

namespace Retouch

/-- A text whose decimal references can all be read. -/
def Reference.Bounded (t : Text) : Prop :=
  ∀ digits, Text.ofString "&#" ++ digits <:+: t → (∀ d ∈ digits, d.isAsciiDigit = true) →
    digits.length ≤ Numeral.digitLimit

/-- A byte of ASCII stands at an offset. -/
def Bytes.isNarrow (source : Bytes) (offset : Nat) : Bool :=
  source[offset]?.any (·.toNat < 0x80)

/-- What reading a document relies on: every node starts and stops between two characters, every
string is at least two bytes long and begins and ends with a quote of one byte, and no text holds a
decimal reference with more digits than are read. -/
structure Document.Sound (document : Document) : Prop where
  starts : ∀ node ∈ document.root.preorder, Utf8.isBoundary document.source node.start = true
  stops : ∀ node ∈ document.root.preorder, Utf8.isBoundary document.source node.stop = true
  strings : ∀ node ∈ document.root.preorder, node.kind = .string → node.start + 2 ≤ node.stop ∧
    document.source.isNarrow node.start = true ∧ document.source.isNarrow (node.stop - 1) = true
  bounded : ∀ node ∈ document.root.preorder, node.kind = .text ∨ node.kind = .reference →
    ∀ t, document.text node = .ok t → Reference.Bounded t

namespace Reference

variable {t : Text}

/-- What stands in a text whose references can be read is such a text. -/
lemma Bounded.of_infix {part : Text} (bounded : Bounded t) (inside : part <:+: t) : Bounded part :=
  fun digits held decimal => bounded digits (held.trans inside) decimal

/-- A text that is not too long holds no reference that is. -/
lemma bounded_of_length (short : t.length ≤ Numeral.digitLimit) : Bounded t := by
  intro digits inside _
  have size := inside.length_le
  rw [List.length_append] at size
  omega

/-- A reference that is not too long is read. -/
lemma read?_ok (bounded : Bounded (CodePoint.ofChar '&' :: t)) : Succeeds (read? t) := by
  cases t with
  | nil => exact .ok _
  | cons c rest =>
    simp only [read?]
    split
    · rename_i numeric
      subst numeric
      have short : (rest.takeWhile CodePoint.isAsciiDigit).length ≤ Numeral.digitLimit := by
        refine bounded _ (List.IsPrefix.isInfix ?_) fun d mem => List.mem_takeWhile_imp mem
        exact List.prefix_append_right_inj (Text.ofString "&#") |>.2 (List.takeWhile_prefix _)
      rw [if_neg (not_lt.2 short)]
      split
      · exact .ok _
      · split
        · exact .ok _
        · split
          · exact .ok _
          · exact .ok _
    · split
      · exact .ok _
      · exact .ok _

/-- The references of a text are resolved if none of them is too long. -/
lemma resolveAfter_ok (passed : Nat) (bounded : Bounded t) : Succeeds (resolveAfter passed t) := by
  induction t generalizing passed with
  | nil => cases passed <;> exact .ok _
  | cons c t ih =>
    have rest := bounded.of_infix (List.suffix_cons c t).isInfix
    cases passed with
    | succ passed => exact ih passed rest
    | zero =>
      rw [resolveAfter]
      split
      · rename_i ampersand
        subst ampersand
        refine (read?_ok bounded).bind fun found _ => ?_
        cases found with
        | none => exact (ih 0 rest).bind fun _ _ => .pure _
        | some found => exact (ih found.1 rest).bind fun _ _ => .pure _
      · exact (ih 0 rest).bind fun _ _ => .pure _

end Reference

namespace Document

variable {document : Document} {source : Text} {node : Node}

/-- A sound document can be read node by node. -/
lemma Sound.readable (sound : document.Sound) : document.Readable where
  starts := sound.starts
  stops := sound.stops
  strings node mem kind := by
    have long := (sound.strings node mem kind).1
    omega

section Reading

variable (sound : document.Sound) (valid : Utf8.decode document.source = .ok source)
include sound valid

/-- Every node can be read. -/
lemma text_ok (mem : node ∈ document.root.preorder) : Succeeds (document.text node) :=
  textBetween_ok valid (sound.starts node mem) (sound.stops node mem)

omit valid in
/-- The references that a node holds are resolved. -/
lemma resolve_ok (mem : node ∈ document.root.preorder)
    (kind : node.kind = .text ∨ node.kind = .reference) {t : Text}
    (read : document.text node = .ok t) : Succeeds (Reference.resolve t) :=
  Reference.resolveAfter_ok 0 (sound.bounded node mem kind t read)

/-- Every part of a string has a value. -/
lemma partValue?_ok (mem : node ∈ document.root.preorder) :
    Succeeds (document.partValue? node) := by
  unfold partValue?
  split
  · exact (text_ok sound valid mem).bind fun _ _ => .pure _
  · rename_i kind
    refine (text_ok sound valid mem).bind fun t read => ?_
    exact (resolve_ok sound mem (.inr kind) read).bind fun _ _ => .pure _
  · exact .pure _

/-- A string has a value from every boundary on. -/
lemma stringValueFrom_ok {stop offset : Nat} {parts : List Node}
    (ends : Utf8.isBoundary document.source stop = true)
    (begins : Utf8.isBoundary document.source offset = true)
    (held : ∀ part ∈ parts, part ∈ document.root.preorder) :
    Succeeds (document.stringValueFrom stop offset parts) := by
  induction parts generalizing offset with
  | nil => exact textBetween_ok valid begins ends
  | cons part parts ih =>
    have mem := held part List.mem_cons_self
    have others := fun other listed => held other (List.mem_cons_of_mem part listed)
    rw [stringValueFrom]
    refine (partValue?_ok sound valid mem).bind fun value _ => ?_
    cases value with
    | none => exact ih begins others
    | some value =>
      refine (textBetween_ok valid begins (sound.starts part mem)).bind fun _ _ => ?_
      exact (ih (sound.stops part mem) others).bind fun _ _ => .pure _

/-- Every string has a value: its quotes are no part of a character. -/
lemma stringValue_ok (mem : node ∈ document.root.preorder) (kind : node.kind = .string) :
    Succeeds (document.stringValue node) := by
  obtain ⟨long, opening, closing⟩ := sound.strings node mem kind
  rw [Bytes.isNarrow, Option.any_eq_true] at opening closing
  obtain ⟨first, here, narrow⟩ := opening
  obtain ⟨last, there, narrow'⟩ := closing
  have quote : document.closingQuote node = node.stop - 1 := by
    rw [closingQuote, if_neg (by omega)]
  rw [stringValue, quote]
  refine stringValueFrom_ok sound valid (Utf8.isBoundary_of_narrow there (by simpa using narrow'))
    (Utf8.isBoundary_succ valid here (by simpa using narrow)) fun part child => ?_
  exact Node.mem_preorder_trans (Node.mem_preorder_of_child child part.self_mem_preorder) mem

/-- It can be decided whether a node is a literal, and which. -/
lemma literalValue?_ok (mem : node ∈ document.root.preorder) :
    Succeeds (document.literalValue? node) := by
  unfold literalValue?
  split
  · exact .ok _
  · rename_i inner inside
    have listed := Node.mem_preorder_trans (Node.mem_preorder_of_insideParentheses? inside) mem
    split
    · rename_i kind
      exact (stringValue_ok sound valid listed kind).map _
    · split
      · exact .ok _
      · exact (text_ok sound valid listed).map _
    · exact .ok _

end Reading

end Document

section Classifying

variable {document : Document} {source : Text} {node : Node}
variable (sound : document.Sound) (valid : Utf8.decode document.source = .ok source)
include sound valid

namespace ClassName

/-- The branches of a choice are read without a defect. -/
lemma branch_ok {branch : Option Node} (held : ∀ node ∈ branch, node ∈ document.root.preorder) :
    Succeeds (ClassName.branch document branch) := by
  cases branch with
  | none => exact .ok _
  | some node =>
    refine (Document.literalValue?_ok sound valid (held node rfl)).bind fun value _ => ?_
    cases value with
    | none => exact (Document.text_ok sound valid (held node rfl)).bind fun _ _ => .pure _
    | some value => exact .pure _

/-- An expression for a class name is read without a defect. -/
lemma ofExpression_ok (mem : node ∈ document.root.preorder) :
    Succeeds (ofExpression document node) := by
  unfold ofExpression
  refine (Document.text_ok sound valid mem).bind fun expression _ => ?_
  split
  · rename_i choice inside
    split
    · have held (field : Field) : ∀ part ∈ choice.child? field, part ∈ document.root.preorder := by
        intro part found
        have child :=
          Node.mem_preorder_of_child (List.mem_of_find?_eq_some found) part.self_mem_preorder
        exact Node.mem_preorder_trans
          (Node.mem_preorder_trans child (Node.mem_preorder_of_insideParentheses? inside)) mem
      refine (branch_ok sound valid (held .condition)).bind fun _ _ => ?_
      refine (branch_ok sound valid (held .consequence)).bind fun _ _ => ?_
      exact (branch_ok sound valid (held .alternative)).bind fun _ _ => .pure _
    · exact .pure _
  · exact .pure _

/-- The value of an attribute is read without a defect. -/
lemma ofValue_ok (mem : node ∈ document.root.preorder) : Succeeds (ofValue document node) := by
  unfold ofValue
  split
  · rename_i kind
    exact (Document.stringValue_ok sound valid mem kind).bind fun _ _ => .pure _
  · split
    · exact .pure _
    · rename_i inner first
      have listed := Node.mem_preorder_trans (Node.mem_preorder_of_firstSignificant? first) mem
      refine (Document.literalValue?_ok sound valid listed).bind fun value _ => ?_
      cases value with
      | none => exact ofExpression_ok sound valid listed
      | some value => exact .pure _
  · exact (Document.text_ok sound valid mem).bind fun _ _ => .pure _

/-- An attribute is read without a defect, whether it is there or not. -/
lemma ofAttribute_ok {attr : Option Attribute}
    (held : ∀ found ∈ attr, found.node ∈ document.root.preorder) :
    Succeeds (ofAttribute document attr) := by
  cases attr with
  | none => exact .ok _
  | some attr =>
    rw [ofAttribute]
    split
    · exact (Document.text_ok sound valid (held attr rfl)).bind fun _ _ => .pure _
    · rename_i value valued
      have child := Node.mem_preorder_of_child (Attribute.value?_mem valued) value.self_mem_preorder
      exact ofValue_ok sound valid (Node.mem_preorder_trans child (held attr rfl))

end ClassName

/-- The attributes of an element can be looked through. -/
lemma Attribute.find?_ok {attrs : List Attribute} (name : Text)
    (held : ∀ attr ∈ attrs, attr.node ∈ document.root.preorder) :
    Succeeds (find? document name attrs) := by
  induction attrs with
  | nil => exact .ok _
  | cons attr attrs ih =>
    have named : Succeeds (attr.name document) := by
      unfold Attribute.name
      split
      · exact .ok _
      · rename_i first others children
        have child : first ∈ attr.node.children := by
          have listed : first ∈ attr.node.namedChildren := children ▸ List.mem_cons_self
          exact (List.mem_filter.1 listed).1
        exact Document.text_ok sound valid (Node.mem_preorder_trans
          (Node.mem_preorder_of_child child first.self_mem_preorder) (held attr List.mem_cons_self))
    rw [find?]
    refine named.bind fun text _ => ?_
    split
    · exact .pure _
    · exact ih fun other mem => held other (List.mem_cons_of_mem attr mem)

/-- Every attribute of a node can be classified. -/
lemma ClassName.attribute_ok (mem : node ∈ document.root.preorder) (name : Text) :
    Succeeds (do ofAttribute document (← node.attribute? document name)) := by
  have held : ∀ attr ∈ node.attributes, attr.node ∈ document.root.preorder := by
    intro attr listed
    obtain ⟨_, before, after, split, _⟩ := Attribute.mem_amongChildren listed
    have child : attr.node ∈ node.openingTag.children := by
      rw [split]
      exact List.mem_append_right before List.mem_cons_self
    exact Node.mem_preorder_trans (Node.mem_preorder_trans
      (Node.mem_preorder_of_child child attr.node.self_mem_preorder) node.openingTag_mem_preorder)
        mem
  refine (Attribute.find?_ok sound valid name held).bind fun attr found => ?_
  refine ofAttribute_ok sound valid fun attr' same => ?_
  cases same
  exact held attr' (Attribute.find?_eq_some found).1

namespace TextContent

/-- The children of an element are read without a defect between any two characters. -/
lemma ofNodes_ok {stop offset : Nat} {done run : Text} {nodes : List Node}
    (ends : Utf8.isBoundary document.source stop = true)
    (begins : Utf8.isBoundary document.source offset = true)
    (held : ∀ node ∈ nodes, node ∈ document.root.preorder) :
    Succeeds (ofNodes document stop done run offset nodes) := by
  induction nodes generalizing offset done run with
  | nil => exact (Document.textBetween_ok valid begins ends).bind fun _ _ => .pure _
  | cons node nodes ih =>
    have mem := held node List.mem_cons_self
    have others := fun other listed => held other (List.mem_cons_of_mem node listed)
    have next {done run : Text} : Succeeds (ofNodes document stop done run node.stop nodes) :=
      ih (sound.stops node mem) others
    have dynamic : Succeeds (do return dynamic .dynamicExpression (some (← document.text node))) :=
      (Document.text_ok sound valid mem).bind fun _ _ => .pure _
    rw [ofNodes]
    refine (Document.textBetween_ok valid begins (sound.starts node mem)).bind fun gap _ => ?_
    split
    · rename_i kind
      refine (Document.text_ok sound valid mem).bind fun t read => ?_
      exact (Document.resolve_ok sound mem (.inl kind) read).bind fun _ _ => next
    · rename_i kind
      refine (Document.text_ok sound valid mem).bind fun t read => ?_
      exact (Document.resolve_ok sound mem (.inr kind) read).bind fun _ _ => next
    · split
      · exact next
      · rename_i inner found
        split
        · rename_i kind
          obtain ⟨first, held, inside⟩ := Option.bind_eq_some_iff.1 found
          have listed := Node.mem_preorder_trans (Node.mem_preorder_trans
            (Node.mem_preorder_of_insideParentheses? inside)
              (Node.mem_preorder_of_firstSignificant? held)) mem
          exact (Document.stringValue_ok sound valid listed kind).bind fun _ _ => next
        · exact dynamic
    · exact dynamic

/-- The content of every node can be classified. -/
lemma ofElement_ok (mem : node ∈ document.root.preorder) : Succeeds (ofElement document node) := by
  have below {child : Node} (listed : child ∈ node.children) : child ∈ document.root.preorder :=
    Node.mem_preorder_trans (Node.mem_preorder_of_child listed child.self_mem_preorder) mem
  unfold ofElement
  split
  · exact .ok _
  · exact .ok _
  · rename_i start stop spanned _
    obtain ⟨opening, closing, opens, closes, rfl, rfl⟩ := Node.contentSpan?_eq_some spanned
    split
    · exact .ok _
    · exact ofNodes_ok sound valid
        (sound.starts closing (below (Node.closingTag?_eq_some closes).2.1))
        (sound.stops opening (below (Node.openingTag?_eq_some opens).2.1))
        fun child listed => below (Node.mem_of_mem_content listed)

end TextContent

/-- The element at a place of the document can be read. -/
lemma Element.ofPlace_ok {place : Place} (mem : place.node ∈ document.root.preorder) :
    Succeeds (ofPlace document place) := by
  refine succeeds_ofPlace.2 fun name named => ?_
  exact Document.text_ok sound valid (Node.mem_preorder_trans (Node.tagName?_mem named) mem)

end Classifying

namespace Element

variable {document : Document} {element : Element}

/-- The tag of an element that has been read holds no surrogates. -/
lemma isScalar_tag {place : Place} (read : ofPlace document place = .ok element) :
    element.tag.isScalar = true := by
  unfold ofPlace at read
  simp only at read
  split at read
  · cases read
    exact Text.isScalar_ofString _
  · split at read
    · rw [bind_eq_ok] at read
      obtain ⟨tag, text, read⟩ := read
      cases read
      exact (Utf8.decode_eq_ok.1 (mapError_eq_ok.1 text)).1
    · cases read
      rfl

/-- A text without surrogates can be put between tags, unless there is no place for it. -/
lemma setContent_error {text : Text} {failure : Failure} (plain : element.tag.isScalar = true)
    (scalar : text.isScalar = true) (h : element.setContent text = .error failure) :
    failure.kind = .serialization := by
  have replaced {start stop : Nat} {content : Text} (written : content.isScalar = true) :
      (do return [← Edit.replace start stop content]) ≠ Except.error (ε := Failure) failure := by
    obtain ⟨edit, replaces⟩ := Edit.replace_of_scalar written start stop
    rw [replaces]
    rintro ⟨⟩
  have written :
      Text.isScalar (if (Text.strip text).isEmpty then [] else Literal.content text) = true := by
    split
    · rfl
    · unfold Literal.content
      split
      · exact Literal.isScalar_braced scalar
      · exact scalar
  simp only [setContent] at h
  generalize (if (Text.strip text).isEmpty = true then [] else Literal.content text) =
    content at h written
  split at h
  · exact absurd h (replaced written)
  · split at h
    · cases h
      rfl
    · split at h
      · cases h
      · refine absurd h (replaced ?_)
        simp [written, plain]

end Element

namespace Editor

variable {document : Document} {element : Element} {source : Text}

/-- The edits for a text without surrogates meet no defect. -/
lemma textEdits_kind {requested : Option Text} {failure : Failure} (sound : document.Sound)
    (valid : Utf8.decode document.source = .ok source) (mem : element.node ∈ document.root.preorder)
    (plain : element.tag.isScalar = true) (scalar : ∀ text ∈ requested, text.isScalar = true)
    (h : textEdits document element requested = .error failure) : failure.kind ≠ .internal := by
  cases requested with
  | none => cases h
  | some text =>
    obtain ⟨report, worded⟩ := TextContent.ofElement_ok sound valid mem
    simp only [textEdits, worded, lift_ok, ok_bind] at h
    cases report with
    | dynamic reason expression =>
      cases h
      simp [Failure.kind]
    | static current =>
      simp only at h
      split at h
      · cases h
      · rw [Element.setContent_error plain (scalar text rfl) h]
        decide

/-- The edits of an update that asks for texts without surrogates meet no defect. -/
lemma updateEdits_kind {updates : Updates} {failure : Failure} (sound : document.Sound)
    (valid : Utf8.decode document.source = .ok source) (mem : element.node ∈ document.root.preorder)
    (plain : element.tag.isScalar = true)
    (scalar : ∀ name ∈ updates.className, name.isScalar = true)
    (scalar' : ∀ text ∈ updates.textContent, text.isScalar = true)
    (h : updateEdits document element updates = .error failure) : failure.kind ≠ .internal := by
  obtain ⟨report, named⟩ := ClassName.attribute_ok sound valid mem ClassName.attributeName
  unfold updateEdits at h
  rcases classNameEdits_cases sound.readable valid mem named scalar with
    ⟨_, _, refused⟩ | ⟨_, first, recorded⟩
  · rw [refused] at h
    cases h
    simp [Failure.kind]
  · rw [recorded, ok_bind] at h
    cases second : textEdits document element updates.textContent with
    | error other =>
      rw [second] at h
      cases h
      exact textEdits_kind sound valid mem plain scalar' second
    | ok edits =>
      rw [second] at h
      cases h

/-- Carrying out edits meets no defect. -/
lemma commit_ne_internal {σ : Type} [Store σ] (editor : Editor) (store : σ) (path : Path)
    (document : Document) (edits : List Edit) :
    (editor.commit store path document edits).1.errorKind ≠ some .internal := by
  intro failed
  rcases commit_errorKind editor store path document edits _ failed with kind | kind
  · cases kind
  · cases kind

section Finding

-- The identifier leads to sound documents at most.
variable {σ : Type} [Store σ] {editor : Editor} {store : σ} {root : Path} {id : Text}
    (sound : ∀ target document, Editor.target store root id = .ok target →
      editor.load store target = .ok document → document.Sound)
include sound

/-- A search meets a defect exactly if the identifier does. -/
lemma find_internal_iff (fragments : Bool) :
    (∃ failure, editor.find store root id fragments = .error failure ∧ failure.kind = .internal) ↔
      ∃ failure, Editor.target store root id = .error failure ∧ failure.kind = .internal := by
  constructor
  · rintro ⟨failure, failed, internal⟩
    rcases find_eq_error failed with
      lost | ⟨target, leads, unloaded | ⟨document, loaded, unlocated⟩⟩
    · exact ⟨failure, lost, internal⟩
    · rcases load_kind unloaded with kind | kind
      · cases kind.symm.trans internal
      · cases kind.symm.trans internal
    · rcases Element.search_eq_error unlocated with kind | ⟨place, listed, defect, unread, _⟩
      · cases kind.symm.trans internal
      · obtain ⟨_, ⟨source, valid⟩, _⟩ := load_eq_ok loaded
        have mem := Place.node_mem_preorder (List.mem_filter.1 listed).1
        obtain ⟨element, read⟩ := Element.ofPlace_ok (sound target document leads loaded) valid mem
        cases unread.symm.trans read
  · rintro ⟨failure, strays, internal⟩
    exact ⟨failure, find_of_target_error strays, internal⟩

/-- An element that is found stands in a sound document, and its tag holds no surrogates. -/
lemma sound_of_find {fragments : Bool} {target : Target} {document : Document} {element : Element}
    (found : editor.find store root id fragments = .ok (target, document, element)) :
    document.Sound ∧ (∃ source, Utf8.decode document.source = .ok source) ∧
      element.node ∈ document.root.preorder ∧ element.tag.isScalar = true := by
  obtain ⟨leads, loaded, located⟩ := find_eq_ok.1 found
  obtain ⟨_, valid, _⟩ := load_eq_ok loaded
  obtain ⟨_, read, _⟩ := Element.search_eq_ok located
  exact ⟨sound target document leads loaded, valid, (Element.node_of_locate located).1,
    Element.isScalar_tag read⟩

/-- An analysis meets a defect exactly if the identifier does. -/
lemma analyze_internal_iff :
    (editor.analyze store root id).errorKind = some .internal ↔
      ∃ failure, Editor.target store root id = .error failure ∧ failure.kind = .internal := by
  rw [← find_internal_iff sound false]
  cases search : editor.find store root id false with
  | error failure =>
    rw [analyze_of_error search]
    simp [AnalysisReport.failed]
  | ok found =>
    obtain ⟨target, document, element⟩ := found
    obtain ⟨sound, ⟨source, valid⟩, mem, _⟩ := sound_of_find sound search
    obtain ⟨className, named⟩ := ClassName.attribute_ok sound valid mem ClassName.attributeName
    obtain ⟨textContent, worded⟩ := TextContent.ofElement_ok sound valid mem
    rcases analyze_of_found search with ⟨defect, unread | unread, _⟩ | ⟨_, _, _, _, report⟩
    · cases named.symm.trans unread
    · cases worded.symm.trans unread
    · rw [report]
      simp [AnalysisReport.found]

/-- An update that asks for texts without surrogates meets a defect exactly if the identifier
does. -/
lemma update_internal_iff {updates : Updates}
    (scalar : ∀ name ∈ updates.className, name.isScalar = true)
    (scalar' : ∀ text ∈ updates.textContent, text.isScalar = true) :
    (editor.update store root id updates).1.errorKind = some .internal ↔
      ∃ failure, Editor.target store root id = .error failure ∧ failure.kind = .internal := by
  rw [← find_internal_iff sound false]
  cases search : editor.find store root id false with
  | error failure =>
    rw [update_of_error search]
    simp [MutationReport.failed]
  | ok found =>
    obtain ⟨target, document, element⟩ := found
    refine iff_of_false ?_ (by simp)
    obtain ⟨sound, ⟨source, valid⟩, mem, plain⟩ := sound_of_find sound search
    cases recorded : updateEdits document element updates with
    | error failure =>
      rw [update_of_refusal search recorded]
      exact mt Option.some.inj (updateEdits_kind sound valid mem plain scalar scalar' recorded)
    | ok edits =>
      rw [update_of_edits search recorded]
      split
      · simp [MutationReport.done]
      · exact commit_ne_internal editor store target.path document edits

/-- A deletion meets a defect exactly if the identifier does. -/
lemma delete_internal_iff :
    (editor.delete store root id).1.errorKind = some .internal ↔
      ∃ failure, Editor.target store root id = .error failure ∧ failure.kind = .internal := by
  rw [← find_internal_iff sound true]
  cases search : editor.find store root id true with
  | error failure =>
    rw [delete_of_error search]
    simp [MutationReport.failed]
  | ok found =>
    obtain ⟨target, document, element⟩ := found
    refine iff_of_false ?_ (by simp)
    cases recorded : deleteEdits document element with
    | error failure =>
      rw [delete_of_refusal search recorded]
      intro failed
      rcases deleteEdits_kind recorded with kind | kind
      · cases kind.symm.trans (Option.some.inj failed)
      · cases kind.symm.trans (Option.some.inj failed)
    | ok edits =>
      rw [delete_of_edits search recorded]
      exact commit_ne_internal editor store target.path document edits

end Finding

/-- Requests meet no defect but one, if the root and the identifier hold no code point zero and the
numerals of the identifier are not too long, the texts that are asked for hold no surrogates, and
the document is sound: an identifier can be decoded and the root has no bytes as the name of a file.
In a sound document every node can be classified. -/
theorem no_defect (editor : Editor) (store : MemoryStore) (root id : Text) (updates : Updates)
    (clean : (0 : CodePoint) ∉ root) (clean' : (0 : CodePoint) ∉ id)
    (short : ∀ path line column, Location.parts? id = some (path, line, column) →
      line.length ≤ Numeral.digitLimit ∧ column.length ≤ Numeral.digitLimit)
    (scalar : ∀ name ∈ updates.className, name.isScalar = true)
    (scalar' : ∀ text ∈ updates.textContent, text.isScalar = true)
    (sound : ∀ target document, Editor.target store (Path.ofText root) id = .ok target →
      editor.load store target = .ok document → document.Sound) :
    ((editor.analyze store (Path.ofText root) id).errorKind = some .internal ↔
      root.all Path.isNameable = false ∧ ∃ location, Location.decode id = .ok location) ∧
    ((editor.update store (Path.ofText root) id updates).1.errorKind = some .internal ↔
      root.all Path.isNameable = false ∧ ∃ location, Location.decode id = .ok location) ∧
    ((editor.delete store (Path.ofText root) id).1.errorKind = some .internal ↔
      root.all Path.isNameable = false ∧ ∃ location, Location.decode id = .ok location) ∧
    ∀ document source, document.Sound → Utf8.decode document.source = .ok source →
      ∀ node ∈ document.root.preorder,
        (∀ name, ∃ report,
          (do ClassName.ofAttribute document (← node.attribute? document name)) = .ok report) ∧
        ∃ report, TextContent.ofElement document node = .ok report := by
  rw [analyze_internal_iff sound, update_internal_iff sound scalar scalar',
    delete_internal_iff sound, target_internal_iff clean clean' short]
  refine ⟨Iff.rfl, Iff.rfl, Iff.rfl, fun document source sound valid node mem => ?_⟩
  exact ⟨ClassName.attribute_ok sound valid mem, TextContent.ofElement_ok sound valid mem⟩

end Editor

namespace Sample.Short

/-- A text with a character of two bytes and a decimal reference. -/
def coded : Text := "é&#233;"

/-- The file with that text as it is parsed. -/
def codedDocument : Document :=
  ⟨literalSource coded, tree literal (Utf8.encodeAll coded).length, .tsx⟩

/-- The file is sound. -/
lemma sound_codedDocument : codedDocument.Sound where
  starts := by decide +kernel
  stops := by decide +kernel
  strings := by decide +kernel
  bounded := by
    intro node mem kind t read
    have worded : ∀ node ∈ codedDocument.root.preorder, node.kind = .text ∨ node.kind = .reference →
        codedDocument.text node = .ok coded := by decide +kernel
    cases (worded node mem kind).symm.trans read
    exact Reference.bounded_of_length (by decide)

end Sample.Short

namespace Editor

/-- A class name and a text with a reference are asked for where a reference stands already. -/
theorem no_defect_sample :
    Sample.Short.codedDocument.Sound ∧
      Editor.target (Sample.Short.literalStore Sample.Short.coded)
        (Path.ofText (Text.ofString "/project")) "page.tsx:1:0" =
          .ok (Sample.target 1 (by decide)) ∧
      ((Sample.Short.literalEditor Sample.Short.coded).update
        (Sample.Short.literalStore Sample.Short.coded) (Path.ofText (Text.ofString "/project"))
        "page.tsx:1:0" ⟨some "é", some "&#x41; é"⟩).1.errorKind ≠ some .internal := by
  have leads : Editor.target (Sample.Short.literalStore Sample.Short.coded)
      (Path.ofText (Text.ofString "/project")) "page.tsx:1:0" =
        .ok (Sample.target 1 (by decide)) := by
    decide +kernel
  have loaded : (Sample.Short.literalEditor Sample.Short.coded).load
      (Sample.Short.literalStore Sample.Short.coded) (Sample.target 1 (by decide)) =
        .ok Sample.Short.codedDocument := by decide +kernel
  have parts : Location.parts? "page.tsx:1:0" =
      some (Text.ofString "page.tsx", Text.ofString "1", Text.ofString "0") := by decide +kernel
  have answered := no_defect (Sample.Short.literalEditor Sample.Short.coded)
    (Sample.Short.literalStore Sample.Short.coded) "/project" "page.tsx:1:0"
    ⟨some "é", some "&#x41; é"⟩ (by decide +kernel) (by decide +kernel)
    (by
      intro path line column cut
      cases parts.symm.trans cut
      decide)
    (by decide +kernel) (by decide +kernel)
    (by
      intro target document leads' loaded'
      cases leads.symm.trans leads'
      cases loaded.symm.trans loaded'
      exact Sample.Short.sound_codedDocument)
  refine ⟨Sample.Short.sound_codedDocument, leads, fun failed => ?_⟩
  have nameable := (answered.2.1.1 failed).1
  revert nameable
  decide

/-- Under a root with a surrogate that stands for no byte, each request for an identifier that can
be decoded meets a defect. -/
theorem defect_of_unnameable_root :
    (0 : CodePoint) ∉ ([0x2F, 0xD800] : Text) ∧
      (Sample.editor.analyze Sample.store (Path.ofText [0x2F, 0xD800]) "page.tsx:1:0").errorKind =
        some .internal ∧
      (Sample.editor.update Sample.store (Path.ofText [0x2F, 0xD800]) "page.tsx:1:0"
        ⟨some "b", none⟩).1.errorKind = some .internal ∧
      (Sample.editor.delete Sample.store (Path.ofText [0x2F, 0xD800]) "page.tsx:1:0").1.errorKind =
        some .internal := by
  decide +kernel

end Editor

end Retouch
