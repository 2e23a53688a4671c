import Mathlib
import Retouch.Proofs.Change
import Retouch.Proofs.Literal
import Retouch.Proofs.Locate
import Retouch.Proofs.Operation
import Retouch.Proofs.Update

/-!
# What an analysis says about an update

An analysis and an update find the same element and judge it alike, so the one tells what the other
refuses: where an analysis fails, an update fails in the same way, and where it succeeds, an update
is refused exactly if it asks for a change of what is reported as dynamic (`Editor.update_refusal`).
What is reported as literal can be asked for again: nothing is changed then, as long as the text has
no blanks at its ends (`Editor.update_echo`).
-/

namespace Retouch

/-- Decides whether a class name is the value of an expression. -/
def ClassName.isDynamic : ClassName → Bool
  | .static _ => false
  | .dynamic _ _ _ _ => true

/-- Decides whether a content holds elements or expressions. -/
def TextContent.isDynamic : TextContent → Bool
  | .static _ => false
  | .dynamic _ _ => true

/-- What reading the parts of a document relies on: every node of the tree starts and stops between
two characters, and no string literal is without its quotes. -/
@[mk_iff]
structure Document.Readable (document : Document) : Prop where
  starts : ∀ node ∈ document.root.preorder, Utf8.isBoundary document.source node.start = true
  stops : ∀ node ∈ document.root.preorder, Utf8.isBoundary document.source node.stop = true
  strings : ∀ node ∈ document.root.preorder, node.kind = .string → node.start < node.stop

instance : DecidablePred Document.Readable :=
  fun document => decidable_of_iff _ (Document.readable_iff document).symm

/-- The nodes of a document can be read, and a string literal is not empty. -/
lemma Document.Readable.text {document : Document} {source : Text} {node : Node}
    (readable : document.Readable) (valid : Utf8.decode document.source = .ok source)
    (mem : node ∈ document.root.preorder) :
    ∃ t, document.text node = .ok t ∧ t.isScalar = true ∧ (node.kind = .string → t ≠ []) := by
  obtain ⟨t, read, filled⟩ :=
    Utf8.decode_slice valid (readable.starts node mem) (readable.stops node mem)
  refine ⟨t, ?_, (Utf8.decode_eq_ok.1 read).1,
    fun string => filled (readable.strings node mem string)⟩
  rw [Document.text, Document.textBetween, read]
  rfl

/-- A text without surrogates can be put in place of a span. -/
lemma Edit.replace_of_scalar {text : Text} (scalar : text.isScalar = true) (start stop : Nat) :
    ∃ edit, Edit.replace start stop text = .ok edit :=
  ⟨_, Edit.replace_eq_ok.2 ⟨_, Utf8.encode_eq_ok.2 ⟨scalar, rfl⟩, rfl⟩⟩

namespace Element

variable {document : Document} {element : Element} {source : Text}

/-- The quote of a value can be read, and is no surrogate. -/
lemma quoteOf_ok {value : Node} (readable : document.Readable)
    (valid : Utf8.decode document.source = .ok source) (mem : value ∈ document.root.preorder) :
    ∃ quote, quoteOf document value = .ok quote ∧ quote.isScalar = true := by
  unfold quoteOf
  split
  · rename_i string
    obtain ⟨t, read, scalar, filled⟩ := readable.text valid mem
    cases t with
    | nil => exact absurd rfl (filled string)
    | cons quote rest =>
      rw [Text.isScalar_cons, Bool.and_eq_true] at scalar
      refine ⟨[quote], ?_, by simp [Text.isScalar, scalar.1]⟩
      simp only [read, lift_ok, ok_bind]
      rfl
  · exact ⟨_, rfl, Text.isScalar_ofString _⟩

/-- A literal class name can be set to any text without surrogates. -/
lemma setAttribute_ok {current value : Text} (readable : document.Readable)
    (valid : Utf8.decode document.source = .ok source) (mem : element.node ∈ document.root.preorder)
    (static : ClassName.ofElement document element.node = .ok (.static current))
    (scalar : value.isScalar = true) :
    ∃ edits, element.setAttribute document ClassName.attributeName value = .ok edits := by
  unfold setAttribute
  rcases ofElement_static static with absent | ⟨attr, old, held, valued, _⟩
  · have written : Text.isScalar
        (" " ++ ClassName.attributeName ++ "=" ++ Literal.attributeValue "\"" value) = true := by
      simp [ClassName.attributeName, Literal.isScalar_attributeValue, scalar]
    obtain ⟨edit, replaced⟩ :=
      Edit.replace_of_scalar written element.node.attributeAnchor element.node.attributeAnchor
    refine ⟨[edit], ?_⟩
    simp only [absent, lift_ok, ok_bind, replaced]
    rfl
  · have inside : old ∈ document.root.preorder := by
      have child := Node.attribute?_mem held
      have below :=
        Node.mem_preorder_of_child (Attribute.value?_mem valued) (Node.self_mem_preorder old)
      exact Node.mem_preorder_trans
        (Node.mem_preorder_trans (Node.mem_preorder_of_child child below)
          (Node.openingTag_mem_preorder _)) mem
    obtain ⟨quote, quoted, plain⟩ := quoteOf_ok readable valid inside
    obtain ⟨edit, replaced⟩ := Edit.replace_of_scalar (Literal.isScalar_attributeValue plain scalar)
      old.start old.stop
    refine ⟨[edit], ?_⟩
    simp only [held, lift_ok, ok_bind, valued, quoted, replaced]
    rfl

/-- A literal class name can be removed. -/
lemma removeAttribute_ok {current : Text}
    (static : ClassName.ofElement document element.node = .ok (.static current)) :
    ∃ edits, element.removeAttribute document ClassName.attributeName = .ok edits := by
  unfold removeAttribute
  rcases ofElement_static static with absent | ⟨attr, old, held, _, _⟩
  · exact ⟨[], by simp only [absent, lift_ok, ok_bind]; rfl⟩
  · exact ⟨_, by simp only [held, lift_ok, ok_bind]; rfl⟩

/-- Setting the text of an element is never refused as a change of something dynamic. -/
lemma setContent_kind {text : Text} {failure : Failure}
    (h : element.setContent text = .error failure) : failure.kind ≠ .dynamicValue := by
  have replacing {start stop : Nat} {content : Text} {failure : Failure}
      (h : (do return [← Edit.replace start stop content]) = Except.error (ε := Failure) failure) :
      failure.kind ≠ .dynamicValue := by
    unfold Edit.replace at h
    split at h
    · cases h
    · cases h
      simp [Failure.kind]
  simp only [setContent] at h
  generalize (if (Text.strip text).isEmpty = true then [] else Literal.content text) = content at h
  split at h
  · exact replacing h
  · split at h
    · cases h
      simp [Failure.kind]
    · split at h
      · cases h
      · exact replacing h

end Element

namespace Editor

variable {σ : Type} [Store σ] {editor : Editor} {store : σ} {root : Path} {id : Text}
variable {document : Document} {element : Element} {source : Text}

/-- Source code that cannot be given after edits is a failure of the edits. -/
lemma output_kind {path : Path} {edits : List Edit} {failure : Failure}
    (h : editor.output path document edits = .error failure) : failure.kind = .serialization := by
  unfold output at h
  cases rendered : Edit.render document.source edits with
  | error other =>
    rw [rendered] at h
    cases h
    obtain ⟨position, rfl⟩ := Edit.splice_error rendered
    rfl
  | ok bytes =>
    rw [rendered] at h
    simp only [ok_bind] at h
    split at h
    · split at h
      · cases h
        rfl
      · cases h
    · cases h

/-- Carrying out edits fails because of the edits or because of the store. -/
lemma commit_errorKind (editor : Editor) (store : σ) (path : Path) (document : Document)
    (edits : List Edit) :
    ∀ kind ∈ (editor.commit store path document edits).1.errorKind, kind = .serialization ∨
      kind = .write := by
  rcases commit_outcome editor store path document edits with
    ⟨failure, refused, failed⟩ | ⟨error, after, failed⟩ | ⟨bytes, after, _, _, done⟩
  · rw [failed]
    rintro kind ⟨⟩
    exact .inl (output_kind refused)
  · rw [failed]
    rintro kind ⟨⟩
    exact .inr rfl
  · rw [done]
    rintro kind ⟨⟩

/-- Carrying out edits is never refused as a change of something dynamic. -/
lemma commit_kind (editor : Editor) (store : σ) (path : Path) (document : Document)
    (edits : List Edit) :
    (editor.commit store path document edits).1.errorKind ≠ some .dynamicValue := by
  intro refused
  rcases commit_errorKind editor store path document edits _ refused with kind | kind <;> cases kind

/-- The edits for a class name are refused as a change of something dynamic, or there are some:
which of the two depends on the report. -/
lemma classNameEdits_cases {report : ClassName} {requested : Option Text}
    (readable : document.Readable) (valid : Utf8.decode document.source = .ok source)
    (mem : element.node ∈ document.root.preorder)
    (judged : ClassName.ofElement document element.node = .ok report)
    (scalar : ∀ name ∈ requested, name.isScalar = true) :
    (requested.isSome = true ∧ report.isDynamic = true ∧
        classNameEdits document element requested = .error (.dynamicClassName element.tag)) ∨
      (¬(requested.isSome = true ∧ report.isDynamic = true) ∧
        ∃ edits, classNameEdits document element requested = .ok edits) := by
  cases requested with
  | none => exact .inr ⟨by simp, [], rfl⟩
  | some name =>
    cases report with
    | dynamic expression condition trueValue falseValue =>
      refine .inl ⟨rfl, rfl, ?_⟩
      simp only [classNameEdits, judged, lift_ok, ok_bind]
      rfl
    | static current =>
      refine .inr ⟨by simp [ClassName.isDynamic], ?_⟩
      simp only [classNameEdits, judged, lift_ok, ok_bind]
      split
      · exact ⟨[], rfl⟩
      · split
        · exact Element.removeAttribute_ok judged
        · exact Element.setAttribute_ok readable valid mem judged (scalar name rfl)

/-- The edits for a text are refused as a change of something dynamic, or they are not: which of the
two depends on the report. -/
lemma textEdits_cases {report : TextContent} (requested : Option Text)
    (judged : TextContent.ofElement document element.node = .ok report) :
    (requested.isSome = true ∧ report.isDynamic = true ∧
        ∃ reason, textEdits document element requested = .error (.dynamicText element.tag reason)) ∨
      (¬(requested.isSome = true ∧ report.isDynamic = true) ∧
        ∀ failure, textEdits document element requested = .error failure →
          failure.kind ≠ .dynamicValue) := by
  cases requested with
  | none => exact .inr ⟨by simp, by simp [textEdits]⟩
  | some text =>
    cases report with
    | dynamic reason expression =>
      refine .inl ⟨rfl, rfl, reason, ?_⟩
      simp only [textEdits, judged, lift_ok, ok_bind]
      rfl
    | static current =>
      refine .inr ⟨by simp [TextContent.isDynamic], ?_⟩
      intro failure refused
      simp only [textEdits, judged, lift_ok, ok_bind] at refused
      split at refused
      · cases refused
      · exact Element.setContent_kind refused

/-- The edits of an update are refused as a change of something dynamic exactly if one of the two is
asked to change that is reported as dynamic. -/
lemma updateEdits_refused_iff {className : ClassName} {textContent : TextContent}
    {updates : Updates} (readable : document.Readable)
    (valid : Utf8.decode document.source = .ok source) (mem : element.node ∈ document.root.preorder)
    (named : ClassName.ofElement document element.node = .ok className)
    (worded : TextContent.ofElement document element.node = .ok textContent)
    (scalar : ∀ name ∈ updates.className, name.isScalar = true) :
    (∃ failure, updateEdits document element updates = .error failure ∧
      failure.kind = .dynamicValue) ↔
      updates.className.isSome = true ∧ className.isDynamic = true ∨
        updates.textContent.isSome = true ∧ textContent.isDynamic = true := by
  unfold updateEdits
  -- The class name comes first: only if its edits are recorded does the text matter.
  rcases classNameEdits_cases readable valid mem named scalar with
    ⟨asked, dynamic, refused⟩ | ⟨allowed, first, recorded⟩
  · simp only [refused, error_bind, asked, dynamic, and_self, true_or, iff_true]
    exact ⟨_, rfl, rfl⟩
  · simp only [recorded, ok_bind, allowed, false_or]
    rcases textEdits_cases updates.textContent worded with
      ⟨asked, dynamic, reason, refused⟩ | ⟨allowed, others⟩
    · simp only [refused, error_bind, asked, dynamic, and_self, iff_true]
      exact ⟨_, rfl, rfl⟩
    · simp only [allowed, iff_false]
      rintro ⟨failure, refused, kind⟩
      cases second : textEdits document element updates.textContent with
      | ok edits =>
        rw [second] at refused
        cases refused
      | error other =>
        rw [second] at refused
        cases refused
        exact others _ second kind

/-- An update of an element that is found is refused as a change of something dynamic exactly if its
edits are. -/
lemma update_errorKind_iff {updates : Updates} {target : Target}
    (found : editor.find store root id false = .ok (target, document, element)) :
    (editor.update store root id updates).1.errorKind = some .dynamicValue ↔
      ∃ failure, updateEdits document element updates = .error failure ∧
        failure.kind = .dynamicValue := by
  cases recorded : updateEdits document element updates with
  | error failure =>
    rw [update_of_refusal found recorded]
    simp [MutationReport.failed]
  | ok edits =>
    rw [update_of_edits found recorded]
    simp only [reduceCtorEq, false_and, exists_false, iff_false]
    split
    · exact nofun
    · exact commit_kind editor store target.path document edits

/-- An analysis tells what an update refuses. -/
theorem update_refusal (editor : Editor) (store : σ) (root : Path) (id : Text) (updates : Updates)
    (scalar : ∀ name ∈ updates.className, name.isScalar = true)
    (readable : ∀ target document, Editor.target store root id = .ok target →
      editor.load store target = .ok document → document.Readable) :
    ((editor.analyze store root id).success = false →
      (editor.analyze store root id).errorKind ≠ some .internal →
        (editor.update store root id updates).1.success = false ∧
        (editor.update store root id updates).1.errorKind =
          (editor.analyze store root id).errorKind ∧
        (editor.update store root id updates).1.error = (editor.analyze store root id).error ∧
        (editor.update store root id updates).1.diagnostics =
          (editor.analyze store root id).diagnostics) ∧
      ((editor.analyze store root id).success = true →
        ((editor.update store root id updates).1.errorKind = some .dynamicValue ↔
          updates.className.isSome = true ∧
              (editor.analyze store root id).className.any ClassName.isDynamic = true ∨
            updates.textContent.isSome = true ∧
              (editor.analyze store root id).textContent.any TextContent.isDynamic = true)) := by
  constructor
  · intro failed foreseen
    rcases analyze_cases editor store root id with
      ⟨failure, lost, report⟩ | ⟨defect, report⟩ | ⟨_, _, _, _, _, _, _, _, report⟩
    · rw [update_of_error lost, report]
      exact ⟨rfl, rfl, rfl, rfl⟩
    · rw [report] at foreseen
      exact absurd rfl foreseen
    · rw [report] at failed
      cases failed
  · intro analyzed
    obtain ⟨target, document, element, className, textContent, found, named, worded, report⟩ :=
      analyze_success analyzed
    obtain ⟨leads, loaded, located⟩ := find_eq_ok.1 found
    obtain ⟨_, ⟨source, valid⟩, _⟩ := load_eq_ok loaded
    rw [update_errorKind_iff found, report,
      updateEdits_refused_iff (readable target document leads loaded) valid
        (Element.node_of_locate located).1 named worded scalar]
    rfl

end Editor

namespace Sample.Short

/-- A paragraph with a class name of three bytes, as it is written, and a text. -/
def source (className : String) (text : Text) : Bytes :=
  Utf8.encodeAll ("<p className=" ++ Text.ofString className ++ ">" ++ text ++ "</p>;")

/-- A class name that is a literal. -/
def literal : Node := part .string 13 16 []

/-- A class name that is the value of a variable. -/
def computed : Node :=
  part .container 13 16 [mark "\x7b" 13 14, part (.other "identifier") 14 15 [], mark "\x7d" 15 16]

/-- The opening tag of the paragraph. -/
def openingTag (className : Node) : Node :=
  part .openingTag 0 17 [mark "<" 0 1, tagName 1 2,
    part .attribute 3 16 [part (.other "property_identifier") 3 12 [],
      ⟨.equals, false, false, none, 12, 13, []⟩, className],
    mark ">" 16 17]

/-- The closing tag of the paragraph, from an offset on. -/
def closingTag (start : Nat) : Node :=
  part .closingTag start (start + 4)
    [mark "</" start (start + 2), tagName (start + 2) (start + 3), mark ">" (start + 3) (start + 4)]

/-- The paragraph, with a text of some bytes. -/
def paragraph (className : Node) (size : Nat) : Node :=
  part .element 0 (21 + size)
    [openingTag className, part .text 17 (17 + size) [], closingTag (17 + size)]

/-- The tree of the file. -/
def tree (className : Node) (size : Nat) : Node :=
  part (.other "program") 0 (22 + size)
    [part (.other "expression_statement") 0 (22 + size)
      [paragraph className size, mark ";" (21 + size) (22 + size)]]

/-- The text of a paragraph with a class name that is computed. -/
def computedSource : Bytes := source "\x7ba\x7d" "é"

/-- The editor that knows the tree of that file. -/
def computedEditor : Editor := editorFor computedSource (tree computed 2)

/-- That file as it is parsed. -/
def computedDocument : Document := ⟨computedSource, tree computed 2, .tsx⟩

end Sample.Short

namespace Editor

/-- A class name and a text are asked for where only the text is a literal. -/
theorem update_refusal_sample :
    (∀ name ∈ some (Text.ofString "b"), name.isScalar = true) ∧
      (∀ target document,
        Editor.target (Sample.storeOf Sample.Short.computedSource) Sample.root
          "page.tsx:1:0" = .ok target →
        Sample.Short.computedEditor.load (Sample.storeOf Sample.Short.computedSource) target =
          .ok document →
        document.Readable) ∧
      (Sample.Short.computedEditor.analyze (Sample.storeOf Sample.Short.computedSource) Sample.root
        "page.tsx:1:0").success = true ∧
      (Sample.Short.computedEditor.update (Sample.storeOf Sample.Short.computedSource) Sample.root
        "page.tsx:1:0" ⟨some "b", some "z"⟩).1.errorKind = some .dynamicValue := by
  have scalar : ∀ name ∈ some (Text.ofString "b"), name.isScalar = true := by decide
  have leads :
      Editor.target (Sample.storeOf Sample.Short.computedSource) Sample.root "page.tsx:1:0" =
        .ok (Sample.target 1 (by decide)) := by decide +kernel
  have loaded : Sample.Short.computedEditor.load (Sample.storeOf Sample.Short.computedSource)
      (Sample.target 1 (by decide)) = .ok Sample.Short.computedDocument := by decide +kernel
  have readable : ∀ target document,
      Editor.target (Sample.storeOf Sample.Short.computedSource) Sample.root
        "page.tsx:1:0" = .ok target →
      Sample.Short.computedEditor.load (Sample.storeOf Sample.Short.computedSource) target =
        .ok document →
      document.Readable := by
    intro target document leads' loaded'
    cases leads.symm.trans leads'
    cases loaded.symm.trans loaded'
    decide +kernel
  have analyzed : (Sample.Short.computedEditor.analyze (Sample.storeOf Sample.Short.computedSource)
      Sample.root "page.tsx:1:0").success = true := by decide +kernel
  have predicted :=
    update_refusal Sample.Short.computedEditor (Sample.storeOf Sample.Short.computedSource)
    Sample.root "page.tsx:1:0" ⟨some "b", some "z"⟩ scalar readable
  exact ⟨scalar, readable, analyzed, (predicted.2 analyzed).2 (.inl (by decide +kernel))⟩

variable {document : Document} {element : Element}

/-- Content that is reported with a text stands between tags. -/
lemma contentSpan?_of_static {node : Node} {text : Text} (filled : text ≠ [])
    (worded : TextContent.ofElement document node = .ok (.static text)) :
    ∃ start stop, node.contentSpan? = some (start, stop) := by
  unfold TextContent.ofElement at worded
  split at worded
  · cases worded
    exact absurd rfl filled
  · cases worded
    exact absurd rfl filled
  · rename_i start stop spanned _
    exact ⟨start, stop, spanned⟩

/-- Asking for a text between tags gives no edits exactly if it is reported without the blanks at
its ends. -/
lemma textEdits_eq_nil_iff {text : Text} {start stop : Nat}
    (spanned : element.node.contentSpan? = some (start, stop)) :
    textEdits document element (some text) = .ok [] ↔
      TextContent.ofElement document element.node = .ok (.static (Text.strip text)) := by
  unfold textEdits
  cases read : TextContent.ofElement document element.node with
  | error defect => exact ⟨nofun, nofun⟩
  | ok report =>
    cases report with
    | dynamic reason expression => exact ⟨nofun, nofun⟩
    | static current =>
      simp only [lift_ok, ok_bind]
      split
      · rename_i same
        exact ⟨fun _ => by rw [same], fun _ => rfl⟩
      · rename_i differs
        refine ⟨fun recorded => ?_, fun same => ?_⟩
        · simp only [Element.setContent, spanned, bind_eq_ok, pure_eq_ok] at recorded
          obtain ⟨edit, _, recorded⟩ := recorded
          cases recorded
        · cases same
          exact absurd rfl differs

/-- Asking for the text that is reported gives no edits exactly if it has no blanks at its ends. -/
lemma textEdits_echo {text : Text}
    (worded : TextContent.ofElement document element.node = .ok (.static text)) :
    textEdits document element (some text) = .ok [] ↔ Text.strip text = text := by
  by_cases empty : text = []
  · subst empty
    simp only [textEdits, worded, lift_ok, ok_bind]
    exact ⟨fun _ => rfl, fun _ => rfl⟩
  · obtain ⟨start, stop, spanned⟩ := contentSpan?_of_static empty worded
    rw [textEdits_eq_nil_iff spanned, worded, Except.ok.injEq, TextContent.static.injEq, eq_comm]

/-- Asking for the class name that is reported gives no edits. -/
lemma classNameEdits_echo {name : Text}
    (named : ClassName.ofElement document element.node = .ok (.static name)) :
    classNameEdits document element (some name) = .ok [] := by
  simp only [classNameEdits, named, lift_ok, ok_bind, if_true]
  rfl

variable {σ : Type} [Store σ] {editor : Editor} {store : σ} {root : Path} {id : Text}

/-- An update of an element that is found changes nothing exactly if it has no edits. -/
lemma update_unchanged_iff {updates : Updates} {target : Target}
    (found : editor.find store root id false = .ok (target, document, element)) :
    ((editor.update store root id updates).1.success = true ∧
        (editor.update store root id updates).1.changed = false ∧
        (editor.update store root id updates).2 = store) ↔
      updateEdits document element updates = .ok [] := by
  cases recorded : updateEdits document element updates with
  | error failure =>
    rw [update_of_refusal found recorded]
    refine ⟨fun unchanged => ?_, nofun⟩
    cases unchanged.1
  | ok edits =>
    rw [update_of_edits found recorded]
    cases edits with
    | nil => exact ⟨fun _ => rfl, fun _ => ⟨rfl, rfl, rfl⟩⟩
    | cons edit edits =>
      refine ⟨fun unchanged => ?_, nofun⟩
      simp only [List.isEmpty_cons, Bool.false_eq_true, if_false] at unchanged
      rcases commit_outcome editor store target.path document (edit :: edits) with
        ⟨_, _, failed⟩ | ⟨_, _, failed⟩ | ⟨_, _, _, _, done⟩
      · rw [failed] at unchanged
        cases unchanged.1
      · rw [failed] at unchanged
        cases unchanged.1
      · rw [done] at unchanged
        cases unchanged.2.1

/-- An update that asks for the class name and the text that an analysis has reported succeeds
without a change exactly if the text has no blanks at its ends. -/
theorem update_echo (editor : Editor) (store : σ) (root : Path) (id : Text) {name text : Text}
    (analyzed : (editor.analyze store root id).success = true)
    (named : (editor.analyze store root id).className = some (.static name))
    (worded : (editor.analyze store root id).textContent = some (.static text)) :
    ((editor.update store root id ⟨some name, some text⟩).1.success = true ∧
        (editor.update store root id ⟨some name, some text⟩).1.changed = false ∧
        (editor.update store root id ⟨some name, some text⟩).2 = store) ↔
      Text.strip text = text := by
  obtain ⟨target, document, element, className, textContent, found, judged, read, report⟩ :=
    analyze_success analyzed
  rw [report] at named worded
  cases named
  cases worded
  rw [update_unchanged_iff found, ← textEdits_echo read]
  simp only [updateEdits, classNameEdits_echo judged, ok_bind, bind_eq_ok, pure_eq_ok,
    List.nil_append, exists_eq_right]

end Editor

namespace Sample.Short

/-- A paragraph with a class name that is a literal, and a text. -/
def literalSource (text : Text) : Bytes := source "\"a\"" text

/-- The editor that knows the tree of that file. -/
def literalEditor (text : Text) : Editor :=
  editorFor (literalSource text) (tree literal (Utf8.encodeAll text).length)

/-- The store with that file. -/
def literalStore (text : Text) : MemoryStore := storeOf (literalSource text)

/-- The report on the paragraph. -/
def report (text : Text) : AnalysisReport :=
  (literalEditor text).analyze (literalStore text) root "page.tsx:1:0"

/-- The update of the paragraph with the class name and the text that it holds. -/
def echo (text : Text) : MutationReport × MemoryStore :=
  (literalEditor text).update (literalStore text) root "page.tsx:1:0" ⟨some "a", some text⟩

end Sample.Short

namespace Editor

/-- A text with a blank inside is reported and asked for again. -/
theorem update_echo_sample :
    (Sample.Short.report "é x").success = true ∧
      (Sample.Short.report "é x").className = some (.static "a") ∧
      (Sample.Short.report "é x").textContent = some (.static "é x") ∧
      (Sample.Short.echo "é x").1.success = true ∧ (Sample.Short.echo "é x").1.changed = false ∧
      (Sample.Short.echo "é x").2 = Sample.Short.literalStore "é x" := by
  unfold Sample.Short.report Sample.Short.echo
  have analyzed :
      ((Sample.Short.literalEditor "é x").analyze (Sample.Short.literalStore "é x") Sample.root
      "page.tsx:1:0").success = true := by decide +kernel
  have named :
      ((Sample.Short.literalEditor "é x").analyze (Sample.Short.literalStore "é x") Sample.root
      "page.tsx:1:0").className = some (.static "a") := by decide +kernel
  have worded :
      ((Sample.Short.literalEditor "é x").analyze (Sample.Short.literalStore "é x") Sample.root
      "page.tsx:1:0").textContent = some (.static "é x") := by decide +kernel
  exact ⟨analyzed, named, worded, (update_echo (Sample.Short.literalEditor "é x")
    (Sample.Short.literalStore "é x") Sample.root "page.tsx:1:0" analyzed named worded).2
      (by decide +kernel)⟩

/-- A space that does not break is reported at the start of a text, but not looked for there: asking
for the text again writes the file. -/
theorem update_echo_writes :
    (Sample.Short.report "\u00a0x").className = some (.static "a") ∧
      (Sample.Short.report "\u00a0x").textContent = some (.static "\u00a0x") ∧
      (Sample.Short.echo "\u00a0x").1.changed = true ∧
      (Sample.Short.echo "\u00a0x").2.writes = [Sample.path] := by
  decide +kernel

end Editor

end Retouch
