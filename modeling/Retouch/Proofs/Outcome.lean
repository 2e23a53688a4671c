import Mathlib
import Retouch.Proofs.Step
import Retouch.Proofs.Tree
import Retouch.Session

/-!
# Outcomes of operations

An operation that does not fail has passed through all of its steps: the identifier names a file
below the root, the file holds source code without faults, and an element of it stands at the
position. `Plans` says what a request is then about to do: which file it changes, on the basis of
which document, and by which edits. A request either leaves the store alone or carries out what it
plans (`Editor.update_cases`, `Editor.delete_cases`).
-/

namespace Retouch

deriving instance DecidableEq for Document
deriving instance DecidableEq for Element
deriving instance DecidableEq for Target

/-- Source code parses exactly if its tree holds no fault. -/
lemma Document.parse_eq_ok {grammar : Grammar} {language : Language} {source : Bytes}
    {document : Document} :
    Document.parse grammar language source = .ok document ↔
      (grammar language source).hasFault = false ∧
        document = ⟨source, grammar language source, language⟩ := by
  simp only [Document.parse]
  cases (grammar language source).hasFault with
  | true => simp
  | false => simp [eq_comm]

namespace Editor

variable {σ : Type} [Store σ] {editor : Editor} {store : σ} {root : Path} {id : Text}

/-- The file that an identifier leads to lies below the root, and its extension names its
language. -/
lemma target_eq_ok {target : Target} (h : Editor.target store root id = .ok target) :
    ∃ base, Location.decode id = .ok target.location ∧ Store.resolve store root = .ok base ∧
      Store.resolve store (base.join (Path.ofText target.location.path)) = .ok target.path ∧
      base.isWithin target.path = true ∧ Language.ofPath target.path = .ok target.language := by
  unfold Editor.target at h
  simp only [bind_eq_ok, lift_eq_ok] at h
  obtain ⟨location, decoded, base, resolved, path, joined, h⟩ := h
  by_cases within : base.isWithin path = true
  · simp only [within, Bool.not_true, Bool.false_eq_true, if_false, bind_eq_ok, pure_eq_ok] at h
    obtain ⟨language, known, rfl⟩ := h
    exact ⟨base, decoded, resolved, joined, within, known⟩
  · simp [within, bind_eq_ok] at h

/-- A document that is loaded holds the content of its file, with the tree of the file's
language. -/
lemma load_eq_ok {target : Target} {document : Document}
    (h : editor.load store target = .ok document) :
    Store.read store target.path = .ok document.source ∧
      (∃ text, Utf8.decode document.source = .ok text) ∧
      document.language = target.language ∧
      document.root = editor.grammar target.language document.source ∧
      document.root.hasFault = false := by
  unfold load at h
  split at h
  · cases h
  · rename_i source read
    split at h
    · cases h
    · rename_i text decoded
      rw [mapError_eq_ok, Document.parse_eq_ok] at h
      obtain ⟨clean, rfl⟩ := h
      exact ⟨read, ⟨text, decoded⟩, rfl, rfl, clean⟩

/-- Finding an element succeeds if each of its three steps does. -/
lemma find_eq_ok {fragments : Bool} {target : Target} {document : Document} {element : Element} :
    editor.find store root id fragments = .ok (target, document, element) ↔
      Editor.target store root id = .ok target ∧ editor.load store target = .ok document ∧
        editor.locate document target.location fragments = .ok element := by
  unfold find
  simp only [bind_eq_ok, pure_eq_ok]
  constructor
  · rintro ⟨t, leads, d, loaded, e, located, same⟩
    cases same
    exact ⟨leads, loaded, located⟩
  · rintro ⟨leads, loaded, located⟩
    exact ⟨target, leads, document, loaded, element, located, rfl⟩

/-- What a request is about to do: the file that it changes, the document on the basis of which it
does, and the edits that it has recorded. -/
inductive Plans (editor : Editor) (store : σ) (root : Path) :
    Request → Path → Document → List Edit → Prop where
  | update {id : Text} {updates : Updates} {target : Target} {document : Document}
      {element : Element}
      {edits : List Edit} :
    editor.find store root id false = .ok (target, document, element) →
    updateEdits document element updates = .ok edits →
    Plans editor store root (.update id updates) target.path document edits
  | delete {id : Text} {target : Target} {document : Document} {element : Element}
      {edits : List Edit} :
    editor.find store root id true = .ok (target, document, element) →
    deleteEdits document element = .ok edits →
    Plans editor store root (.delete id) target.path document edits

/-- Every plan is made for an element that was found in the file. -/
lemma Plans.found {request : Request} {path : Path} {document : Document} {edits : List Edit}
    (plans : editor.Plans store root request path document edits) :
    ∃ target, target.path = path ∧ (∃ id, Editor.target store root id = .ok target) ∧
      editor.load store target = .ok document := by
  cases plans with
  | update found _ =>
    obtain ⟨leads, loaded, _⟩ := find_eq_ok.1 found
    exact ⟨_, rfl, ⟨_, leads⟩, loaded⟩
  | delete found _ =>
    obtain ⟨leads, loaded, _⟩ := find_eq_ok.1 found
    exact ⟨_, rfl, ⟨_, leads⟩, loaded⟩

/-- A plan is made on the basis of what the file holds. -/
lemma Plans.read {request : Request} {path : Path} {document : Document} {edits : List Edit}
    (plans : editor.Plans store root request path document edits) :
    Store.read store path = .ok document.source := by
  obtain ⟨target, rfl, _, loaded⟩ := plans.found
  exact (load_eq_ok loaded).1

/-- A plan is made in the language that the file's own path names. -/
lemma Plans.language {request : Request} {path : Path} {document : Document} {edits : List Edit}
    (plans : editor.Plans store root request path document edits) :
    Language.ofPath path = .ok document.language := by
  obtain ⟨target, rfl, ⟨id, leads⟩, loaded⟩ := plans.found
  obtain ⟨_, _, _, _, _, known⟩ := target_eq_ok leads
  rw [(load_eq_ok loaded).2.2.1]
  exact known

/-- An update leaves the store alone and reports no change, or it carries out what it plans. -/
lemma update_cases (editor : Editor) (store : σ) (root : Path) (id : Text) (updates : Updates) :
    (∃ report, report.changed = false ∧ editor.update store root id updates = (report, store)) ∨
      ∃ path document edits, editor.Plans store root (.update id updates) path document edits ∧
        editor.update store root id updates = editor.commit store path document edits := by
  unfold update
  simp only
  split
  · exact .inl ⟨_, rfl, rfl⟩
  · rename_i target document edits planned
    split
    · exact .inl ⟨_, rfl, rfl⟩
    · simp only [bind_eq_ok, pure_eq_ok] at planned
      obtain ⟨⟨t, d, element⟩, found, es, recorded, same⟩ := planned
      cases same
      exact .inr ⟨_, _, _, .update found recorded, rfl⟩

/-- A deletion leaves the store alone and reports no change, or it carries out what it plans. -/
lemma delete_cases (editor : Editor) (store : σ) (root : Path) (id : Text) :
    (∃ report, report.changed = false ∧ editor.delete store root id = (report, store)) ∨
      ∃ path document edits, editor.Plans store root (.delete id) path document edits ∧
        editor.delete store root id = editor.commit store path document edits := by
  unfold delete
  simp only
  split
  · exact .inl ⟨_, rfl, rfl⟩
  · rename_i target document edits planned
    simp only [bind_eq_ok, pure_eq_ok] at planned
    obtain ⟨⟨t, d, element⟩, found, es, recorded, same⟩ := planned
    cases same
    exact .inr ⟨_, _, _, .delete found recorded, rfl⟩

/-- What is written is the source code after the edits, and it parses if the settings ask for it. -/
lemma output_eq_ok {path : Path} {document : Document} {edits : List Edit} {bytes : Bytes}
    (h : editor.output path document edits = .ok bytes) :
    Edit.render document.source edits = .ok bytes ∧
      (editor.settings.verifyOutput = true →
        (editor.grammar document.language bytes).hasFault = false) := by
  unfold output at h
  rw [bind_eq_ok] at h
  obtain ⟨rendered, render, h⟩ := h
  split at h
  · split at h
    · cases h
    · rename_i parsed
      cases h
      exact ⟨render, fun _ => (Document.parse_eq_ok.1 parsed).1⟩
  · rename_i unverified
    cases h
    exact ⟨render, fun verified => absurd verified unverified⟩

end Editor

namespace Sample

/-- A file with a paragraph, whose class name and part of whose text stand between braces, and below
it an element that closes itself. -/
def source : Bytes :=
  Placement.word "<p className=\x7b\"a\"\x7d>x\x7b\"y\"\x7d</p>;\n<b />;"

/-- Punctuation, which has no name. -/
def mark (sign : String) (start stop : Nat) : Node :=
  ⟨.other sign, false, false, none, start, stop, []⟩

/-- A node with a name. -/
def part (kind : Kind) (start stop : Nat) (children : List Node) : Node :=
  ⟨kind, true, false, none, start, stop, children⟩

/-- The name of a tag. -/
def tagName (start stop : Nat) : Node :=
  ⟨.other "identifier", true, false, some .name, start, stop, []⟩

/-- A string between braces. -/
def bracedString (start stop : Nat) : Node :=
  part .container start stop [mark "\x7b" start (start + 1), part .string (start + 1) (stop - 1) [],
    mark "\x7d" (stop - 1) stop]

/-- The class name of the paragraph. -/
def classAttribute : Node :=
  part .attribute 3 18 [part (.other "property_identifier") 3 12 [],
    ⟨.equals, false, false, none, 12, 13, []⟩, bracedString 13 18]

/-- The paragraph. -/
def paragraph : Node :=
  part .element 0 29 [
    part .openingTag 0 19 [mark "<" 0 1, tagName 1 2, classAttribute, mark ">" 18 19],
    part .text 19 20 [],
    bracedString 20 25,
    part .closingTag 25 29 [mark "</" 25 27, tagName 27 28, mark ">" 28 29]]

/-- The element that closes itself. -/
def bold : Node :=
  part .selfClosing 31 36 [mark "<" 31 32, tagName 32 33, mark "/" 34 35, mark ">" 35 36]

/-- The statement around the paragraph. -/
def first : Node :=
  part (.other "expression_statement") 0 30 [paragraph, mark ";" 29 30]

/-- The statement around the element that closes itself. -/
def second : Node :=
  part (.other "expression_statement") 31 37 [bold, mark ";" 36 37]

/-- The tree of the file. -/
def tree : Node :=
  part (.other "program") 0 37 [first, second]

/-- An editor with the settings that hold by default, for which all source code but one is without
content. -/
def editorFor (source : Bytes) (tree : Node) : Editor :=
  ⟨{}, fun _ bytes => if bytes = source then tree else Node.program⟩

/-- The editor that knows the tree of the file. -/
def editor : Editor := editorFor source tree

/-- The root of the project. -/
def root : Path := ⟨.slash, ["project"]⟩

/-- The path of the file. -/
def path : Path := ⟨.slash, ["project", "page.tsx"]⟩

/-- A store with nothing but one file. -/
def storeOf (source : Bytes) : MemoryStore := ⟨[(path, source)], [], false, .top⟩

/-- The store with the file. -/
def store : MemoryStore := storeOf source

/-- The file and the beginning of a line in it. -/
def target (line : Nat) (positive : 1 ≤ line) : Target :=
  ⟨⟨"page.tsx", line, 0, by decide, by decide, positive⟩, path, .tsx⟩

/-- The file as it is parsed. -/
def document : Document := ⟨source, tree, .tsx⟩

/-- The paragraph where it stands. -/
def paragraphElement : Element :=
  ⟨⟨paragraph, [(first, 0), (tree, 0)]⟩, .paired, "p", ⟨1, 0⟩⟩

/-- The element that closes itself where it stands. -/
def boldElement : Element :=
  ⟨⟨bold, [(second, 0), (tree, 1)]⟩, .selfClosing, "b", ⟨2, 0⟩⟩

end Sample

end Retouch
