import Mathlib
import Retouch.Proofs.ComponentId
import Retouch.Proofs.Placement
import Retouch.Proofs.Removal
import Retouch.Proofs.Render
import Retouch.Proofs.Search
import Retouch.Proofs.Session
import Retouch.Proofs.Update

/-!
# Files stay texts

All edits are made between two characters: where nodes begin and end, behind the sign that opens a
tag, and where lines begin and end. What they put in is a text as well, so the file that is written
can be read again (`Editor.changed_files_are_texts`).
-/

namespace Retouch

namespace Utf8

/-- The bytes are those of a text. -/
def Valid (bytes : Bytes) : Prop :=
  Succeeds (decode bytes)

variable {a b source : Bytes} {t : Text} {offset : Nat}

/-- Bytes are valid exactly if they encode a text without surrogates. -/
lemma valid_iff : Valid a ↔ ∃ t : Text, t.isScalar = true ∧ a = encodeAll t :=
  exists_congr fun _ => decode_eq_ok

/-- What is encoded is valid. -/
lemma valid_of_encode (written : encode t = .ok a) : Valid a :=
  valid_iff.2 ⟨t, encode_eq_ok.1 written⟩

/-- Valid bytes behind valid bytes are valid. -/
lemma Valid.append (first : Valid a) (second : Valid b) : Valid (a ++ b) := by
  obtain ⟨t, scalar, rfl⟩ := valid_iff.1 first
  obtain ⟨u, scalar', rfl⟩ := valid_iff.1 second
  exact valid_iff.2 ⟨t ++ u, by rw [Text.isScalar_append, scalar, scalar', Bool.and_self],
    (encodeAll_append t u).symm⟩

/-- Valid bytes begin with a character. -/
lemma isBoundary_zero (valid : Valid source) : isBoundary source 0 = true := by
  obtain ⟨t, _, rfl⟩ := valid_iff.1 valid
  exact isBoundary_append [] t

/-- Bytes stop between characters. -/
lemma isBoundary_length (source : Bytes) : isBoundary source source.length = true := by
  simp [isBoundary]

/-- What is between two boundaries of valid bytes is valid. -/
lemma Valid.slice (valid : Valid source) {start stop : Nat}
    (starts : isBoundary source start = true) (stops : isBoundary source stop = true) :
    Valid (source.slice start stop) := by
  obtain ⟨_, read⟩ := valid
  obtain ⟨part, cut, _⟩ := decode_slice read starts stops
  exact ⟨part, cut⟩

/-- What is behind a boundary of valid bytes is valid. -/
lemma Valid.drop (valid : Valid source) (starts : isBoundary source offset = true) :
    Valid (source.drop offset) := by
  have rest := valid.slice starts (isBoundary_length source)
  rwa [Bytes.slice, List.take_of_length_le (by rw [List.length_drop])] at rest

/-- Behind a line end there is a boundary. -/
lemma isBoundary_of_newline (valid : Valid source) (here : source[offset]? = some Bytes.newline) :
    isBoundary source (offset + 1) = true := by
  obtain ⟨_, read⟩ := valid
  exact isBoundary_succ read here (by decide)

/-- Lines start between characters. -/
lemma isBoundary_lineStart (valid : Valid source) {first : Nat}
    (start : Bytes.IsLineStart source offset first) : isBoundary source first = true := by
  rcases start.begins with rfl | ended
  · exact isBoundary_zero valid
  · cases first with
    | zero => exact isBoundary_zero valid
    | succ first => exact isBoundary_of_newline valid ended

/-- Lines stop between characters. -/
lemma isBoundary_lineStop (valid : Valid source) {last : Nat}
    (stop : Bytes.IsLineStop source offset last) : isBoundary source last = true := by
  cases stop with
  | ended _ _ here => exact isBoundary_of_newline valid here
  | final _ => exact isBoundary_length source

end Utf8

namespace Edit

/-- An edit that puts a text in place of what stands between two boundaries. -/
structure Clean (source : Bytes) (edit : Edit) : Prop where
  starts : Utf8.isBoundary source edit.start = true
  stops : Utf8.isBoundary source edit.stop = true
  text : Utf8.Valid edit.replacement

variable {source bytes : Bytes} {edits : List Edit} {offset : Nat}

/-- Clean edits that are carried out from a boundary on leave a text. -/
lemma valid_splice (valid : Utf8.Valid source) (clean : ∀ edit ∈ edits, edit.Clean source)
    (boundary : Utf8.isBoundary source offset = true)
    (spliced : splice source offset edits = .ok bytes) : Utf8.Valid bytes := by
  induction edits generalizing offset bytes with
  | nil =>
    cases spliced
    exact valid.drop boundary
  | cons edit edits ih =>
    obtain ⟨first, others⟩ := List.forall_mem_cons.1 clean
    rw [splice] at spliced
    split at spliced
    · cases spliced
    · simp only [bind_eq_ok, pure_eq_ok] at spliced
      obtain ⟨rest, after, rfl⟩ := spliced
      exact ((valid.slice boundary first.starts).append first.text).append
        (ih others first.stops after)

/-- Clean edits leave a text. -/
lemma valid_render (valid : Utf8.Valid source) (clean : ∀ edit ∈ edits, edit.Clean source)
    (rendered : render source edits = .ok bytes) : Utf8.Valid bytes := by
  have sorted : ∀ edit ∈ sort edits, edit.Clean source :=
    fun edit mem => clean edit ((sort_perm edits).mem_iff.1 mem)
  exact valid_splice valid sorted (Utf8.isBoundary_zero valid) rendered

end Edit

/-- Opening tags begin with the sign for it. -/
def Document.TagsOpen (document : Document) : Prop :=
  ∀ node ∈ document.root.preorder, node.kind = .openingTag ∨ node.kind = .selfClosing →
    document.source[node.start]? = some 0x3C

instance : DecidablePred Document.TagsOpen :=
  fun document => inferInstanceAs (Decidable (∀ node ∈ document.root.preorder,
    node.kind = .openingTag ∨ node.kind = .selfClosing → document.source[node.start]? = some 0x3C))

namespace Element

variable {document : Document} {element : Element} {edits : List Edit}

/-- New attributes are put in between characters. -/
lemma isBoundary_attributeAnchor (valid : Utf8.Valid document.source) (aligned : document.Aligned)
    (tags : document.TagsOpen) (mem : element.node ∈ document.root.preorder)
    (kind : (∃ tag, element.node.openingTag? = some tag) ∨ element.node.kind = .selfClosing) :
    Utf8.isBoundary document.source element.node.attributeAnchor = true := by
  have tag := Node.mem_preorder_trans element.node.openingTag_mem_preorder mem
  rcases Node.attributeAnchor_cases element.node with ⟨last, held, _, anchor⟩ | ⟨_, anchor⟩
  · rw [anchor]
    exact aligned.stops last
      (Node.mem_preorder_trans (Node.mem_preorder_of_child held last.self_mem_preorder) tag)
  · obtain ⟨_, read⟩ := valid
    rw [anchor]
    exact Utf8.isBoundary_succ read (tags _ tag (Node.openingTag_kind kind)) (by decide)

/-- Class names are changed between characters. -/
lemma ClassNameChange.clean (change : ClassNameChange document element edits)
    (aligned : document.Aligned) (mem : element.node ∈ document.root.preorder)
    (anchor : Utf8.isBoundary document.source element.node.attributeAnchor = true) :
    ∀ edit ∈ edits, edit.Clean document.source := by
  have below {child : Node} (held : child ∈ element.node.openingTag.children) :
      child ∈ document.root.preorder :=
    Node.mem_preorder_trans (Node.mem_preorder_of_child held child.self_mem_preorder)
      (Node.mem_preorder_trans element.node.openingTag_mem_preorder mem)
  cases change with
  | none => exact List.forall_mem_nil _
  | insert _ encoded =>
    exact List.forall_mem_singleton.2 ⟨anchor, anchor, Utf8.valid_of_encode encoded⟩
  | @replace attr value _ _ _ found valued _ encoded =>
    have held := Node.mem_preorder_trans
      (Node.mem_preorder_of_child (Attribute.value?_mem valued) value.self_mem_preorder)
      (below (Node.attribute?_mem found))
    exact List.forall_mem_singleton.2
      ⟨aligned.starts value held, aligned.stops value held, Utf8.valid_of_encode encoded⟩
  | @remove attr _ _ found _ _ =>
    obtain ⟨_, before, after, split, previous⟩ := Node.attribute?_split found
    have start : Utf8.isBoundary document.source attr.removalStart = true := by
      unfold Attribute.removalStart
      rw [previous]
      cases ends : before.getLast? with
      | none => exact aligned.starts _ (below (Node.attribute?_mem found))
      | some last =>
        refine aligned.stops last (below ?_)
        rw [split]
        exact List.mem_append_left _ (List.mem_of_getLast? ends)
    exact List.forall_mem_singleton.2
      ⟨start, aligned.stops _ (below (Node.attribute?_mem found)), ⟨[], rfl⟩⟩

/-- Texts are changed between characters. -/
lemma TextChange.clean (change : TextChange document element edits) (aligned : document.Aligned)
    (mem : element.node ∈ document.root.preorder)
    (anchor : Utf8.isBoundary document.source element.node.attributeAnchor = true) :
    ∀ edit ∈ edits, edit.Clean document.source := by
  have below {child : Node} (held : child ∈ element.node.children) :
      child ∈ document.root.preorder :=
    Node.mem_preorder_trans (Node.mem_preorder_of_child held child.self_mem_preorder) mem
  cases change with
  | none => exact List.forall_mem_nil _
  | content spanned _ encoded =>
    obtain ⟨opening, closing, opens, closes, rfl, rfl⟩ := Node.contentSpan?_eq_some spanned
    exact List.forall_mem_singleton.2
      ⟨aligned.stops opening (below (Node.openingTag?_eq_some opens).2.1),
      aligned.starts closing (below (Node.closingTag?_eq_some closes).2.1),
      Utf8.valid_of_encode encoded⟩
  | expand _ encoded =>
    exact List.forall_mem_singleton.2 ⟨anchor, aligned.stops _ mem, Utf8.valid_of_encode encoded⟩

/-- Elements are removed between characters. -/
lemma remove_clean (valid : Utf8.Valid document.source) (aligned : document.Aligned)
    (of : Place.Of document.root element.place) (removed : element.remove document = .ok edits) :
    ∀ edit ∈ edits, edit.Clean document.source := by
  have below : element.place.ancestors ≠ [] := by
    intro top
    simp [remove, top] at removed
  have taken := of.taken.1
  have starts := aligned.starts _ taken
  have stops := aligned.stops _ taken
  rw [remove_eq document below] at removed
  cases removed
  rw [List.forall_mem_singleton]
  split
  · -- what stands alone goes with its lines, and a line ends with a character of one byte
    obtain ⟨first, last, start, stop, ⟨_, alone⟩ | ⟨_, shared⟩⟩ :=
      removeSpan_cases document.source element.place.taken.start element.place.taken.stop
    · rw [alone]
      exact ⟨Utf8.isBoundary_lineStart valid start, Utf8.isBoundary_lineStop valid stop, ⟨[], rfl⟩⟩
    · rw [shared]
      exact ⟨starts, stops, ⟨[], rfl⟩⟩
  · refine ⟨starts, stops, ?_⟩
    rcases emptyExpression_cases document.source element.place.taken element.place.enclosing? with
      ⟨_, spaced⟩ | ⟨_, bare⟩
    · have read : Utf8.decode (Placement.word " null") = .ok " null" := by decide
      rw [spaced]
      exact ⟨_, read⟩
    · have read : Utf8.decode (Placement.word "null") = .ok "null" := by decide
      rw [bare]
      exact ⟨_, read⟩

end Element

namespace Editor

variable {σ : Type} [Store σ] {editor : Editor} {store : σ} {root : Path}
    {request : Request} {path : Path} {document : Document} {edits : List Edit}

/-- Only texts are planned for. -/
lemma Plans.valid (plans : editor.Plans store root request path document edits) :
    Utf8.Valid document.source := by
  obtain ⟨_, _, _, loaded⟩ := plans.found
  exact (load_eq_ok loaded).2.1

/-- What is planned is done between characters. -/
lemma Plans.clean (plans : editor.Plans store root request path document edits)
    (aligned : document.Aligned) (tags : document.TagsOpen) :
    ∀ edit ∈ edits, edit.Clean document.source := by
  have valid := plans.valid
  cases plans with
  | @update id updates target _ element _ found recorded =>
    obtain ⟨_, _, located⟩ := find_eq_ok.1 found
    have mem := (Element.node_of_locate located).1
    have anchor := Element.isBoundary_attributeAnchor valid aligned tags mem
      (Element.kind_of_locate located rfl)
    obtain ⟨first, second, rfl, named, worded⟩ := Element.updateEdits_changes recorded
    exact List.forall_mem_append.2 ⟨named.clean aligned mem anchor, worded.clean aligned mem anchor⟩
  | delete found recorded =>
    obtain ⟨_, _, located⟩ := find_eq_ok.1 found
    have listed := (Element.search_eq_ok located).1
    have of := Place.of_mem_all (List.mem_filter.1 listed).1
    exact Element.remove_clean valid aligned of (deleteEdits_eq_ok.1 recorded).2

/-- Where an identifier leads to does not depend on what files hold. -/
lemma target_kind_ne_fileRead {id : Text} {failure : Failure}
    (lost : Editor.target store root id = .error failure) : failure.kind ≠ .fileRead := by
  simp only [target, bind_eq_error, lift_eq_error] at lost
  rcases lost with undecoded | ⟨location, _, ⟨_, _, rfl⟩ | ⟨base, _, ⟨_, _, rfl⟩ | ⟨path, _, rest⟩⟩⟩
  · rcases Location.decode_eq_error undecoded with rfl | ⟨kind, _⟩
    · nofun
    · rw [kind]
      nofun
  · nofun
  · nofun
  · split at rest
    · cases rest
      nofun
    · rcases bind_eq_error.1 rest with unknown | ⟨_, _, rest⟩
      · unfold Language.ofPath at unknown
        split at unknown
        · cases unknown
        · cases unknown
          nofun
      · cases rest

/-- A search fails because a file is no text only if that file is none. -/
lemma not_valid_of_find {id : Text} {fragments : Bool} {error : Utf8.DecodeError}
    (lost : editor.find store root id fragments = .error (.notUtf8 path error)) :
    ∃ bytes, Store.read store path = .ok bytes ∧ ¬ Utf8.Valid bytes := by
  rcases find_eq_error lost with strays | ⟨target, _, unloaded | ⟨_, _, unlocated⟩⟩
  · exact absurd rfl (target_kind_ne_fileRead strays)
  · unfold load at unloaded
    split at unloaded
    · cases unloaded
    · rename_i bytes read
      split at unloaded
      · rename_i undecoded
        cases unloaded
        refine ⟨bytes, read, fun valid => ?_⟩
        obtain ⟨_, decoded⟩ := valid
        cases undecoded.symm.trans decoded
      · cases parsed : Document.parse editor.grammar target.language bytes with
        | error fault =>
          rw [parsed] at unloaded
          cases unloaded
        | ok _ =>
          rw [parsed] at unloaded
          cases unloaded
  · rcases Element.search_eq_error unlocated with kind | ⟨_, _, _, _, other⟩
    · cases kind
    · cases other

/-- The trees of texts that parse have their nodes between characters, and their opening tags begin
with the sign for it. -/
def CutsBetweenCharacters (editor : Editor) : Prop :=
  ∀ language source, Utf8.Valid source → (editor.grammar language source).hasFault = false →
    (⟨source, editor.grammar language source, language⟩ : Document).Aligned ∧
      (⟨source, editor.grammar language source, language⟩ : Document).TagsOpen

/-- What is planned for has a tree of the grammar. -/
lemma Plans.cut (plans : editor.Plans store root request path document edits)
    (cuts : editor.CutsBetweenCharacters) : document.Aligned ∧ document.TagsOpen := by
  obtain ⟨target, _, _, loaded⟩ := plans.found
  obtain ⟨_, valid, language, tree, faultless⟩ := load_eq_ok loaded
  obtain ⟨source, top, _⟩ := document
  obtain rfl : _ = target.language := language
  obtain rfl : top = editor.grammar target.language source := tree
  exact cuts target.language source valid faultless

/-- What a change writes is a text, if the nodes of the tree are between characters. -/
lemma Plans.valid_render (plans : editor.Plans store root request path document edits)
    {bytes : Bytes} (rendered : Edit.render document.source edits = .ok bytes)
    (aligned : document.Aligned) (tags : document.TagsOpen) : Utf8.Valid bytes :=
  Edit.valid_render plans.valid (plans.clean aligned tags) rendered

/-- Files that hold texts go on to hold texts, whatever request comes next. -/
lemma Effect.valid {before after : MemoryStore} {answer : Answer}
    (cuts : editor.CutsBetweenCharacters) (effect : Effect editor root before request answer after)
    (held : ∀ bytes, before.get? path = some bytes → Utf8.Valid bytes) :
    ∀ bytes, after.get? path = some bytes → Utf8.Valid bytes := by
  cases effect with
  | kept _ => exact held
  | @wrote target document edits written plans output =>
    intro bytes read
    by_cases same : path = target
    · subst same
      rw [MemoryStore.get?_written, Option.some.injEq] at read
      subst read
      obtain ⟨aligned, tags⟩ := plans.cut cuts
      exact plans.valid_render (output_eq_ok output).1 aligned tags
    · rw [before.get?_written_of_ne same] at read
      exact held bytes read

/-- What a request writes is a text, if the tree that it is made for has its nodes between
characters and its opening tags begin with the sign for it. So no search in a file that holds what
was written fails because it is no text, and with a grammar that gives such trees none does in any
later state of a session. -/
theorem changed_files_are_texts (editor : Editor) :
    (∀ (store : σ) (root : Path) (request : Request),
      (editor.answer root store request).1.changed = true →
      ∃ path document edits bytes, editor.Plans store root request path document edits ∧
        Edit.render document.source edits = .ok bytes ∧
        Store.write store path bytes = (.ok (), (editor.answer root store request).2) ∧
        (document.Aligned → document.TagsOpen → Utf8.Valid bytes ∧
          ∀ later : σ, Store.read later path = .ok bytes → ∀ root id fragments error,
            editor.find later root id fragments ≠ .error (.notUtf8 path error))) ∧
    (editor.CutsBetweenCharacters → ∀ (store : MemoryStore) (root : Path) (request : Request),
      (editor.answer root store request).1.changed = true →
      ∃ path document edits, editor.Plans store root request path document edits ∧
        ∀ requests, ∀ root' id fragments error,
          editor.find (editor.session root (editor.answer root store request).2 requests).2 root'
            id fragments ≠
            .error (.notUtf8 path error)) := by
  constructor
  · intro store root request changed
    obtain ⟨path, document, edits, bytes, plans, rendered, wrote⟩ := answer_changed changed
    refine ⟨path, document, edits, bytes, plans, rendered, wrote, fun aligned tags => ?_⟩
    have valid := plans.valid_render rendered aligned tags
    refine ⟨valid, fun later read root id fragments error lost => ?_⟩
    obtain ⟨held, again, invalid⟩ := not_valid_of_find lost
    cases read.symm.trans again
    exact invalid valid
  · intro cuts store root request changed
    have effect := answer_effect editor root store request
    generalize editor.answer root store request = result at effect changed ⊢
    obtain ⟨answer, after⟩ := result
    cases effect with
    | kept unchanged => cases unchanged.symm.trans changed
    | @wrote path document edits bytes plans output =>
      refine ⟨path, document, edits, plans, fun requests root' id fragments error lost => ?_⟩
      have written : ∀ held, (store.written path bytes).get? path = some held →
          Utf8.Valid held := by
        intro held read
        rw [MemoryStore.get?_written, Option.some.injEq] at read
        obtain ⟨aligned, tags⟩ := plans.cut cuts
        exact read ▸ plans.valid_render (output_eq_ok output).1 aligned tags
      obtain ⟨held, read, invalid⟩ := not_valid_of_find lost
      -- the invariant speaks of this one file, which later requests may write again
      exact invalid (session_invariant
        (fun last => ∀ held, last.get? path = some held → Utf8.Valid held)
        (fun effect => effect.valid cuts) written requests held (MemoryStore.get?_of_read read))

end Editor

namespace Sample.Astral

/-- The editor that knows the tree of the file. -/
def editor : Editor := editorFor document.source document.root

/-- The editor gives no trees but that of the file and the program without content. -/
lemma cutsBetweenCharacters : editor.CutsBetweenCharacters := by
  intro language source valid _
  by_cases same : source = document.source
  · have aligned : document.Aligned := by decide +kernel
    have tags : document.TagsOpen := by decide +kernel
    have tree : editor.grammar language source = document.root := if_pos same
    rw [tree, same]
    exact ⟨⟨aligned.starts, aligned.stops⟩, tags⟩
  · have tree : editor.grammar language source = Node.program := if_neg same
    have boundary := Utf8.isBoundary_zero valid
    have only (node : Node) (mem : node ∈ Node.program.preorder) : node = Node.program := by
      simpa [Node.preorder_eq, Node.program, Node.preorderAll] using mem
    rw [tree]
    refine ⟨⟨?_, ?_⟩, ?_⟩
    · intro node mem
      rw [only node mem]
      exact boundary
    · intro node mem
      rw [only node mem]
      exact boundary
    · intro node mem kind
      rw [only node mem] at kind
      cases kind with
      | inl opens => cases opens
      | inr closes => cases closes

end Sample.Astral

namespace Editor

/-- The element behind a character of four bytes is deleted, and what is left is a text. -/
theorem changed_files_are_texts_sample :
    (Sample.Astral.editor.answer Sample.root (Sample.storeOf Sample.Astral.document.source)
        (.delete "page.tsx:1:8")).1.changed = true ∧
      Sample.Astral.document.Aligned ∧ Sample.Astral.document.TagsOpen ∧
      (∃ bytes, Edit.render Sample.Astral.document.source [⟨9, 13, []⟩] = .ok bytes ∧
        Utf8.Valid bytes) ∧
      Sample.Astral.editor.CutsBetweenCharacters ∧
      ∀ error, Sample.Astral.editor.find (Sample.Astral.editor.session Sample.root
          (Sample.Astral.editor.answer Sample.root (Sample.storeOf Sample.Astral.document.source)
            (.delete "page.tsx:1:8")).2 [.delete "page.tsx:2:0"]).2 Sample.root
              "page.tsx:1:2" false ≠
        .error (.notUtf8 Sample.path error) := by
  have changed :
      (Sample.Astral.editor.answer Sample.root (Sample.storeOf Sample.Astral.document.source)
      (.delete "page.tsx:1:8")).1.changed = true := by decide +kernel
  have aligned : Sample.Astral.document.Aligned := by decide +kernel
  have tags : Sample.Astral.document.TagsOpen := by decide +kernel
  have found : Sample.Astral.editor.find (Sample.storeOf Sample.Astral.document.source) Sample.root
      "page.tsx:1:8" true =
        .ok (Sample.Astral.target 8, Sample.Astral.document, Sample.Astral.elements[1]) := by
    decide +kernel
  have expected : deleteEdits Sample.Astral.document Sample.Astral.elements[1] =
      .ok [⟨9, 13, []⟩] := by
    decide +kernel
  have cuts := Sample.Astral.cutsBetweenCharacters
  obtain ⟨general, later⟩ := changed_files_are_texts (σ := MemoryStore) Sample.Astral.editor
  refine ⟨changed, aligned, tags, ?_, cuts, ?_⟩
  · obtain ⟨_, _, _, bytes, plans, rendered, _, written⟩ := general _ _ _ changed
    cases plans with
    | delete again recorded =>
      cases found.symm.trans again
      cases expected.symm.trans recorded
      exact ⟨bytes, rendered, (written aligned tags).1⟩
  · obtain ⟨_, _, _, plans, kept⟩ := later cuts _ _ _ changed
    cases plans with
    | delete again recorded =>
      cases found.symm.trans again
      exact kept [.delete "page.tsx:2:0"] Sample.root "page.tsx:1:2" false

end Editor

end Retouch
