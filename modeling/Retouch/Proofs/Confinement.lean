import Mathlib
import Retouch.Proofs.ComponentId
import Retouch.Proofs.Path
import Retouch.Proofs.Prediction

/-!
# Files below the root

`Path.Reached` says which files an editor has to do with: those below the place of the root whose
extension is that of a language. The place of the root is where it leads from the working directory.
What a store answers about other files makes no difference to any operation, and an identifier is
refused as leading outside exactly if it leads to a place that is not below the root
(`Editor.confined`). A root that has no bytes as the name of a file is an exception: before anything
else it is a defect (`Editor.confined_unnameable`).
-/

namespace Retouch

namespace Path

/-- The extensions of the files that an editor has to do with, in small letters. -/
def knownExtensions : List Text :=
  [".js", ".jsx", ".mjs", ".cjs", ".ts", ".mts", ".cts", ".tsx"]

/-- A file below a root, in normal form and with an extension that is known. The root is seen from
the working directory. -/
structure Reached (here : Directory) (root : Text) (path : Path) : Prop where
  start : path.start = .slash
  names : ∀ part ∈ path.components, IsName part
  below : follow here.names root <+: path.components
  known : Text.toLower path.extension ∈ knownExtensions

/-- An identifier that can be decoded, and whose path leads from the root to a place that is not
below it. -/
def LeadsOutside (here : Directory) (root id : Text) : Prop :=
  ∃ location, Location.decode id = .ok location ∧
    ¬ follow here.names root <+: follow (follow here.names root) location.path

end Path

/-- Two ways to store files that resolve paths alike, and read and write alike the files that are
allowed. -/
structure Store.AgreeOn {σ : Type} (allowed : Path → Prop) (first second : Store σ) : Prop where
  resolve : ∀ store path, first.resolve store path = second.resolve store path
  read : ∀ store path, allowed path → first.read store path = second.read store path
  write : ∀ store path data, allowed path →
      first.write store path data = second.write store path data

namespace Editor

section Agree

variable {σ : Type} {allowed : Path → Prop} {first second : Store σ} {editor : Editor} {store : σ}
variable {root : Path} {id : Text}

/-- Two stores that agree on what is allowed find the same target. -/
lemma target_congr (agree : Store.AgreeOn allowed first second) :
    @Editor.target σ first store root id = @Editor.target σ second store root id := by
  unfold Editor.target
  simp only [agree.resolve]

/-- Two stores that agree on a file load the same from it. -/
lemma load_congr (agree : Store.AgreeOn allowed first second) {target : Target}
    (permitted : allowed target.path) :
    @load σ first editor store target = @load σ second editor store target := by
  unfold load
  rw [agree.read store target.path permitted]

/-- Two stores that agree on a file commit the same to it. -/
lemma commit_congr (agree : Store.AgreeOn allowed first second) {path : Path}
    (permitted : allowed path) (document : Document) (edits : List Edit) :
    @commit σ first editor store path document edits =
      @commit σ second editor store path document edits := by
  unfold commit
  simp only [agree.write store path _ permitted]

/-- If identifiers lead to files that are allowed, the same element is found. -/
lemma find_congr (agree : Store.AgreeOn allowed first second)
    (permitted : ∀ target, @Editor.target σ first store root id = .ok target → allowed target.path)
    (fragments : Bool) :
    @find σ first editor store root id fragments =
      @find σ second editor store root id fragments := by
  unfold find
  rw [← target_congr agree]
  cases leads : @Editor.target σ first store root id with
  | error failure => rfl
  | ok target =>
    simp only [ok_bind]
    rw [load_congr agree (permitted target leads)]

/-- A search that finds something does so in a file that is allowed. -/
lemma allowed_of_find {fragments : Bool} {target : Target} {document : Document} {element : Element}
    (permitted : ∀ target, @Editor.target σ first store root id = .ok target → allowed target.path)
    (found : @find σ first editor store root id fragments = .ok (target, document, element)) :
    allowed target.path :=
  permitted target ((@find_eq_ok σ first _ _ _ _ _ _ _ _).1 found).1

/-- An analysis is the same in two stores that agree on what is allowed. -/
lemma analyze_congr (agree : Store.AgreeOn allowed first second)
    (permitted : ∀ target, @Editor.target σ first store root id = .ok target →
      allowed target.path) :
    @analyze σ first editor store root id = @analyze σ second editor store root id := by
  unfold analyze
  rw [find_congr agree permitted]

/-- An update answers alike and leaves the same store. -/
lemma update_congr (agree : Store.AgreeOn allowed first second)
    (permitted : ∀ target, @Editor.target σ first store root id = .ok target → allowed target.path)
    (updates : Updates) :
    @update σ first editor store root id updates =
      @update σ second editor store root id updates := by
  cases search : @find σ first editor store root id false with
  | error failure =>
    rw [@update_of_error σ first _ _ _ _ _ _ search,
      @update_of_error σ second _ _ _ _ _ _ ((find_congr agree permitted false).symm.trans search)]
  | ok found =>
    obtain ⟨target, document, element⟩ := found
    have search' := (find_congr agree permitted false).symm.trans search
    cases recorded : updateEdits document element updates with
    | error failure =>
      rw [@update_of_refusal σ first _ _ _ _ _ _ _ _ _ search recorded,
        @update_of_refusal σ second _ _ _ _ _ _ _ _ _ search' recorded]
    | ok edits =>
      rw [@update_of_edits σ first _ _ _ _ _ _ _ _ _ search recorded,
        @update_of_edits σ second _ _ _ _ _ _ _ _ _ search' recorded,
        commit_congr agree (allowed_of_find permitted search)]

/-- A deletion is the same in two stores that agree on what is allowed. -/
lemma delete_congr (agree : Store.AgreeOn allowed first second)
    (permitted : ∀ target, @Editor.target σ first store root id = .ok target →
      allowed target.path) :
    @delete σ first editor store root id = @delete σ second editor store root id := by
  cases search : @find σ first editor store root id true with
  | error failure =>
    rw [@delete_of_error σ first _ _ _ _ _ search,
      @delete_of_error σ second _ _ _ _ _ ((find_congr agree permitted true).symm.trans search)]
  | ok found =>
    obtain ⟨target, document, element⟩ := found
    have search' := (find_congr agree permitted true).symm.trans search
    cases recorded : deleteEdits document element with
    | error failure =>
      rw [@delete_of_refusal σ first _ _ _ _ _ _ _ _ search recorded,
        @delete_of_refusal σ second _ _ _ _ _ _ _ _ search' recorded]
    | ok edits =>
      rw [@delete_of_edits σ first _ _ _ _ _ _ _ _ search recorded,
        @delete_of_edits σ second _ _ _ _ _ _ _ _ search' recorded,
        commit_congr agree (allowed_of_find permitted search)]

end Agree

section Memory

variable {editor : Editor} {store : MemoryStore} {root id : Text}

/-- The extension of a file whose language is known is known. -/
lemma toLower_mem_of_ofPath {path : Path} {language : Language}
    (h : Language.ofPath path = .ok language) :
    Text.toLower path.extension ∈ Path.knownExtensions := by
  unfold Language.ofPath at h
  split at h
  · rename_i found
    cases h
    obtain ⟨before, after, split, _⟩ := List.lookup_eq_some_iff.1 found
    have listed : ∀ entry ∈ Language.extensions, entry.1 ∈ Path.knownExtensions := by decide
    refine listed (Text.toLower path.extension, language) ?_
    rw [split]
    exact List.mem_append_right before List.mem_cons_self
  · cases h

/-- A file without a language is one that is not supported. -/
lemma ofPath_kind {path : Path} {failure : Failure} (h : Language.ofPath path = .error failure) :
    failure.kind = .unsupportedFile := by
  unfold Language.ofPath at h
  split at h
  · cases h
  · cases h
    rfl

/-- The file that an identifier leads to is one that an editor has to do with. -/
lemma reached_of_target {target : Target}
    (leads : Editor.target store (Path.ofText root) id = .ok target) :
    Path.Reached store.here root target.path := by
  obtain ⟨base, _, resolved, joined, within, language⟩ := target_eq_ok leads
  obtain ⟨admitted, rfl⟩ := MemoryStore.resolve_ofText.1 resolved
  have isName := Path.isName_of_mem_follow store.here.isName (t := root)
  have parts := Path.isAdmitted_follow store.here.isAdmitted admitted
  obtain ⟨_, place⟩ := (MemoryStore.resolve_join isName parts).1 joined
  have extension := toLower_mem_of_ofPath language
  rw [place] at within extension ⊢
  exact ⟨rfl, Path.isName_of_mem_follow isName, Path.isWithin_iff.1 within, extension⟩

/-- An identifier that can be decoded leads to the file to which its path leads from the root, if
that is below the root and its language is known. -/
lemma target_of_decode {location : Location} (admitted : Path.isAdmitted root = true)
    (clean : (0 : CodePoint) ∉ location.path) (decoded : Location.decode id = .ok location) :
    Editor.target store (Path.ofText root) id =
      if Path.follow store.here.names root <+:
          Path.follow (Path.follow store.here.names root) location.path then
        (Language.ofPath ⟨.slash,
            Path.follow (Path.follow store.here.names root) location.path⟩).map fun language =>
          ⟨location, ⟨.slash, Path.follow (Path.follow store.here.names root) location.path⟩,
            language⟩
      else .error (.outsideRoot location.path ⟨.slash, Path.follow store.here.names root⟩) := by
  have based : Store.resolve store (Path.ofText root) =
      .ok ⟨.slash, Path.follow store.here.names root⟩ :=
    MemoryStore.resolve_ofText.2 ⟨admitted, rfl⟩
  have isName := Path.isName_of_mem_follow store.here.isName (t := root)
  have parts := Path.isAdmitted_follow store.here.isAdmitted admitted
  have plain : Path.isAdmitted location.path = true :=
    Path.isAdmitted_iff.2 ⟨clean, Path.all_isNameable_of_isScalar location.path_isScalar⟩
  have joined : Store.resolve store
      (Path.join ⟨.slash, Path.follow store.here.names root⟩ (Path.ofText location.path)) =
      .ok ⟨.slash, Path.follow (Path.follow store.here.names root) location.path⟩ :=
    (MemoryStore.resolve_join isName parts).2 ⟨plain, rfl⟩
  generalize Path.follow (Path.follow store.here.names root) location.path = place at joined ⊢
  simp only [Editor.target, decoded, based, joined, lift_ok, ok_bind]
  by_cases below : Path.follow store.here.names root <+: place
  · rw [if_pos below, Path.isWithin_iff.2 below]
    cases Language.ofPath ⟨.slash, place⟩ <;> rfl
  · rw [if_neg below, Bool.eq_false_iff.2 (mt Path.isWithin_iff.1 below)]
    rfl

/-- Where the root is without bytes as the name of a file, every identifier that can be decoded
meets a defect. -/
lemma target_of_unnameable (store : MemoryStore) {location : Location}
    (unnameable : root.all Path.isNameable = false) (decoded : Location.decode id = .ok location) :
    ∃ failure, Editor.target store (Path.ofText root) id = .error failure ∧
      failure.kind = .internal := by
  cases based : Store.resolve store (Path.ofText root) with
  | error defect =>
    refine ⟨.unexpected defect, ?_, rfl⟩
    simp only [Editor.target, decoded, based, lift_error, ok_bind, error_bind]
  | ok base =>
    have nameable := (Path.isAdmitted_iff.1 (MemoryStore.resolve_ofText.1 based).1).2
    cases unnameable.symm.trans nameable

/-- An identifier is refused because it cannot be decoded, because the root is without bytes,
because it leads outside the root, or because it leads to a file that is not supported. -/
lemma target_eq_error {failure : Failure} (clean : (0 : CodePoint) ∉ root)
    (clean' : (0 : CodePoint) ∉ id)
    (h : Editor.target store (Path.ofText root) id = .error failure) :
    Location.decode id = .error failure ∨
      (root.all Path.isNameable = false ∧ (∃ location, Location.decode id = .ok location) ∧
        failure.kind = .internal) ∨
      (root.all Path.isNameable = true ∧ Path.LeadsOutside store.here root id ∧
        failure.kind = .pathOutsideRoot) ∨
      (root.all Path.isNameable = true ∧ failure.kind = .unsupportedFile) := by
  cases decoded : Location.decode id with
  | error other =>
    rw [Editor.target, decoded] at h
    cases h
    exact .inl rfl
  | ok location =>
    right
    cases nameable : root.all Path.isNameable with
    | false =>
      obtain ⟨other, failed, kind⟩ := target_of_unnameable store nameable decoded
      cases failed.symm.trans h
      exact .inl ⟨rfl, ⟨location, rfl⟩, kind⟩
    | true =>
      have admitted := Path.isAdmitted_iff.2 ⟨clean, nameable⟩
      have clean := fun held => clean' (Location.mem_of_decode decoded held)
      rw [target_of_decode admitted clean decoded] at h
      split at h
      · cases unknown : Language.ofPath
            ⟨.slash, Path.follow (Path.follow store.here.names root) location.path⟩ with
        | error other =>
          rw [unknown] at h
          cases h
          exact .inr (.inr ⟨rfl, ofPath_kind unknown⟩)
        | ok language =>
          rw [unknown] at h
          cases h
      · rename_i beyond
        cases h
        exact .inr (.inl ⟨rfl, ⟨location, decoded, beyond⟩, rfl⟩)

/-- An identifier is refused as leading outside exactly if the root has bytes and it leads there. -/
lemma target_outside_iff (clean : (0 : CodePoint) ∉ root) (clean' : (0 : CodePoint) ∉ id) :
    (∃ failure, Editor.target store (Path.ofText root) id = .error failure ∧
        failure.kind = .pathOutsideRoot) ↔
      root.all Path.isNameable = true ∧ Path.LeadsOutside store.here root id := by
  constructor
  · rintro ⟨failure, failed, outside⟩
    rcases target_eq_error clean clean' failed with
      undecoded | ⟨_, _, kind⟩ | ⟨nameable, leads, _⟩ | ⟨_, kind⟩
    · rcases Location.decode_eq_error undecoded with rfl | ⟨kind, _⟩
      · cases outside
      · cases kind.symm.trans outside
    · cases kind.symm.trans outside
    · exact ⟨nameable, leads⟩
    · cases kind.symm.trans outside
  · rintro ⟨nameable, location, decoded, beyond⟩
    have clean'' := fun held => clean' (Location.mem_of_decode decoded held)
    rw [target_of_decode (Path.isAdmitted_iff.2 ⟨clean, nameable⟩) clean'' decoded, if_neg beyond]
    exact ⟨_, rfl, rfl⟩

/-- An identifier whose numerals are not too long meets a defect exactly if it can be decoded and
the root is without bytes. -/
lemma target_internal_iff (clean : (0 : CodePoint) ∉ root) (clean' : (0 : CodePoint) ∉ id)
    (short : ∀ path line column, Location.parts? id = some (path, line, column) →
      line.length ≤ Numeral.digitLimit ∧ column.length ≤ Numeral.digitLimit) :
    (∃ failure, Editor.target store (Path.ofText root) id = .error failure ∧
        failure.kind = .internal) ↔
      root.all Path.isNameable = false ∧ ∃ location, Location.decode id = .ok location := by
  constructor
  · rintro ⟨failure, failed, internal⟩
    rcases target_eq_error clean clean' failed with
      undecoded | ⟨unnameable, decoded, _⟩ | ⟨_, _, kind⟩ | ⟨_, kind⟩
    · rcases Location.decode_eq_error undecoded with rfl | ⟨_, path, line, column, cut, long⟩
      · cases internal
      · have bounds := short path line column cut
        omega
    · exact ⟨unnameable, decoded⟩
    · cases kind.symm.trans internal
    · cases kind.symm.trans internal
  · rintro ⟨unnameable, location, decoded⟩
    exact target_of_unnameable store unnameable decoded

end Memory

section Outside

variable {σ : Type} [Store σ] {editor : Editor} {store : σ} {root : Path} {id : Text}

/-- A search is refused as leading outside exactly if the identifier leads there. -/
lemma find_outside_iff (fragments : Bool) :
    (∃ failure, editor.find store root id fragments = .error failure ∧
      failure.kind = .pathOutsideRoot) ↔
      ∃ failure, Editor.target store root id = .error failure ∧
        failure.kind = .pathOutsideRoot := by
  constructor
  · rintro ⟨failure, lost, outside⟩
    rcases find_eq_error lost with strays | ⟨target, _, unloaded | ⟨document, _, unlocated⟩⟩
    · exact ⟨failure, strays, outside⟩
    · rcases load_kind unloaded with kind | kind
      · rw [kind] at outside
        cases outside
      · rw [kind] at outside
        cases outside
    · rcases Element.search_eq_error unlocated with kind | ⟨_, _, defect, _, rfl⟩
      · rw [kind] at outside
        cases outside
      · cases outside
  · rintro ⟨failure, strays, outside⟩
    exact ⟨failure, find_of_target_error strays, outside⟩

/-- An analysis is refused as leading outside exactly if the identifier leads there. -/
lemma analyze_outside_iff :
    (editor.analyze store root id).errorKind = some .pathOutsideRoot ↔
      ∃ failure, Editor.target store root id = .error failure ∧
        failure.kind = .pathOutsideRoot := by
  rw [← find_outside_iff false]
  cases search : editor.find store root id false with
  | error failure =>
    rw [analyze_of_error search]
    simp [AnalysisReport.failed]
  | ok found =>
    obtain ⟨target, document, element⟩ := found
    constructor
    · intro outside
      rcases analyze_of_found search with ⟨defect, _, failed⟩ | ⟨_, _, _, _, report⟩
      · rw [failed] at outside
        cases outside
      · rw [report] at outside
        cases outside
    · rintro ⟨_, lost, _⟩
      cases lost

/-- A deletion is refused as leading outside exactly if the identifier leads there. -/
lemma delete_outside_iff :
    (editor.delete store root id).1.errorKind = some .pathOutsideRoot ↔
      ∃ failure, Editor.target store root id = .error failure ∧
        failure.kind = .pathOutsideRoot := by
  rw [← find_outside_iff true]
  cases search : editor.find store root id true with
  | error failure =>
    rw [delete_of_error search]
    simp [MutationReport.failed]
  | ok found =>
    obtain ⟨target, document, element⟩ := found
    constructor
    · intro outside
      cases recorded : deleteEdits document element with
      | error failure =>
        rw [delete_of_refusal search recorded] at outside
        rcases deleteEdits_kind recorded with kind | kind
        · cases kind.symm.trans (Option.some.inj outside)
        · cases kind.symm.trans (Option.some.inj outside)
      | ok edits =>
        rw [delete_of_edits search recorded] at outside
        rcases commit_errorKind editor store target.path document edits _ outside with kind | kind
        · cases kind
        · cases kind
    · rintro ⟨_, lost, _⟩
      cases lost

end Outside

/-- Operations on a store in memory only have to do with a file below the root whose extension is
known: the identifier leads to such a file, and whatever a store answers about others, the outcome
is the same. An analysis and a deletion are refused as leading outside exactly if the root has bytes
as the name of a file, the identifier can be decoded, and its path leads from the root to a place
that is not below it. -/
theorem confined (editor : Editor) (store : MemoryStore) (root id : Text) (updates : Updates) :
    (∀ target, Editor.target store (Path.ofText root) id = .ok target →
      Path.Reached store.here root target.path) ∧
    (∀ other : Store MemoryStore,
      Store.AgreeOn (Path.Reached store.here root) MemoryStore.instStore other →
      @analyze _ other editor store (Path.ofText root) id =
          @analyze _ MemoryStore.instStore editor store (Path.ofText root) id ∧
        @update _ other editor store (Path.ofText root) id updates =
          @update _ MemoryStore.instStore editor store (Path.ofText root) id updates ∧
        @delete _ other editor store (Path.ofText root) id =
          @delete _ MemoryStore.instStore editor store (Path.ofText root) id) ∧
    ((0 : CodePoint) ∉ root → (0 : CodePoint) ∉ id →
      ((editor.analyze store (Path.ofText root) id).errorKind = some .pathOutsideRoot ↔
        root.all Path.isNameable = true ∧ Path.LeadsOutside store.here root id) ∧
      ((editor.delete store (Path.ofText root) id).1.errorKind = some .pathOutsideRoot ↔
        root.all Path.isNameable = true ∧ Path.LeadsOutside store.here root id)) := by
  have permitted : ∀ target, Editor.target store (Path.ofText root) id = .ok target →
      Path.Reached store.here root target.path := fun _ leads => reached_of_target leads
  refine ⟨permitted, fun other agree => ?_, fun clean clean' => ?_⟩
  · exact ⟨(analyze_congr agree permitted).symm, (update_congr agree permitted updates).symm,
      (delete_congr agree permitted).symm⟩
  · rw [analyze_outside_iff, delete_outside_iff, target_outside_iff clean clean', and_self]

end Editor

namespace Sample.Guarded

/-- A working directory beside the project. -/
def here : Directory :=
  ⟨["home"], by decide +kernel, by decide +kernel⟩

/-- The store with the file, seen from the working directory. -/
def store : MemoryStore :=
  { Sample.store with here := here }

/-- A store in memory that answers differently about what is not below the root of the project:
every file there holds the same source code, and nothing is written. -/
abbrev tampered : Store MemoryStore where
  resolve := MemoryStore.resolve
  read store path := if root.components <+: path.components then store.read path else .ok source
  write store path data :=
    if root.components <+: path.components then store.write path data else (.ok (), store)

/-- It answers alike about the files below the root. -/
lemma agreeOn_tampered :
    Store.AgreeOn (Path.Reached store.here "../project") MemoryStore.instStore tampered where
  resolve _ _ := rfl
  read _ _ reached := (if_pos reached.below).symm
  write _ _ _ reached := (if_pos reached.below).symm

end Sample.Guarded

namespace Editor

/-- The root is seen from the working directory. A path that leaves the root and comes back is
followed, and one to a sibling whose name continues that of the root is not. -/
theorem confined_sample :
    Store.AgreeOn (Path.Reached Sample.Guarded.store.here "../project") MemoryStore.instStore
        Sample.Guarded.tampered ∧
      (@analyze _ Sample.Guarded.tampered Sample.editor Sample.Guarded.store
        (Path.ofText (Text.ofString "../project"))
        "../project/./lib//..//page.tsx:1:0").success = true ∧
      (Sample.editor.delete Sample.Guarded.store (Path.ofText (Text.ofString "../project"))
        "../project2/page.tsx:1:0").1.errorKind = some .pathOutsideRoot := by
  have back := confined Sample.editor Sample.Guarded.store "../project"
    "../project/./lib//..//page.tsx:1:0" ⟨none, none⟩
  have out := confined Sample.editor Sample.Guarded.store "../project"
    "../project2/page.tsx:1:0" ⟨none, none⟩
  refine ⟨Sample.Guarded.agreeOn_tampered, ?_, ?_⟩
  · rw [(back.2.1 Sample.Guarded.tampered Sample.Guarded.agreeOn_tampered).1]
    decide +kernel
  · exact (out.2.2 (by decide +kernel) (by decide +kernel)).2.2 ⟨by decide +kernel,
      ⟨"../project2/page.tsx", 1, 0, by decide, by decide, by decide⟩, by decide +kernel,
      by decide +kernel⟩

/-- Under a root with a surrogate that stands for no byte, an identifier that leads outside meets a
defect instead. -/
theorem confined_unnameable :
    (0 : CodePoint) ∉ ([0x2F, 0xD800] : Text) ∧
      (0 : CodePoint) ∉ Text.ofString "../x.tsx:1:0" ∧
      Path.LeadsOutside Sample.store.here [0x2F, 0xD800] "../x.tsx:1:0" ∧
      (Sample.editor.analyze Sample.store (Path.ofText [0x2F, 0xD800]) "../x.tsx:1:0").errorKind =
        some .internal ∧
      (Sample.editor.delete Sample.store (Path.ofText [0x2F, 0xD800]) "../x.tsx:1:0").1.errorKind =
        some .internal := by
  refine ⟨by decide +kernel, by decide +kernel, ?_, by decide +kernel, by decide +kernel⟩
  exact ⟨⟨"../x.tsx", 1, 0, by decide, by decide, by decide⟩, by decide +kernel, by decide +kernel⟩

end Editor

end Retouch
