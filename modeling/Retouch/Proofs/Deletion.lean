import Mathlib
import Retouch.Proofs.Locate
import Retouch.Proofs.Operation

/-!
# Analyses and deletions of one element

A search takes the first place in document order that its query admits (`Element.locate_first`).
Analyses leave fragments out and deletions do not, so the two agree on their element unless a
fragment within reach of the location stands before it; then the deletion takes that fragment
(`Editor.delete_agrees`, `Editor.delete_takes_fragment`).
-/

namespace Retouch

namespace Query

variable (query : Query) (document : Document) (place : Place)

/-- Decides whether the opening tag at a place stands on the line that is looked for, and no further
from the column than the tolerance. -/
def reaches : Bool :=
  let position := document.position place.node.openingTag
  (position.line : Int) = query.line && ((position.column : Int) - query.column).natAbs ≤
    query.tolerance

/-- Decides whether a query looks for what stands at a place: fragments have to count. -/
def admits : Bool :=
  (query.fragments || !place.node.isFragment) && query.reaches document place

end Query

namespace Element

variable {document : Document} {query : Query} {element : Element}

/-- An element has the position of the opening tag at its place. -/
lemma position_of_ofPlace {place : Place} (h : ofPlace document place = .ok element) :
    element.position = document.position place.node.openingTag := by
  unfold ofPlace at h
  simp only at h
  split at h
  · cases h
    rfl
  · split at h <;>
    · rw [bind_eq_ok] at h
      obtain ⟨tag, _, h⟩ := h
      cases h
      rfl

/-- The tag of a fragment is the sign for fragments. -/
lemma tag_of_fragment {place : Place} (fragment : place.node.isFragment = true)
    (h : ofPlace document place = .ok element) : element.tag = fragmentTag := by
  simp only [ofPlace, if_pos fragment] at h
  cases h
  rfl

/-- An element fits a query if its place is within reach. -/
lemma fits_eq_reaches {place : Place} (h : ofPlace document place = .ok element) :
    element.fits query = query.reaches document place := by
  rw [fits, Query.reaches, position_of_ofPlace h]

/-- A search that succeeds has found the first place that the query admits. -/
lemma search_first {scanned : Nat} {nearby : List NearbyElement} {places : List Place}
    (h : search document query scanned nearby places = .ok element) :
    places.find? (query.admits document) = some element.place := by
  induction places generalizing scanned nearby with
  | nil => cases h
  | cons place places ih =>
    rw [search] at h
    split at h
    · rename_i skipped
      have left : query.admits document place = false := by
        simp only [Bool.and_eq_true, Bool.not_eq_true'] at skipped
        simp [Query.admits, skipped]
      rw [List.find?_cons_of_neg (by simp [left])]
      exact ih h
    · rename_i counts
      simp only [bind_eq_ok, lift_eq_ok] at h
      obtain ⟨candidate, made, h⟩ := h
      have judged : query.admits document place = candidate.fits query := by
        rw [fits_eq_reaches made, Query.admits]
        cases fragment : place.node.isFragment <;> cases counted : query.fragments <;> simp_all
      split at h
      · rename_i fits
        cases h
        rw [List.find?_cons_of_pos (judged.trans fits), place_of_ofPlace made]
      · rename_i misses
        rw [List.find?_cons_of_neg (by rw [judged]; exact misses)]
        exact ih h

/-- A located element stands at the first place of markup that the query admits. -/
lemma locate_first (h : locate document query = .ok element) :
    (Place.markup document.root).find? (query.admits document) = some element.place ∧
      ofPlace document element.place = .ok element :=
  ⟨search_first h, (search_eq_ok h).2.1⟩

end Element

/-- The first item to pass a test, as against the first one that is not left out: the first to pass
among those before it that are left out, or else it itself. -/
lemma find?_eq_of_leaving_out {α : Type} [DecidableEq α] {test out : α → Bool} {items : List α}
    {first kept : α} (any : items.find? test = some first)
    (other : items.find? (fun item => !out item && test item) = some kept) :
    first = ((items.takeWhile (· ≠ kept)).find? (fun item => out item && test item)).getD kept := by
  induction items with
  | nil => cases any
  | cons item items ih =>
    by_cases same : item = kept
    · have passes : test item = true := by
        have both := List.find?_some other
        rw [Bool.and_eq_true, ← same] at both
        exact both.2
      rw [List.find?_cons_of_pos passes] at any
      simp [← Option.some.inj any, same]
    · -- an item before the kept one passes only if it is left out
      have judged : (!out item && test item) = false := by
        by_contra passes
        rw [List.find?_cons_of_pos (by simpa using passes)] at other
        exact same (Option.some.inj other)
      rw [List.find?_cons_of_neg (by simp [judged])] at other
      rw [List.takeWhile_cons_of_pos (by simpa using same)]
      cases passes : test item with
      | true =>
        have left : out item = true := by simpa [passes] using judged
        rw [List.find?_cons_of_pos passes] at any
        rw [List.find?_cons_of_pos (by simp [left, passes])]
        exact (Option.some.inj any).symm
      | false =>
        rw [List.find?_cons_of_neg (by simp [passes])] at any
        rw [List.find?_cons_of_neg (by simp [passes])]
        exact ih any other

namespace Editor

variable {σ : Type} [Store σ] {editor : Editor} {document : Document} {location : Location}

/-- What an editor looks for at a location. -/
def query (editor : Editor) (location : Location) (fragments : Bool) : Query :=
  ⟨location.line, location.column, editor.settings.columnTolerance,
    editor.settings.nearbyLines, fragments⟩

/-- The first fragment within reach of a location that stands before a place in document order. -/
def fragmentBefore? (editor : Editor) (document : Document) (location : Location) (place : Place) :
    Option Place :=
  ((Place.markup document.root).takeWhile (· ≠ place)).find? fun other =>
    other.node.isFragment && (editor.query location true).reaches document other

/-- A deletion has found an element and has written its file without it. -/
structure Deletes (editor : Editor) (store : σ) (root : Path) (id : Text) (target : Target)
    (document : Document) (element : Element) : Prop where
  found : editor.find store root id true = .ok (target, document, element)
  wrote : ∃ edits bytes, element.remove document = .ok edits ∧
      Edit.render document.source edits = .ok bytes ∧
    Store.write store target.path bytes = (.ok (), (editor.delete store root id).2)

/-- Where an analysis and a deletion both find an element, the deletion finds the first fragment
within reach before the element of the analysis, or that element itself. -/
lemma locate_fragments {located removed : Element}
    (plain : editor.locate document location false = .ok located)
    (all : editor.locate document location true = .ok removed) :
    removed.place = (editor.fragmentBefore? document location located.place).getD
      located.place := by
  have first := (Element.locate_first all).1
  have kept := (Element.locate_first plain).1
  apply find?_eq_of_leaving_out first
  exact kept

/-- An analysis and a deletion that both succeed on one store agree on their element, unless a
fragment within reach of the location stands before the element of the analysis. If there is none,
the deletion has removed that very element, whose tag the analysis reports and which it reports to
be placed statically. Otherwise the deletion has removed the first such fragment. -/
theorem delete_agrees (editor : Editor) (store : σ) (root : Path) (id : Text)
    (analyzed : (editor.analyze store root id).success = true)
    (deleted : (editor.delete store root id).1.success = true) :
    ∃ target document located removed,
      editor.find store root id false = .ok (target, document, located) ∧
      (editor.analyze store root id).tag = some located.tag ∧
      (editor.analyze store root id).placement = some (Placement.ofPlace document located.place) ∧
      editor.Deletes store root id target document removed ∧
      (editor.fragmentBefore? document target.location located.place = none →
        removed = located ∧ (editor.analyze store root id).placement = some .static) ∧
      ∀ fragment, editor.fragmentBefore? document target.location located.place = some fragment →
        removed.place = fragment ∧ removed.node.isFragment = true ∧
        removed.tag = Element.fragmentTag := by
  obtain ⟨target, document, located, className, textContent, found, _, _, report⟩ :=
    analyze_success analyzed
  obtain ⟨target', document', removed, edits, bytes, hit, static, recorded, rendered, wrote⟩ :=
    delete_success deleted
  obtain ⟨leads, loaded, plain⟩ := find_eq_ok.1 found
  obtain ⟨leads', loaded', all⟩ := find_eq_ok.1 hit
  cases leads.symm.trans leads'
  cases loaded.symm.trans loaded'
  have place := locate_fragments plain all
  have made := (Element.locate_first all).2
  refine ⟨target, document, located, removed, found, by rw [report]; rfl, by rw [report]; rfl,
    ⟨hit, edits, bytes, recorded, rendered, wrote⟩, ?_, ?_⟩
  · intro absent
    rw [absent, Option.getD_none] at place
    rw [place] at made static
    cases made.symm.trans (Element.locate_first plain).2
    exact ⟨rfl, by rw [report, AnalysisReport.found, static]⟩
  · intro fragment before
    rw [before, Option.getD_some] at place
    have both := List.find?_some before
    rw [Bool.and_eq_true, ← place] at both
    exact ⟨place, both.1, Element.tag_of_fragment both.1 made⟩

/-- The element of the sample that closes itself is analysed and deleted: no fragment stands before
it, and it is the one that is removed. -/
theorem delete_agrees_sample :
    (Sample.editor.analyze Sample.store Sample.root "page.tsx:2:0").success = true ∧
      (Sample.editor.delete Sample.store Sample.root "page.tsx:2:0").1.success = true ∧
      Sample.editor.find Sample.store Sample.root "page.tsx:2:0" false =
        .ok (Sample.target 2 (by decide), Sample.document, Sample.boldElement) ∧
      Sample.editor.fragmentBefore? Sample.document (Sample.target 2 (by decide)).location
        Sample.boldElement.place = none ∧
      (Sample.editor.analyze Sample.store Sample.root "page.tsx:2:0").placement = some .static ∧
      Sample.editor.Deletes Sample.store Sample.root "page.tsx:2:0" (Sample.target 2 (by decide))
        Sample.document Sample.boldElement := by
  have analyzed :
      (Sample.editor.analyze Sample.store Sample.root "page.tsx:2:0").success = true := by
    decide +kernel
  have deleted :
      (Sample.editor.delete Sample.store Sample.root "page.tsx:2:0").1.success = true := by
    decide +kernel
  have found : Sample.editor.find Sample.store Sample.root "page.tsx:2:0" false =
      .ok (Sample.target 2 (by decide), Sample.document, Sample.boldElement) := by decide +kernel
  have first : Sample.editor.fragmentBefore? Sample.document (Sample.target 2 (by decide)).location
      Sample.boldElement.place = none := by decide +kernel
  obtain ⟨_, _, _, removed, hit, _, _, deletes, agree, _⟩ :=
    delete_agrees Sample.editor Sample.store Sample.root "page.tsx:2:0" analyzed deleted
  cases found.symm.trans hit
  obtain ⟨rfl, static⟩ := agree first
  exact ⟨analyzed, deleted, found, first, static, deletes⟩

end Editor

namespace Sample.Wrapped

/-- An element that closes itself, with a fragment around it. -/
def source : Bytes :=
  Placement.word "const a = <><b/></>;\n"

/-- The element. -/
def bold : Node :=
  part .selfClosing 12 16 [mark "<" 12 13, tagName 13 14, mark "/>" 14 16]

/-- The fragment. -/
def fragment : Node :=
  part .element 10 19 [part .openingTag 10 12 [mark "<" 10 11, mark ">" 11 12], bold,
    part .closingTag 16 19 [mark "</" 16 18, mark ">" 18 19]]

/-- The name of the variable and its value. -/
def declarator : Node :=
  part (.other "variable_declarator") 6 19 [part (.other "identifier") 6 7 [],
    ⟨.equals, false, false, none, 8, 9, []⟩, fragment]

/-- The declaration of the variable. -/
def declaration : Node :=
  part (.other "lexical_declaration") 0 20 [mark "const" 0 5, declarator, mark ";" 19 20]

/-- The file as it is parsed. -/
def document : Document := ⟨source, part (.other "program") 0 21 [declaration], .tsx⟩

/-- The file and the column at which the fragment starts. -/
def target : Target :=
  let first := Sample.target 1 le_rfl
  { first with location := { first.location with column := 10 } }

/-- The element where it stands. -/
def boldElement : Element :=
  ⟨⟨bold, [(fragment, 1), (declarator, 2), (declaration, 1), (document.root, 0)]⟩,
    .selfClosing, "b", ⟨1, 12⟩⟩

/-- The fragment where it stands. -/
def fragmentElement : Element :=
  ⟨⟨fragment, [(declarator, 2), (declaration, 1), (document.root, 0)]⟩, .fragment, "<>", ⟨1, 10⟩⟩

end Sample.Wrapped

deriving instance DecidableEq for MemoryStore

/-- Deletions do take fragments: in a file with an element inside a fragment, both within reach of a
location, the analysis reports on the element and the deletion removes the fragment around it. -/
theorem Editor.delete_takes_fragment :
    ((Sample.editorFor Sample.Wrapped.source Sample.Wrapped.document.root).analyze
        (Sample.storeOf Sample.Wrapped.source) Sample.root "page.tsx:1:10").success = true ∧
      ((Sample.editorFor Sample.Wrapped.source Sample.Wrapped.document.root).delete
        (Sample.storeOf Sample.Wrapped.source) Sample.root "page.tsx:1:10").1.success = true ∧
      (Sample.editorFor Sample.Wrapped.source Sample.Wrapped.document.root).find
          (Sample.storeOf Sample.Wrapped.source) Sample.root "page.tsx:1:10" false =
        .ok (Sample.Wrapped.target, Sample.Wrapped.document, Sample.Wrapped.boldElement) ∧
      (Sample.editorFor Sample.Wrapped.source Sample.Wrapped.document.root).Deletes
        (Sample.storeOf Sample.Wrapped.source) Sample.root "page.tsx:1:10" Sample.Wrapped.target
        Sample.Wrapped.document Sample.Wrapped.fragmentElement ∧
      Sample.Wrapped.fragmentElement ≠ Sample.Wrapped.boldElement := by
  refine ⟨by decide +kernel, by decide +kernel, by decide +kernel, ⟨by decide +kernel, ?_⟩,
    by decide +kernel⟩
  exact ⟨[⟨10, 19, Placement.word "null"⟩], Placement.word "const a = null;\n", by decide +kernel,
    by decide +kernel, by decide +kernel⟩

end Retouch
