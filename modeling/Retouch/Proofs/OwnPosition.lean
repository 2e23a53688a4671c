import Mathlib
import Retouch.Proofs.Position
import Retouch.Proofs.Search

/-!
# Elements by their own position

Opening tags that start at different offsets have different positions, so what stands at a place is
found by its own position, as far as the names up to it can be read (`Element.locate_own_position`,
`Element.locate_split_name`).
-/

namespace Retouch

namespace Place

/-- The places of markup before a place in document order. -/
def earlier (root : Node) (place : Place) : List Place :=
  (markup root).takeWhile (· ≠ place)

/-- What is before the first occurrence of a place is before the place. -/
lemma takeWhile_ne {place : Place} {before after : List Place} (absent : place ∉ before) :
    (before ++ place :: after).takeWhile (· ≠ place) = before := by
  have passes : ∀ other ∈ before, decide (other ≠ place) = true := by
    intro other mem
    rw [decide_eq_true_eq]
    rintro rfl
    exact absent mem
  rw [List.takeWhile_append_of_pos passes, List.takeWhile_cons_of_neg (by simp), List.append_nil]

end Place

namespace Query

variable {query : Query}

/-- A search admits what counts and what it reaches. -/
lemma admits_eq (document : Document) (place : Place) :
    query.admits document place = (query.counts place && query.reaches document place) := rfl

/-- Without tolerance a query reaches what stands at its very position. -/
lemma reaches_iff_of_exact {document : Document} {place : Place} {p : Position}
    (line : query.line = p.line) (column : query.column = p.column) (exact : query.tolerance = 0) :
    query.reaches document place = true ↔ document.position place.node.openingTag = p := by
  simp only [reaches, line, column, exact, Bool.and_eq_true, decide_eq_true_eq]
  constructor
  · rintro ⟨sameLine, sameColumn⟩
    generalize document.position place.node.openingTag = other at sameLine sameColumn ⊢
    obtain ⟨otherLine, otherColumn⟩ := other
    obtain ⟨pLine, pColumn⟩ := p
    simp only [Position.mk.injEq] at sameLine sameColumn ⊢
    omega
  · rintro rfl
    simp

end Query

namespace Document

/-- Opening tags start between two characters, and those at different places start at different
offsets. -/
@[mk_iff]
structure TagsApart (document : Document) : Prop where
  boundary : ∀ place ∈ Place.markup document.root,
    Utf8.isBoundary document.source place.node.openingTag.start = true
  apart : ∀ place ∈ Place.markup document.root, ∀ other ∈ Place.markup document.root,
    place.node.openingTag.start = other.node.openingTag.start → place = other

instance : DecidablePred TagsApart :=
  fun document => decidable_of_iff _ (tagsApart_iff document).symm

end Document

namespace Element

variable {document : Document} {query : Query} {element : Element} {place : Place}
    {places : List Place}

/-- A search goes past the places that do not count, and past those whose name it can read and that
it does not reach. -/
def Passes (document : Document) (query : Query) (place : Place) : Prop :=
  query.counts place = true → document.Legible place ∧ query.reaches document place = false

/-- A search does not admit what it goes past. -/
lemma Passes.not_admits (passes : Passes document query place) :
    query.admits document place = false := by
  rw [Query.admits_eq]
  cases counted : query.counts place with
  | false => rfl
  | true => rw [(passes counted).2, Bool.and_false]

/-- A search goes on behind what it goes past. -/
lemma search_of_passes (passes : Passes document query place) (scanned : Nat)
    (nearby : List NearbyElement) (places : List Place) : ∃ more seen,
      search document query scanned nearby (place :: places) =
        search document query more seen places := by
  cases counted : query.counts place with
  | false => exact ⟨scanned, nearby, search_of_not_counts counted ..⟩
  | true =>
    obtain ⟨legible, missed⟩ := passes counted
    obtain ⟨found, made⟩ := succeeds_ofPlace.2 legible
    rw [search_of_counts counted, made, lift_ok, ok_bind, fits_eq_reaches made, missed]
    exact ⟨_, _, rfl⟩

/-- A search that does not go past a place ends there, and finds the element exactly if it admits
it. -/
lemma search_of_not_passes (halts : ¬ Passes document query place) (scanned : Nat)
    (nearby : List NearbyElement) (places : List Place) :
    search document query scanned nearby (place :: places) = .ok element ↔
      ofPlace document place = .ok element ∧ query.admits document place = true := by
  obtain ⟨counted, halts⟩ := Classical.not_imp.1 halts
  rw [search_of_counts counted, Query.admits_eq, counted, Bool.true_and]
  cases made : ofPlace document place with
  | error defect => simp [lift_error, error_bind]
  | ok found =>
    have reached : query.reaches document place = true := by
      by_contra missed
      exact halts ⟨succeeds_ofPlace.1 ⟨found, made⟩, Bool.eq_false_of_not_eq_true missed⟩
    rw [lift_ok, ok_bind, if_pos ((fits_eq_reaches made).trans reached), reached, pure_eq_ok]
    simp [eq_comm]

/-- A search stops at an element exactly if the query admits its place and the search goes past
those before. -/
lemma search_eq_ok_iff {scanned : Nat} {nearby : List NearbyElement} :
    search document query scanned nearby places = .ok element ↔
      ∃ before after, places = before ++ element.place :: after ∧
        ofPlace document element.place = .ok element ∧
        query.admits document element.place = true ∧
        ∀ other ∈ before, Passes document query other := by
  induction places generalizing scanned nearby with
  | nil => simp [search]
  | cons place places ih =>
    -- either the search goes past the first place, which joins those before, or it ends there
    by_cases passes : Passes document query place
    · obtain ⟨more, seen, eq⟩ := search_of_passes passes scanned nearby places
      rw [eq, ih]
      constructor
      · rintro ⟨before, after, rfl, made, admitted, passed⟩
        exact ⟨place :: before, after, rfl, made, admitted, List.forall_mem_cons.2 ⟨passes, passed⟩⟩
      · rintro ⟨before, after, split, made, admitted, passed⟩
        cases before with
        | nil =>
          obtain ⟨rfl, -⟩ := List.cons.inj split
          cases passes.not_admits.symm.trans admitted
        | cons head before =>
          obtain ⟨rfl, rfl⟩ := List.cons.inj split
          exact ⟨before, after, rfl, made, admitted, (List.forall_mem_cons.1 passed).2⟩
    · rw [search_of_not_passes passes]
      constructor
      · rintro ⟨made, admitted⟩
        obtain rfl := place_of_ofPlace made
        exact ⟨[], places, rfl, made, admitted, List.forall_mem_nil _⟩
      · rintro ⟨before, after, split, made, admitted, passed⟩
        cases before with
        | nil =>
          obtain ⟨rfl, -⟩ := List.cons.inj split
          exact ⟨made, admitted⟩
        | cons head before =>
          obtain ⟨rfl, -⟩ := List.cons.inj split
          exact absurd (List.forall_mem_cons.1 passed).1 passes

/-- Fragments have no name to be read, so a search that leaves them out needs no exception for
them. -/
lemma passes_iff : Passes document query place ↔
    document.Legible place ∧
    (query.counts place = true → query.reaches document place = false) := by
  constructor
  · intro passes
    refine ⟨?_, fun counted => (passes counted).2⟩
    cases counted : query.counts place with
    | true => exact (passes counted).1
    | false =>
      rw [Query.counts, Bool.or_eq_false_iff, Bool.not_eq_false'] at counted
      exact Document.legible_of_isFragment counted.2
  · rintro ⟨legible, missed⟩ counted
    exact ⟨legible, missed counted⟩

/-- What stands at a place of markup is located exactly if the query admits it, the names up to it
can be read, and no place before it that counts is reached. -/
lemma locates_iff (mem : place ∈ Place.markup document.root) :
    (∃ element, element.place = place ∧ locate document query = .ok element) ↔
      query.admits document place = true ∧
        (∀ other ∈ Place.earlier document.root place, query.counts other = true →
          query.reaches document other = false) ∧
        ∀ other ∈ Place.earlier document.root place ++ [place], document.Legible other := by
  simp only [List.forall_mem_append, List.forall_mem_singleton]
  constructor
  · rintro ⟨element, rfl, located⟩
    obtain ⟨before, after, split, made, admitted, passed⟩ := search_eq_ok_iff.1 located
    -- the search has not gone past the place itself
    have absent : element.place ∉ before := by
      intro earlier
      cases (passed _ earlier).not_admits.symm.trans admitted
    rw [Place.earlier, split, Place.takeWhile_ne absent]
    exact ⟨admitted, fun other earlier => (passes_iff.1 (passed other earlier)).2,
      fun other earlier => (passes_iff.1 (passed other earlier)).1,
      succeeds_ofPlace.1 ⟨element, made⟩⟩
  · rintro ⟨admitted, missed, readable, legible⟩
    obtain ⟨element, made⟩ := succeeds_ofPlace.2 legible
    obtain ⟨before, after, split, absent⟩ := List.eq_append_cons_of_mem mem
    rw [Place.earlier, split, Place.takeWhile_ne absent] at missed readable
    have passed : ∀ other ∈ before, Passes document query other := by
      intro other earlier
      exact passes_iff.2 ⟨readable other earlier, missed other earlier⟩
    obtain rfl := place_of_ofPlace made
    exact ⟨element, rfl, search_eq_ok_iff.2 ⟨before, after, split, made, admitted, passed⟩⟩

end Element

namespace Document

variable {document : Document} {text : Text} {place : Place}

/-- Without tolerance, the position of an opening tag reaches no place before it. -/
lemma TagsApart.not_reaches (tags : document.TagsApart)
    (valid : Utf8.decode document.source = .ok text) (mem : place ∈ Place.markup document.root)
    {other : Place} (before : other ∈ Place.earlier document.root place) {query : Query}
    (line : query.line = (document.position place.node.openingTag).line)
    (column : query.column = (document.position place.node.openingTag).column)
    (exact : query.tolerance = 0) : query.reaches document other = false := by
  have among : other ∈ Place.markup document.root := (List.takeWhile_sublist _).subset before
  have ne : other ≠ place := by simpa using List.mem_takeWhile_imp before
  by_contra reached
  rw [Bool.not_eq_false, Query.reaches_iff_of_exact line column exact] at reached
  exact ne (tags.apart other among place mem
    (Bytes.position_injective valid (tags.boundary other among) (tags.boundary place mem) reached))

end Document

namespace Element

/-- Of two offsets between characters the first has the earlier position, so positions tell them
apart. Where opening tags start at different offsets between characters, what stands at a place of
markup is therefore located by its own position without tolerance exactly if the names up to it can
be read, as they can where they start and stop between characters. An editor, which leaves fragments
out, locates an element by its position exactly if it does not reach one before it either, and
without tolerance it reaches none. -/
theorem locate_own_position (document : Document) {text : Text}
    (valid : Utf8.decode document.source = .ok text) :
    (∀ i j, Utf8.isBoundary document.source i = true →
      Utf8.isBoundary document.source j = true → i < j →
      (document.source.position i).Before (document.source.position j)) ∧
    (∀ i j, Utf8.isBoundary document.source i = true → Utf8.isBoundary document.source j = true →
      document.source.position i = document.source.position j → i = j) ∧
    (∀ place : Place,
      (∀ name ∈ place.node.tagName?, Utf8.isBoundary document.source name.start = true ∧
      Utf8.isBoundary document.source name.stop = true) → document.Legible place) ∧
    (document.TagsApart → ∀ place ∈ Place.markup document.root,
      (∀ window, (∃ element, element.place = place ∧
          locate document ⟨(document.position place.node.openingTag).line,
            (document.position place.node.openingTag).column, 0, window, true⟩ = .ok element) ↔
        ∀ other ∈ Place.earlier document.root place ++ [place], document.Legible other) ∧
      (place.node.isFragment = false → ∀ (editor : Editor) (location : Location),
        location.line = (document.position place.node.openingTag).line →
        location.column = (document.position place.node.openingTag).column →
        ((∃ element, element.place = place ∧ editor.locate document location false = .ok element) ↔
          (∀ other ∈ Place.earlier document.root place, other.node.isFragment = false →
            (editor.query location false).reaches document other = false) ∧
          ∀ other ∈ Place.earlier document.root place ++ [place], document.Legible other) ∧
        (editor.settings.columnTolerance = 0 → ∀ other ∈ Place.earlier document.root place,
          (editor.query location false).reaches document other = false))) := by
  refine ⟨fun i j => Bytes.position_before valid, fun i j => Bytes.position_injective valid,
    fun place => Document.legible_of_boundaries valid, fun tags place mem => ⟨fun window => ?_, ?_⟩⟩
  · rw [locates_iff mem, Query.admits_eq, Query.counts, Bool.true_or, Bool.true_and,
      Query.reaches_iff_of_exact rfl rfl rfl]
    refine ⟨fun located => located.2.2, fun legible => ⟨rfl, ?_, legible⟩⟩
    exact fun other before _ => tags.not_reaches valid mem before rfl rfl rfl
  · intro named editor location line column
    have own : (editor.query location false).reaches document place = true := by
      simp [Query.reaches, Editor.query, line, column]
    refine ⟨?_, fun exact other before => tags.not_reaches valid mem before
      (by simp [Editor.query, line])
      (by simp [Editor.query, column]) (by simp [Editor.query, exact])⟩
    change (∃ element, element.place = place ∧
      locate document (editor.query location false) = .ok element) ↔ _
    rw [locates_iff mem, Query.admits_eq, own, Query.counts, named]
    simp [Query.counts, Editor.query]

end Element

/-- An editor without tolerance that knows the tree of a document. -/
def Sample.exactEditor (document : Document) : Editor :=
  { editorFor document.source document.root with settings := { columnTolerance := 0 } }

namespace Element

/-- The element behind a character of two units is found by its own position, with fragments and
without. -/
theorem locate_own_position_sample :
    Utf8.decode Sample.Astral.document.source = .ok Sample.Astral.text ∧
    Sample.Astral.document.TagsApart ∧
      Sample.Astral.elements[1].place ∈ Place.markup Sample.Astral.document.root ∧
      Sample.Astral.elements[1].place.node.isFragment = false ∧
      (∃ element, element.place = Sample.Astral.elements[1].place ∧
        locate Sample.Astral.document ⟨1, 7, 0, 5, true⟩ = .ok element) ∧
      ∃ element, element.place = Sample.Astral.elements[1].place ∧
        (Sample.exactEditor Sample.Astral.document).locate Sample.Astral.document
          (Sample.Astral.target 7).location false =
          .ok element := by
  have valid : Utf8.decode Sample.Astral.document.source = .ok Sample.Astral.text := by
    decide +kernel
  have tags : Sample.Astral.document.TagsApart := by decide +kernel
  have mem : Sample.Astral.elements[1].place ∈ Place.markup Sample.Astral.document.root := by
    decide +kernel
  have named : Sample.Astral.elements[1].place.node.isFragment = false := by decide +kernel
  have position :
      Sample.Astral.document.position Sample.Astral.elements[1].place.node.openingTag = ⟨1, 7⟩ := by
    decide +kernel
  have names :
    ∀ other ∈ Place.earlier Sample.Astral.document.root Sample.Astral.elements[1].place ++
      [Sample.Astral.elements[1].place], ∀ name ∈ other.node.tagName?,
        Utf8.isBoundary Sample.Astral.document.source name.start = true ∧
          Utf8.isBoundary Sample.Astral.document.source name.stop = true := by
    decide +kernel
  obtain ⟨-, -, readable, found⟩ := locate_own_position Sample.Astral.document valid
  obtain ⟨own, leaving⟩ := found tags _ mem
  rw [position] at own leaving
  obtain ⟨reached, clear⟩ := leaving named (Sample.exactEditor Sample.Astral.document)
    (Sample.Astral.target 7).location rfl rfl
  refine ⟨valid, tags, mem, named,
    (own 5).2 fun other upTo => readable other (names other upTo), ?_⟩
  exact reached.2 ⟨fun other before _ => clear rfl other before,
    fun other upTo => readable other (names other upTo)⟩

end Element

namespace Sample.Split

/-- A file with two elements, the first of which has a name with an accent. -/
def text : Text := "<é/>;<b/>;"

/-- The first element, as if its name stopped inside the letter. -/
def accented : Node :=
  part .selfClosing 0 5 [mark "<" 0 1, tagName 1 2, mark "/>" 3 5]

/-- The statement around the first element. -/
def first : Node :=
  part (.other "expression_statement") 0 6 [accented, mark ";" 5 6]

/-- The statement around the second element. -/
def second : Node :=
  part (.other "expression_statement") 6 11 [Astral.single 6, mark ";" 10 11]

/-- The file as it is parsed. -/
def document : Document := ⟨Utf8.encodeAll text, part (.other "program") 0 11 [first, second], .tsx⟩

/-- The place of the second element. -/
def place : Place := ⟨Astral.single 6, [(second, 0), (document.root, 1)]⟩

end Sample.Split

/-- Positions do tell the elements apart, and yet one of them is not found by its own: the name of
the element before it stops inside a letter and cannot be read, which no search gets past. -/
theorem Element.locate_split_name :
    Utf8.decode Sample.Split.document.source = .ok Sample.Split.text ∧
    Sample.Split.document.TagsApart ∧
      Sample.Split.place ∈ Place.markup Sample.Split.document.root ∧
      Sample.Split.place.node.isFragment = false ∧
      Sample.Split.document.position Sample.Split.place.node.openingTag = ⟨1, 5⟩ ∧
      Element.locate Sample.Split.document ⟨1, 5, 0, 5, true⟩ =
        .error (.unexpected (.undecodable ⟨0, 1, 195, .unexpectedEnd⟩)) ∧
      ((Sample.exactEditor Sample.Split.document).analyze
        (Sample.storeOf Sample.Split.document.source) Sample.root
        "page.tsx:1:5").errorKind = some .internal := by
  refine ⟨by decide +kernel, by decide +kernel, by decide +kernel, by decide +kernel,
    by decide +kernel, by decide +kernel, by decide +kernel⟩

end Retouch
