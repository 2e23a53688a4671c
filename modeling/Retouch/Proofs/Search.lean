import Mathlib
import Retouch.Proofs.Deletion
import Retouch.Proofs.Utf8

/-!
# Searches

The places that are visited with a stack are those of the tree in recursive pre-order
(`Place.all_eq`). A search looks through them for the first element that its query hits, and one
without success has counted all of them and noted those near the line (`Element.locate_exact`).
-/

namespace Retouch

namespace Place

mutual

/-- The places of a tree, each before those below it, given the way to the tree. -/
def walk (trail : List (Node × Nat)) : Node → List Place
  | node@⟨_, _, _, _, _, _, children⟩ => ⟨node, trail⟩ :: walkAll node trail 0 children

/-- The places of the trees of children, the first of which has the given number. -/
def walkAll (parent : Node) (trail : List (Node × Nat)) (number : Nat) : List Node → List Place
  | [] => []
  | node :: nodes =>
    walk ((parent, number) :: trail) node ++ walkAll parent trail (number + 1) nodes

end

/-- A place and the places below it, each before those below it. -/
def preorder (place : Place) : List Place :=
  walk place.trail place.node

/-- The places below children are those of each child, with its number. -/
lemma walkAll_eq (parent : Node) (trail : List (Node × Nat)) (number : Nat) (nodes : List Node) :
    walkAll parent trail number nodes =
      (nodes.zipIdx number).flatMap fun entry => walk ((parent, entry.2) :: trail) entry.1 := by
  induction nodes generalizing number with
  | nil => rfl
  | cons node nodes ih => rw [walkAll, ih, List.zipIdx_cons, List.flatMap_cons]

/-- A place comes before the places below its children, one child after the other. -/
lemma preorder_eq (place : Place) : place.preorder = place :: place.children.flatMap preorder := by
  obtain ⟨node, trail⟩ := place
  cases node
  rw [preorder, walk, walkAll_eq, children, List.flatMap_map]
  rfl

/-- There are as many places in a tree as nodes. -/
lemma length_walk (node : Node) (trail : List (Node × Nat)) :
    (walk trail node).length = node.size := by
  induction node using Node.childrenInduction generalizing trail with
  | step node ih =>
    have all (nodes : List Node) (held : ∀ child ∈ nodes, child ∈ node.children) (number : Nat) :
        (walkAll node trail number nodes).length = Node.sizeAll nodes := by
      induction nodes generalizing number with
      | nil => rfl
      | cons child nodes more =>
        have first := ih child (held child List.mem_cons_self) ((node, number) :: trail)
        have rest :=
          more (fun other mem => held other (List.mem_cons_of_mem child mem)) (number + 1)
        rw [walkAll, List.length_append, first, rest, Node.sizeAll]
    have below := all node.children (fun _ mem => mem) 0
    cases node
    rw [walk, List.length_cons, below, Node.size, Nat.add_comm]

/-- Visiting with a stack meets the places of the trees on it in their order, up to the number of
steps. -/
lemma visit_eq (steps : Nat) (stack : List Place) :
    visit steps stack = (stack.flatMap preorder).take steps := by
  induction steps generalizing stack with
  | zero => simp [visit]
  | succ steps ih =>
    cases stack with
    | nil => simp [visit]
    | cons place stack =>
      -- the children come before the rest of the stack, so what is below them does too
      rw [visit, ih, List.flatMap_append, List.flatMap_cons, preorder_eq place, List.cons_append,
        List.take_succ_cons]

/-- Visiting with a stack meets all places of a tree in recursive pre-order. -/
lemma all_eq (node : Node) : all node = (Place.root node).preorder := by
  have whole : (Place.root node).preorder.length = node.size := length_walk node []
  rw [all, visit_eq, List.flatMap_singleton, ← whole, List.take_length]

end Place

namespace Query

/-- A query hits the positions on its line that are no further from its column than the
tolerance. -/
def Hits (query : Query) (p : Position) : Prop :=
  (p.line : Int) = query.line ∧ |(p.column : Int) - query.column| ≤ query.tolerance

/-- A query is near the positions that are no further from its line than the window. -/
def Nears (query : Query) (p : Position) : Prop :=
  |(p.line : Int) - query.line| ≤ query.window

instance (query : Query) : DecidablePred query.Hits :=
  fun p => inferInstanceAs
    (Decidable ((p.line : Int) = query.line ∧ |(p.column : Int) - query.column| ≤ query.tolerance))

instance (query : Query) : DecidablePred query.Nears :=
  fun p => inferInstanceAs (Decidable (|(p.line : Int) - query.line| ≤ query.window))

/-- Decides whether a search looks at what stands at a place: fragments have to count. -/
def counts (query : Query) (place : Place) : Bool :=
  query.fragments || !place.node.isFragment

variable {query : Query}

/-- A search with more tolerance hits what it hits with less. -/
lemma Hits.raise {p : Position} {tolerance : Int} (hits : query.Hits p)
    (le : query.tolerance ≤ tolerance) : ({ query with tolerance } : Query).Hits p :=
  ⟨hits.1, hits.2.trans le⟩

end Query

namespace Document

/-- Every node of the tree starts and stops between two characters. -/
@[mk_iff]
structure Aligned (document : Document) : Prop where
  starts : ∀ node ∈ document.root.preorder, Utf8.isBoundary document.source node.start = true
  stops : ∀ node ∈ document.root.preorder, Utf8.isBoundary document.source node.stop = true

instance : DecidablePred Aligned :=
  fun document => decidable_of_iff _ (aligned_iff document).symm

/-- The name of what stands at a place can be read, if it has one. -/
def Legible (document : Document) (place : Place) : Prop :=
  ∀ name ∈ place.node.tagName?, Succeeds (document.text name)

variable {document : Document} {text : Text} {place : Place}

/-- What stands between characters can be read. -/
lemma textBetween_ok (valid : Utf8.decode document.source = .ok text) {start stop : Nat}
    (starts : Utf8.isBoundary document.source start = true)
    (stops : Utf8.isBoundary document.source stop = true) :
    Succeeds (document.textBetween start stop) := by
  obtain ⟨t, read, _⟩ := Utf8.decode_slice valid starts stops
  exact ⟨t, by rw [textBetween, read]; rfl⟩

/-- A name that starts and stops between characters can be read. -/
lemma legible_of_boundaries (valid : Utf8.decode document.source = .ok text)
    (names : ∀ name ∈ place.node.tagName?, Utf8.isBoundary document.source name.start = true ∧
      Utf8.isBoundary document.source name.stop = true) : document.Legible place := by
  intro name named
  obtain ⟨starts, stops⟩ := names name named
  exact textBetween_ok valid starts stops

/-- Fragments have no name. -/
lemma legible_of_isFragment (fragment : place.node.isFragment = true) : document.Legible place := by
  intro name named
  simp only [Node.isFragment, Bool.or_eq_true, Bool.and_eq_true, decide_eq_true_eq] at fragment
  rcases fragment with old | ⟨_, unnamed⟩
  · have self : place.node.openingTag = place.node := by
      simp [Node.openingTag, Node.openingTag?, old]
    simp [Node.tagName?, self, old] at named
  · rw [Option.isNone_iff_eq_none.1 unnamed] at named
    cases named

/-- The name of a node in the tree of an aligned document can be read. -/
lemma Aligned.legible (aligned : document.Aligned) (valid : Utf8.decode document.source = .ok text)
    (mem : place.node ∈ document.root.preorder) : document.Legible place := by
  refine legible_of_boundaries valid fun name named => ?_
  have below := Node.mem_preorder_trans (Node.tagName?_mem named) mem
  exact ⟨aligned.starts name below, aligned.stops name below⟩

end Document

namespace Element

variable {document : Document} {query : Query} {element : Element} {place : Place}
    {places : List Place}

/-- There is an element at a place exactly if its name can be read. -/
lemma succeeds_ofPlace : Succeeds (ofPlace document place) ↔ document.Legible place := by
  unfold ofPlace
  simp only
  split
  · rename_i fragment
    exact ⟨fun _ => Document.legible_of_isFragment fragment, fun _ => .pure _⟩
  · unfold Document.Legible
    cases place.node.tagName? with
    | none =>
      refine ⟨fun _ name named => ?_, fun _ => .pure _⟩
      cases named
    | some name =>
      constructor
      · rintro ⟨element, made⟩ _ ⟨⟩
        obtain ⟨tag, read, _⟩ := bind_eq_ok.1 made
        exact ⟨tag, read⟩
      · exact fun legible => (legible name rfl).bind fun _ _ => .pure _

/-- The elements of a document in recursive pre-order, without fragments unless they count. -/
def listed (document : Document) (fragments : Bool) : Except Defect (List Element) :=
  ((Place.root document.root).preorder.filter fun place =>
    place.node.kind.isMarkup && (fragments || !place.node.isFragment)).mapM (ofPlace document)

/-- Reading places reads the first one, and then the others. -/
lemma mapM_cons_eq_ok {elements : List Element} :
    (place :: places).mapM (ofPlace document) = .ok elements ↔
      ∃ first others, ofPlace document place = .ok first ∧
        places.mapM (ofPlace document) = .ok others ∧
        elements = first :: others := by
  simp only [List.mapM_cons, bind_eq_ok, pure_eq_ok]
  constructor
  · rintro ⟨first, made, others, rest, rfl⟩
    exact ⟨first, others, made, rest, rfl⟩
  · rintro ⟨first, others, made, rest, rfl⟩
    exact ⟨first, made, others, rest, rfl⟩

/-- Places that are legible are read. -/
lemma mapM_ok (legible : ∀ place ∈ places, document.Legible place) :
    Succeeds (places.mapM (ofPlace document)) := by
  induction places with
  | nil => exact .pure _
  | cons place places ih =>
    obtain ⟨first, made⟩ := succeeds_ofPlace.2 (legible place List.mem_cons_self)
    obtain ⟨others, rest⟩ := ih fun other mem => legible other (List.mem_cons_of_mem place mem)
    exact ⟨first :: others, mapM_cons_eq_ok.2 ⟨first, others, made, rest, rfl⟩⟩

/-- What is read from places is read from one of them. -/
lemma exists_ofPlace_of_mem {elements : List Element}
    (read : places.mapM (ofPlace document) = .ok elements) (mem : element ∈ elements) :
    ∃ place, ofPlace document place = .ok element := by
  induction places generalizing elements with
  | nil =>
    cases read
    cases mem
  | cons place places ih =>
    obtain ⟨first, others, made, rest, rfl⟩ := mapM_cons_eq_ok.1 read
    rcases List.mem_cons.1 mem with rfl | later
    · exact ⟨place, made⟩
    · exact ih rest later

/-- An element fits a search exactly if the search hits its position. -/
lemma fits_iff : element.fits query = true ↔ query.Hits element.position := by
  simp only [fits, Query.Hits, Bool.and_eq_true, decide_eq_true_eq, Int.natCast_natAbs]

/-- An element is near a search exactly if the search is near its position. -/
lemma isNear_iff : element.isNear query = true ↔ query.Nears element.position := by
  simp only [isNear, Query.Nears, decide_eq_true_eq, Int.natCast_natAbs]

/-- A search does not look at a place that does not count. -/
lemma search_of_not_counts (skipped : query.counts place = false) (scanned : Nat)
    (nearby : List NearbyElement) (places : List Place) :
    search document query scanned nearby (place :: places) =
      search document query scanned nearby places := by
  have out : (place.node.isFragment && !query.fragments) = true := by
    simpa [Query.counts, and_comm] using skipped
  rw [search, if_pos out]

/-- A search stops at an element that fits, and goes on from any other. -/
lemma search_of_counts (counted : query.counts place = true) (scanned : Nat)
    (nearby : List NearbyElement) (places : List Place) :
    search document query scanned nearby (place :: places) = (do
      let found ← ofPlace document place
      if found.fits query then return found
      search document query (scanned + 1)
        (if found.isNear query then nearby ++ [found.summary] else nearby)
        places) := by
  have kept : ¬ (place.node.isFragment && !query.fragments) = true := by
    simpa [Query.counts, or_comm, imp_iff_not_or] using counted
  rw [search, if_neg kept]

/-- A search finds the first element that its query hits, or it reports how many elements it has
seen and those near the line. -/
lemma search_eq (query : Query) {elements : List Element}
    (read : (places.filter query.counts).mapM (ofPlace document) = .ok elements)
    (scanned : Nat) (nearby : List NearbyElement) :
    search document query scanned nearby places =
      (elements.find? fun element => query.Hits element.position).elim
        (.error (.notFound query.line query.column ⟨scanned + elements.length,
          nearby ++ (elements.filter fun element => query.Nears element.position).map summary⟩))
            .ok := by
  induction places generalizing elements scanned nearby with
  | nil =>
    cases read
    simp [search]
  | cons place places ih =>
    cases counted : query.counts place with
    | false =>
      rw [List.filter_cons_of_neg (by simp [counted])] at read
      rw [search_of_not_counts counted, ih read]
    | true =>
      rw [List.filter_cons_of_pos counted] at read
      obtain ⟨first, others, made, rest, rfl⟩ := mapM_cons_eq_ok.1 read
      rw [search_of_counts counted, made, lift_ok, ok_bind]
      by_cases hit : query.Hits first.position
      · rw [if_pos (fits_iff.2 hit), List.find?_cons_of_pos (by simpa using hit)]
        rfl
      · have total : ((scanned + 1 : Nat) : Int) + others.length =
            scanned + (first :: others).length := by
          rw [List.length_cons]
          omega
        rw [if_neg (mt fits_iff.1 hit), List.find?_cons_of_neg (by simpa using hit), ih rest, total]
        by_cases near : query.Nears first.position
        · rw [if_pos (isNear_iff.2 near), List.filter_cons_of_pos (by simpa using near),
            List.map_cons, List.append_assoc, List.singleton_append]
        · rw [if_neg (mt isNear_iff.1 near), List.filter_cons_of_neg (by simpa using near)]

/-- What is looked through with a stack is what stands in recursive pre-order. -/
lemma listed_eq (document : Document) (query : Query) :
    listed document query.fragments =
      ((Place.markup document.root).filter query.counts).mapM (ofPlace document) := by
  rw [listed, Place.markup, Place.all_eq, List.filter_filter]
  congr 2
  funext place
  exact Bool.and_comm _ _

/-- Where a test is passed by more items, the first one to pass does not come later. -/
lemma exists_find?_of_imp {α : Type} [DecidableEq α] {test other : α → Bool}
    {items : List α} {first : α} (found : items.find? test = some first)
    (more : ∀ item, test item = true → other item = true) :
    ∃ item, items.find? other = some item ∧ items.idxOf item ≤ items.idxOf first := by
  obtain ⟨passes, before, after, rfl, missed⟩ := List.find?_eq_some_iff_append.1 found
  have absent : first ∉ before := by
    intro mem
    have fails := missed first mem
    rw [passes] at fails
    cases fails
  rw [List.find?_append, List.idxOf_append_of_notMem absent, List.idxOf_cons_self, Nat.add_zero]
  cases earlier : before.find? other with
  | none =>
    refine ⟨first, by rw [List.find?_cons_of_pos (more first passes)]; rfl, ?_⟩
    rw [List.idxOf_append_of_notMem absent, List.idxOf_cons_self, Nat.add_zero]
  | some item =>
    have mem := List.mem_of_find?_eq_some earlier
    refine ⟨item, rfl, ?_⟩
    rw [List.idxOf_append_of_mem mem]
    exact (List.idxOf_lt_length_iff.2 mem).le

/-- Locating is the first hit in the recursive pre-order of the elements, of which fragments are
left out unless they count. Where there is none, the failure tells how many elements there are, and
which of them are near the line, in their order. So a greater tolerance loses no hit and leads to no
later element. -/
theorem locate_exact (document : Document) {text : Text}
    (valid : Utf8.decode document.source = .ok text) (aligned : document.Aligned) (query : Query) :
    ∃ elements, listed document query.fragments = .ok elements ∧
      (∀ element ∈ elements, element.position = document.position element.node.openingTag) ∧
      (∀ element, locate document query = .ok element ↔
        elements.find? (fun other => query.Hits other.position) = some element) ∧
      (elements.find? (fun other => query.Hits other.position) = none →
        locate document query = .error (.notFound query.line query.column
          ⟨elements.length,
            (elements.filter fun other => query.Nears other.position).map summary⟩)) ∧
      ∀ tolerance, query.tolerance ≤ tolerance → ∀ element, locate document query = .ok element →
        ∃ other, locate document { query with tolerance } = .ok other ∧
          elements.idxOf other ≤ elements.idxOf element := by
  have legible : ∀ place ∈ (Place.markup document.root).filter query.counts,
      document.Legible place := by
    intro place mem
    have visited := (List.mem_filter.1 (List.mem_filter.1 mem).1).1
    exact aligned.legible valid (Place.node_mem_preorder visited)
  obtain ⟨elements, read⟩ := mapM_ok legible
  have result (tolerance : Int) := search_eq { query with tolerance } read 0 []
  have hit (tolerance : Int) (element : Element) :
      locate document { query with tolerance } = .ok element ↔
        elements.find? (fun other => ({ query with tolerance } : Query).Hits other.position) =
          some element := by
    rw [locate, result tolerance]
    cases elements.find? fun other => ({ query with tolerance } : Query).Hits other.position with
    | none => simp
    | some found => simp
  refine ⟨elements, (listed_eq document query).trans read, ?_, hit query.tolerance, ?_, ?_⟩
  · intro element mem
    obtain ⟨place, made⟩ := exists_ofPlace_of_mem read mem
    rw [position_of_ofPlace made, Element.node, place_of_ofPlace made]
  · intro missed
    rw [locate, result query.tolerance, missed, Option.elim_none, Nat.cast_zero, zero_add,
      List.nil_append]
  · intro tolerance le element located
    have found := (hit query.tolerance element).1 located
    have more (item : Element) (hits : decide (query.Hits item.position) = true) :
        decide (({ query with tolerance } : Query).Hits item.position) = true := by
      rw [decide_eq_true_eq] at hits ⊢
      exact hits.raise le
    obtain ⟨other, first, earlier⟩ := exists_find?_of_imp found more
    exact ⟨other, (hit tolerance other).2 first, earlier⟩

end Element

namespace Sample.Astral

/-- A fragment with an element behind a character of two units, and an element on the next line. -/
def text : Text := "<><a>😀<b/></a></>;\n<i/>;"

/-- An element that closes itself and whose name has one letter. -/
def single (start : Nat) : Node :=
  part .selfClosing start (start + 4) [mark "<" start (start + 1), tagName (start + 1) (start + 2),
    mark "/>" (start + 2) (start + 4)]

/-- The element around the character and the element behind it. -/
def anchor : Node :=
  part .element 2 17 [part .openingTag 2 5 [mark "<" 2 3, tagName 3 4, mark ">" 4 5],
    part .text 5 9 [], single 9,
    part .closingTag 13 17 [mark "</" 13 15, tagName 15 16, mark ">" 16 17]]

/-- The fragment. -/
def fragment : Node :=
  part .element 0 20 [part .openingTag 0 2 [mark "<" 0 1, mark ">" 1 2], anchor,
    part .closingTag 17 20 [mark "</" 17 19, mark ">" 19 20]]

/-- The statement around the fragment. -/
def first : Node :=
  part (.other "expression_statement") 0 21 [fragment, mark ";" 20 21]

/-- The statement around the element on the second line. -/
def second : Node :=
  part (.other "expression_statement") 22 27 [single 22, mark ";" 26 27]

/-- The file as it is parsed. -/
def document : Document := ⟨Utf8.encodeAll text, part (.other "program") 0 27 [first, second], .tsx⟩

/-- The file and a column of its first line. -/
def target (column : Nat) : Target :=
  { Wrapped.target with location := { Wrapped.target.location with column } }

/-- The elements where they stand. -/
def elements : List Element := [
  ⟨⟨anchor, [(fragment, 1), (first, 0), (document.root, 0)]⟩, .paired, "a", ⟨1, 2⟩⟩,
  ⟨⟨single 9, [(anchor, 2), (fragment, 1), (first, 0), (document.root, 0)]⟩,
    .selfClosing, "b", ⟨1, 7⟩⟩,
  ⟨⟨single 22, [(second, 0), (document.root, 1)]⟩, .selfClosing, "i", ⟨2, 0⟩⟩]

end Sample.Astral

namespace Element

/-- The character before it takes two columns, so the second element is found in the eighth, and
between the two elements of the line nothing is found. -/
theorem locate_exact_sample :
    Utf8.decode Sample.Astral.document.source = .ok Sample.Astral.text ∧
    Sample.Astral.document.Aligned ∧
      listed Sample.Astral.document false = .ok Sample.Astral.elements ∧
      locate Sample.Astral.document ⟨1, 7, 0, 0, false⟩ = .ok Sample.Astral.elements[1] ∧
      locate Sample.Astral.document ⟨1, 4, 1, 0, false⟩ =
        .error (.notFound 1 4 ⟨3, [⟨1, 2, "a"⟩, ⟨1, 7, "b"⟩]⟩) := by
  have valid : Utf8.decode Sample.Astral.document.source = .ok Sample.Astral.text := by
    decide +kernel
  have aligned : Sample.Astral.document.Aligned := by decide +kernel
  have all : listed Sample.Astral.document false = .ok Sample.Astral.elements := by decide +kernel
  obtain ⟨elements, read, _, hit, _⟩ :=
    locate_exact Sample.Astral.document valid aligned ⟨1, 7, 0, 0, false⟩
  obtain ⟨others, readAgain, _, _, miss, _⟩ :=
    locate_exact Sample.Astral.document valid aligned ⟨1, 4, 1, 0, false⟩
  obtain rfl : Sample.Astral.elements = elements := Except.ok.inj (all.symm.trans read)
  obtain rfl : Sample.Astral.elements = others := Except.ok.inj (all.symm.trans readAgain)
  exact ⟨valid, aligned, all, (hit _).2 (by decide +kernel), miss (by decide +kernel)⟩

end Element

end Retouch
