import Mathlib
import Retouch.Proofs.Splice
import Retouch.Proofs.Step

/-!
# Edits at once and one by one

Edits are sorted by their spans and carried out in one pass. A stable sort is determined by what it
sorts (`Edit.IsStableSort.unique`), so the order in which edits are recorded matters only for those
that have the same span. The pass is refused exactly if two edits overlap. Otherwise it gives what
the edits give one by one, the last span first, and recording them in another order gives the same,
as long as insertions at one offset stay in their order (`Edit.render_one_by_one`).
-/

namespace Retouch

namespace Edit

/-- Carries out one edit. -/
def apply (bytes : Bytes) (edit : Edit) : Bytes :=
  bytes.take edit.start ++ edit.replacement ++ bytes.drop edit.stop

/-- Decides whether an edit replaces the bytes from one offset up to another. -/
def hasSpan (start stop : Nat) (edit : Edit) : Bool :=
  edit.start == start && edit.stop == stop

/-- Decides whether an edit puts something in at an offset and takes nothing away. -/
def insertsAt (offset : Nat) (edit : Edit) : Bool :=
  edit.hasSpan offset offset

/-- Edits in the order of their spans, those with the same span in the order in which they are
recorded. -/
structure IsStableSort (edits sorted : List Edit) : Prop where
  ordered : sorted.Pairwise fun a b => a.precedes b = true
  stable : ∀ start stop, sorted.filter (hasSpan start stop) = edits.filter (hasSpan start stop)

variable {a b : Edit} {edits others sorted : List Edit} {source : Bytes} {lo hi offset : Nat}

section Sorting

/-- An edit precedes another one exactly if its span comes first. -/
lemma precedes_iff : a.precedes b = true ↔
    a.start < b.start ∨ a.start = b.start ∧ a.stop ≤ b.stop := by
  simp only [precedes, Bool.or_eq_true, Bool.and_eq_true, decide_eq_true_eq, beq_iff_eq]

/-- What precedes an edit precedes what the edit precedes. -/
lemma precedes_trans (a b c : Edit) (first : a.precedes b = true) (second : b.precedes c = true) :
    a.precedes c = true := by
  rw [precedes_iff] at first second ⊢
  omega

/-- Of two edits one precedes the other. -/
lemma precedes_total (a b : Edit) : (a.precedes b || b.precedes a) = true := by
  rw [Bool.or_eq_true, precedes_iff, precedes_iff]
  omega

/-- An edit has a span exactly if it starts and stops with it. -/
lemma hasSpan_iff {start stop : Nat} :
    a.hasSpan start stop = true ↔ a.start = start ∧ a.stop = stop := by
  simp only [hasSpan, Bool.and_eq_true, beq_iff_eq]

/-- Edits with the same span precede each other. -/
lemma pairwise_hasSpan (edits : List Edit) (start stop : Nat) :
    (edits.filter (hasSpan start stop)).Pairwise fun a b => a.precedes b = true := by
  refine List.pairwise_of_forall_mem_list fun a memA b memB => ?_
  have spanA := hasSpan_iff.1 (List.mem_filter.1 memA).2
  have spanB := hasSpan_iff.1 (List.mem_filter.1 memB).2
  rw [precedes_iff]
  omega

/-- A sort that keeps every part of the edits that is in order is stable. -/
lemma isStableSort_of_keeps (ordered : sorted.Pairwise fun a b => a.precedes b = true)
    (perm : sorted.Perm edits)
    (keeps : ∀ part : List Edit, part.Pairwise (fun a b => a.precedes b = true) →
      part.Sublist edits → part.Sublist sorted) :
    IsStableSort edits sorted where
  ordered := ordered
  stable start stop := by
    have part := keeps _ (pairwise_hasSpan edits start stop) List.filter_sublist
    have kept := part.filter (hasSpan start stop)
    have twice : (fun a => hasSpan start stop a && hasSpan start stop a) = hasSpan start stop :=
      funext fun a => Bool.and_self _
    rw [List.filter_filter, twice] at kept
    exact (kept.eq_of_length (perm.filter _).length_eq.symm).symm

/-- Sorting edits is sorting them by insertion. -/
lemma sort_eq_insertionSort (edits : List Edit) :
    sort edits = edits.insertionSort fun a b => a.precedes b = true := by
  have inserted (edit : Edit) (others : List Edit) :
      insert edit others = others.orderedInsert (fun a b => a.precedes b = true) edit := by
    induction others with
    | nil => rfl
    | cons other others ih => rw [insert, List.orderedInsert_cons, ih]
  induction edits with
  | nil => rfl
  | cons edit edits ih =>
    rw [List.insertionSort_cons, ← ih, ← inserted]
    rfl

/-- Sorting edits loses none and adds none. -/
lemma sort_perm (edits : List Edit) : (sort edits).Perm edits := by
  rw [sort_eq_insertionSort]
  exact List.perm_insertionSort _ edits

/-- Edits are sorted stably. -/
lemma isStableSort_sort (edits : List Edit) : IsStableSort edits (sort edits) := by
  have total : Std.Total fun a b : Edit => a.precedes b = true :=
    ⟨fun a b => by simpa using precedes_total a b⟩
  have trans : IsTrans Edit fun a b => a.precedes b = true := ⟨precedes_trans⟩
  refine isStableSort_of_keeps ?_ (sort_perm edits) fun part ordered sublist => ?_
  · rw [sort_eq_insertionSort]
    exact List.pairwise_insertionSort _ edits
  · rw [sort_eq_insertionSort]
    exact List.sublist_insertionSort ordered sublist

/-- Sorting by merging is stable too. -/
lemma isStableSort_mergeSort (edits : List Edit) : IsStableSort edits (edits.mergeSort precedes) :=
  isStableSort_of_keeps (List.pairwise_mergeSort precedes_trans precedes_total edits)
    (List.mergeSort_perm edits precedes)
      fun _ => List.sublist_mergeSort precedes_trans precedes_total

/-- Sorted edits are the same if those with each span are. -/
lemma eq_of_filter_eq (first : sorted.Pairwise fun a b => a.precedes b = true)
    (second : others.Pairwise fun a b => a.precedes b = true)
    (same : ∀ start stop, sorted.filter (hasSpan start stop) = others.filter (hasSpan start stop)) :
    sorted = others := by
  have listed {xs ys : List Edit} {x : Edit} (mem : x ∈ xs)
      (same : ∀ start stop, xs.filter (hasSpan start stop) = ys.filter (hasSpan start stop)) :
        x ∈ ys := by
    have kept : x ∈ xs.filter (hasSpan x.start x.stop) :=
      List.mem_filter.2 ⟨mem, hasSpan_iff.2 ⟨rfl, rfl⟩⟩
    rw [same] at kept
    exact (List.mem_filter.1 kept).1
  induction sorted generalizing others with
  | nil =>
    cases others with
    | nil => rfl
    | cons y ys => cases listed List.mem_cons_self fun start stop => (same start stop).symm
  | cons x xs ih =>
    cases others with
    | nil => cases listed List.mem_cons_self same
    | cons y ys =>
      -- Each of the two first edits is found in the other list, so neither span comes before the
      -- other.
      have spans : x.start = y.start ∧ x.stop = y.stop := by
        have forward : x.precedes y = true := by
          rcases List.mem_cons.1
            (listed List.mem_cons_self fun start stop => (same start stop).symm)
            with rfl | mem
          · rw [precedes_iff]
            omega
          · exact List.rel_of_pairwise_cons first mem
        have backward : y.precedes x = true := by
          rcases List.mem_cons.1 (listed List.mem_cons_self same) with rfl | mem
          · rw [precedes_iff]
            omega
          · exact List.rel_of_pairwise_cons second mem
        rw [precedes_iff] at forward backward
        omega
      have heads := same x.start x.stop
      rw [List.filter_cons_of_pos (hasSpan_iff.2 ⟨rfl, rfl⟩),
        List.filter_cons_of_pos (hasSpan_iff.2 ⟨spans.1.symm, spans.2.symm⟩)] at heads
      cases (List.cons.inj heads).1
      rw [ih first.of_cons second.of_cons fun start stop => ?_]
      have rest := same start stop
      simp only [List.filter_cons] at rest
      split at rest
      · exact (List.cons.inj rest).2
      · exact rest

/-- There is one stable sort of some edits. -/
lemma IsStableSort.unique (first : IsStableSort edits sorted) (second : IsStableSort edits others) :
    sorted = others :=
  eq_of_filter_eq first.ordered second.ordered fun start stop =>
    (first.stable start stop).trans (second.stable start stop).symm

end Sorting

section Overlaps

/-- Edits that are apart are so in either order. -/
lemma Apart.symm (apart : Apart a b) : Apart b a :=
  Or.symm apart

/-- Sorted edits that do not overlap follow one another. -/
lemma ordered_of_apart (ordered : edits.Pairwise fun a b => a.precedes b = true)
    (apart : edits.Pairwise Apart) (spans : ∀ edit ∈ edits, edit.start ≤ edit.stop ∧ edit.stop ≤ hi)
    (lower : ∀ edit ∈ edits, lo ≤ edit.start) (le : lo ≤ hi) : Ordered lo hi edits := by
  induction edits generalizing lo with
  | nil => exact .nil le
  | cons edit edits ih =>
    obtain ⟨span, upper⟩ := spans edit List.mem_cons_self
    have rest : ∀ other ∈ edits, other.start ≤ other.stop ∧ other.stop ≤ hi :=
      fun other mem => spans other (List.mem_cons_of_mem edit mem)
    refine .cons (lower edit List.mem_cons_self) span
      (ih ordered.of_cons apart.of_cons rest ?_ upper)
    intro other mem
    have before := precedes_iff.1 (List.rel_of_pairwise_cons ordered mem)
    have span' := (rest other mem).1
    -- An edit that ends where this one starts and does not come before it is empty, and so is this
    -- one.
    rcases List.rel_of_pairwise_cons apart mem with after | after <;> omega

/-- Edits that are carried out follow one another. -/
lemma ordered_of_splice {bytes : Bytes}
    (spans : ∀ edit ∈ edits, edit.start ≤ edit.stop ∧ edit.stop ≤ hi) (le : offset ≤ hi)
    (spliced : splice source offset edits = .ok bytes) : Ordered offset hi edits := by
  induction edits generalizing offset bytes with
  | nil => exact .nil le
  | cons edit edits ih =>
    obtain ⟨span, upper⟩ := spans edit List.mem_cons_self
    simp only [splice] at spliced
    split at spliced
    · cases spliced
    · rename_i fits
      obtain ⟨rest, spliced, _⟩ := bind_eq_ok.1 spliced
      exact .cons (not_lt.1 fits) span
        (ih (fun other mem => spans other (List.mem_cons_of_mem edit mem)) upper spliced)

/-- Edits are carried out exactly if no two of them overlap. -/
lemma render_ok_iff (spans : ∀ edit ∈ edits, edit.start ≤ edit.stop ∧ edit.stop ≤ source.length) :
    (∃ bytes, render source edits = .ok bytes) ↔ edits.Pairwise Apart := by
  have perm := sort_perm edits
  have spans' : ∀ edit ∈ sort edits, edit.start ≤ edit.stop ∧ edit.stop ≤ source.length :=
    fun edit mem => spans edit (perm.mem_iff.1 mem)
  rw [← perm.pairwise_iff Apart.symm]
  constructor
  · rintro ⟨bytes, rendered⟩
    exact (ordered_of_splice spans' (Nat.zero_le _) rendered).pairwise_apart
  · intro apart
    have ordered := ordered_of_apart (isStableSort_sort edits).ordered apart spans'
      (fun _ _ => Nat.zero_le _) (Nat.zero_le _)
    obtain ⟨inside, spliced⟩ := ordered.splice source (Nat.zero_le 0)
    exact ⟨_, spliced⟩

/-- Edits are refused exactly if two of them overlap. -/
lemma render_error_iff (spans : ∀ edit ∈ edits, edit.start ≤ edit.stop ∧
    edit.stop ≤ source.length) :
    (∃ position, render source edits = .error (.overlap position)) ↔ ¬ edits.Pairwise Apart := by
  rw [← render_ok_iff spans]
  cases rendered : render source edits with
  | ok bytes => simp
  | error failure =>
    obtain ⟨position, rfl⟩ := splice_error rendered
    simp

/-- No two of some edits overlap, whichever comes first. -/
lemma pairwise_apart_iff (edits : List Edit) :
    edits.Pairwise Apart ↔ ∀ i j : Fin edits.length, i ≠ j → Apart (edits.get i) (edits.get j) := by
  rw [List.pairwise_iff_get]
  constructor
  · intro apart i j ne
    rcases lt_or_gt_of_ne ne with lt | gt
    · exact apart i j lt
    · exact (apart j i gt).symm
  · exact fun apart i j lt => apart i j lt.ne

end Overlaps

section OneByOne

/-- Edits that follow one another keep what stands before them, and from there on they give one by
one, the last one first, what they give at once. -/
lemma Ordered.splice_eq (ordered : Ordered lo hi edits) (le : hi ≤ source.length)
    (before : offset ≤ lo) :
    (edits.foldr (fun edit bytes => apply bytes edit) source).take lo = source.take lo ∧
      Edit.splice source offset edits =
        .ok ((edits.foldr (fun edit bytes => apply bytes edit) source).drop offset) := by
  induction ordered generalizing offset with
  | nil _ => exact ⟨rfl, rfl⟩
  | @cons lo hi edit edits lower span rest ih =>
    obtain ⟨kept, spliced⟩ := ih le le_rfl
    have inside : edit.start ≤ source.length := span.trans (rest.le.trans le)
    rw [List.foldr_cons]
    generalize edits.foldr (fun edit bytes => apply bytes edit) source = bytes at kept spliced ⊢
    -- Up to the start of the edit nothing has been changed yet.
    have front : bytes.take edit.start = source.take edit.start := by
      have cut := congrArg (List.take edit.start) kept
      rwa [List.take_take, List.take_take, min_eq_left span] at cut
    have length : (source.take edit.start).length = edit.start := by
      rw [List.length_take, min_eq_left inside]
    rw [apply, front]
    constructor
    · rw [List.append_assoc, List.take_append_of_le_length (by omega), List.take_take,
        min_eq_left lower]
    · have fits : ¬ edit.start < offset := by omega
      rw [Edit.splice, if_neg fits, spliced, List.append_assoc,
        List.drop_append_of_le_length (by omega)]
      simp only [ok_bind, Bytes.slice, List.append_assoc, List.drop_take]
      rfl

/-- Of edits that do not overlap at most one replaces a span that is not empty. -/
lemma filter_hasSpan_eq_of_perm (apart : edits.Pairwise Apart)
    (spans : ∀ edit ∈ edits, edit.start ≤ edit.stop) (perm : others.Perm edits) {start stop : Nat}
    (filled : start ≠ stop) : others.filter (hasSpan start stop) =
      edits.filter (hasSpan start stop) := by
  have permuted := perm.filter (hasSpan start stop)
  cases kept : edits.filter (hasSpan start stop) with
  | nil =>
    rw [kept] at permuted
    exact List.perm_nil.1 permuted
  | cons first rest =>
    cases rest with
    | nil =>
      rw [kept] at permuted
      exact List.perm_singleton.1 permuted
    | cons second rest =>
      exfalso
      have both := apart.filter (hasSpan start stop)
      rw [kept] at both
      have overlap := List.rel_of_pairwise_cons both List.mem_cons_self
      have listed {edit : Edit} (mem : edit ∈ first :: second :: rest) :
          edit.start = start ∧ edit.stop = stop ∧ edit.start ≤ edit.stop := by
        rw [← kept] at mem
        obtain ⟨mem, span⟩ := List.mem_filter.1 mem
        exact ⟨(hasSpan_iff.1 span).1, (hasSpan_iff.1 span).2, spans edit mem⟩
      have spanA := listed List.mem_cons_self
      have spanB := listed (List.mem_cons_of_mem first List.mem_cons_self)
      rcases overlap with after | after <;> omega

/-- Edits that do not overlap are sorted alike in whatever order they are recorded, as long as
insertions at one offset stay in their order. -/
lemma sort_eq_of_perm (apart : edits.Pairwise Apart)
    (spans : ∀ edit ∈ edits, edit.start ≤ edit.stop) (perm : others.Perm edits)
    (insertions : ∀ offset, others.filter (insertsAt offset) = edits.filter (insertsAt offset)) :
    sort others = sort edits := by
  have first := isStableSort_sort others
  have second := isStableSort_sort edits
  refine eq_of_filter_eq first.ordered second.ordered fun start stop => ?_
  rw [first.stable, second.stable]
  by_cases empty : start = stop
  · subst empty
    exact insertions start
  · exact filter_hasSpan_eq_of_perm apart spans perm empty

end OneByOne

/-- Carrying out edits at once is refused exactly if two of them overlap. Otherwise it gives what
the edits give one by one, from the greatest span to the smallest and those with the same span from
the last one recorded to the first, and it gives the same for every order of recording in which
insertions at one offset follow each other as they did. -/
theorem render_one_by_one (source : Bytes) (edits : List Edit)
    (spans : ∀ edit ∈ edits, edit.start ≤ edit.stop ∧ edit.stop ≤ source.length) :
    ((∃ position, render source edits = .error (.overlap position)) ↔
        ∃ i j : Fin edits.length, i ≠ j ∧ ¬ Apart (edits.get i) (edits.get j)) ∧
      ((¬ ∃ position, render source edits = .error (.overlap position)) →
        render source edits = .ok ((edits.mergeSort precedes).reverse.foldl apply source) ∧
          ∀ others : List Edit, others.Perm edits →
            (∀ offset, others.filter (insertsAt offset) = edits.filter (insertsAt offset)) →
            render source others = render source edits) := by
  have refused := render_error_iff spans
  constructor
  · rw [refused, pairwise_apart_iff]
    push Not
    rfl
  · intro accepted
    have apart : edits.Pairwise Apart := not_not.1 (mt refused.2 accepted)
    refine ⟨?_, fun others perm insertions => ?_⟩
    · have perm := sort_perm edits
      have sorted := isStableSort_sort edits
      have ordered := ordered_of_apart sorted.ordered ((perm.pairwise_iff Apart.symm).2 apart)
        (fun edit mem => spans edit (perm.mem_iff.1 mem)) (fun _ _ => Nat.zero_le _) (Nat.zero_le _)
      rw [(isStableSort_mergeSort edits).unique sorted, List.foldl_reverse, render,
        (ordered.splice_eq le_rfl le_rfl).2, List.drop_zero]
    · rw [render, render,
        sort_eq_of_perm apart (fun edit mem => (spans edit mem).1) perm insertions]

end Edit

namespace Sample.Crowded

/-- Eight letters. -/
def source : Bytes := Placement.word "abcdefgh"

/-- Two insertions at the offset at which one replacement ends and another one begins. -/
def edits : List Edit :=
  [⟨5, 5, Placement.word "X"⟩, ⟨5, 6, Placement.word "S"⟩, ⟨2, 5, Placement.word "R"⟩,
    ⟨5, 5, Placement.word "Y"⟩]

/-- The same edits, the insertions in the same order. -/
def others : List Edit :=
  [⟨2, 5, Placement.word "R"⟩, ⟨5, 5, Placement.word "X"⟩, ⟨5, 5, Placement.word "Y"⟩,
    ⟨5, 6, Placement.word "S"⟩]

/-- The insertions are in the same order at every offset. -/
lemma filter_insertsAt (offset : Nat) :
    others.filter (Edit.insertsAt offset) = edits.filter (Edit.insertsAt offset) := by
  by_cases here : offset = 5
  · subst here
    decide
  · have none_of {list : List Edit} (spans : ∀ edit ∈ list, edit.stop = 5 ∨
        edit.start ≠ edit.stop) :
        list.filter (Edit.insertsAt offset) = [] := by
      refine List.filter_eq_nil_iff.2 fun edit mem inserts => ?_
      have span := Edit.hasSpan_iff.1 inserts
      have shape := spans edit mem
      omega
    rw [none_of (by decide), none_of (by decide)]

end Sample.Crowded

/-- Four edits that meet at one offset are carried out in the order of their spans, whichever way
they are recorded. -/
theorem Edit.render_one_by_one_sample :
    (∀ edit ∈ Sample.Crowded.edits, edit.start ≤ edit.stop ∧
      edit.stop ≤ Sample.Crowded.source.length) ∧
      render Sample.Crowded.source Sample.Crowded.edits = .ok (Placement.word "abRXYSgh") ∧
      (Sample.Crowded.edits.mergeSort precedes).reverse.foldl apply Sample.Crowded.source =
        Placement.word "abRXYSgh" ∧
      Sample.Crowded.others.Perm Sample.Crowded.edits ∧
      Sample.Crowded.others ≠ Sample.Crowded.edits ∧
      render Sample.Crowded.source Sample.Crowded.others = .ok (Placement.word "abRXYSgh") := by
  have spans : ∀ edit ∈ Sample.Crowded.edits,
      edit.start ≤ edit.stop ∧ edit.stop ≤ Sample.Crowded.source.length := by
    decide
  have rendered : render Sample.Crowded.source Sample.Crowded.edits =
      .ok (Placement.word "abRXYSgh") := by
    decide
  have perm : Sample.Crowded.others.Perm Sample.Crowded.edits := by decide
  have accepted :
      ¬ ∃ position, render Sample.Crowded.source Sample.Crowded.edits =
        .error (.overlap position) := by
    rw [rendered]
    simp
  obtain ⟨one, reordered⟩ :=
    (render_one_by_one Sample.Crowded.source Sample.Crowded.edits spans).2 accepted
  rw [rendered] at one
  exact ⟨spans, rendered, (Except.ok.inj one).symm, perm, by decide,
    (reordered Sample.Crowded.others perm Sample.Crowded.filter_insertsAt).trans rendered⟩

end Retouch
