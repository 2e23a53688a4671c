import Mathlib
import Retouch.Proofs.Literal
import Retouch.Proofs.Step
import Retouch.Store.Memory

/-!
# Places that texts lead to

A text leads from a directory to a place component by component: empty components and single dots
stay, two dots go up, and a slash at the start begins at the top (`Path.follow`). A store in memory
resolves a path in this way from its working directory (`MemoryStore.resolve_ofText`,
`MemoryStore.resolve_join`), and it does so exactly if the path can be given to an operating system
(`MemoryStore.resolve_eq_ok`).
-/

namespace Retouch

namespace Path

/-- The place that components lead to from another one. -/
def walk (here : List Text) : List Text → List Text
  | [] => here
  | part :: rest =>
    if part = [] ∨ part = Text.ofString "." then walk here rest
    else if part = up then walk here.dropLast rest
    else walk (here ++ [part]) rest

/-- The place that a text leads to from another one. -/
def follow (here : List Text) (t : Text) : List Text :=
  walk (if t.head? = some (CodePoint.ofChar '/') then [] else here) (Text.split '/' t)

variable {t : Text} {here parts : List Text}

/-- What a part between slashes holds are code points of the text, and no slashes. -/
lemma mem_of_mem_split {part : Text} {c : CodePoint} (mem : part ∈ Text.split '/' t)
    (held : c ∈ part) : c ∈ t ∧ c ≠ CodePoint.ofChar '/' := by
  induction t generalizing part with
  | nil =>
    rw [Text.split, List.mem_singleton] at mem
    subst mem
    cases held
  | cons d t ih =>
    have later {part : Text} (mem : part ∈ Text.split '/' t) (held : c ∈ part) :
        c ∈ d :: t ∧ c ≠ CodePoint.ofChar '/' :=
      (ih mem held).imp_left (List.mem_cons_of_mem d)
    rw [Text.split] at mem
    split at mem
    · rcases List.mem_cons.1 mem with rfl | mem
      · cases held
      · exact later mem held
    · rename_i other
      cases cut : Text.split '/' t with
      | nil =>
        rw [cut] at mem
        cases mem
      | cons first others =>
        rw [cut] at later mem
        rcases List.mem_cons.1 mem with rfl | mem
        · rcases List.mem_cons.1 held with rfl | held
          · exact ⟨List.mem_cons_self, other⟩
          · exact later List.mem_cons_self held
        · exact later (List.mem_cons_of_mem first mem) held

/-- Every text has a part between slashes. -/
lemma split_ne_nil (t : Text) : Text.split '/' t ≠ [] := by
  induction t with
  | nil => exact List.cons_ne_nil _ _
  | cons c t ih =>
    rw [Text.split]
    split
    · exact List.cons_ne_nil _ _
    · simpa using ih

/-- A code point of a text is a slash or stands in a part between slashes. -/
lemma exists_mem_split {c : CodePoint} (held : c ∈ t) (other : c ≠ CodePoint.ofChar '/') :
    ∃ part ∈ Text.split '/' t, c ∈ part := by
  induction t with
  | nil => cases held
  | cons d t ih =>
    rw [Text.split]
    split
    · rename_i slash
      rcases List.mem_cons.1 held with rfl | held
      · exact absurd slash other
      · obtain ⟨part, mem, inside⟩ := ih held
        exact ⟨part, List.mem_cons_of_mem _ mem, inside⟩
    · -- The code point in front joins the first of the other parts.
      obtain ⟨first, others, cut⟩ := List.exists_cons_of_ne_nil (split_ne_nil t)
      rw [cut, List.modifyHead_cons]
      rcases List.mem_cons.1 held with rfl | held
      · exact ⟨c :: first, List.mem_cons_self, List.mem_cons_self⟩
      · obtain ⟨part, mem, inside⟩ := ih held
        rw [cut] at mem
        rcases List.mem_cons.1 mem with rfl | mem
        · exact ⟨d :: part, List.mem_cons_self, List.mem_cons_of_mem d inside⟩
        · exact ⟨part, List.mem_cons_of_mem _ mem, inside⟩

/-- A walk leads to components that it starts from and to parts that count. -/
lemma mem_walk {part : Text} (mem : part ∈ walk here parts) :
    part ∈ here ∨ part ∈ parts ∧ part ≠ [] ∧ part ≠ Text.ofString "." ∧ part ≠ up := by
  induction parts generalizing here with
  | nil => exact .inl mem
  | cons first parts ih =>
    rw [walk] at mem
    split at mem
    · exact (ih mem).imp_right fun found => ⟨List.mem_cons_of_mem first found.1, found.2⟩
    · rename_i counts
      rw [not_or] at counts
      split at mem
      · rcases ih mem with before | found
        · exact .inl (List.mem_of_mem_dropLast before)
        · exact .inr ⟨List.mem_cons_of_mem first found.1, found.2⟩
      · rename_i down
        rcases ih mem with before | found
        · rcases List.mem_append.1 before with before | last
          · exact .inl before
          · rw [List.mem_singleton] at last
            subst last
            exact .inr ⟨List.mem_cons_self, counts.1, counts.2, down⟩
        · exact .inr ⟨List.mem_cons_of_mem first found.1, found.2⟩

/-- A text leads to components that it starts from and to parts of its own that count. -/
lemma mem_follow {part : Text} (mem : part ∈ follow here t) :
    part ∈ here ∨ part ∈ Text.split '/' t ∧ part ≠ [] ∧ part ≠ Text.ofString "." ∧ part ≠ up := by
  rcases mem_walk mem with before | found
  · split at before
    · cases before
    · exact .inl before
  · exact .inr found

/-- A text leads from names to names. -/
lemma isName_of_mem_follow (names : ∀ part ∈ here, IsName part) :
    ∀ part ∈ follow here t, IsName part := by
  intro part mem
  rcases mem_follow mem with before | ⟨found, filled, not_dot, not_up⟩
  · exact names part before
  · exact ⟨filled, not_dot, not_up, fun slash => (mem_of_mem_split found slash).2 rfl⟩

/-- Collapsing components one after the other is a walk along those that count. -/
lemma foldl_collapse (here parts : List Text) :
    (parts.filter fun part => part ≠ [] ∧ part ≠ Text.ofString ".").foldl
      (fun done part => if part = up then done.dropLast else done ++ [part]) here =
        walk here parts := by
  induction parts generalizing here with
  | nil => rfl
  | cons part parts ih =>
    rw [walk]
    split
    · rename_i empty
      rw [List.filter_cons_of_neg (by simpa [or_iff_not_imp_left] using empty), ih]
    · rename_i counts
      rw [not_or] at counts
      rw [List.filter_cons_of_pos (by simpa using counts), List.foldl_cons]
      split
      · exact ih _
      · exact ih _

/-- Names stay as they are when they are collapsed. -/
lemma collapseComponents_of_isName (names : ∀ part ∈ here, IsName part) :
    collapseComponents here = here := by
  have appended (done : List Text) : here.foldl
      (fun done part => if part = up then done.dropLast else done ++ [part]) done =
        done ++ here := by
    induction here generalizing done with
    | nil => exact (List.append_nil done).symm
    | cons part parts ih =>
      rw [List.foldl_cons, if_neg (names part List.mem_cons_self).not_up,
        ih (fun other mem => names other (List.mem_cons_of_mem part mem)), List.append_assoc]
      rfl
  exact appended []

/-- A text starts at the top exactly if it begins with a slash. -/
lemma isAbsolute_ofText (t : Text) :
    (ofText t).isAbsolute = true ↔ t.head? = some (CodePoint.ofChar '/') := by
  cases t with
  | nil => decide
  | cons c t =>
    simp only [isAbsolute, ofText, Start.ofText, List.head?_cons, Option.some.injEq,
      List.takeWhile_cons]
    by_cases slash : c = CodePoint.ofChar '/'
    · simp only [slash, beq_self_eq_true, if_true, List.length_cons]
      split
      · rename_i empty
        cases empty
      · decide
      · decide
    · simp [slash]

/-- A path that is read from a text is collapsed to the place that the text leads to. -/
lemma collapse_ofText (t : Text) : (ofText t).collapse = ⟨.slash, follow [] t⟩ := by
  rw [collapse, follow, ite_self]
  exact congrArg (Path.mk .slash) (foldl_collapse [] (Text.split '/' t))

/-- A path that is seen from a place in normal form is collapsed to the place that it leads to from
there. -/
lemma collapse_join (names : ∀ part ∈ here, IsName part) (t : Text) :
    (join ⟨.slash, here⟩ (ofText t)).collapse = ⟨.slash, follow here t⟩ := by
  by_cases absolute : t.head? = some (CodePoint.ofChar '/')
  · rw [join, if_pos ((isAbsolute_ofText t).2 absolute), collapse_ofText, follow, follow,
      if_pos absolute, if_pos absolute]
  · rw [join, if_neg (mt (isAbsolute_ofText t).1 absolute), collapse, follow, if_neg absolute]
    refine congrArg (Path.mk .slash) ?_
    change (here ++ (ofText t).components).foldl _ [] = _
    rw [List.foldl_append]
    change (ofText t).components.foldl _ (collapseComponents here) = _
    rw [collapseComponents_of_isName names]
    exact foldl_collapse here (Text.split '/' t)

/-- One place is within another exactly if it continues it. -/
lemma isWithin_iff {place : List Text} :
    isWithin ⟨.slash, here⟩ ⟨.slash, place⟩ = true ↔ here <+: place := by
  simp [isWithin]

/-- A path that is seen from the top is absolute. -/
lemma isAbsolute_join (here : List Text) (path : Path) :
    (join ⟨.slash, here⟩ path).isAbsolute = true := by
  unfold join
  split
  · assumption
  · rfl

/-! ## Names that an operating system can be given -/

/-- Components that the operating system can be given. -/
def IsAdmitted (parts : List Text) : Prop :=
  ∀ part ∈ parts, isAdmitted part = true

/-- A text can stand in a path exactly if it is without zeros and its code points have bytes. -/
lemma isAdmitted_iff : isAdmitted t = true ↔ (0 : CodePoint) ∉ t ∧ t.all isNameable = true := by
  simp only [isAdmitted, List.all_eq_true, Bool.and_eq_true, decide_eq_true_eq]
  constructor
  · intro all
    exact ⟨fun held => (all 0 held).1 rfl, fun c held => (all c held).2⟩
  · rintro ⟨clean, nameable⟩ c held
    refine ⟨?_, nameable c held⟩
    rintro rfl
    exact clean held

/-- A text without surrogates has bytes in the name of a file. -/
lemma all_isNameable_of_isScalar (scalar : t.isScalar = true) : t.all isNameable = true := by
  refine List.all_eq_true.2 fun c held => ?_
  rw [isNameable, List.all_eq_true.1 scalar c held, Bool.true_or]

/-- A text has bytes exactly if all its code points have. -/
lemma encodeErrorBy?_eq_none {hasBytes : CodePoint → Bool} :
    Utf8.encodeErrorBy? hasBytes t = none ↔ t.all hasBytes = true := by
  rw [List.all_eq_true, ← List.dropWhile_eq_nil_iff, Utf8.encodeErrorBy?]
  cases t.dropWhile hasBytes <;> simp

/-- What is true of a separator is true of all code points of joined texts if it is of those of
each. -/
lemma all_join {p : CodePoint → Bool} {separator : String}
    (between : (Text.ofString separator).all p = true) (texts : List Text) :
    (Text.join separator texts).all p = true ↔ ∀ text ∈ texts, text.all p = true := by
  induction texts with
  | nil => simp [Text.join]
  | cons text texts ih =>
    cases texts with
    | nil => simp [Text.join]
    | cons other texts =>
      rw [Text.join.eq_3 _ _ _ (List.cons_ne_nil _ _), List.all_append, List.all_append, between,
        Bool.and_true, Bool.and_eq_true, ih, List.forall_mem_cons (a := text)]

/-- A path has bytes exactly if its components have. -/
lemma nameError?_eq_none {path : Path} :
    path.nameError? = none ↔ ∀ part ∈ path.components, part.all isNameable = true := by
  have slashes : path.start.toText.all isNameable = true := by
    cases path.start <;> decide
  rw [nameError?, encodeErrorBy?_eq_none, toText]
  split
  · rename_i empty
    rw [List.isEmpty_iff.1 empty.2]
    exact iff_of_true (by decide) (List.forall_mem_nil _)
  · rw [List.all_append, slashes, Bool.true_and, all_join (by decide)]

/-- A path is without zeros exactly if its components are. -/
lemma holdsNul_eq_false {path : Path} :
    path.holdsNul = false ↔ ∀ part ∈ path.components, (0 : CodePoint) ∉ part := by
  simp [holdsNul]

/-- A path can be given to the operating system exactly if its components can. -/
lemma refusal?_eq_none {path : Path} : path.refusal? = none ↔ IsAdmitted path.components := by
  have both : IsAdmitted path.components ↔ path.nameError? = none ∧ path.holdsNul = false := by
    rw [nameError?_eq_none, holdsNul_eq_false]
    simp only [IsAdmitted, isAdmitted_iff]
    exact ⟨fun all => ⟨fun part mem => (all part mem).2, fun part mem => (all part mem).1⟩,
      fun all part mem => ⟨all.2 part mem, all.1 part mem⟩⟩
  rw [both, refusal?]
  cases path.nameError? with
  | some error => simp
  | none => simp

/-- The components of a path that is read from a text can be given exactly if the text can. -/
lemma isAdmitted_ofText : IsAdmitted (ofText t).components ↔ isAdmitted t = true := by
  constructor
  · intro all
    refine List.all_eq_true.2 fun c held => ?_
    by_cases slash : c = CodePoint.ofChar '/'
    · rw [slash]
      decide
    · obtain ⟨part, mem, inside⟩ := exists_mem_split held slash
      by_cases dot : part = Text.ofString "."
      · rw [dot] at inside
        rw [List.mem_singleton.1 inside]
        decide
      · have counts : part ∈ (ofText t).components :=
          List.mem_filter.2 ⟨mem, by simpa [dot] using List.ne_nil_of_mem inside⟩
        exact List.all_eq_true.1 (all part counts) c inside
  · intro whole part mem
    refine List.all_eq_true.2 fun c held => List.all_eq_true.1 whole c ?_
    exact (mem_of_mem_split (List.mem_filter.1 mem).1 held).1

/-- A text that can be given leads from components that can be given to such components. -/
lemma isAdmitted_follow (before : IsAdmitted here) (admitted : isAdmitted t = true) :
    IsAdmitted (follow here t) := by
  intro part mem
  rcases mem_follow mem with held | ⟨found, filled, not_dot, _⟩
  · exact before part held
  · exact isAdmitted_ofText.2 admitted part (List.mem_filter.2 ⟨found, by simp [filled, not_dot]⟩)

/-- A path that is seen from another one can be given if both can. -/
lemma isAdmitted_join {base path : Path} (first : IsAdmitted base.components)
    (second : IsAdmitted path.components) : IsAdmitted (join base path).components := by
  unfold join
  split
  · exact second
  · intro part mem
    exact (List.mem_append.1 mem).elim (first part) (second part)

/-- A path that cannot be given itself cannot be given as seen from another one. -/
lemma isAdmitted_of_join {base path : Path} (both : IsAdmitted (join base path).components) :
    IsAdmitted path.components := by
  unfold join at both
  split at both
  · exact both
  · exact fun part mem => both part (List.mem_append_right _ mem)

end Path

namespace MemoryStore

variable {store : MemoryStore} {path resolved : Path} {here : List Text}

/-- A path is resolved exactly if it can be given to the operating system, and then by its
wording. -/
lemma resolve_eq_ok :
    store.resolve path = .ok resolved ↔
      Path.IsAdmitted path.components ∧ resolved = (store.here.path.join path).collapse := by
  rw [← Path.refusal?_eq_none, Path.refusal?, resolve]
  cases path.nameError? with
  | some error => cases path.holdsNul <;> simp
  | none => cases path.holdsNul <;> simp [eq_comm]

/-- A text that can be given is resolved to the place to which it leads from the working
directory. -/
lemma resolve_ofText {t : Text} :
    store.resolve (Path.ofText t) = .ok resolved ↔
      Path.isAdmitted t = true ∧ resolved = ⟨.slash, Path.follow store.here.names t⟩ := by
  rw [resolve_eq_ok, Path.isAdmitted_ofText, Directory.path, Path.collapse_join store.here.isName]

/-- A text that is seen from a directory is resolved to the place to which it leads from there. -/
lemma resolve_join (isName : ∀ part ∈ here, Path.IsName part) (admitted : Path.IsAdmitted here)
    {t : Text} :
    store.resolve (Path.join ⟨.slash, here⟩ (Path.ofText t)) = .ok resolved ↔
      Path.isAdmitted t = true ∧ resolved = ⟨.slash, Path.follow here t⟩ := by
  have absolute := Path.isAbsolute_join here (Path.ofText t)
  have parts : Path.IsAdmitted (Path.join ⟨.slash, here⟩ (Path.ofText t)).components ↔
      Path.isAdmitted t = true := by
    rw [← Path.isAdmitted_ofText]
    exact ⟨Path.isAdmitted_of_join, Path.isAdmitted_join admitted⟩
  rw [resolve_eq_ok, parts, Path.join, if_pos absolute, Path.collapse_join isName]

end MemoryStore

end Retouch
