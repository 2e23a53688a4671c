import Mathlib
import Retouch.Markup.Reference
import Retouch.Proofs.Layout
import Retouch.Proofs.Step

/-!
# Texts and their resolved references

Resolving the references of a text keeps each of its characters or replaces a reference by less
(`Reference.Resolved`, `Reference.resolved_of_resolve`). So a text only keeps its size if nothing in
it is replaced (`Reference.Resolved.eq_of_length`), and blanks at its ends stay where they are
(`Reference.Resolved.head`, `Reference.Resolved.getLast?`).
-/

namespace Retouch.Reference

open Layout (ink)

/-- A reference and what replaces it: it starts with an ampersand, does not end with a blank, and is
longer than its replacement. -/
structure Replaces (reference value : Text) : Prop where
  begins : reference.head? = some (CodePoint.ofChar '&')
  ends : reference.getLast?.any CodePoint.isBlank = false
  shorter : value.length < (ink reference).length

/-- A text, and what becomes of it when characters are kept and references replaced. -/
inductive Resolved : Text → Text → Prop where
  | nil : Resolved [] []
  | keep (c : CodePoint) {t u : Text} : Resolved t u → Resolved (c :: t) (c :: u)
  | replace {reference value t u : Text} :
    Replaces reference value → Resolved t u → Resolved (reference ++ t) (value ++ u)

namespace Resolved

variable {t u : Text}

/-- A text in which everything is kept. -/
lemma refl (t : Text) : Resolved t t := by
  induction t with
  | nil => exact .nil
  | cons c t ih => exact .keep c ih

/-- What becomes of two texts together. -/
lemma append {t' u' : Text} (first : Resolved t u) (second : Resolved t' u') :
    Resolved (t ++ t') (u ++ u') := by
  induction first with
  | nil => exact second
  | keep c _ ih => exact .keep c ih
  | @replace reference value t u replaces _ ih =>
    rw [List.append_assoc, List.append_assoc]
    exact .replace replaces ih

/-- A reference and nothing else is replaced. -/
lemma single {reference value : Text} (replaces : Replaces reference value) :
    Resolved reference value := by
  simpa using Resolved.replace replaces .nil

/-- A text does not get longer, layout apart. -/
lemma length_le (resolved : Resolved t u) : (ink u).length ≤ (ink t).length := by
  induction resolved with
  | nil => exact le_rfl
  | @keep c t u _ ih =>
    rw [Layout.ink_cons c u, Layout.ink_cons c t, List.length_append, List.length_append]
    exact Nat.add_le_add_left ih _
  | @replace reference value t u replaces _ ih =>
    have value_le : (ink value).length ≤ value.length := List.length_filter_le ..
    have shorter := replaces.shorter
    rw [Layout.ink_append, Layout.ink_append, List.length_append, List.length_append]
    omega

/-- A text that does not get shorter, layout apart, stays as it is. -/
lemma eq_of_length (resolved : Resolved t u) (same : (ink u).length = (ink t).length) : u = t := by
  induction resolved with
  | nil => rfl
  | @keep c t u _ ih =>
    rw [Layout.ink_cons c u, Layout.ink_cons c t, List.length_append, List.length_append] at same
    rw [ih (Nat.add_left_cancel same)]
  | @replace reference value t u replaces rest ih =>
    have value_le : (ink value).length ≤ value.length := List.length_filter_le ..
    have shorter := replaces.shorter
    have rest_le := rest.length_le
    rw [Layout.ink_append, Layout.ink_append, List.length_append, List.length_append] at same
    omega

/-- A first character that is no ampersand stays the first. -/
lemma head {c : CodePoint} (resolved : Resolved (c :: t) u) (other : c ≠ CodePoint.ofChar '&') :
    ∃ rest, u = c :: rest := by
  generalize whole : c :: t = source at resolved
  cases resolved with
  | nil => cases whole
  | keep d _ =>
    cases whole
    exact ⟨_, rfl⟩
  | @replace reference value t u replaces _ =>
    have begins := replaces.begins
    cases reference with
    | nil => cases begins
    | cons d reference =>
      cases whole
      cases begins
      exact absurd rfl other

/-- Nothing becomes of an empty text. -/
lemma eq_nil (resolved : Resolved [] u) : u = [] :=
  resolved.eq_of_length (le_antisymm resolved.length_le (Nat.zero_le _))

/-- A last character that is a blank stays the last. -/
lemma getLast? {c : CodePoint} (resolved : Resolved t u) (ends : t.getLast? = some c)
    (blank : c.isBlank = true) : u.getLast? = some c := by
  induction resolved with
  | nil => cases ends
  | @keep d t u rest ih =>
    cases last : t.getLast? with
    | none =>
      rw [List.getLast?_eq_none_iff] at last
      subst last
      rw [rest.eq_nil]
      exact ends
    | some e =>
      rw [List.getLast?_cons, last] at ends
      cases ends
      rw [List.getLast?_cons, ih last]
      rfl
  | @replace reference value t u replaces rest ih =>
    cases last : t.getLast? with
    | none =>
      rw [List.getLast?_eq_none_iff] at last
      subst last
      rw [List.append_nil] at ends
      have filled := replaces.ends
      rw [ends, Option.any_some, blank] at filled
      cases filled
    | some e =>
      rw [List.getLast?_append, last] at ends
      cases ends
      rw [List.getLast?_append, ih last]
      rfl

end Resolved

section Names

/-- A name that may stand without a semicolon has at least two characters and does not end with a
blank. -/
lemma plainNames_shape {name : Text} {c : CodePoint} (known : plainNames.lookup name = some c) :
    2 ≤ name.length ∧ name.getLast?.any CodePoint.isBlank = false := by
  have shapes : plainNames.all (fun entry =>
      decide (2 ≤ entry.1.length) && !entry.1.getLast?.any CodePoint.isBlank) = true := by
    decide +kernel
  obtain ⟨before, after, split, _⟩ := List.lookup_eq_some_iff.1 known
  have shape := List.all_eq_true.1 shapes (name, c) (by rw [split]; simp)
  simpa only [Bool.and_eq_true, decide_eq_true_eq, Bool.not_eq_true'] using shape

/-- A name that needs a semicolon stands for at most two characters. -/
lemma closedName?_length {name value : Text} (known : closedName? name = some value) :
    value.length ≤ 2 := by
  have sizes : ReferenceTable.all.all
      (fun entry => decide ((Text.ofString entry.2).length ≤ 2)) = true := by
    decide +kernel
  obtain ⟨entry, found, rfl⟩ := Option.map_eq_some_iff.1 known
  exact of_decide_eq_true (List.all_eq_true.1 sizes entry (List.mem_of_find?_eq_some found))

/-- A word that is a name as a whole is replaced by no more characters than it has, and does not end
with a blank. -/
lemma named?_shape {word value : Text} (known : named? word = some value)
    (closed : word.getLast? = some (CodePoint.ofChar ';') → 2 ≤ word.length) :
    value.length ≤ word.length ∧ word.getLast?.any CodePoint.isBlank = false := by
  unfold named? at known
  split at known
  · rename_i semicolon
    have size : value.length ≤ 2 := by
      rcases Option.or_eq_some_iff.1 known with plain | ⟨_, listed⟩
      · obtain ⟨c, _, rfl⟩ := Option.map_eq_some_iff.1 plain
        exact one_le_two
      · exact closedName?_length listed
    refine ⟨size.trans (closed semicolon), ?_⟩
    rw [semicolon]
    decide
  · obtain ⟨c, listed, rfl⟩ := Option.map_eq_some_iff.1 known
    obtain ⟨size, ends⟩ := plainNames_shape listed
    exact ⟨one_le_two.trans size, ends⟩

/-- The beginning of a word that is taken for a name is one, and has at least two characters. -/
lemma longestName?_eq_some {word value : Text} {limit size : Nat}
    (found : longestName? word limit = some (value, size)) :
    2 ≤ size ∧ size ≤ limit ∧ named? (word.take size) = some value := by
  induction limit with
  | zero => cases found
  | succ limit ih =>
    simp only [longestName?] at found
    split at found
    · cases found
    · rename_i enough
      split at found
      · rename_i other known
        cases found
        exact ⟨by omega, le_rfl, known⟩
      · obtain ⟨lower, upper, known⟩ := ih found
        exact ⟨lower, by omega, known⟩

end Names

section Reading

/-- Visible ASCII characters are no blanks. -/
lemma isBlank_of_visible {c : CodePoint} (lower : 0x20 < c.val) (upper : c.val < 0x7F) :
    c.isBlank = false := by
  simp only [CodePoint.isBlank, CodePoint.isBetween, Bool.or_eq_false_iff, decide_eq_false_iff_not,
    beq_eq_false_iff_ne, ne_eq, Fin.ext_iff]
  omega

/-- A run of characters that are no blanks does not end with a blank. -/
lemma takeWhile_ends {test : CodePoint → Bool}
    (filled : ∀ c, test c = true → c.isBlank = false) (t : Text) :
    (t.takeWhile test).getLast?.any CodePoint.isBlank = false := by
  cases last : (t.takeWhile test).getLast? with
  | none => rfl
  | some c => exact filled c (List.mem_takeWhile_imp (List.mem_of_getLast? last))

/-- A decimal digit is no blank. -/
lemma isBlank_of_isAsciiDigit {c : CodePoint} (digit : c.isAsciiDigit = true) :
    c.isBlank = false := by
  rw [CodePoint.isAsciiDigit, CodePoint.isBetween, decide_eq_true_eq] at digit
  exact isBlank_of_visible (by omega) (by omega)

/-- A hexadecimal digit is no blank. -/
lemma isBlank_of_hexValue? {c : CodePoint} (digit : c.hexValue?.isSome = true) :
    c.isBlank = false := by
  unfold CodePoint.hexValue? at digit
  have between {low high : Nat} (inside : c.isBetween low high = true) (lower : 0x20 < low)
      (upper : high < 0x7F) : c.isBlank = false := by
    rw [CodePoint.isBetween, decide_eq_true_eq] at inside
    exact isBlank_of_visible (by omega) (by omega)
  split at digit
  · exact between ‹_› (by decide) (by decide)
  · split at digit
    · exact between ‹_› (by decide) (by decide)
    · split at digit
      · exact between ‹_› (by decide) (by decide)
      · cases digit

/-- The semicolon at the start of a text, if there is one. -/
def semicolon (t : Text) : Text :=
  if t.head? = some (CodePoint.ofChar ';') then [CodePoint.ofChar ';'] else []

/-- A semicolon belongs to the reference before it. -/
lemma take_semicolonSize (t : Text) : t.take (semicolonSize t) = semicolon t := by
  unfold semicolonSize semicolon
  split
  · rename_i begins
    obtain ⟨rest, rfl⟩ := List.head?_eq_some_iff.1 begins
    rfl
  · rfl

/-- A run of characters and a semicolon after it. -/
lemma take_run {t run rest : Text} (split : t = run ++ rest) :
    t.take (run.length + semicolonSize (t.drop run.length)) = run ++ semicolon rest := by
  subst split
  rw [List.drop_left, List.take_add, List.take_left, List.drop_left, take_semicolonSize]

/-- There is nothing but the semicolon. -/
lemma mem_semicolon {t : Text} {c : CodePoint} (mem : c ∈ semicolon t) :
    c = CodePoint.ofChar ';' := by
  unfold semicolon at mem
  split at mem
  · exact List.mem_singleton.1 mem
  · cases mem

/-- A semicolon is no blank. -/
lemma semicolon_ends (t : Text) : (semicolon t).getLast?.any CodePoint.isBlank = false := by
  unfold semicolon
  split
  · decide
  · rfl

/-- Of two texts that do not end with a blank neither does the one with the other after it. -/
lemma append_ends {t u : Text} (first : t.getLast?.any CodePoint.isBlank = false)
    (second : u.getLast?.any CodePoint.isBlank = false) :
    (t ++ u).getLast?.any CodePoint.isBlank = false := by
  rw [List.getLast?_append]
  cases last : u.getLast? with
  | none => exact first
  | some c =>
    rw [last] at second
    exact second

/-- A number stands for at most one character. -/
lemma numbered_length (n : Nat) : (numbered n).length ≤ 1 := by
  unfold numbered
  repeat' split
  all_goals simp

/-- A number is replaced by the character that it stands for. -/
lemma replaces_number {body : Text} (n : Nat)
    (filled : body.getLast?.any CodePoint.isBlank = false) :
    Replaces (CodePoint.ofChar '&' :: CodePoint.ofChar '#' :: body) (numbered n) where
  begins := rfl
  ends := append_ends (t := [CodePoint.ofChar '&', CodePoint.ofChar '#']) (by decide) filled
  shorter := by
    have size := numbered_length n
    have mark : (ink [CodePoint.ofChar '&', CodePoint.ofChar '#']).length = 2 := by decide
    change _ < (ink ([CodePoint.ofChar '&', CodePoint.ofChar '#'] ++ body)).length
    rw [Layout.ink_append, List.length_append, mark]
    omega

/-- A name is replaced by the characters that it stands for. -/
lemma replaces_name {name value : Text} (known : named? name = some value)
    (visible : ∀ c ∈ name, c.isLayout = false)
    (closed : name.getLast? = some (CodePoint.ofChar ';') → 2 ≤ name.length) :
    Replaces (CodePoint.ofChar '&' :: name) value := by
  obtain ⟨size, filled⟩ := named?_shape known closed
  have whole : ink (CodePoint.ofChar '&' :: name) = CodePoint.ofChar '&' :: name := by
    refine List.filter_eq_self.2 fun c mem => ?_
    rcases List.mem_cons.1 mem with rfl | mem
    · decide
    · simp [visible c mem]
  refine ⟨rfl, append_ends (t := [CodePoint.ofChar '&']) (by decide) filled, ?_⟩
  rw [whole, List.length_cons]
  omega

/-- What becomes of a word after an ampersand. -/
lemma resolved_word {word : Text} (visible : ∀ c ∈ word, c.isLayout = false)
    (closed : word.getLast? = some (CodePoint.ofChar ';') → 2 ≤ word.length) :
    Resolved (CodePoint.ofChar '&' :: word) (resolveWord word) := by
  unfold resolveWord
  split
  · rename_i value known
    exact .single (replaces_name known visible closed)
  · split
    · rename_i value size found
      obtain ⟨lower, upper, known⟩ := longestName?_eq_some found
      have front : Replaces (CodePoint.ofChar '&' :: word.take size) value :=
        replaces_name known (fun c mem => visible c (List.mem_of_mem_take mem))
          fun _ => by rw [List.length_take]; omega
      -- What follows the name in the word is kept, without another look for references.
      have whole := (Resolved.single front).append (.refl (word.drop size))
      rwa [List.cons_append, List.take_append_drop] at whole
    · exact .refl _

/-- The characters of names are no layout, carriage returns apart. -/
lemma isLayout_of_isNamePart {c : CodePoint} (part : isNamePart c = true)
    (other : c ≠ CodePoint.ofChar '\r') : c.isLayout = false := by
  simp only [isNamePart, Bool.not_eq_true', Bool.or_eq_false_iff] at part
  simp only [CodePoint.isLayout, Bool.or_eq_false_iff, beq_eq_false_iff_ne]
  simp only [beq_eq_false_iff_ne] at part
  exact ⟨⟨⟨part.1.1.1.1.2, part.1.1.1.1.1.1.1⟩, other⟩, part.1.1.1.1.1.1.2⟩

/-- What becomes of the run of characters of a name after an ampersand. -/
lemma resolved_name {t : Text} (visible : CodePoint.ofChar '\r' ∉ t)
    (filled : (t.take 32).takeWhile isNamePart ≠ []) :
    Resolved
      (CodePoint.ofChar '&' :: t.take (((t.take 32).takeWhile isNamePart).length +
        semicolonSize (t.drop ((t.take 32).takeWhile isNamePart).length)))
      (resolveWord (t.take (((t.take 32).takeWhile isNamePart).length +
        semicolonSize (t.drop ((t.take 32).takeWhile isNamePart).length)))) := by
  have front : (t.take 32).takeWhile isNamePart <+: t :=
    (List.takeWhile_prefix isNamePart).trans (List.take_prefix 32 t)
  have parts : ∀ c ∈ (t.take 32).takeWhile isNamePart, isNamePart c = true :=
    fun c mem => List.mem_takeWhile_imp mem
  generalize (t.take 32).takeWhile isNamePart = name at filled front parts
  rw [take_run (List.prefix_iff_eq_append.1 front).symm]
  apply resolved_word
  · intro c mem
    rcases List.mem_append.1 mem with inside | closing
    · refine isLayout_of_isNamePart (parts c inside) ?_
      rintro rfl
      exact visible (front.subset inside)
    · rw [mem_semicolon closing]
      decide
  · intro closed
    have size := List.length_pos_of_ne_nil filled
    rw [List.length_append]
    unfold semicolon at closed ⊢
    split
    · rw [List.length_singleton]
      omega
    · rename_i absent
      -- Without a semicolon after it the word ends with a part of the name.
      rw [if_neg absent, List.append_nil] at closed
      exact absurd (parts _ (List.mem_of_getLast? closed)) (by decide)

/-- What becomes of a reference that is read. -/
lemma resolved_of_read? {t value : Text} {size : Nat} (visible : CodePoint.ofChar '\r' ∉ t)
    (read : read? t = .ok (some (size, value))) :
    Resolved (CodePoint.ofChar '&' :: t.take size) value := by
  cases t with
  | nil => cases read
  | cons c rest =>
    simp only [read?] at read
    split at read
    · rename_i hash
      subst hash
      split at read
      · split at read
        · cases read
        · cases read
          have taken := take_run
            (List.takeWhile_append_dropWhile (p := CodePoint.isAsciiDigit) (l := rest)).symm
          rw [Nat.add_comm 1, List.drop_succ_cons, Nat.add_right_comm, List.take_succ_cons, taken]
          exact .single (replaces_number _ (append_ends
            (takeWhile_ends (fun _ => isBlank_of_isAsciiDigit) rest) (semicolon_ends _)))
      · cases rest with
        | nil => cases read
        | cons x tail =>
          simp only at read
          split at read
          · rename_i hex
            cases read
            have taken := take_run (List.takeWhile_append_dropWhile
              (p := fun c : CodePoint => c.hexValue?.isSome) (l := tail)).symm
            rw [Nat.add_comm 2, List.drop_succ_cons, List.drop_succ_cons, Nat.add_right_comm,
              List.take_succ_cons, List.take_succ_cons, taken]
            refine .single (replaces_number _ (append_ends (t := [x]) ?_ (append_ends
              (takeWhile_ends (fun _ => isBlank_of_hexValue?) tail) (semicolon_ends _))))
            rcases hex.1 with rfl | rfl <;> decide
          · cases read
    · split at read
      · cases read
      · rename_i filled
        cases read
        exact resolved_name visible (by simpa using filled)

/-- Passing over characters drops them. -/
lemma resolveAfter_eq (passed : Nat) (t : Text) :
    resolveAfter passed t = resolveAfter 0 (t.drop passed) := by
  induction t generalizing passed with
  | nil => cases passed <;> rfl
  | cons c t ih =>
    cases passed with
    | zero => rfl
    | succ passed =>
      rw [resolveAfter, List.drop_succ_cons]
      exact ih passed

/-- Resolving the references of a text keeps or replaces what it holds. -/
lemma resolved_of_resolve {t u : Text} (visible : CodePoint.ofChar '\r' ∉ t)
    (h : resolve t = .ok u) : Resolved t u := by
  unfold resolve at h
  -- A reference is passed over as a whole, so the induction is on the length of the text.
  induction size : t.length using Nat.strong_induction_on generalizing t u with
  | _ n ih =>
    cases t with
    | nil =>
      cases h
      exact .nil
    | cons c t =>
      have after {rest v : Text} (suffix : rest <:+ t) (resolved : resolveAfter 0 rest = .ok v) :
          Resolved rest v := by
        have shorter := suffix.length_le
        refine ih rest.length (by rw [← size, List.length_cons]; omega) ?_ resolved rfl
        exact fun mem => visible (List.mem_cons_of_mem c (suffix.subset mem))
      simp only [resolveAfter] at h
      split at h
      · rename_i ampersand
        subst ampersand
        rw [bind_eq_ok] at h
        obtain ⟨found, read, h⟩ := h
        cases found with
        | none =>
          simp only [bind_eq_ok, pure_eq_ok] at h
          obtain ⟨v, rest, rfl⟩ := h
          exact .keep _ (after List.suffix_rfl rest)
        | some found =>
          obtain ⟨width, value⟩ := found
          simp only [bind_eq_ok, pure_eq_ok] at h
          obtain ⟨v, rest, rfl⟩ := h
          rw [resolveAfter_eq] at rest
          have front := resolved_of_read? (fun mem => visible (List.mem_cons_of_mem _ mem)) read
          have whole := front.append (after (List.drop_suffix width t) rest)
          rwa [List.cons_append, List.take_append_drop] at whole
      · simp only [bind_eq_ok, pure_eq_ok] at h
        obtain ⟨v, rest, rfl⟩ := h
        exact .keep _ (after List.suffix_rfl rest)

end Reading

end Retouch.Reference
