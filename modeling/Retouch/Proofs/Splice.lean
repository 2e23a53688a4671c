import Mathlib
import Retouch.Edit.Basic

/-!
# Edits in order

Edits that follow one another between two offsets (`Edit.Ordered`) are in the order in which they
are carried out, so carrying them out is never refused, and all source code before the first offset
and after the second one is copied (`Edit.Ordered.render`).
-/

namespace Retouch.Edit

/-- Neither of two edits begins before the other one ends, or the other way round. -/
def Apart (a b : Edit) : Prop :=
  a.stop ≤ b.start ∨ b.stop ≤ a.start

/-- Edits that follow one another from an offset up to another. -/
inductive Ordered : Nat → Nat → List Edit → Prop where
  | nil {lo hi : Nat} :
    lo ≤ hi →
    Ordered lo hi []
  | cons {lo hi : Nat} {edit : Edit} {edits : List Edit} :
    lo ≤ edit.start →
    edit.start ≤ edit.stop →
    Ordered edit.stop hi edits →
    Ordered lo hi (edit :: edits)

variable {lo mid hi : Nat} {edit : Edit} {edits others : List Edit}

/-- An edit alone is in order. -/
lemma Ordered.single (lower : lo ≤ edit.start) (span : edit.start ≤ edit.stop)
    (upper : edit.stop ≤ hi) : Ordered lo hi [edit] :=
  .cons lower span (.nil upper)

/-- The offsets between which edits stand are in order themselves. -/
lemma Ordered.le (ordered : Ordered lo hi edits) : lo ≤ hi := by
  induction ordered with
  | nil le => exact le
  | cons lower span _ ih => exact lower.trans (span.trans ih)

/-- Edits in order stay so between offsets that are further apart. -/
lemma Ordered.widen {lo' hi' : Nat} (ordered : Ordered lo hi edits) (lower : lo' ≤ lo)
    (upper : hi ≤ hi') : Ordered lo' hi' edits := by
  induction ordered generalizing lo' with
  | nil le => exact .nil (lower.trans (le.trans upper))
  | cons first span _ ih => exact .cons (lower.trans first) span (ih le_rfl upper)

/-- Edits before an offset and edits after it are in order together. -/
lemma Ordered.append (first : Ordered lo mid edits) (second : Ordered mid hi others) :
    Ordered lo hi (edits ++ others) := by
  induction first with
  | nil le => exact second.widen le le_rfl
  | cons lower span _ ih => exact .cons lower span (ih second)

/-- Every one of some edits in order stands between the offsets. -/
lemma Ordered.mem (ordered : Ordered lo hi edits) (mem : edit ∈ edits) :
    lo ≤ edit.start ∧ edit.start ≤ edit.stop ∧ edit.stop ≤ hi := by
  induction ordered with
  | nil _ => cases mem
  | cons lower span rest ih =>
    cases mem with
    | head => exact ⟨lower, span, rest.le⟩
    | tail _ mem =>
      obtain ⟨start, stop, upper⟩ := ih mem
      exact ⟨lower.trans (span.trans start), stop, upper⟩

/-- Edits in order are apart from each other. -/
lemma Ordered.pairwise_apart (ordered : Ordered lo hi edits) : edits.Pairwise Apart := by
  induction ordered with
  | nil _ => exact .nil
  | cons _ _ rest ih => exact .cons (fun other mem => .inl (rest.mem mem).1) ih

/-- An edit precedes those that start where it stops or later. -/
lemma precedes_of_le {a b : Edit} (span : a.start ≤ a.stop) (after : a.stop ≤ b.start)
    (span' : b.start ≤ b.stop) : a.precedes b = true := by
  simp only [precedes, Bool.or_eq_true, Bool.and_eq_true, decide_eq_true_eq, beq_iff_eq]
  omega

/-- Edits in order are sorted already. -/
lemma Ordered.sort_eq (ordered : Ordered lo hi edits) : sort edits = edits := by
  induction ordered with
  | nil _ => rfl
  | @cons _ _ edit edits _ span rest ih =>
    have unfolded : sort (edit :: edits) = insert edit (sort edits) := rfl
    rw [unfolded, ih]
    cases rest with
    | nil _ => rfl
    | cons after span' _ => rw [insert, if_pos (precedes_of_le span after span')]

/-- The bytes between two offsets follow those before the first. -/
lemma slice_append_drop (source : Bytes) {start stop : Nat} (le : start ≤ stop) :
    Bytes.slice source start stop ++ source.drop stop = source.drop start := by
  have shifted : source.drop stop = (source.drop start).drop (stop - start) := by
    rw [List.drop_drop, Nat.add_sub_cancel' le]
  rw [Bytes.slice, shifted, List.take_append_drop]

/-- The bytes between two offsets are those up to an offset between them and those from it on. -/
lemma slice_split (source : Bytes) {start middle stop : Nat} (lower : start ≤ middle)
    (upper : middle ≤ stop) :
    Bytes.slice source start stop =
      Bytes.slice source start middle ++ Bytes.slice source middle stop := by
  have length : stop - start = (middle - start) + (stop - middle) := by omega
  rw [Bytes.slice, Bytes.slice, Bytes.slice, length, List.take_add, List.drop_drop,
    Nat.add_sub_cancel' lower]

/-- Carrying out edits in order copies what stands before and after them. -/
lemma Ordered.splice (source : Bytes) {offset : Nat} (ordered : Ordered lo hi edits)
    (le : offset ≤ lo) : ∃ inside, splice source offset edits =
      .ok (Bytes.slice source offset lo ++ inside ++ source.drop hi) := by
  induction ordered generalizing offset with
  | @nil lo hi between =>
    refine ⟨Bytes.slice source lo hi, ?_⟩
    rw [Edit.splice, List.append_assoc, slice_append_drop source between,
      slice_append_drop source le]
  | @cons lo hi edit edits lower span rest ih =>
    obtain ⟨inside, spliced⟩ := ih le_rfl
    refine ⟨Bytes.slice source lo edit.start ++ edit.replacement ++
      (Bytes.slice source edit.stop edit.stop ++ inside), ?_⟩
    have fits : ¬ edit.start < offset := by omega
    simp only [Edit.splice, if_neg fits, spliced, slice_split source le lower, List.append_assoc]
    rfl

/-- Edits in order are never refused, and what stands before and after them is copied. -/
lemma Ordered.render (source : Bytes) (ordered : Ordered lo hi edits) :
    ∃ inside, render source edits = .ok (source.take lo ++ inside ++ source.drop hi) := by
  obtain ⟨inside, spliced⟩ := ordered.splice source (Nat.zero_le lo)
  refine ⟨inside, ?_⟩
  rw [Edit.render, ordered.sort_eq, spliced, Bytes.slice, List.drop_zero, Nat.sub_zero]

/-- Edits give no source code only if they overlap. -/
lemma splice_error {source : Bytes} {offset : Nat} {failure : Failure}
    (h : Edit.splice source offset edits = .error failure) :
    ∃ position, failure = .overlap position := by
  induction edits generalizing offset with
  | nil => cases h
  | cons edit edits ih =>
    simp only [Edit.splice] at h
    split at h
    · cases h
      exact ⟨_, rfl⟩
    · cases rest : Edit.splice source edit.stop edits with
      | error other =>
        rw [rest] at h
        cases h
        exact ih rest
      | ok bytes =>
        rw [rest] at h
        cases h

/-- An edit that puts a text in place of a span holds the bytes of the text. -/
lemma replace_eq_ok {start stop : Nat} {text : Text} :
    replace start stop text = .ok edit ↔
      ∃ bytes, Utf8.encode text = .ok bytes ∧ edit = ⟨start, stop, bytes⟩ := by
  unfold replace
  cases Utf8.encode text with
  | error error => simp
  | ok bytes => simp [eq_comm]

end Retouch.Edit
