import Mathlib
import Retouch.Markup.Layout

/-!
# Texts without their layout

Collapsing a text touches nothing but its layout: what is left of a text without spaces, tabs and
line breaks (`Layout.ink`) is the same before and after (`Layout.ink_collapse`). No tab is left
(`Layout.tab_not_mem_collapse`), and a single line without tabs stays as it is
(`Layout.collapse_eq_self`).
-/

namespace Retouch

section Trim

variable {α : Type} {test : α → Bool} {l : List α} {a : α}

/-- Trimming drops items that satisfy the test from both ends, and nothing else. -/
lemma trim_split (test : α → Bool) (l : List α) :
    ∃ before after, l = before ++ trim test l ++ after ∧ (∀ a ∈ before, test a = true) ∧
      ∀ a ∈ after, test a = true := by
  refine ⟨l.takeWhile test, ((trimStart test l).reverse.takeWhile test).reverse, ?_, ?_, ?_⟩
  · have back : trimStart test l =
        trim test l ++ ((trimStart test l).reverse.takeWhile test).reverse := by
      rw [trim, trimEnd, ← List.reverse_append, List.takeWhile_append_dropWhile,
        List.reverse_reverse]
    rw [List.append_assoc, ← back, trimStart, List.takeWhile_append_dropWhile]
  · exact fun a mem => List.mem_takeWhile_imp mem
  · exact fun a mem => List.mem_takeWhile_imp (List.mem_reverse.1 mem)

/-- A trimmed list does not end with an item that satisfies the test. -/
lemma getLast?_trim (ends : (trim test l).getLast? = some a) : test a = false := by
  rw [trim, trimEnd, List.getLast?_reverse] at ends
  have first := List.head?_dropWhile_not test (trimStart test l).reverse
  rw [ends] at first
  exact first

/-- A trimmed list does not begin with an item that satisfies the test. -/
lemma head?_trim (begins : (trim test l).head? = some a) : test a = false := by
  have first := List.head?_dropWhile_not test l
  obtain ⟨rest, split⟩ := List.head?_eq_some_iff.1 begins
  have front : trim test l <+: l.dropWhile test := List.rdropWhile_prefix test _
  obtain ⟨after, whole⟩ := front
  rw [← whole, split, List.cons_append] at first
  exact first

/-- A list that neither begins nor ends with an item that satisfies the test stays as it is. -/
lemma trim_eq_self (begins : ∀ a, l.head? = some a → test a = false)
    (ends : ∀ a, l.getLast? = some a → test a = false) : trim test l = l := by
  have front : trimStart test l = l := by
    cases l with
    | nil => rfl
    | cons b rest => exact List.dropWhile_cons_of_neg (by simp [begins b rfl])
  rw [trim, front]
  refine List.rdropWhile_eq_self_iff.2 fun filled => ?_
  simp [ends _ (List.getLast?_eq_some_getLast filled)]

/-- Trimming keeps the items that do not satisfy the test. -/
lemma filter_trim (test : α → Bool) (l : List α) :
    (trim test l).filter (fun a => !test a) = l.filter fun a => !test a := by
  obtain ⟨before, after, split, front, back⟩ := trim_split test l
  have dropped {dropped : List α} (all : ∀ a ∈ dropped, test a = true) :
      dropped.filter (fun a => !test a) = [] := by
    simpa using all
  conv_rhs => rw [split, List.filter_append, List.filter_append, dropped front, dropped back]
  simp

end Trim

namespace CodePoint

variable {c : CodePoint}

/-- Layout is blank. -/
lemma isBlank_of_isLayout (layout : c.isLayout = true) : c.isBlank = true := by
  simp only [isLayout, Bool.or_eq_true, beq_iff_eq] at layout
  rcases layout with ((rfl | rfl) | rfl) | rfl <;> decide

/-- What is no blank is no layout. -/
lemma not_isLayout_of_not_isBlank (filled : c.isBlank = false) : c.isLayout = false := by
  by_contra layout
  rw [isBlank_of_isLayout (by simpa using layout)] at filled
  cases filled

end CodePoint

namespace Layout

/-- What is left of a text without its layout. -/
def ink (t : Text) : Text :=
  t.filter fun c => !c.isLayout

/-- Nothing is left of an empty text. -/
@[simp]
lemma ink_nil : ink [] = [] := rfl

/-- What is left of a text begins with what is left of its first character. -/
lemma ink_cons (c : CodePoint) (t : Text) : ink (c :: t) = ink [c] ++ ink t := by
  rw [ink, ink, ink, ← List.filter_append, List.singleton_append]

/-- What is left of a text is left of its parts. -/
@[simp]
lemma ink_append (t u : Text) : ink (t ++ u) = ink t ++ ink u :=
  List.filter_append ..

/-- A code point that is layout leaves nothing. -/
lemma ink_of_isLayout {c : CodePoint} (layout : c.isLayout = true) : ink [c] = [] := by
  simp [ink, layout]

/-- A code point that is no layout is left. -/
lemma ink_of_not_isLayout {c : CodePoint} (layout : c.isLayout = false) : ink [c] = [c] := by
  simp [ink, layout]

/-- Dropping spaces from the start of a text keeps what is no layout. -/
lemma ink_trimStart (t : Text) : ink (trimStart (· == CodePoint.ofChar ' ') t) = ink t := by
  induction t with
  | nil => rfl
  | cons c t ih =>
    rw [trimStart, List.dropWhile_cons]
    split
    · rename_i space
      rw [ink_cons c t, ink_of_isLayout (by simp [CodePoint.isLayout, space])]
      exact ih
    · rfl

/-- What is left of a text that is read backwards. -/
lemma ink_reverse (t : Text) : ink t.reverse = (ink t).reverse :=
  List.filter_reverse ..

/-- What begins a text, without being layout, begins what is left of it. -/
lemma head?_ink {t : Text} {c : CodePoint} (begins : t.head? = some c)
    (visible : c.isLayout = false) : (ink t).head? = some c := by
  obtain ⟨rest, rfl⟩ := List.head?_eq_some_iff.1 begins
  rw [ink_cons, ink_of_not_isLayout visible]
  rfl

/-- What ends a text, without being layout, ends what is left of it. -/
lemma getLast?_ink {t : Text} {c : CodePoint} (ends : t.getLast? = some c)
    (visible : c.isLayout = false) : (ink t).getLast? = some c := by
  rw [← List.head?_reverse] at ends
  rw [← List.head?_reverse, ← ink_reverse]
  exact head?_ink ends visible

/-- Dropping spaces from the end of a text keeps what is no layout. -/
lemma ink_trimEnd (t : Text) : ink (trimEnd (· == CodePoint.ofChar ' ') t) = ink t := by
  have front := ink_trimStart t.reverse
  rw [trimStart] at front
  rw [trimEnd, ink_reverse, front, ink_reverse, List.reverse_reverse]

/-- There is always a first line. -/
lemma exists_linesAfter (halfBreak : Bool) (t : Text) :
    ∃ line others, linesAfter halfBreak t = line :: others := by
  induction t generalizing halfBreak with
  | nil => exact ⟨[], [], rfl⟩
  | cons c t ih =>
    unfold linesAfter
    split
    · split
      · exact ih false
      · exact ⟨[], _, rfl⟩
    · split
      · exact ⟨[], _, rfl⟩
      · obtain ⟨line, others, split⟩ := ih false
        exact ⟨c :: line, others, by rw [split]; rfl⟩

/-- Cutting a text into lines touches nothing but its layout. -/
lemma ink_linesAfter (halfBreak : Bool) (t : Text) :
    (linesAfter halfBreak t).flatMap ink = ink t := by
  induction t generalizing halfBreak with
  | nil => rfl
  | cons c t ih =>
    unfold linesAfter
    split
    · rename_i feed
      rw [ink_cons, ink_of_isLayout (by rw [feed]; decide)]
      split
      · exact ih false
      · exact ih false
    · split
      · rename_i carriage
        rw [ink_cons, ink_of_isLayout (by rw [carriage]; decide)]
        exact ih true
      · obtain ⟨line, others, split⟩ := exists_linesAfter false t
        rw [ink_cons, ← ih false, split, List.modifyHead_cons, List.flatMap_cons, List.flatMap_cons,
          ink_cons c line, List.append_assoc]

/-- Turning tabs into spaces touches nothing but the layout. -/
lemma ink_spaced (line : Text) :
    ink (line.map fun c => if c = CodePoint.ofChar '\t' then CodePoint.ofChar ' ' else c) =
      ink line := by
  induction line with
  | nil => rfl
  | cons c line ih =>
    rw [List.map_cons, ink_cons, ih, ink_cons c line]
    split
    · rename_i tab
      rw [tab]
      rfl
    · rfl

/-- Trimming a line touches nothing but its layout. -/
lemma ink_trimLine (isFirst isLast : Bool) (line : Text) :
    ink (trimLine isFirst isLast line) = ink line := by
  unfold trimLine
  cases isFirst <;> cases isLast <;> simp [ink_trimStart, ink_trimEnd, ink_spaced]

/-- What a line makes up of the joined text differs from it in nothing but layout. -/
lemma ink_joinPart (count : Nat) (last : Option Nat) (line : Text) (i : Nat) :
    ink (joinPart count last line i) = ink line := by
  rw [← ink_trimLine (i == 0) (i + 1 == count) line, joinPart]
  split
  · rename_i empty
    rw [List.isEmpty_iff.1 empty]
  · split
    · rfl
    · rw [ink_append, ink_of_isLayout (by decide), List.append_nil]

/-- Collapsing a text touches nothing but its layout. -/
lemma ink_collapse (raw : Text) : ink (collapse raw) = ink raw := by
  have first : (lines raw).zipIdx.flatMap (fun numbered => ink numbered.1) = ink raw := by
    rw [← ink_linesAfter false raw, ← lines, ← List.flatMap_map, List.zipIdx_map_fst]
  rw [ink, collapse, List.filter_flatMap, ← first]
  -- Line by line, whatever its number.
  refine List.flatMap_congr fun numbered _ => ?_
  exact ink_joinPart _ _ numbered.1 numbered.2

/-- A trimmed line holds no tabs. -/
lemma tab_not_mem_trimLine (isFirst isLast : Bool) (line : Text) :
    CodePoint.ofChar '\t' ∉ trimLine isFirst isLast line := by
  have spaced : CodePoint.ofChar '\t' ∉
      line.map fun c => if c = CodePoint.ofChar '\t' then CodePoint.ofChar ' ' else c := by
    intro mem
    obtain ⟨c, _, same⟩ := List.mem_map.1 mem
    split at same
    · exact absurd same (by decide)
    · rename_i other
      exact other same
  have front (t : Text) : trimStart (· == CodePoint.ofChar ' ') t ⊆ t :=
    (List.dropWhile_sublist _).subset
  have back (t : Text) : trimEnd (· == CodePoint.ofChar ' ') t ⊆ t :=
    (List.rdropWhile_prefix _ t).subset
  unfold trimLine
  cases isFirst <;> cases isLast <;> intro mem
  · exact spaced (front _ (back _ mem))
  · exact spaced (front _ mem)
  · exact spaced (back _ mem)
  · exact spaced mem

/-- A collapsed text holds no tabs. -/
lemma tab_not_mem_collapse (raw : Text) : CodePoint.ofChar '\t' ∉ collapse raw := by
  intro mem
  obtain ⟨⟨line, i⟩, _, mem⟩ := List.mem_flatMap.1 mem
  have spaced := tab_not_mem_trimLine (i == 0) (i + 1 == (lines raw).length) line
  simp only [joinPart] at mem
  split at mem
  · cases mem
  · split at mem
    · exact spaced mem
    · rcases List.mem_append.1 mem with inside | space
      · exact spaced inside
      · simp only [List.mem_singleton] at space
        revert space
        decide

/-- A text without line breaks is one line. -/
lemma lines_eq_singleton {t : Text}
    (plain : ∀ c ∈ t, c ≠ CodePoint.ofChar '\n' ∧ c ≠ CodePoint.ofChar '\r') : lines t = [t] := by
  unfold lines
  induction t with
  | nil => rfl
  | cons c t ih =>
    obtain ⟨feed, carriage⟩ := plain c List.mem_cons_self
    rw [linesAfter, if_neg feed, if_neg carriage,
      ih fun d mem => plain d (List.mem_cons_of_mem c mem)]
    rfl

/-- A line that is filled and holds no tabs stays as it is. -/
lemma collapse_eq_self {t : Text}
    (plain : ∀ c ∈ t, c ≠ CodePoint.ofChar '\n' ∧ c ≠ CodePoint.ofChar '\r')
    (tabless : CodePoint.ofChar '\t' ∉ t) (filled : isFilled t = true) : collapse t = t := by
  have spaced :
      (t.map fun c => if c = CodePoint.ofChar '\t' then CodePoint.ofChar ' ' else c) = t := by
    refine (List.map_congr_left fun c mem => ?_).trans (List.map_id t)
    have other : c ≠ CodePoint.ofChar '\t' := by
      rintro rfl
      exact tabless mem
    rw [if_neg other]
    rfl
  have last : lastFilled? [t] = some 0 := by
    simp [lastFilled?, filled]
  simp only [collapse, lines_eq_singleton plain, last]
  simp [joinPart, trimLine, spaced]

/-- What is left of a text that holds more than blanks begins and ends with something that is none,
once the text has no blanks at its ends. -/
lemma exists_ink_strip {t : Text} (filled : Text.strip t ≠ []) :
    (∃ c, (ink (Text.strip t)).head? = some c ∧ c.isBlank = false) ∧
      ∃ c, (ink (Text.strip t)).getLast? = some c ∧ c.isBlank = false := by
  obtain ⟨c, begins⟩ := Option.ne_none_iff_exists'.1 (mt List.head?_eq_none_iff.1 filled)
  obtain ⟨d, ends⟩ := Option.ne_none_iff_exists'.1 (mt List.getLast?_eq_none_iff.1 filled)
  have first := head?_trim begins
  have last := getLast?_trim ends
  exact ⟨⟨c, head?_ink begins (CodePoint.not_isLayout_of_not_isBlank first), first⟩,
    ⟨d, getLast?_ink ends (CodePoint.not_isLayout_of_not_isBlank last), last⟩⟩

end Layout

end Retouch
