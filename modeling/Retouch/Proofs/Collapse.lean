import Mathlib
import Retouch.Proofs.Layout

/-!
# Collapsed texts

Collapsing a text keeps its words (`Layout.words_collapse`): what stands between spaces, tabs and
line breaks is neither lost nor joined nor parted, because a line gets a space behind it unless no
later line is filled. Compilers of markup clean a text by an algorithm of their own,
`Layout.compiled`. Both give the same text, unless it holds nothing but spaces and tabs: such a text
is given a space too many (`Layout.collapse_eq_compiled`).
-/

namespace Retouch.Layout

variable {t u raw line : Text} {c : CodePoint} {ls : List Text}

section Words

/-- The longest stretches of a text without layout. -/
def words (t : Text) : List Text :=
  (t.splitOnP CodePoint.isLayout).filter fun word => !word.isEmpty

/-- The empty text has no words. -/
@[simp]
lemma words_nil : words [] = [] := by
  simp [words, List.splitOnP_nil]

-- What is known about words below follows from this equation.

/-- Layout parts the words before it from those behind it. -/
lemma words_append_cons (layout : c.isLayout = true) (t u : Text) :
    words (t ++ c :: u) = words t ++ words u := by
  rw [words, List.splitOnP_append_cons t u layout, List.filter_append]
  rfl

/-- Layout at the start of a text belongs to no word. -/
lemma words_cons (layout : c.isLayout = true) (t : Text) : words (c :: t) = words t := by
  simpa using words_append_cons layout [] t

/-- A run of layout before a text belongs to no word. -/
lemma words_append_left (blank : ∀ c ∈ t, c.isLayout = true) (u : Text) :
    words (t ++ u) = words u := by
  induction t with
  | nil => rfl
  | cons c t ih =>
    rw [List.cons_append, words_cons (blank c List.mem_cons_self)]
    exact ih fun d mem => blank d (List.mem_cons_of_mem c mem)

/-- A run of layout behind a text belongs to no word. -/
lemma words_append_right (t : Text) (blank : ∀ c ∈ u, c.isLayout = true) :
    words (t ++ u) = words t := by
  cases u with
  | nil => rw [List.append_nil]
  | cons c u =>
    have rest : words u = [] := by
      simpa using words_append_left (fun d mem => blank d (List.mem_cons_of_mem c mem)) []
    rw [words_append_cons (blank c List.mem_cons_self), rest, List.append_nil]

end Words

section Lines

/-- A character that ends a line. -/
def isBreak (c : CodePoint) : Bool :=
  c == '\n' || c == '\r'

/-- What ends a line is layout. -/
lemma isLayout_of_isBreak (ends : isBreak c = true) : c.isLayout = true := by
  simp only [isBreak, Bool.or_eq_true, beq_iff_eq] at ends
  rcases ends with rfl | rfl <;> decide

/-- A line goes up to the first break. -/
lemma linesAfter_append_cons (whole : ∀ d ∈ line, isBreak d = false)
    (ends : isBreak c = true) (t : Text) :
    linesAfter false (line ++ c :: t) = line :: linesAfter (c == CodePoint.ofChar '\r') t := by
  induction line with
  | nil =>
    simp only [isBreak, Bool.or_eq_true, beq_iff_eq] at ends
    rcases ends with rfl | rfl <;> rfl
  | cons d line ih =>
    have inside := whole d List.mem_cons_self
    simp only [isBreak, Bool.or_eq_false_iff, beq_eq_false_iff_ne] at inside
    rw [List.cons_append, linesAfter, if_neg inside.1, if_neg inside.2,
      ih fun e mem => whole e (List.mem_cons_of_mem d mem)]
    rfl

/-- A text is one line, or a line, a break and the rest. -/
lemma lines_cases (t : Text) :
    (∀ c ∈ t, isBreak c = false) ∨
      ∃ line c rest, t = line ++ c :: rest ∧ (∀ d ∈ line, isBreak d = false) ∧
        isBreak c = true := by
  cases after : t.dropWhile fun c => !isBreak c with
  | nil =>
    refine .inl fun c mem => ?_
    simpa using List.dropWhile_eq_nil_iff.1 after c mem
  | cons c rest =>
    have first := List.head?_dropWhile_not (fun c => !isBreak c) t
    rw [after] at first
    refine .inr ⟨t.takeWhile fun c => !isBreak c, c, rest, ?_, ?_, by simpa using first⟩
    · rw [← after, List.takeWhile_append_dropWhile]
    · intro d mem
      simpa using List.mem_takeWhile_imp mem

/-- A text without line ends is one line. -/
lemma lines_of_no_break (whole : ∀ c ∈ t, isBreak c = false) : lines t = [t] := by
  apply lines_eq_singleton
  intro c mem
  simpa [isBreak] using whole c mem

/-- The second half of a break is passed over. -/
lemma linesAfter_half (t : Text) :
    linesAfter true (CodePoint.ofChar '\n' :: t) = linesAfter false t := by
  rw [linesAfter, if_pos rfl, if_pos rfl]

/-- After a carriage return a line begins, unless a line feed follows. -/
lemma linesAfter_full (other : t.head? ≠ some (CodePoint.ofChar '\n')) :
    linesAfter true t = linesAfter false t := by
  cases t with
  | nil => rfl
  | cons c rest =>
    have different : c ≠ CodePoint.ofChar '\n' := fun same => other (congrArg some same)
    rw [linesAfter, linesAfter, if_neg different, if_neg different]

/-- What holds of a single line, and of a text if it holds of what is left behind its first line,
holds of every text. A text that is left behind a carriage return may begin with the other half of
the break. -/
@[elab_as_elim]
lemma linesInduction {motive : Bool → Text → Prop}
    (whole : ∀ t, (∀ c ∈ t, isBreak c = false) → motive false t)
    (line : ∀ line c rest, (∀ d ∈ line, isBreak d = false) → isBreak c = true →
      motive (c == CodePoint.ofChar '\r') rest → motive false (line ++ c :: rest))
    (half : ∀ rest, motive false rest → motive true (CodePoint.ofChar '\n' :: rest))
    (full : ∀ t, linesAfter true t = linesAfter false t → motive false t → motive true t)
    (halfBreak : Bool) (t : Text) : motive halfBreak t := by
  induction size : t.length using Nat.strong_induction_on generalizing t halfBreak with
  | _ n ih =>
    have here : motive false t := by
      rcases lines_cases t with plain | ⟨before, c, rest, rfl, plain, ends⟩
      · exact whole t plain
      · rw [List.length_append, List.length_cons] at size
        exact line before c rest plain ends (ih rest.length (by omega) _ rest rfl)
    cases halfBreak with
    | false => exact here
    | true =>
      by_cases feed : t.head? = some (CodePoint.ofChar '\n')
      · obtain ⟨rest, rfl⟩ := List.head?_eq_some_iff.1 feed
        rw [List.length_cons] at size
        exact half rest (ih rest.length (by omega) false rest rfl)
      · exact full t (linesAfter_full feed) here

/-- The words of a text are those of its lines. -/
lemma words_linesAfter (halfBreak : Bool) (t : Text) :
    (linesAfter halfBreak t).flatMap words = words t := by
  induction halfBreak, t using linesInduction with
  | whole t plain => rw [← lines, lines_of_no_break plain, List.flatMap_singleton]
  | line before c rest plain ends ih =>
    rw [linesAfter_append_cons plain ends, List.flatMap_cons, ih,
      words_append_cons (isLayout_of_isBreak ends)]
  | half rest ih => rw [linesAfter_half, ih, words_cons (by decide)]
  | full t same ih => rw [same, ih]

/-- What stands in a line stands in the text, and is no break. -/
lemma mem_of_mem_linesAfter {halfBreak : Bool} (listed : line ∈ linesAfter halfBreak t)
    (mem : c ∈ line) : c ∈ t ∧ isBreak c = false := by
  induction halfBreak, t using linesInduction with
  | whole t plain =>
    rw [← lines, lines_of_no_break plain, List.mem_singleton] at listed
    subst listed
    exact ⟨mem, plain c mem⟩
  | line before d rest plain ends ih =>
    rw [linesAfter_append_cons plain ends] at listed
    rcases List.mem_cons.1 listed with rfl | later
    · exact ⟨List.mem_append_left _ mem, plain c mem⟩
    · obtain ⟨held, inside⟩ := ih later
      exact ⟨List.mem_append_right _ (List.mem_cons_of_mem d held), inside⟩
  | half rest ih =>
    rw [linesAfter_half] at listed
    obtain ⟨held, inside⟩ := ih listed
    exact ⟨List.mem_cons_of_mem _ held, inside⟩
  | full t same ih => exact ih (same ▸ listed)

end Lines

section Trimming

/-- A text has the same words with other layout in place of its layout. -/
lemma words_map {f : CodePoint → CodePoint} (kept : ∀ c, c.isLayout = false → f c = c)
    (blank : ∀ c, c.isLayout = true → (f c).isLayout = true) (t : Text) :
    words (t.map f) = words t := by
  have split : (t.map f).splitOnP CodePoint.isLayout = t.splitOnP CodePoint.isLayout := by
    induction t with
    | nil => rfl
    | cons c t ih =>
      rw [List.map_cons, List.splitOnP_cons_eq_if_modifyHead,
        List.splitOnP_cons_eq_if_modifyHead, ih]
      cases layout : c.isLayout with
      | true => rw [if_pos (blank c layout), if_pos rfl]
      | false => rw [kept c layout, layout]
  rw [words, split]
  rfl

/-- A text has the same words without the spaces at its start. -/
lemma words_trimStart (t : Text) : words (trimStart (· == CodePoint.ofChar ' ') t) = words t := by
  have spaces : ∀ c ∈ t.takeWhile (· == CodePoint.ofChar ' '), c.isLayout = true := by
    intro c mem
    simp [CodePoint.isLayout, List.mem_takeWhile_imp mem]
  conv_rhs => rw [← List.takeWhile_append_dropWhile (p := (· == CodePoint.ofChar ' ')) (l := t),
    words_append_left spaces]
  rfl

/-- A text has the same words without the spaces at its end. -/
lemma words_trimEnd (t : Text) : words (trimEnd (· == CodePoint.ofChar ' ') t) = words t := by
  have spaces : ∀ c ∈ t.rtakeWhile (· == CodePoint.ofChar ' '), c.isLayout = true := by
    intro c mem
    simp [CodePoint.isLayout, List.mem_rtakeWhile_imp mem]
  conv_rhs => rw [← List.rdropWhile_append_rtakeWhile (p := (· == CodePoint.ofChar ' ')) (l := t),
    words_append_right _ spaces]
  rfl

/-- A line has the same words when it is trimmed. -/
lemma words_trimLine (isFirst isLast : Bool) (line : Text) :
    words (trimLine isFirst isLast line) = words line := by
  have spaced :
      words (line.map fun c => if c = CodePoint.ofChar '\t' then CodePoint.ofChar ' ' else c) =
        words line := by
    apply words_map
    · intro c visible
      rw [if_neg (by rintro rfl; exact absurd visible (by decide))]
    · intro c blank
      split
      · decide
      · exact blank
  unfold trimLine
  cases isFirst <;> cases isLast <;> simp [words_trimStart, words_trimEnd, spaced]

/-- A trimmed line holds spaces and what the line held. -/
lemma mem_trimLine {isFirst isLast : Bool} (mem : c ∈ trimLine isFirst isLast line) :
    c = CodePoint.ofChar ' ' ∨ c ∈ line := by
  have spaced
      (mem : c ∈ line.map fun c => if c = CodePoint.ofChar '\t' then CodePoint.ofChar ' ' else c) :
      c = CodePoint.ofChar ' ' ∨ c ∈ line := by
    obtain ⟨d, held, rfl⟩ := List.mem_map.1 mem
    split
    · exact .inl rfl
    · exact .inr held
  have front (t : Text) : trimStart (· == CodePoint.ofChar ' ') t ⊆ t :=
    (List.dropWhile_sublist _).subset
  have back (t : Text) : trimEnd (· == CodePoint.ofChar ' ') t ⊆ t :=
    (List.rdropWhile_prefix _ t).subset
  cases isFirst <;> cases isLast
  · exact spaced (front _ (back _ mem))
  · exact spaced (front _ mem)
  · exact spaced (back _ mem)
  · exact spaced mem

/-- A line is not filled exactly if it consists of spaces and tabs. -/
lemma not_isFilled_iff : isFilled line = false ↔ ∀ c ∈ line, c.isSpaceOrTab = true := by
  simp [isFilled]

/-- Next to a line break nothing is left of a line that is not filled. -/
lemma trimLine_of_not_isFilled {isFirst isLast : Bool} (blank : isFilled line = false)
    (inner : isFirst = false ∨ isLast = false) : trimLine isFirst isLast line = [] := by
  have spaces :
      ∀ c ∈ line.map fun c => if c = CodePoint.ofChar '\t' then CodePoint.ofChar ' ' else c,
      (c == CodePoint.ofChar ' ') = true := by
    intro c mem
    obtain ⟨d, held, rfl⟩ := List.mem_map.1 mem
    have space := not_isFilled_iff.1 blank d held
    simp only [CodePoint.isSpaceOrTab, Bool.or_eq_true, beq_iff_eq] at space
    rcases space with rfl | rfl <;> rfl
  have front := List.dropWhile_eq_nil_iff.2 spaces
  have back := List.rdropWhile_eq_nil_iff.2 spaces
  cases isFirst with
  | false => cases isLast <;> simp [trimLine, trimStart, trimEnd, front]
  | true =>
    cases isLast with
    | false => exact back
    | true => simp at inner

end Trimming

section Joining

/-- The number of the last filled line is the last of the numbers of filled lines. -/
lemma lastFilled?_eq (ls : List Text) : lastFilled? ls = (ls.findIdxs isFilled).getLast? := by
  have numbers (start : Nat) :
      ((ls.zipIdx start).filter fun numbered => isFilled numbered.1).map (·.2) =
        ls.findIdxs isFilled start := by
    induction ls generalizing start with
    | nil => rfl
    | cons line ls ih =>
      rw [List.zipIdx_cons, List.findIdxs_cons, List.filter_cons, ← ih]
      split <;> rfl
  rw [← numbers, List.getLast?_map]
  rfl

/-- There is no last filled line exactly if no line is filled. -/
lemma lastFilled?_eq_none : lastFilled? ls = none ↔ ∀ line ∈ ls, isFilled line = false := by
  rw [lastFilled?_eq, List.getLast?_eq_none_iff, List.findIdxs_eq_nil_iff]

/-- Behind the last filled line no line is filled. -/
lemma le_lastFilled {numbered : Text × Nat} {last : Nat} (ends : lastFilled? ls = some last)
    (listed : numbered ∈ ls.zipIdx) (filled : isFilled numbered.1 = true) : numbered.2 ≤ last := by
  rw [lastFilled?_eq] at ends
  obtain ⟨others, split⟩ := List.getLast?_eq_some_iff.1 ends
  have increasing : (ls.findIdxs isFilled).Pairwise (· < ·) := List.pairwise_findIdxs
  have mem : numbered.2 ∈ ls.findIdxs isFilled := by
    obtain ⟨bound, same⟩ := List.mem_zipIdx' listed
    exact List.mem_findIdxs_iff_exists_getElem_pos.2 ⟨bound, same ▸ filled⟩
  rw [split] at increasing mem
  rcases List.mem_append.1 mem with before | here
  · exact ((List.pairwise_append.1 increasing).2.2 _ before last (List.mem_singleton_self last)).le
  · rw [List.mem_singleton.1 here]

variable {count i : Nat} {last : Option Nat}

/-- A line of which nothing is left takes no part. -/
lemma joinPart_eq_nil (empty : trimLine (i == 0) (i + 1 == count) line = []) :
    joinPart count last line i = [] := by
  simp [joinPart, empty]

/-- A line that is not empty makes up itself, and a space unless it is the last filled line. -/
lemma joinPart_of_ne_nil (filled : trimLine (i == 0) (i + 1 == count) line ≠ []) :
    joinPart count last line i =
      trimLine (i == 0) (i + 1 == count) line ++
        if some i = last then [] else [CodePoint.ofChar ' '] := by
  have kept : (trimLine (i == 0) (i + 1 == count) line).isEmpty = false := by simpa using filled
  simp only [joinPart, kept, Bool.false_eq_true, if_false]
  split <;> simp

/-- Lines are joined without loss of words, if nothing is behind the last one that is filled. -/
lemma words_joinPart {numbered : List (Text × Nat)}
    (behind : numbered.Pairwise fun a b => some a.2 = last →
      trimLine (b.2 == 0) (b.2 + 1 == count) b.1 = []) :
    words (numbered.flatMap fun part => joinPart count last part.1 part.2) =
      numbered.flatMap fun part => words part.1 := by
  induction numbered with
  | nil => rfl
  | cons part rest ih =>
    obtain ⟨first, later⟩ := List.pairwise_cons.1 behind
    rw [List.flatMap_cons, List.flatMap_cons,
      ← words_trimLine (part.2 == 0) (part.2 + 1 == count) part.1, ← ih later]
    by_cases empty : trimLine (part.2 == 0) (part.2 + 1 == count) part.1 = []
    · rw [joinPart_eq_nil empty, empty]
      rfl
    rw [joinPart_of_ne_nil empty]
    by_cases ends : some part.2 = last
    · have nothing : (rest.flatMap fun part => joinPart count last part.1 part.2) = [] := by
        refine List.flatMap_eq_nil_iff.2 fun other listed => ?_
        exact joinPart_eq_nil (first other listed ends)
      rw [if_pos ends, nothing, List.append_nil, List.append_nil, words_nil, List.append_nil]
    · rw [if_neg ends, List.append_assoc, List.singleton_append, words_append_cons (by decide)]

/-- The part of a line consists of spaces and of what the line holds. -/
lemma mem_joinPart (mem : c ∈ joinPart count last line i) :
    c = CodePoint.ofChar ' ' ∨ c ∈ line := by
  by_cases empty : trimLine (i == 0) (i + 1 == count) line = []
  · rw [joinPart_eq_nil empty] at mem
    cases mem
  rw [joinPart_of_ne_nil empty] at mem
  rcases List.mem_append.1 mem with inside | space
  · exact mem_trimLine inside
  · split at space
    · cases space
    · exact .inl (List.mem_singleton.1 space)

/-- A collapsed text holds no line breaks. -/
lemma not_isBreak_of_mem_collapse (mem : c ∈ collapse raw) : isBreak c = false := by
  obtain ⟨numbered, listed, mem⟩ := List.mem_flatMap.1 mem
  rcases mem_joinPart mem with rfl | held
  · decide
  · exact (mem_of_mem_linesAfter (List.fst_mem_of_mem_zipIdx listed) held).2

end Joining

/-- Collapsing a text neither loses nor joins nor parts words, and leaves no layout but spaces. -/
theorem words_collapse (raw : Text) :
    words (collapse raw) = words raw ∧
      ∀ c ∈ collapse raw, c ≠ CodePoint.ofChar '\t' ∧ c ≠ CodePoint.ofChar '\r' ∧
        c ≠ CodePoint.ofChar '\n' := by
  constructor
  · have behind : (lines raw).zipIdx.Pairwise fun a b =>
        some a.2 = lastFilled? (lines raw) →
        trimLine (b.2 == 0) (b.2 + 1 == (lines raw).length) b.1 = [] := by
      have increasing : (lines raw).zipIdx.Pairwise fun a b => a.2 < b.2 := by
        rw [← List.pairwise_map, List.zipIdx_map_snd]
        exact List.pairwise_lt_range'
      refine increasing.imp_of_mem fun {a b} _ listed before ends => ?_
      -- A later line is not the first one, and it is not filled either.
      apply trimLine_of_not_isFilled
      · by_contra filled
        have bound := le_lastFilled ends.symm listed (by simpa using filled)
        omega
      · exact .inl (by simp; omega)
    calc words (collapse raw)
        = (lines raw).zipIdx.flatMap (fun numbered => words numbered.1) := words_joinPart behind
      _ = (lines raw).flatMap words := by rw [← List.flatMap_map, List.zipIdx_map_fst]
      _ = words raw := words_linesAfter false raw
  · intro c mem
    have whole := not_isBreak_of_mem_collapse mem
    simp only [isBreak, Bool.or_eq_false_iff, beq_eq_false_iff_ne] at whole
    refine ⟨?_, whole.2, whole.1⟩
    rintro rfl
    exact tab_not_mem_collapse raw mem

section Compilers

/-- A text cut at its line breaks. A carriage return and a line feed behind it are one break. -/
def cut : Text → List Text
  | [] => [[]]
  | [c] => if c = '\r' ∨ c = '\n' then [[], []] else [[c]]
  | c :: d :: t =>
    if c = '\r' ∧ d = '\n' then [] :: cut t
    else if c = '\r' ∨ c = '\n' then [] :: cut (d :: t)
    else (cut (d :: t)).modifyHead (c :: ·)

/-- What compilers leave of a line: tabs become spaces, and these go where the line touches a line
break. -/
def compiledLine (count i : Nat) (line : Text) : Text :=
  let spaced := line.map fun (c : CodePoint) => if c = '\t' then CodePoint.ofChar ' ' else c
  let fromLeft := if i = 0 then spaced else spaced.dropWhile (· == ' ')
  if i + 1 = count then fromLeft else fromLeft.rdropWhile (· == ' ')

/-- A text the way compilers of markup clean it: of its lines those are kept of which something is
left, and each of them gets a space behind it, except for the last one that is not blank. If all are
blank, the first one counts as that. -/
def compiled (raw : Text) : Text :=
  let ls := cut raw
  let last := (ls.findIdxs fun line => line.any fun c => c != ' ' && c != '\t').getLastD 0
  let cleaned := ls.mapIdx fun i line => (i, compiledLine ls.length i line)
  let kept := cleaned.filter fun numbered => !numbered.2.isEmpty
  (kept.map fun numbered => if numbered.1 = last then numbered.2
    else numbered.2 ++ [CodePoint.ofChar ' ']).flatten

/-- Compilers see the same lines. -/
lemma cut_eq_lines (t : Text) : cut t = lines t := by
  fun_induction cut t with
  | case1 => rfl
  | case2 c ends => rcases ends with rfl | rfl <;> rfl
  | case3 c inside =>
    obtain ⟨carriage, feed⟩ := not_or.1 inside
    rw [lines, linesAfter, if_neg feed, if_neg carriage]
    rfl
  | case4 c d t pair ih =>
    obtain ⟨rfl, rfl⟩ := pair
    rw [ih, lines, lines, linesAfter, if_neg (by decide), if_pos rfl, linesAfter_half]
  | case5 c d t pair ends ih =>
    rw [ih, lines, lines]
    rcases ends with rfl | rfl
    · have other : (d :: t).head? ≠ some (CodePoint.ofChar '\n') :=
        fun feed => pair ⟨rfl, Option.some.inj feed⟩
      conv_rhs => rw [linesAfter, if_neg (by decide), if_pos rfl, linesAfter_full other]
    · conv_rhs => rw [linesAfter, if_pos rfl, if_neg (by decide)]
  | case6 c d t pair inside ih =>
    obtain ⟨carriage, feed⟩ := not_or.1 inside
    rw [ih, lines, lines]
    conv_rhs => rw [linesAfter, if_neg feed, if_neg carriage]

/-- Compilers leave the same of a line. -/
lemma compiledLine_eq (count i : Nat) (line : Text) :
    compiledLine count i line = trimLine (i == 0) (i + 1 == count) line := by
  simp [compiledLine, trimLine, trimStart, trimEnd, List.rdropWhile]

/-- The compilers join lines in the same way, but the first line counts as filled if none is. -/
lemma compiled_eq (raw : Text) :
    compiled raw = (lines raw).zipIdx.flatMap fun numbered =>
      joinPart (lines raw).length (some ((lastFilled? (lines raw)).getD 0)) numbered.1
        numbered.2 := by
  have filled : (fun line : Text => line.any fun c => c != ' ' && c != '\t') = isFilled := by
    funext line
    simp only [isFilled, CodePoint.isSpaceOrTab, Bool.not_or]
    rfl
  have joined (last : Nat) (numbered : List (Text × Nat)) :
      ((((numbered.map fun part => (part.2, compiledLine (lines raw).length part.2 part.1)).filter
        fun part =>
          !part.2.isEmpty).map fun part =>
            if part.1 = last then part.2 else part.2 ++ [CodePoint.ofChar ' ']).flatten) =
        numbered.flatMap fun part => joinPart (lines raw).length (some last) part.1 part.2 := by
    induction numbered with
    | nil => rfl
    | cons part rest ih =>
      rw [List.map_cons, List.filter_cons, List.flatMap_cons, ← ih]
      simp only [compiledLine_eq]
      by_cases empty : trimLine (part.2 == 0) (part.2 + 1 == (lines raw).length) part.1 = []
      · rw [joinPart_eq_nil empty, empty]
        rfl
      · rw [joinPart_of_ne_nil empty, if_pos (by simpa using empty), List.map_cons,
          List.flatten_cons]
        by_cases ends : part.2 = last
        · simp [ends]
        · simp [ends]
  simp only [compiled, cut_eq_lines, filled, List.mapIdx_eq_zipIdx_map, lastFilled?_eq,
    List.getLastD_eq_getLast?]
  exact joined _ _

/-- Of several lines none of which is filled nothing is left. -/
lemma joinPart_of_blank {numbered : Text × Nat} (several : 1 < ls.length)
    (blank : ∀ line ∈ ls, isFilled line = false) (listed : numbered ∈ ls.zipIdx)
    (last : Option Nat) : joinPart ls.length last numbered.1 numbered.2 = [] := by
  apply joinPart_eq_nil
  apply trimLine_of_not_isFilled (blank _ (List.fst_mem_of_mem_zipIdx listed))
  by_cases first : numbered.2 = 0
  · exact .inr (by simp [first]; omega)
  · exact .inl (by simpa using first)

/-- A text is collapsed the way compilers clean it, unless it holds nothing but spaces and tabs: of
such a text one space more is left, if it is not empty. -/
theorem collapse_eq_compiled (raw : Text) :
    collapse raw = compiled raw ++
      if raw ≠ [] ∧ ∀ c ∈ raw, c.isSpaceOrTab = true then [CodePoint.ofChar ' '] else [] := by
  by_cases blank : ∀ c ∈ raw, c.isSpaceOrTab = true
  · -- The only line is first, last and blank.
    have whole : ∀ c ∈ raw, isBreak c = false := by
      intro c mem
      have space := blank c mem
      simp only [CodePoint.isSpaceOrTab, Bool.or_eq_true, beq_iff_eq] at space
      rcases space with rfl | rfl <;> rfl
    have single := lines_of_no_break whole
    have unfilled : lastFilled? [raw] = none := by
      simpa [lastFilled?_eq_none] using not_isFilled_iff.2 blank
    rw [compiled_eq, collapse, single, unfilled]
    cases raw with
    | nil => rfl
    | cons c raw =>
      rw [if_pos ⟨List.cons_ne_nil c raw, blank⟩]
      simp [joinPart, trimLine]
  rw [if_neg fun both => blank both.2, List.append_nil, compiled_eq, collapse]
  cases last : lastFilled? (lines raw) with
  | some k => rfl
  | none =>
    have unfilled := lastFilled?_eq_none.1 last
    have several : 1 < (lines raw).length := by
      rcases lines_cases raw with whole | ⟨line, c, rest, rfl, inside, ends⟩
      · rw [lines_of_no_break whole] at unfilled
        exact absurd (not_isFilled_iff.1 (unfilled raw List.mem_cons_self)) blank
      · obtain ⟨next, others, more⟩ := exists_linesAfter (c == CodePoint.ofChar '\r') rest
        rw [lines, linesAfter_append_cons inside ends, more]
        simp
    have nothing (last : Option Nat) : ((lines raw).zipIdx.flatMap fun numbered =>
        joinPart (lines raw).length last numbered.1 numbered.2) = [] :=
      List.flatMap_eq_nil_iff.2 fun numbered listed =>
        joinPart_of_blank several unfilled listed last
    exact (nothing none).trans (nothing _).symm

/-- A single space becomes two, but compilers leave it as it is. -/
theorem collapse_widens_space :
    collapse " " = Text.ofString "  " ∧ compiled " " = Text.ofString " " := by
  decide

end Compilers

end Retouch.Layout
