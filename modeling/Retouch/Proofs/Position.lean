import Mathlib
import Retouch.Proofs.Utf8

/-!
# Positions

The position of an offset between two characters is reached by reading the characters before it: a
line feed begins a line, and every other character takes as many columns as it has sixteen-bit units
(`Bytes.position_encodeAll`). Every character moves the position on, so positions are in the order
of the offsets and tell them apart (`Bytes.position_before`, `Bytes.position_injective`).
-/

namespace Retouch

namespace Text

/-- A text takes as many units as its parts do. -/
lemma units16_append (t u : Text) : units16 (t ++ u) = units16 t + units16 u := by
  induction t with
  | nil => simp [units16]
  | cons c t ih =>
    simp only [units16, List.cons_append, List.foldr_cons] at ih ⊢
    omega

/-- Every character takes a unit. -/
lemma units16_pos (c : CodePoint) : 0 < units16 [c] := by
  simp only [units16, List.foldr_cons, List.foldr_nil]
  split <;> omega

end Text

namespace Position

/-- The position after a character: a line feed begins a line, and every other character takes as
many columns as it has sixteen-bit units. -/
def next (p : Position) (c : CodePoint) : Position :=
  if c = '\n' then ⟨p.line + 1, 0⟩ else ⟨p.line, p.column + Text.units16 [c]⟩

/-- Where a text ends that begins a file. -/
def behind (t : Text) : Position :=
  t.foldl next ⟨1, 0⟩

/-- A position on an earlier line, or in an earlier column of the same line. -/
def Before (p q : Position) : Prop :=
  p.line < q.line ∨ p.line = q.line ∧ p.column < q.column

variable {p q r : Position}

/-- What is before an earlier position is before a later one. -/
lemma Before.trans (first : p.Before q) (second : q.Before r) : p.Before r := by
  unfold Before at *
  omega

/-- A position is not before itself. -/
lemma Before.ne (before : p.Before q) : p ≠ q := by
  rintro rfl
  unfold Before at before
  omega

/-- A position is before the one after the next character. -/
lemma before_next (p : Position) (c : CodePoint) : p.Before (p.next c) := by
  unfold next
  split
  · exact .inl (Nat.lt_succ_self _)
  · exact .inr ⟨rfl, Nat.lt_add_of_pos_right (Text.units16_pos c)⟩

/-- Reading characters moves a position on. -/
lemma before_foldl {t : Text} (filled : t ≠ []) (p : Position) : p.Before (t.foldl next p) := by
  induction t generalizing p with
  | nil => exact absurd rfl filled
  | cons c t ih =>
    cases t with
    | nil => exact before_next p c
    | cons d t => exact (before_next p c).trans (ih (List.cons_ne_nil d t) (p.next c))

end Position

namespace Utf8

/-- A line feed is spelt with the byte that ends a line, and no other character has this byte. -/
lemma newline_mem_encodeCodePoint {c : CodePoint} :
    Bytes.newline ∈ encodeCodePoint c ↔ c = '\n' := by
  obtain ⟨n, bound⟩ := c
  have feed : (⟨n, bound⟩ : CodePoint) = CodePoint.ofChar '\n' ↔ n = 10 := by
    rw [Fin.ext_iff]
    rfl
  have same {m : Nat} (small : m < 256) : Bytes.newline = UInt8.ofNat m ↔ m = 10 := by
    rw [← UInt8.toNat_inj, toNat_ofNat small, eq_comm]
    rfl
  rw [feed, encodeCodePoint]
  simp only
  split_ifs with one two three
  · rw [List.mem_singleton, same (by omega)]
  · simp only [List.mem_cons, List.not_mem_nil, or_false]
    rw [same (by omega), same (by omega)]
    omega
  · simp only [List.mem_cons, List.not_mem_nil, or_false]
    rw [same (by omega), same (by omega), same (by omega)]
    omega
  · simp only [List.mem_cons, List.not_mem_nil, or_false]
    rw [same (by omega), same (by omega), same (by omega), same (by omega)]
    omega

/-- The forgiving reading has nothing to forgive in the bytes of a text. -/
lemma decodeForgiving_encodeAll {t : Text} (scalar : t.isScalar = true) :
    decodeForgiving (encodeAll t) = t := by
  induction t with
  | nil => rfl
  | cons c t ih =>
    simp only [Text.isScalar_cons, Bool.and_eq_true, Bool.not_eq_true'] at scalar
    rw [encodeAll_cons, decodeForgiving, pieces_encodeCodePoint scalar.1, List.map_cons]
    exact congrArg (c :: ·) (ih scalar.2)

end Utf8

namespace Bytes

variable {a b : Bytes}

/-- The bytes behind the last line end. -/
def lastLine (bytes : Bytes) : Bytes :=
  (bytes.reverse.takeWhile (· != newline)).reverse

/-- The position at which some bytes end. -/
def ending (bytes : Bytes) : Position :=
  ⟨bytes.count newline + 1, Text.units16 (Utf8.decodeForgiving (lastLine bytes))⟩

/-- The position of an offset is where the bytes before it end. -/
lemma position_eq_ending (source : Bytes) (offset : Nat) :
    position source offset = ending (source.take offset) :=
  rfl

/-- The last line of bytes with a line end is that of what holds the line end. -/
lemma lastLine_append_of_mem (a : Bytes) (ended : newline ∈ b) :
    lastLine (a ++ b) = lastLine b := by
  have stops : (b.reverse.takeWhile (· != newline)).length ≠ b.reverse.length := by
    intro whole
    have kept := List.takeWhile_eq_self_iff.1 ((List.takeWhile_prefix _).eq_of_length whole)
    simpa using kept newline (List.mem_reverse.2 ended)
  rw [lastLine, List.reverse_append, List.takeWhile_append, if_neg stops, lastLine]

/-- Bytes without a line end lengthen the last line. -/
lemma lastLine_append_of_not_mem (a : Bytes) (clear : newline ∉ b) :
    lastLine (a ++ b) = lastLine a ++ b := by
  have passes : ∀ c ∈ b.reverse, (c != newline) = true := by
    intro c mem
    rw [bne_iff_ne]
    rintro rfl
    exact clear (List.mem_reverse.1 mem)
  rw [lastLine, List.reverse_append, List.takeWhile_append_of_pos passes, List.reverse_append,
    List.reverse_reverse, lastLine]

/-- Where the bytes of a text end, with the last line as a text. -/
lemma exists_lastLine {t : Text} (scalar : t.isScalar = true) :
    ∃ line : Text, line.isScalar = true ∧ lastLine (Utf8.encodeAll t) = Utf8.encodeAll line ∧
      Position.behind t = ⟨(Utf8.encodeAll t).count newline + 1, line.units16⟩ := by
  -- The last line changes at its end, so the text grows there.
  induction t using List.reverseRecOn with
  | nil => exact ⟨[], rfl, rfl, rfl⟩
  | append_singleton t c ih =>
    simp only [Text.isScalar_append, Bool.and_eq_true] at scalar
    obtain ⟨line, plain, last, reached⟩ := ih scalar.1
    have step : Position.behind (t ++ [c]) = (Position.behind t).next c := List.foldl_concat ..
    have spelt : Utf8.encodeAll (t ++ [c]) = Utf8.encodeAll t ++ Utf8.encodeCodePoint c := by
      rw [Utf8.encodeAll_append, Utf8.encodeAll_cons, Utf8.encodeAll_nil, List.append_nil]
    rw [step, spelt, reached, Position.next, List.count_append]
    by_cases feed : c = '\n'
    · subst feed
      refine ⟨[], rfl, ?_, ?_⟩
      · rw [lastLine_append_of_mem _ (Utf8.newline_mem_encodeCodePoint.2 rfl)]
        decide
      · rw [if_pos rfl]
        rfl
    · have clear := mt Utf8.newline_mem_encodeCodePoint.1 feed
      refine ⟨line ++ [c], ?_, ?_, ?_⟩
      · rw [Text.isScalar_append, plain, scalar.2, Bool.and_self]
      · rw [lastLine_append_of_not_mem _ clear, last, Utf8.encodeAll_append, Utf8.encodeAll_cons,
          Utf8.encodeAll_nil, List.append_nil]
      · rw [if_neg feed, List.count_eq_zero_of_not_mem clear, Nat.add_zero, Text.units16_append]

/-- The position of an offset between two characters is reached by reading the characters before
it. -/
lemma position_encodeAll {t : Text} (scalar : t.isScalar = true) (u : Text) :
    position (Utf8.encodeAll (t ++ u)) (Utf8.size t) = Position.behind t := by
  obtain ⟨line, plain, last, reached⟩ := exists_lastLine scalar
  have front : (Utf8.encodeAll (t ++ u)).take (Utf8.size t) = Utf8.encodeAll t := by
    rw [Utf8.encodeAll_append, Utf8.size, List.take_left]
  rw [position_eq_ending, front, ending, last, Utf8.decodeForgiving_encodeAll plain, reached]

section Boundaries

variable {source : Bytes} {text : Text} {i j : Nat}

/-- Of two offsets between characters the first one has the earlier position. -/
lemma position_before (valid : Utf8.decode source = .ok text)
    (first : Utf8.isBoundary source i = true) (second : Utf8.isBoundary source j = true)
    (lt : i < j) : (position source i).Before (position source j) := by
  obtain ⟨scalar, rfl⟩ := Utf8.decode_eq_ok.1 valid
  obtain ⟨before, rest, rfl, rfl⟩ := Utf8.exists_split_of_boundary first
  obtain ⟨upTo, after, split, rfl⟩ := Utf8.exists_split_of_boundary second
  rcases List.append_eq_append_iff.1 split with ⟨between, rfl, rfl⟩ | ⟨between, rfl, rfl⟩
  · have filled : between ≠ [] := by
      rintro rfl
      simp at lt
    simp only [Text.isScalar_append, Bool.and_eq_true] at scalar
    have start := position_encodeAll scalar.1 (between ++ after)
    have stop := position_encodeAll (t := before ++ between) (by simp [scalar]) after
    rw [List.append_assoc] at stop
    rw [← Utf8.size, ← Utf8.size, start, stop, Position.behind, Position.behind, List.foldl_append]
    exact Position.before_foldl filled _
  · simp at lt

/-- Offsets between characters are told apart by their positions. -/
lemma position_injective (valid : Utf8.decode source = .ok text)
    (first : Utf8.isBoundary source i = true) (second : Utf8.isBoundary source j = true)
    (same : position source i = position source j) : i = j := by
  rcases lt_trichotomy i j with lt | eq | gt
  · exact absurd same (position_before valid first second lt).ne
  · exact eq
  · exact absurd same.symm (position_before valid second first gt).ne

end Boundaries

end Bytes

end Retouch
