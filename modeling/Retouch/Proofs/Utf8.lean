import Mathlib
import Retouch.Proofs.Step
import Retouch.Source.Basic

/-!
# Texts and their bytes

Reading bytes as a text and writing a text as bytes undo each other (`Utf8.decode_eq_ok`,
`Utf8.encode_eq_ok`): the texts that have bytes are those without surrogates, and the bytes are
those that their code points spell. Valid source code can be cut wherever no byte continues a
character (`Utf8.isBoundary`), and every stretch between two such offsets is a text again
(`Utf8.decode_slice`).
-/

namespace Retouch

namespace Text

/-- A text holds no surrogate if its first code point is none and the others are none. -/
@[simp]
lemma isScalar_cons (c : CodePoint) (t : Text) :
    isScalar (c :: t) = (!c.isSurrogate && t.isScalar) := rfl

/-- Two texts hold no surrogate together if neither does. -/
@[simp]
lemma isScalar_append (t u : Text) : isScalar (t ++ u) = (t.isScalar && u.isScalar) :=
  List.all_append

end Text

namespace Utf8

section Spelling

variable {s : Begun} {a b c d : UInt8}

/-- A number that is the value of a byte gives that byte. -/
lemma ofNat_eq {n : Nat} (same : n = a.toNat) : UInt8.ofNat n = a := by
  rw [same, UInt8.ofNat_toNat]

/-- A small number is the value of its byte. -/
lemma toNat_ofNat {n : Nat} (small : n < 256) : (UInt8.ofNat n).toNat = n := by
  rw [UInt8.toNat_ofNat']
  exact Nat.mod_eq_of_lt small

/-- What a byte below 128 means at the start of a character. -/
lemma lead_one (upper : a.toNat < 0x80) : lead a = .char (Fin.ofNat _ a.toNat) := by
  simp only [lead, if_pos upper]

/-- What the first of two bytes means. -/
lemma lead_two (lower : 0xC2 ≤ a.toNat) (upper : a.toNat < 0xE0) :
    lead a = .begun ⟨a.toNat - 0xC0, 1, 1, 0x80, 0xBF⟩ := by
  simp only [lead]
  rw [if_neg (by omega), if_neg (by omega), if_pos upper]

/-- What the first of three bytes means. -/
lemma lead_three (lower : 0xE0 ≤ a.toNat) (upper : a.toNat < 0xF0) :
    lead a = .begun ⟨a.toNat - 0xE0, 1, 2, if a.toNat = 0xE0 then 0xA0 else 0x80,
      if a.toNat = 0xED then 0x9F else 0xBF⟩ := by
  simp only [lead]
  rw [if_neg (by omega), if_neg (by omega), if_neg (by omega), if_pos upper]

/-- What the first of four bytes means. -/
lemma lead_four (lower : 0xF0 ≤ a.toNat) (upper : a.toNat < 0xF5) :
    lead a = .begun ⟨a.toNat - 0xF0, 1, 3, if a.toNat = 0xF0 then 0x90 else 0x80,
      if a.toNat = 0xF4 then 0x8F else 0xBF⟩ := by
  simp only [lead]
  rw [if_neg (by omega), if_neg (by omega), if_neg (by omega), if_neg (by omega), if_pos upper]

/-- What every other byte means. -/
lemma lead_invalid (outside : 0x80 ≤ a.toNat ∧ a.toNat < 0xC2 ∨ 0xF5 ≤ a.toNat) :
    lead a = .invalid := by
  simp only [lead]
  rcases outside with ⟨lower, upper⟩ | lower
  · rw [if_neg (by omega), if_pos upper]
  · rw [if_neg (by omega), if_neg (by omega), if_neg (by omega), if_neg (by omega),
      if_neg (by omega)]

/-- The character that one byte spells. -/
lemma encodeCodePoint_one (upper : a.toNat < 0x80) :
    CodePoint.isSurrogate (Fin.ofNat _ a.toNat) = false ∧
    encodeCodePoint (Fin.ofNat _ a.toNat) = [a] := by
  have value : a.toNat % 0x110000 = a.toNat := Nat.mod_eq_of_lt (by omega)
  constructor
  · simp only [CodePoint.isSurrogate, Fin.ofNat, value, decide_eq_false_iff_not]
    omega
  · simp only [encodeCodePoint, Fin.ofNat, value, if_pos upper, UInt8.ofNat_toNat]

/-- The character that two bytes spell. -/
lemma encodeCodePoint_two (lower : 0xC2 ≤ a.toNat) (upper : a.toNat < 0xE0)
    (lower' : 0x80 ≤ b.toNat) (upper' : b.toNat ≤ 0xBF) :
    CodePoint.isSurrogate (Fin.ofNat _ ((a.toNat - 0xC0) * 64 + b.toNat % 64)) = false ∧
      encodeCodePoint (Fin.ofNat _ ((a.toNat - 0xC0) * 64 + b.toNat % 64)) = [a, b] := by
  have value : ((a.toNat - 0xC0) * 64 + b.toNat % 64) % 0x110000 =
      (a.toNat - 0xC0) * 64 + b.toNat % 64 :=
    Nat.mod_eq_of_lt (by omega)
  constructor
  · simp only [CodePoint.isSurrogate, Fin.ofNat, value, decide_eq_false_iff_not]
    omega
  · simp only [encodeCodePoint, Fin.ofNat, value]
    rw [if_neg (by omega), if_pos (by omega), ofNat_eq (a := a) (by omega),
      ofNat_eq (a := b) (by omega)]

/-- The character that three bytes spell. -/
lemma encodeCodePoint_three (lower : 0xE0 ≤ a.toNat) (upper : a.toNat < 0xF0)
    (lower' : (if a.toNat = 0xE0 then 0xA0 else 0x80) ≤ b.toNat)
    (upper' : b.toNat ≤ if a.toNat = 0xED then 0x9F else 0xBF) (lower'' : 0x80 ≤ c.toNat)
    (upper'' : c.toNat ≤ 0xBF) :
    CodePoint.isSurrogate
        (Fin.ofNat _ (((a.toNat - 0xE0) * 64 + b.toNat % 64) * 64 + c.toNat % 64)) = false ∧
      encodeCodePoint (Fin.ofNat _ (((a.toNat - 0xE0) * 64 + b.toNat % 64) * 64 + c.toNat % 64)) =
        [a, b, c] := by
  have value : (((a.toNat - 0xE0) * 64 + b.toNat % 64) * 64 + c.toNat % 64) % 0x110000 =
      ((a.toNat - 0xE0) * 64 + b.toNat % 64) * 64 + c.toNat % 64 := Nat.mod_eq_of_lt (by omega)
  -- the range of the second byte keeps shorter spellings and surrogates out
  have range : 0x80 ≤ b.toNat ∧ b.toNat ≤ 0xBF ∧ (a.toNat = 0xE0 → 0xA0 ≤ b.toNat) ∧
      (a.toNat = 0xED → b.toNat ≤ 0x9F) := by
    split at lower' <;> split at upper' <;> omega
  constructor
  · simp only [CodePoint.isSurrogate, Fin.ofNat, value, decide_eq_false_iff_not]
    omega
  · simp only [encodeCodePoint, Fin.ofNat, value]
    rw [if_neg (by omega), if_neg (by omega), if_pos (by omega), ofNat_eq (a := a) (by omega),
      ofNat_eq (a := b) (by omega), ofNat_eq (a := c) (by omega)]

/-- The character that four bytes spell. -/
lemma encodeCodePoint_four (lower : 0xF0 ≤ a.toNat) (upper : a.toNat < 0xF5)
    (lower' : (if a.toNat = 0xF0 then 0x90 else 0x80) ≤ b.toNat)
    (upper' : b.toNat ≤ if a.toNat = 0xF4 then 0x8F else 0xBF)
    (third : 0x80 ≤ c.toNat ∧ c.toNat ≤ 0xBF) (fourth : 0x80 ≤ d.toNat ∧ d.toNat ≤ 0xBF) :
    CodePoint.isSurrogate (Fin.ofNat _
        ((((a.toNat - 0xF0) * 64 + b.toNat % 64) * 64 + c.toNat % 64) * 64 + d.toNat % 64)) =
          false ∧
      encodeCodePoint (Fin.ofNat _
        ((((a.toNat - 0xF0) * 64 + b.toNat % 64) * 64 + c.toNat % 64) * 64 + d.toNat % 64)) =
        [a, b, c, d] := by
  -- the range of the second byte keeps shorter spellings and numbers above the last code point out
  have range : 0x80 ≤ b.toNat ∧ b.toNat ≤ 0xBF ∧ (a.toNat = 0xF0 → 0x90 ≤ b.toNat) ∧
      (a.toNat = 0xF4 → b.toNat ≤ 0x8F) := by
    split at lower' <;> split at upper' <;> omega
  have value : ((((a.toNat - 0xF0) * 64 + b.toNat % 64) * 64 + c.toNat % 64) * 64 + d.toNat % 64) %
      0x110000 = (((a.toNat - 0xF0) * 64 + b.toNat % 64) * 64 + c.toNat % 64) * 64 + d.toNat % 64 :=
    Nat.mod_eq_of_lt (by omega)
  constructor
  · simp only [CodePoint.isSurrogate, Fin.ofNat, value, decide_eq_false_iff_not]
    omega
  · simp only [encodeCodePoint, Fin.ofNat, value]
    rw [if_neg (by omega), if_neg (by omega), if_neg (by omega), ofNat_eq (a := a) (by omega),
      ofNat_eq (a := b) (by omega), ofNat_eq (a := c) (by omega), ofNat_eq (a := d) (by omega)]

end Spelling

section Shape

/-- A byte that stands inside a character, after its first byte. -/
def isTail (b : UInt8) : Bool :=
  decide (0x80 ≤ b.toNat ∧ b.toNat < 0xC0)

/-- The bytes after the first one of a character are spelt so that they stand inside it. -/
lemma isTail_continuing (n : Nat) : isTail (UInt8.ofNat (0x80 + n % 64)) = true := by
  rw [isTail, toNat_ofNat (by omega), decide_eq_true_eq]
  omega

/-- A byte outside their range begins a character. -/
lemma isTail_leading {n : Nat} (small : n < 256) (outside : n < 0x80 ∨ 0xC0 ≤ n) :
    isTail (UInt8.ofNat n) = false := by
  rw [isTail, toNat_ofNat small, decide_eq_false_iff_not]
  omega

/-- A character has one first byte, and its other bytes stand inside it. -/
lemma encodeCodePoint_split (c : CodePoint) :
    ∃ first tails, encodeCodePoint c = first :: tails ∧ isTail first = false ∧
      ∀ b ∈ tails, isTail b = true := by
  obtain ⟨n, bound⟩ := c
  simp only [encodeCodePoint]
  split_ifs with one two three
  · refine ⟨_, _, rfl, isTail_leading (by omega) (.inl one), ?_⟩
    simp only [List.not_mem_nil, false_imp_iff, implies_true]
  · refine ⟨_, _, rfl, isTail_leading (by omega) (.inr (by omega)), ?_⟩
    simp only [List.mem_singleton, forall_eq, isTail_continuing]
  · refine ⟨_, _, rfl, isTail_leading (by omega) (.inr (by omega)), ?_⟩
    simp only [List.mem_cons, List.not_mem_nil, or_false, forall_eq_or_imp, forall_eq,
      isTail_continuing, and_self]
  · refine ⟨_, _, rfl, isTail_leading (by omega) (.inr (by omega)), ?_⟩
    simp only [List.mem_cons, List.not_mem_nil, or_false, forall_eq_or_imp, forall_eq,
      isTail_continuing, and_self]

/-- A character that begins with a byte of ASCII is nothing but this byte. -/
lemma encodeCodePoint_narrow {c : CodePoint} {first : UInt8} {tails : Bytes}
    (spelt : encodeCodePoint c = first :: tails) (narrow : first.toNat < 0x80) : tails = [] := by
  obtain ⟨n, bound⟩ := c
  simp only [encodeCodePoint] at spelt
  split_ifs at spelt with one two three
  · cases spelt
    rfl
  all_goals
    -- The first of several bytes is large.
    rw [← (List.cons.inj spelt).1, toNat_ofNat (by omega)] at narrow
    omega

end Shape

section Reading

variable {s : Begun} {a b : UInt8} {rest : Bytes}

/-- A byte that is a character. -/
lemma pieces_char {c : CodePoint} (leads : lead a = .char c) (rest : Bytes) :
    pieces (a :: rest) = .char c 1 :: pieces rest := by
  simp [pieces, piecesFrom, step, start, leads]

/-- A byte that begins a character. -/
lemma pieces_begun (leads : lead a = .begun s) (rest : Bytes) :
    pieces (a :: rest) = piecesFrom (some s) rest := by
  simp [pieces, piecesFrom, step, start, leads]

/-- A byte that completes a character. -/
lemma piecesFrom_last (lower : s.low ≤ b.toNat) (upper : b.toNat ≤ s.high) (missing : s.missing ≤ 1)
    (rest : Bytes) :
    piecesFrom (some s) (b :: rest) =
      .char (Fin.ofNat _ (s.bits * 64 + b.toNat % 64)) (s.size + 1) :: pieces rest := by
  simp [piecesFrom, step, lower, upper, missing, pieces]

/-- A byte that continues a character without completing it. -/
lemma piecesFrom_more (lower : s.low ≤ b.toNat) (upper : b.toNat ≤ s.high) (missing : 1 < s.missing)
    (rest : Bytes) :
    piecesFrom (some s) (b :: rest) =
      piecesFrom (some ⟨s.bits * 64 + b.toNat % 64, s.size + 1, s.missing - 1, 0x80, 0xBF⟩)
        rest := by
  simp [piecesFrom, step, lower, upper, Nat.not_le.2 missing]

/-- The bytes of a character are read as that character. -/
lemma pieces_encodeCodePoint {c : CodePoint} (scalar : c.isSurrogate = false) (rest : Bytes) :
    pieces (encodeCodePoint c ++ rest) = .char c (encodeCodePoint c).length :: pieces rest := by
  obtain ⟨n, bound⟩ := c
  simp only [CodePoint.isSurrogate, decide_eq_false_iff_not] at scalar
  have same {m : Nat} (equal : m = n) : (Fin.ofNat 0x110000 m) = ⟨n, bound⟩ := by
    apply Fin.ext
    simp only [Fin.ofNat, equal]
    exact Nat.mod_eq_of_lt bound
  simp only [encodeCodePoint]
  split_ifs with one two three
  · have first : (UInt8.ofNat n).toNat = n := toNat_ofNat (by omega)
    rw [List.singleton_append, pieces_char (lead_one (by omega)), same first]
    rfl
  · have first : (UInt8.ofNat (0xC0 + n / 64)).toNat = 0xC0 + n / 64 := toNat_ofNat (by omega)
    have second : (UInt8.ofNat (0x80 + n % 64)).toNat = 0x80 + n % 64 := toNat_ofNat (by omega)
    rw [List.cons_append, List.cons_append, List.nil_append,
      pieces_begun (lead_two (by omega) (by omega)),
      piecesFrom_last (by simp; omega) (by simp; omega) (by simp)]
    simp only [first, second]
    rw [same (by omega)]
    rfl
  · have first : (UInt8.ofNat (0xE0 + n / 4096)).toNat = 0xE0 + n / 4096 := toNat_ofNat (by omega)
    have second : (UInt8.ofNat (0x80 + n / 64 % 64)).toNat = 0x80 + n / 64 % 64 :=
      toNat_ofNat (by omega)
    have third : (UInt8.ofNat (0x80 + n % 64)).toNat = 0x80 + n % 64 := toNat_ofNat (by omega)
    rw [List.cons_append, List.cons_append, List.cons_append, List.nil_append,
      pieces_begun (lead_three (by omega) (by omega)),
      piecesFrom_more (by simp only [first, second]; split <;> omega)
        (by simp only [first, second]; split <;> omega) (by simp),
      piecesFrom_last (by simp only [third]; omega) (by simp only [third]; omega) (by simp)]
    simp only [first, second, third]
    rw [same (by omega)]
    rfl
  · have first : (UInt8.ofNat (0xF0 + n / 262144)).toNat = 0xF0 + n / 262144 :=
      toNat_ofNat (by omega)
    have second : (UInt8.ofNat (0x80 + n / 4096 % 64)).toNat = 0x80 + n / 4096 % 64 :=
      toNat_ofNat (by omega)
    have third : (UInt8.ofNat (0x80 + n / 64 % 64)).toNat = 0x80 + n / 64 % 64 :=
      toNat_ofNat (by omega)
    have fourth : (UInt8.ofNat (0x80 + n % 64)).toNat = 0x80 + n % 64 := toNat_ofNat (by omega)
    rw [List.cons_append, List.cons_append, List.cons_append, List.cons_append, List.nil_append,
      pieces_begun (lead_four (by omega) (by omega)),
      piecesFrom_more (by simp only [first, second]; split <;> omega)
        (by simp only [first, second]; split <;> omega) (by simp),
      piecesFrom_more (by simp only [third]; omega) (by simp only [third]; omega) (by simp),
      piecesFrom_last (by simp only [fourth]; omega) (by simp only [fourth]; omega) (by simp)]
    simp only [first, second, third, fourth]
    rw [same (by omega)]
    rfl

/-- What has begun as a character is none, or the next byte is in its range. -/
lemma piecesFrom_cases (s : Begun) (bytes : Bytes) :
    (∃ size reason others, piecesFrom (some s) bytes = .bad size reason :: others) ∨
      ∃ b rest, bytes = b :: rest ∧ s.low ≤ b.toNat ∧ b.toNat ≤ s.high := by
  cases bytes with
  | nil => exact .inl ⟨_, _, _, rfl⟩
  | cons b rest =>
    by_cases inside : s.low ≤ b.toNat ∧ b.toNat ≤ s.high
    · exact .inr ⟨b, rest, rfl, inside.1, inside.2⟩
    · refine .inl ⟨s.size, .invalidContinuation, (start b).1 ++ piecesFrom (start b).2 rest, ?_⟩
      simp only [piecesFrom, step, if_neg inside]
      rfl

/-- Bytes start with a stretch that is no character, or with the bytes of a character. -/
lemma pieces_cases (a : UInt8) (rest : Bytes) :
    (∃ size reason others, pieces (a :: rest) = .bad size reason :: others) ∨
      ∃ c others, c.isSurrogate = false ∧ a :: rest = encodeCodePoint c ++ others := by
  -- The first byte tells how many follow; each of them is in range or ends the stretch.
  by_cases one : a.toNat < 0x80
  · obtain ⟨scalar, spelt⟩ := encodeCodePoint_one one
    exact .inr ⟨_, rest, scalar, by rw [spelt]; rfl⟩
  by_cases outside : a.toNat < 0xC2 ∨ 0xF5 ≤ a.toNat
  · refine .inl ⟨1, .invalidStart, pieces rest, ?_⟩
    have leads := lead_invalid (a := a) (by omega)
    simp [pieces, piecesFrom, step, start, leads]
  by_cases two : a.toNat < 0xE0
  · rw [pieces_begun (lead_two (by omega) two)]
    rcases piecesFrom_cases _ rest with bad | ⟨b, rest, rfl, lower, upper⟩
    · exact .inl bad
    · obtain ⟨scalar, spelt⟩ := encodeCodePoint_two (by omega) two lower upper
      exact .inr ⟨_, rest, scalar, by rw [spelt]; rfl⟩
  by_cases three : a.toNat < 0xF0
  · rw [pieces_begun (lead_three (by omega) three)]
    rcases piecesFrom_cases _ rest with bad | ⟨b, rest, rfl, lower, upper⟩
    · exact .inl bad
    · rw [piecesFrom_more lower upper (by simp)]
      rcases piecesFrom_cases _ rest with bad | ⟨c, rest, rfl, lower', upper'⟩
      · exact .inl bad
      · obtain ⟨scalar, spelt⟩ := encodeCodePoint_three (by omega) three lower upper lower' upper'
        exact .inr ⟨_, rest, scalar, by rw [spelt]; rfl⟩
  · rw [pieces_begun (lead_four (by omega) (by omega))]
    rcases piecesFrom_cases _ rest with bad | ⟨b, rest, rfl, lower, upper⟩
    · exact .inl bad
    · rw [piecesFrom_more lower upper (by simp)]
      rcases piecesFrom_cases _ rest with bad | ⟨c, rest, rfl, third⟩
      · exact .inl bad
      · rw [piecesFrom_more third.1 third.2 (by simp)]
        rcases piecesFrom_cases _ rest with bad | ⟨d, rest, rfl, fourth⟩
        · exact .inl bad
        · obtain ⟨scalar, spelt⟩ :=
            encodeCodePoint_four (by omega) (by omega) lower upper third fourth
          exact .inr ⟨_, rest, scalar, by rw [spelt]; rfl⟩

end Reading

/-- The bytes that the code points of a text spell. -/
def encodeAll (t : Text) : Bytes :=
  t.flatMap encodeCodePoint

/-- The empty text has no bytes. -/
@[simp]
lemma encodeAll_nil : encodeAll [] = [] := rfl

/-- The bytes of a text begin with those of its first code point. -/
@[simp]
lemma encodeAll_cons (c : CodePoint) (t : Text) :
    encodeAll (c :: t) = encodeCodePoint c ++ encodeAll t := rfl

/-- The bytes of a text are those of its parts. -/
@[simp]
lemma encodeAll_append (t u : Text) : encodeAll (t ++ u) = encodeAll t ++ encodeAll u :=
  List.flatMap_append

/-- The number of bytes that a text takes. -/
def size (t : Text) : Nat :=
  (encodeAll t).length

/-- The empty text takes no bytes. -/
@[simp]
lemma size_nil : size [] = 0 := rfl

/-- A text takes as many bytes as its parts do. -/
@[simp]
lemma size_append (t u : Text) : size (t ++ u) = size t + size u := by
  rw [size, encodeAll_append, List.length_append]
  rfl

/-- A text takes the bytes of its first code point and those of the others. -/
lemma size_cons (c : CodePoint) (t : Text) : size (c :: t) = size [c] + size t :=
  size_append [c] t

/-- The bytes of a text without surrogates are read as that text. -/
lemma readPieces_encodeAll {t : Text} (scalar : t.isScalar = true) (offset : Nat) (bytes : Bytes) :
    readPieces offset bytes (pieces (encodeAll t)) = .ok t := by
  induction t generalizing offset bytes with
  | nil => rfl
  | cons c t ih =>
    simp only [Text.isScalar_cons, Bool.and_eq_true, Bool.not_eq_true'] at scalar
    rw [encodeAll_cons, pieces_encodeCodePoint scalar.1, readPieces, ih scalar.2]
    rfl

/-- Bytes that are read as a text are the bytes of that text, which has no surrogates. -/
lemma eq_encodeAll_of_readPieces {t : Text} {offset : Nat} {bytes source : Bytes}
    (h : readPieces offset bytes (pieces source) = .ok t) : t.isScalar = true ∧
    source = encodeAll t := by
  -- A character takes several bytes at once, so the induction is on how many are left.
  induction size :
    source.length using Nat.strong_induction_on generalizing source t offset bytes with
  | _ n ih =>
    cases source with
    | nil =>
      cases h
      exact ⟨rfl, rfl⟩
    | cons a rest =>
      rcases pieces_cases a rest with ⟨_, _, _, bad⟩ | ⟨c, others, scalar, split⟩
      · rw [bad] at h
        cases h
      · rw [split, pieces_encodeCodePoint scalar, readPieces] at h
        obtain ⟨u, read, rfl⟩ := map_eq_ok.1 h
        have shorter : others.length < n := by
          obtain ⟨first, tails, spelt, -⟩ := encodeCodePoint_split c
          simp only [← size, split, spelt, List.length_append, List.length_cons]
          omega
        obtain ⟨scalars, rfl⟩ := ih _ shorter read rfl
        exact ⟨by simp [scalar, scalars], split⟩

/-- Bytes are read as a text exactly when they are the bytes of it and it has no surrogates. -/
theorem decode_eq_ok {t : Text} {bytes : Bytes} :
    decode bytes = .ok t ↔ t.isScalar = true ∧ bytes = encodeAll t := by
  constructor
  · exact eq_encodeAll_of_readPieces
  · rintro ⟨scalar, rfl⟩
    exact readPieces_encodeAll scalar 0 _

/-- A text has bytes exactly when it has no surrogates. -/
theorem encode_eq_ok {t : Text} {bytes : Bytes} :
    encode t = .ok bytes ↔ t.isScalar = true ∧ bytes = encodeAll t := by
  have none_iff : encodeError? t = none ↔ t.isScalar = true := by
    rw [encodeError?, encodeErrorBy?, Text.isScalar, List.all_eq_true, ← List.dropWhile_eq_nil_iff]
    cases t.dropWhile _ with
    | nil => simp
    | cons c rest => simp
  rw [encode, ← none_iff]
  cases encodeError? t with
  | none => simp [encodeAll, eq_comm]
  | some error => simp

section Boundary

/-- Decides whether an offset lies between two characters: before the first byte of one, or at the
end. -/
def isBoundary (source : Bytes) (offset : Nat) : Bool :=
  match source[offset]? with
  | some b => !isTail b
  | none => offset == source.length

/-- A boundary among the bytes of a text falls between two of its code points. -/
lemma exists_split_of_boundary {t : Text} {offset : Nat}
    (boundary : isBoundary (encodeAll t) offset = true) :
    ∃ before after, t = before ++ after ∧ (encodeAll before).length = offset := by
  induction t generalizing offset with
  | nil =>
    refine ⟨[], [], rfl, ?_⟩
    simp only [isBoundary, encodeAll_nil, List.getElem?_nil, List.length_nil,
      beq_iff_eq] at boundary
    exact boundary.symm
  | cons c t ih =>
    obtain ⟨first, tails, spelt, -, inside⟩ := encodeCodePoint_split c
    by_cases zero : offset = 0
    · exact ⟨[], c :: t, rfl, zero.symm⟩
    have past : (encodeCodePoint c).length ≤ offset := by
      -- An offset among the later bytes of the first character is no boundary.
      by_contra short
      have here : (encodeAll (c :: t))[offset]? = tails[offset - 1]? := by
        rw [encodeAll_cons, List.getElem?_append_left (by omega), spelt,
          List.getElem?_cons, if_neg zero]
      have bound : offset - 1 < tails.length := by
        rw [spelt, List.length_cons] at short
        omega
      rw [isBoundary, here, List.getElem?_eq_getElem bound] at boundary
      simp [inside _ (List.getElem_mem bound)] at boundary
    have rest : isBoundary (encodeAll t) (offset - (encodeCodePoint c).length) = true := by
      rw [isBoundary, encodeAll_cons, List.getElem?_append_right past] at boundary
      rw [isBoundary]
      split at boundary <;> simp_all
    obtain ⟨before, after, rfl, size⟩ := ih rest
    exact ⟨c :: before, after, rfl, by simp only [encodeAll_cons, List.length_append, size]; omega⟩

/-- Two texts meet at a boundary. -/
lemma isBoundary_append (t u : Text) : isBoundary (encodeAll (t ++ u)) (size t) = true := by
  rw [isBoundary, encodeAll_append, size, List.getElem?_append_right le_rfl, Nat.sub_self]
  cases u with
  | nil => simp
  | cons c u =>
    obtain ⟨first, tails, spelt, leads, _⟩ := encodeCodePoint_split c
    simp [spelt, leads]

/-- A byte of ASCII stands at a boundary. -/
lemma isBoundary_of_narrow {source : Bytes} {offset : Nat} {b : UInt8}
    (here : source[offset]? = some b) (narrow : b.toNat < 0x80) :
    isBoundary source offset = true := by
  simp only [isBoundary, here, isTail, Bool.not_eq_true', decide_eq_false_iff_not]
  omega

/-- After a byte of ASCII comes a boundary: it is a character by itself. -/
lemma isBoundary_succ {source : Bytes} {t : Text} {offset : Nat} {b : UInt8}
    (read : decode source = .ok t) (here : source[offset]? = some b) (narrow : b.toNat < 0x80) :
    isBoundary source (offset + 1) = true := by
  obtain ⟨_, rfl⟩ := decode_eq_ok.1 read
  obtain ⟨before, after, rfl, rfl⟩ := exists_split_of_boundary (isBoundary_of_narrow here narrow)
  rw [encodeAll_append, List.getElem?_append_right le_rfl, Nat.sub_self] at here
  cases after with
  | nil => cases here
  | cons c after =>
    obtain ⟨first, tails, spelt, _⟩ := encodeCodePoint_split c
    have same : first = b := by simpa [spelt] using here
    have single : size [c] = 1 := by
      simp [size, spelt, encodeCodePoint_narrow spelt (same ▸ narrow)]
    have next := isBoundary_append (before ++ [c]) after
    rw [size_append, single, List.append_assoc] at next
    exact next

/-- What lies between two boundaries of a text is a text, and not an empty one if they differ. -/
theorem decode_slice {source : Bytes} {t : Text} {start stop : Nat} (read : decode source = .ok t)
    (starts : isBoundary source start = true) (stops : isBoundary source stop = true) :
    ∃ part, decode (source.slice start stop) = .ok part ∧ (start < stop → part ≠ []) := by
  obtain ⟨scalar, rfl⟩ := decode_eq_ok.1 read
  obtain ⟨before, rest, rfl, rfl⟩ := exists_split_of_boundary starts
  obtain ⟨upto, after, split, rfl⟩ := exists_split_of_boundary stops
  rcases List.append_eq_append_iff.1 split with ⟨between, rfl, rfl⟩ | ⟨between, rfl, rfl⟩
  · refine ⟨between, ?_, ?_⟩
    · simp only [Text.isScalar_append, Bool.and_eq_true] at scalar
      have cut : (encodeAll (before ++ (between ++ after))).slice (encodeAll before).length
          (encodeAll (before ++ between)).length = encodeAll between := by
        simp [Bytes.slice]
      rw [cut]
      exact decode_eq_ok.2 ⟨scalar.2.1, rfl⟩
    · rintro apart rfl
      simp at apart
  · refine ⟨[], ?_, ?_⟩
    · have cut : (encodeAll ((upto ++ between) ++ rest)).slice (encodeAll (upto ++ between)).length
          (encodeAll upto).length = [] := by
        simp [Bytes.slice]
      rw [cut]
      rfl
    · intro apart
      simp at apart

end Boundary

end Utf8

end Retouch
