import Mathlib
import Retouch.ComponentId
import Retouch.Proofs.Numeral
import Retouch.Proofs.Step

/-!
# The grammar of identifiers

`Location.Spelling` is an identifier as its grammar has it: a path, two numerals with colons before
them, and perhaps a line feed. The decoder accepts exactly the texts of spellings, each of which is
the text of one spelling only (`Location.decode_iff_spelling`); a path may look like an identifier
itself, since the numerals are cut off from the end (`Location.parts?_eq_some`). What is not decoded
is refused as an identifier, unless it holds a numeral with too many digits
(`Location.decode_eq_error`). What is written for a location is decoded to it again
(`Location.decode_encode`).
-/

namespace Retouch

namespace Location

/-- A path and two numerals with colons before them, and perhaps a line feed at the end. -/
def written (path line column : Text) (ended : Bool) : Text :=
  path ++ ":" ++ line ++ ":" ++ column ++ if ended then Text.ofString "\n" else []

/-- An identifier as its grammar has it. -/
structure Spelling where
  path : Text
  line : Text
  column : Text
  /-- Whether a line feed follows the column. -/
  ended : Bool
  path_ne_nil : path ≠ []
  path_isScalar : path.isScalar = true
  line_isDigits : line.IsDigits
  line_short : line.length ≤ Numeral.digitLimit
  column_isDigits : column.IsDigits
  column_short : column.length ≤ Numeral.digitLimit
  one_le_line : 1 ≤ line.number

namespace Spelling

/-- The text of an identifier. -/
def text (spelling : Spelling) : Text :=
  written spelling.path spelling.line spelling.column spelling.ended

/-- The location that an identifier names. -/
def location (spelling : Spelling) : Location :=
  ⟨spelling.path, spelling.line.number, spelling.column.number, spelling.path_ne_nil,
    spelling.path_isScalar, spelling.one_le_line⟩

end Spelling

/-- A text no run of whose decimal digits is longer than the numerals that are read. -/
def HasShortRuns (id : Text) : Prop :=
  ∀ run, run <:+: id → (∀ c ∈ run, c.isDecimal = true) → run.length ≤ Numeral.digitLimit

variable {id path line column digits rest : Text} {ended : Bool}

/-- A numeral is cut off at the end exactly if there are digits with a colon before them. -/
lemma cutNumeral?_eq_some {reversed : Text} : cutNumeral? reversed = some (digits, rest) ↔
    digits.IsDigits ∧ reversed = digits.reverse ++ CodePoint.ofChar ':' :: rest := by
  constructor
  · intro cut
    unfold cutNumeral? at cut
    split at cut
    · cases cut
    · cases cut
    · rename_i c others dropped filled
      split at cut
      · rename_i colon
        cases cut
        refine ⟨⟨mt List.reverse_eq_nil_iff.1 filled, fun d mem => ?_⟩, ?_⟩
        · exact List.mem_takeWhile_imp (List.mem_reverse.1 mem)
        · rw [List.reverse_reverse, ← colon, ← dropped, List.takeWhile_append_dropWhile]
      · cases cut
  · rintro ⟨⟨filled, decimal⟩, rfl⟩
    have inside : ∀ c ∈ digits.reverse, c.isDecimal = true :=
      fun c mem => decimal c (List.mem_reverse.1 mem)
    have outside : ¬(CodePoint.ofChar ':').isDecimal = true := by decide
    have taken : (digits.reverse ++ CodePoint.ofChar ':' :: rest).takeWhile CodePoint.isDecimal =
        digits.reverse := by
      rw [List.takeWhile_append_of_pos inside, List.takeWhile_cons_of_neg outside, List.append_nil]
    have dropped : (digits.reverse ++ CodePoint.ofChar ':' :: rest).dropWhile CodePoint.isDecimal =
        CodePoint.ofChar ':' :: rest := by
      rw [List.dropWhile_append_of_pos inside, List.dropWhile_cons_of_neg outside]
    unfold cutNumeral?
    split
    · rename_i none
      exact absurd (List.reverse_eq_nil_iff.1 (taken.symm.trans none)) filled
    · rename_i none _
      cases dropped.symm.trans none
    · rename_i c others split _
      cases dropped.symm.trans split
      rw [if_pos rfl, taken, List.reverse_reverse]

/-- The text of an identifier from its end. -/
lemma reverse_written (path line column : Text) (ended : Bool) :
    (written path line column ended).reverse = (if ended then Text.ofString "\n" else []) ++
      (column.reverse ++ CodePoint.ofChar ':' ::
        (line.reverse ++ CodePoint.ofChar ':' :: path.reverse)) := by
  have colon : Text.ofString ":" = [CodePoint.ofChar ':'] := rfl
  cases ended
  · simp [written, colon]
  · simp [written, colon]
    rfl

/-- What is cut into its parts is a path and two numerals, whatever the path is. -/
lemma parts?_eq_some : parts? id = some (path, line, column) ↔
    path ≠ [] ∧ line.IsDigits ∧ column.IsDigits ∧ ∃ ended, id = written path line column ended := by
  unfold parts?
  simp only [Option.bind_eq_bind, Option.bind_eq_some_iff]
  constructor
  · rintro ⟨⟨columnDigits, rest⟩, first, ⟨lineDigits, reversed⟩, second, cut⟩
    obtain ⟨column_digits, trimmed⟩ := cutNumeral?_eq_some.1 first
    obtain ⟨line_digits, rfl⟩ := cutNumeral?_eq_some.1 second
    split at cut
    · cases cut
    · rename_i filled
      cases cut
      refine ⟨fun empty => filled (by simpa using empty), line_digits, column_digits, ?_⟩
      split at trimmed
      · rename_i feed
        obtain ⟨tail, split⟩ := List.head?_eq_some_iff.1 feed
        refine ⟨true, List.reverse_injective ?_⟩
        rw [reverse_written, split, List.reverse_reverse, ← trimmed, split]
        rfl
      · refine ⟨false, List.reverse_injective ?_⟩
        rw [reverse_written, List.reverse_reverse, trimmed]
        rfl
  · rintro ⟨filled, line_digits, column_digits, ended, rfl⟩
    -- A line feed is no digit, so nothing is taken off where the column ends the text.
    have untouched : ∀ c ∈ column.reverse.head?, c ≠ CodePoint.ofChar '\n' := by
      rintro c ends rfl
      exact absurd (column_digits.decimal _ (List.mem_reverse.1 (List.mem_of_head? ends)))
        (by decide)
    refine ⟨(column, line.reverse ++ CodePoint.ofChar ':' :: path.reverse), ?_,
      (line, path.reverse), cutNumeral?_eq_some.2 ⟨line_digits, rfl⟩, ?_⟩
    · rw [reverse_written]
      refine cutNumeral?_eq_some.2 ⟨column_digits, ?_⟩
      cases ended with
      | true => rfl
      | false =>
        rw [if_neg, if_neg Bool.false_ne_true, List.nil_append]
        rw [if_neg Bool.false_ne_true, List.nil_append, List.head?_append_of_ne_nil _
          (mt List.reverse_eq_nil_iff.1 column_digits.filled)]
        intro feed
        exact untouched _ feed rfl
    · rw [if_neg (by simpa using filled), List.reverse_reverse]
      rfl

/-- The text of an identifier determines its parts. -/
lemma written_inj {path' line' column' : Text} {ended' : Bool} (filled : path ≠ [])
    (line_digits : line.IsDigits) (column_digits : column.IsDigits) (filled' : path' ≠ [])
    (line_digits' : line'.IsDigits) (column_digits' : column'.IsDigits)
    (same : written path line column ended = written path' line' column' ended') :
    path = path' ∧ line = line' ∧ column = column' ∧ ended = ended' := by
  have parts : parts? (written path line column ended) = some (path, line, column) :=
    parts?_eq_some.2 ⟨filled, line_digits, column_digits, ended, rfl⟩
  have parts' : parts? (written path line column ended) = some (path', line', column') :=
    parts?_eq_some.2 ⟨filled', line_digits', column_digits', ended', same⟩
  cases parts.symm.trans parts'
  refine ⟨rfl, rfl, rfl, ?_⟩
  cases ended <;> cases ended' <;> simp [written, Text.ofString] at same ⊢

/-- Digits are read as their number, unless there are too many of them. -/
lemma readNumeral_of_isDigits (isDigits : digits.IsDigits) : readNumeral digits =
    if Numeral.digitLimit < digits.length then .error (.unexpected (.tooManyDigits digits.length))
    else .ok digits.number := by
  rw [readNumeral, Text.ofDigitValues_eq_numberIn isDigits.decimal, Text.number]

/-- What has the form of an identifier with numerals that are not too long is decoded to what its
parts denote, unless a location does not allow them. -/
lemma decode_written (filled : path ≠ []) (line_digits : line.IsDigits)
    (line_short : line.length ≤ Numeral.digitLimit) (column_digits : column.IsDigits)
    (column_short : column.length ≤ Numeral.digitLimit) :
    decode (written path line column ended) =
      if h : path ≠ [] ∧ path.isScalar = true ∧ 1 ≤ line.number then
        .ok ⟨path, line.number, column.number, h.1, h.2.1, h.2.2⟩
      else .error (.invalidId (written path line column ended)) := by
  have parts := parts?_eq_some.2 ⟨filled, line_digits, column_digits, ended, rfl⟩
  have read := readNumeral_of_isDigits line_digits
  have read' := readNumeral_of_isDigits column_digits
  rw [if_neg (Nat.not_lt.2 line_short)] at read
  rw [if_neg (Nat.not_lt.2 column_short)] at read'
  simp only [decode, parts, read, read', ok_bind]
  rfl

/-- A spelling is decoded to the location that it names. -/
lemma decode_text (spelling : Spelling) : decode spelling.text = .ok spelling.location := by
  rw [Spelling.text, decode_written spelling.path_ne_nil spelling.line_isDigits spelling.line_short
    spelling.column_isDigits spelling.column_short,
    dif_pos ⟨spelling.path_ne_nil, spelling.path_isScalar, spelling.one_le_line⟩]
  rfl

/-- What is decoded is the text of a spelling. -/
lemma exists_spelling_of_decode {location : Location} (decoded : decode id = .ok location) :
    ∃ spelling : Spelling, spelling.text = id := by
  unfold decode at decoded
  split at decoded
  · cases decoded
  · rename_i path line column cut
    obtain ⟨filled, line_digits, column_digits, ended, rfl⟩ := parts?_eq_some.1 cut
    simp only [bind_eq_ok, readNumeral_of_isDigits line_digits,
      readNumeral_of_isDigits column_digits] at decoded
    obtain ⟨first, read, second, read', decoded⟩ := decoded
    split at read
    · cases read
    · rename_i line_short
      cases read
      split at read'
      · cases read'
      · rename_i column_short
        split at decoded
        · rename_i allowed
          exact ⟨⟨path, line, column, ended, filled, allowed.2.1, line_digits,
            Nat.not_lt.1 line_short, column_digits, Nat.not_lt.1 column_short, allowed.2.2⟩, rfl⟩
        · cases decoded

/-- The path of a location is a part of the identifier that names it. -/
lemma mem_of_decode {location : Location} (decoded : decode id = .ok location) {c : CodePoint}
    (mem : c ∈ location.path) : c ∈ id := by
  obtain ⟨spelling, rfl⟩ := exists_spelling_of_decode decoded
  cases (decode_text spelling).symm.trans decoded
  simp only [Spelling.text, written, List.append_assoc]
  exact List.mem_append_left _ mem

/-- A numeral that is not read has too many digits. -/
lemma readNumeral_eq_error {failure : Failure} (h : readNumeral digits = .error failure) :
    failure.kind = .internal ∧ Numeral.digitLimit < digits.length := by
  unfold readNumeral at h
  split at h
  · rename_i long
    cases h
    exact ⟨rfl, long⟩
  · cases h

/-- An identifier that cannot be decoded is refused as such, or a numeral in it has too many
digits. -/
lemma decode_eq_error {failure : Failure} (h : decode id = .error failure) :
    failure = .invalidId id ∨
      failure.kind = .internal ∧ ∃ path line column, parts? id = some (path, line, column) ∧
        (Numeral.digitLimit < line.length ∨ Numeral.digitLimit < column.length) := by
  unfold decode at h
  split at h
  · cases h
    exact .inl rfl
  · rename_i path lineDigits columnDigits cut
    cases first : readNumeral lineDigits with
    | error defect =>
      rw [first] at h
      cases h
      have long := readNumeral_eq_error first
      exact .inr ⟨long.1, _, _, _, cut, .inl long.2⟩
    | ok line =>
      rw [first, ok_bind] at h
      cases second : readNumeral columnDigits with
      | error defect =>
        rw [second] at h
        cases h
        have long := readNumeral_eq_error second
        exact .inr ⟨long.1, _, _, _, cut, .inr long.2⟩
      | ok column =>
        rw [second, ok_bind] at h
        split at h
        · cases h
        · cases h
          exact .inl rfl

/-- A text without long runs of digits that is not decoded is refused as an identifier. -/
lemma HasShortRuns.refused (short : HasShortRuns id) {failure : Failure}
    (refused : decode id = .error failure) : failure = .invalidId id := by
  rcases decode_eq_error refused with same | ⟨_, path, line, column, cut, long⟩
  · exact same
  · obtain ⟨_, line_digits, column_digits, ended, rfl⟩ := parts?_eq_some.1 cut
    have line_inside : line <:+: written path line column ended :=
      ⟨path ++ ":", ":" ++ column ++ if ended then Text.ofString "\n" else [], by
        simp only [written, List.append_assoc]⟩
    have column_inside : column <:+: written path line column ended :=
      ⟨path ++ ":" ++ line ++ ":", if ended then Text.ofString "\n" else [], rfl⟩
    have line_short := short line line_inside line_digits.decimal
    have column_short := short column column_inside column_digits.decimal
    omega

namespace Spelling

/-- A text is spelt in one way only. -/
lemma text_injective : Function.Injective text := by
  intro spelling other same
  obtain ⟨path, line, column, ended⟩ := written_inj spelling.path_ne_nil spelling.line_isDigits
    spelling.column_isDigits other.path_ne_nil other.line_isDigits other.column_isDigits same
  cases spelling
  cases other
  cases path
  cases line
  cases column
  cases ended
  rfl

/-- A spelling is the one that is written for its location if its numerals are, and no line feed
follows them. -/
lemma encode_location_iff (spelling : Spelling) : spelling.location.encode = spelling.text ↔
    spelling.ended = false ∧ spelling.line.IsPlainNumeral ∧ spelling.column.IsPlainNumeral := by
  have encoded : spelling.location.encode =
      written spelling.path (Text.ofNat spelling.line.number)
        (Text.ofNat spelling.column.number) false :=
    (List.append_nil _).symm
  rw [encoded, ← Text.ofNat_number_iff spelling.line_isDigits.filled,
    ← Text.ofNat_number_iff spelling.column_isDigits.filled]
  constructor
  · intro same
    obtain ⟨_, line, column, ended⟩ := written_inj spelling.path_ne_nil (Text.isDigits_ofNat _)
      (Text.isDigits_ofNat _) spelling.path_ne_nil spelling.line_isDigits
        spelling.column_isDigits same
    exact ⟨ended.symm, line, column⟩
  · rintro ⟨ended, line, column⟩
    rw [line, column, text, ended]

end Spelling

/-- What is written for a location is decoded to it again, whatever its path looks like. -/
theorem decode_encode (location : Location)
    (line_short : (Text.ofNat location.line).length ≤ Numeral.digitLimit)
    (column_short : (Text.ofNat location.column).length ≤ Numeral.digitLimit) :
    decode location.encode = .ok location := by
  have encoded : location.encode =
      written location.path (Text.ofNat location.line) (Text.ofNat location.column) false :=
    (List.append_nil _).symm
  rw [encoded, decode_written location.path_ne_nil (Text.isDigits_ofNat _) line_short
    (Text.isDigits_ofNat _)
    column_short]
  simp only [Text.number_ofNat]
  exact dif_pos ⟨location.path_ne_nil, location.path_isScalar, location.one_le_line⟩

/-- A location whose path ends like an identifier, on a line far down. -/
def nestedSample : Location :=
  ⟨"a:12:4\n:7:x:1:0", 98765432109876543210, 0, by decide, by decide, by decide⟩

/-- The path of an identifier may hold colons, numerals and line feeds. -/
theorem decode_encode_sample :
    (Text.ofNat nestedSample.line).length ≤ Numeral.digitLimit ∧
      (Text.ofNat nestedSample.column).length ≤ Numeral.digitLimit ∧
      decode nestedSample.encode = .ok nestedSample :=
  ⟨by decide, by decide, decode_encode nestedSample (by decide) (by decide)⟩

/-- The decoder accepts exactly the identifiers of the grammar. Each is spelt in one way only and
names the location of its spelling, and it is what is written for this location if no line feed ends
it and its numerals are plain. What is not decoded is refused as an identifier, unless it holds too
long a run of digits. -/
theorem decode_iff_spelling (id : Text) :
    ((∃ location, decode id = .ok location) ↔ ∃ spelling : Spelling, spelling.text = id) ∧
      (∀ spelling : Spelling, spelling.text = id →
        (∀ other : Spelling, other.text = id → other = spelling) ∧
        decode id = .ok spelling.location ∧
          (spelling.location.encode = id ↔
            spelling.ended = false ∧ spelling.line.IsPlainNumeral ∧
            spelling.column.IsPlainNumeral)) ∧
      (HasShortRuns id → ∀ failure, decode id = .error failure → failure = .invalidId id) := by
  refine ⟨⟨?_, ?_⟩, ?_, ?_⟩
  · rintro ⟨location, decoded⟩
    exact exists_spelling_of_decode decoded
  · rintro ⟨spelling, rfl⟩
    exact ⟨spelling.location, decode_text spelling⟩
  · rintro spelling rfl
    refine ⟨?_, decode_text spelling, spelling.encode_location_iff⟩
    intro other same
    exact Spelling.text_injective same
  · intro short failure refused
    exact short.refused refused

/-- An identifier in digits of other scripts, with a superfluous zero and a line feed at its end. -/
def Spelling.sample : Spelling where
  path := "a:7:2"
  line := "٣𝟗"
  column := "04"
  ended := true
  path_ne_nil := by decide
  path_isScalar := by decide
  line_isDigits := by decide +kernel
  line_short := by decide
  column_isDigits := by decide +kernel
  column_short := by decide
  one_le_line := by decide

/-- A text that is no identifier since its path is empty. -/
def pathless : Text := ":1:2"

/-- The text without a path is too short for a run of digits that is too long. -/
lemma hasShortRuns_pathless : HasShortRuns pathless :=
  fun _ inside _ => inside.length_le.trans (by decide)

/-- An identifier with other digits names its location, but is not what is written for it. A text
without a path is refused. -/
theorem decode_iff_spelling_sample :
    decode Spelling.sample.text = .ok Spelling.sample.location ∧
    Spelling.sample.location.line = 39 ∧
      Spelling.sample.location.encode ≠ Spelling.sample.text ∧
      HasShortRuns pathless ∧
      ∀ failure, decode pathless = .error failure → failure = .invalidId pathless := by
  obtain ⟨-, decoded, plain⟩ := (decode_iff_spelling Spelling.sample.text).2.1 Spelling.sample rfl
  refine ⟨decoded, by decide, ?_, hasShortRuns_pathless,
    (decode_iff_spelling pathless).2.2 hasShortRuns_pathless⟩
  intro same
  cases (plain.1 same).1

/-- The texts "1" and "0" are numerals, and a lone surrogate is a path that is not empty, but they
make no identifier: no location has such a path. -/
theorem decode_refuses_surrogate :
    ([0xD800] : Text) ≠ [] ∧ Text.IsDigits "1" ∧ Text.IsDigits "0" ∧ 1 ≤ Text.number "1" ∧
      decode (written [0xD800] "1" "0" false) =
        .error (.invalidId (written [0xD800] "1" "0" false)) := by
  refine ⟨by decide, by decide +kernel, by decide +kernel, by decide +kernel, ?_⟩
  rfl

end Location

end Retouch
