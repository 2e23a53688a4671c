import Mathlib
import Retouch.Text.Numeral

/-!
# Numerals and their numbers

A decimal numeral may use the digits of any script, and its number is that of its digit values in
base ten (`Text.number`). The numeral that is written for a number denotes it again
(`Text.number_ofNat`); of the numerals that denote a number, it is the one in ASCII digits without
superfluous zeros (`Text.ofNat_number_iff`). Hexadecimal digits are read as the number that they
denote (`Numeral.read_hexadecimal`), and those that are written for a number denote it
(`Text.hexNumber_hex`).
-/

namespace Retouch

namespace Numeral

/-- The number of some digits is the one that the library reads from the last digit on. -/
lemma ofDigitValues_eq (base : Nat) (values : List Nat) :
    ofDigitValues base values = Nat.ofDigits base values.reverse := by
  rw [Nat.ofDigits_eq_foldr, List.foldr_reverse, ofDigitValues]
  congr 1
  funext n d
  rw [Nat.cast_id, Nat.mul_comm, Nat.add_comm]

end Numeral

namespace CodePoint

variable {c : CodePoint}

/-- The value of an ASCII digit is its distance from zero. -/
lemma decimalValue?_of_isAsciiDigit (digit : c.isAsciiDigit = true) :
    c.decimalValue? = some (c.val - 0x30) := by
  have first : decimalZeros.find? (fun first => c.isBetween first (first + 9)) = some 0x30 :=
    List.find?_cons_of_pos (p := fun first => c.isBetween first (first + 9)) digit
  rw [decimalValue?, first, Option.map_some]

/-- A decimal digit of ASCII is one of some script. -/
lemma isDecimal_of_isAsciiDigit (digit : c.isAsciiDigit = true) : c.isDecimal = true := by
  rw [isDecimal, decimalValue?_of_isAsciiDigit digit, Option.isSome_some]

/-- The ASCII digits are the numerals of the numbers below ten. -/
lemma ofChar_digitChar {d : Nat} (small : d < 10) :
    (ofChar d.digitChar).isAsciiDigit = true ∧ (ofChar d.digitChar).val - 0x30 = d := by
  have value : (ofChar d.digitChar).val = 0x30 + d := by
    change d.digitChar.toNat = _
    rw [Nat.toNat_digitChar_of_lt_ten small, Nat.add_comm]
  rw [isAsciiDigit, isBetween, value, decide_eq_true_eq]
  omega

end CodePoint

namespace Text

/-- Decimal digits of any script, at least one. -/
structure IsDigits (digits : Text) : Prop where
  filled : digits ≠ []
  decimal : ∀ c ∈ digits, c.isDecimal = true

instance : DecidablePred IsDigits := fun digits =>
  decidable_of_iff (digits ≠ [] ∧ digits.all CodePoint.isDecimal = true)
    ⟨fun h => ⟨h.1, List.all_eq_true.1 h.2⟩, fun h => ⟨h.filled, List.all_eq_true.2 h.decimal⟩⟩

/-- The number that digits denote in a base, the most significant first. -/
def numberIn (base : Nat) (value? : CodePoint → Option Nat) (digits : Text) : Nat :=
  Nat.ofDigits base (digits.reverse.map fun c => (value? c).getD 0)

/-- The number that decimal digits of any script denote. -/
def number (digits : Text) : Nat :=
  numberIn 10 CodePoint.decimalValue? digits

/-- The number that hexadecimal digits denote. -/
def hexNumber (digits : Text) : Nat :=
  numberIn 16 CodePoint.hexValue? digits

/-- ASCII digits without superfluous zeros at the start. -/
structure IsPlainNumeral (digits : Text) : Prop where
  ascii : ∀ c ∈ digits, c.isAsciiDigit = true
  tight : digits.head? = some (CodePoint.ofChar '0') → digits = [CodePoint.ofChar '0']

variable {digits : Text} {n : Nat}

/-- A digit at the end makes ten times the number, and its own value is added. -/
lemma number_append (digits : Text) (c : CodePoint) :
    number (digits ++ [c]) = 10 * number digits + c.decimalValue?.getD 0 := by
  rw [number, numberIn, List.reverse_append, List.reverse_singleton, List.singleton_append,
    List.map_cons, Nat.ofDigits_cons, number, numberIn, Nat.add_comm]

/-- The values of digits are read as the number that the digits denote. -/
lemma ofDigitValues_eq_numberIn {base : Nat} {value? : CodePoint → Option Nat}
    (known : ∀ c ∈ digits, (value? c).isSome = true) :
    Numeral.ofDigitValues base (digits.filterMap value?) = numberIn base value? digits := by
  have values : digits.filterMap value? = digits.map fun c => (value? c).getD 0 := by
    rw [← List.filterMap_eq_map]
    refine List.filterMap_congr fun c mem => ?_
    obtain ⟨d, value⟩ := Option.isSome_iff_exists.1 (known c mem)
    simp [value]
  rw [Numeral.ofDigitValues_eq, values, numberIn, List.map_reverse]

/-- A number below ten is written with one digit. -/
lemma ofNat_of_lt (small : n < 10) : ofNat n = [CodePoint.ofChar n.digitChar] := by
  rw [ofNat, Nat.toDigits_of_lt_base small, List.map_singleton]

/-- The last digit of a number of several digits comes off the end of its numeral. -/
lemma ofNat_of_le (large : 10 ≤ n) : ofNat n = ofNat (n / 10) ++ ofNat (n % 10) := by
  rw [ofNat_of_lt (Nat.mod_lt n (by decide)), ofNat, Nat.toDigits_eq_if (by decide),
    if_neg (Nat.not_lt.2 large), List.map_append, List.map_singleton, ofNat]

/-- No number is written with nothing. -/
lemma ofNat_ne_nil (n : Nat) : ofNat n ≠ [] := by
  rw [ofNat, ne_eq, List.map_eq_nil_iff]
  exact Nat.toDigits_ne_nil

/-- The digits of a number are read as the number. -/
lemma number_ofNat (n : Nat) : number (ofNat n) = n := by
  induction n using Nat.strongRecOn with
  | ind n ih =>
    have last {d : Nat} (small : d < 10) :
        (CodePoint.ofChar d.digitChar).decimalValue?.getD 0 = d := by
      obtain ⟨ascii, value⟩ := CodePoint.ofChar_digitChar small
      rw [CodePoint.decimalValue?_of_isAsciiDigit ascii, Option.getD_some, value]
    by_cases small : n < 10
    · rw [ofNat_of_lt small, ← List.nil_append [_], number_append, last small]
      exact Nat.zero_add n
    · have below : n % 10 < 10 := Nat.mod_lt n (by decide)
      rw [ofNat_of_le (Nat.not_lt.1 small), ofNat_of_lt below, number_append, last below,
        ih (n / 10) (by omega)]
      omega

/-- The numeral of a number is in ASCII digits without superfluous zeros. -/
lemma isPlainNumeral_ofNat (n : Nat) : IsPlainNumeral (ofNat n) := by
  induction n using Nat.strongRecOn with
  | ind n ih =>
    by_cases small : n < 10
    · rw [ofNat_of_lt small]
      refine ⟨fun c mem => ?_, fun zero => ?_⟩
      · rw [List.mem_singleton.1 mem]
        exact (CodePoint.ofChar_digitChar small).1
      · rw [List.head?_cons, Option.some.injEq] at zero
        rw [zero]
    · have front := ih (n / 10) (by omega)
      rw [ofNat_of_le (Nat.not_lt.1 small)]
      refine ⟨fun c mem => ?_, fun zero => ?_⟩
      · rcases List.mem_append.1 mem with mem | mem
        · exact front.ascii c mem
        · exact (ih (n % 10) (by omega)).ascii c mem
      · -- A zero in front would be the whole of the digits before the last, but these denote a
        -- number.
        rw [List.head?_append_of_ne_nil _ (ofNat_ne_nil _)] at zero
        have none := congrArg number (front.tight zero)
        rw [number_ofNat] at none
        have nought : number [CodePoint.ofChar '0'] = 0 := by decide +kernel
        omega

/-- A number is written with digits only. -/
lemma isDigits_ofNat (n : Nat) : IsDigits (ofNat n) := by
  refine ⟨ofNat_ne_nil n, fun c mem => ?_⟩
  exact CodePoint.isDecimal_of_isAsciiDigit ((isPlainNumeral_ofNat n).ascii c mem)

/-- An ASCII digit is how its value is written. -/
lemma ofNat_of_isAsciiDigit {c : CodePoint} (digit : c.isAsciiDigit = true) :
    ofNat (c.val - 0x30) = [c] := by
  have bounds := digit
  rw [CodePoint.isAsciiDigit, CodePoint.isBetween, decide_eq_true_eq] at bounds
  obtain ⟨ascii, value⟩ := CodePoint.ofChar_digitChar (d := c.val - 0x30) (by omega)
  rw [CodePoint.isAsciiDigit, CodePoint.isBetween, decide_eq_true_eq] at ascii
  rw [ofNat_of_lt (by omega), List.singleton_inj]
  exact Fin.ext (by omega)

/-- A plain numeral is the one that is written for its number. -/
lemma IsPlainNumeral.ofNat_number (plain : IsPlainNumeral digits) (filled : digits ≠ []) :
    ofNat (number digits) = digits := by
  induction digits using List.reverseRecOn with
  | nil => exact absurd rfl filled
  | append_singleton front c ih =>
    have digit := plain.ascii c (List.mem_append_right _ (List.mem_singleton_self c))
    rw [number_append, CodePoint.decimalValue?_of_isAsciiDigit digit, Option.getD_some]
    by_cases alone : front = []
    · subst alone
      have nought : number [] = 0 := rfl
      rw [nought, Nat.mul_zero, Nat.zero_add, ofNat_of_isAsciiDigit digit, List.nil_append]
    · -- The digits before the last are plain too: their first one is not a superfluous zero.
      have zeroless : front.head? ≠ some (CodePoint.ofChar '0') := by
        intro zero
        have whole := plain.tight (by rw [List.head?_append_of_ne_nil _ alone, zero])
        have size := congrArg List.length whole
        rw [List.length_append, List.length_singleton, List.length_singleton] at size
        exact alone (List.length_eq_zero_iff.1 (by omega))
      have front_eq := ih ⟨fun c mem => plain.ascii c (List.mem_append_left _ mem),
        fun zero => absurd zero zeroless⟩ alone
      have positive : 0 < number front := by
        rw [Nat.pos_iff_ne_zero]
        intro nought
        rw [nought, ofNat_of_lt (by decide)] at front_eq
        exact zeroless (by rw [← front_eq]; rfl)
      have last := ofNat_of_isAsciiDigit digit
      have bounds := digit
      rw [CodePoint.isAsciiDigit, CodePoint.isBetween, decide_eq_true_eq] at bounds
      have before : (10 * number front + (c.val - 0x30)) / 10 = number front := by omega
      have behind : (10 * number front + (c.val - 0x30)) % 10 = c.val - 0x30 := by omega
      rw [ofNat_of_le (by omega), before, behind, front_eq, last]

/-- Reading a numeral and writing its number gives the numeral exactly if it is a plain one. -/
lemma ofNat_number_iff (filled : digits ≠ []) :
    ofNat (number digits) = digits ↔ IsPlainNumeral digits := by
  constructor
  · intro same
    rw [← same]
    exact isPlainNumeral_ofNat _
  · intro plain
    exact plain.ofNat_number filled

end Text

namespace CodePoint

/-- Hexadecimal digits are the ASCII digits and the first six letters in either case. -/
lemma hexValue?_isSome_iff {c : CodePoint} : c.hexValue?.isSome = true ↔
    0x30 ≤ c.val ∧ c.val ≤ 0x39 ∨ 0x41 ≤ c.val ∧ c.val ≤ 0x46 ∨ 0x61 ≤ c.val ∧ c.val ≤ 0x66 := by
  simp only [hexValue?, isBetween, decide_eq_true_eq]
  split
  · simp only [Option.isSome_some, true_iff]
    omega
  · split
    · simp only [Option.isSome_some, true_iff]
      omega
    · split
      · simp only [Option.isSome_some, true_iff]
        omega
      · simp only [Option.isSome_none, Bool.false_eq_true, false_iff]
        omega

/-- The value of a hexadecimal digit is below sixteen. -/
lemma hexValue?_lt {c : CodePoint} {d : Nat} (value : c.hexValue? = some d) : d < 16 := by
  simp only [hexValue?, isBetween, decide_eq_true_eq] at value
  split at value
  · cases value
    omega
  · split at value
    · cases value
      omega
    · split at value
      · cases value
        omega
      · cases value

/-- A hexadecimal digit is no code point without a value. -/
lemma ne_of_isHex {c d : CodePoint} (hex : c.hexValue?.isSome = true)
    (other : d.hexValue? = none) : c ≠ d := by
  rintro rfl
  rw [other] at hex
  cases hex

end CodePoint

namespace Numeral

variable {digits : Text}

/-- Among hexadecimal digits there is no underscore to be misplaced. -/
lemma underscoresFit_of_hex (hex : ∀ c ∈ digits, c.hexValue?.isSome = true) :
    underscoresFit digits = true := by
  have plain {c : CodePoint} (mem : c ∈ digits) : (c == CodePoint.ofChar '_') = false :=
    beq_eq_false_iff_ne.2 (CodePoint.ne_of_isHex (hex c mem) (by decide))
  induction digits with
  | nil => rfl
  | cons c rest ih =>
    have others := ih (fun d mem => hex d (List.mem_cons_of_mem c mem))
      (fun mem => plain (List.mem_cons_of_mem c mem))
    cases rest with
    | nil => simp [underscoresFit, bne, plain List.mem_cons_self]
    | cons d rest => simp [underscoresFit, plain List.mem_cons_self, others]

/-- Hexadecimal digits do not begin with the mark of their base. -/
lemma dropMark_of_hex (hex : ∀ c ∈ digits, c.hexValue?.isSome = true) :
    dropMark .hexadecimal digits = digits := by
  match digits with
  | [] => rfl
  | [_] => rfl
  | c :: d :: rest =>
    have second := hex d (by simp)
    have small := CodePoint.ne_of_isHex second (d := CodePoint.ofChar 'x') (by decide)
    have capital := CodePoint.ne_of_isHex second (d := CodePoint.ofChar 'X') (by decide)
    simp [dropMark, beq_eq_false_iff_ne.2 small, beq_eq_false_iff_ne.2 capital]

/-- Hexadecimal digits are read as the number that they denote. -/
lemma readDigits_of_hex (filled : digits ≠ []) (hex : ∀ c ∈ digits, c.hexValue?.isSome = true) :
    readDigits .hexadecimal digits = .ok digits.hexNumber := by
  have value : Radix.hexadecimal.digitValue? = CodePoint.hexValue? := by
    funext c
    cases known : c.hexValue? with
    | none => rw [Radix.digitValue?, known, Option.filter_none]
    | some d =>
      rw [Radix.digitValue?, known, Option.filter_some_pos]
      exact decide_eq_true (CodePoint.hexValue?_lt known)
  have part : ∀ c ∈ digits, (c.hexValue?.isSome || c == CodePoint.ofChar '_') = true := by
    intro c mem
    rw [hex c mem, Bool.true_or]
  rw [Text.hexNumber, ← Text.ofDigitValues_eq_numberIn hex]
  obtain ⟨first, rest, rfl⟩ := List.exists_cons_of_ne_nil filled
  have mark : ((first :: rest).head? == some (CodePoint.ofChar '_')) = false :=
    beq_eq_false_iff_ne.2 fun same =>
      CodePoint.ne_of_isHex (hex first List.mem_cons_self) (by decide) (Option.some.inj same)
  obtain ⟨d, known⟩ := Option.isSome_iff_exists.1 (hex first List.mem_cons_self)
  have values : ((first :: rest).filterMap CodePoint.hexValue?).isEmpty = false := by
    rw [List.filterMap_cons_some known, List.isEmpty_cons]
  simp only [readDigits, List.takeWhile_eq_self_iff.2 part, List.dropWhile_eq_nil_iff.2 part, mark,
    underscoresFit_of_hex hex, value, values, Radix.base]
  rfl

/-- Hexadecimal digits are read as the number that they denote, however many they are. -/
lemma read_hexadecimal (filled : digits ≠ []) (hex : ∀ c ∈ digits, c.hexValue?.isSome = true) :
    read .hexadecimal digits = .ok digits.hexNumber := by
  have ascii : digits.map toAscii = digits := by
    refine (List.map_congr_left fun c mem => ?_).trans (List.map_id digits)
    have bounds := CodePoint.hexValue?_isSome_iff.1 (hex c mem)
    rw [toAscii, if_pos (by omega), id]
  obtain ⟨first, rest, rfl⟩ := List.exists_cons_of_ne_nil filled
  have digit := hex first List.mem_cons_self
  have unspaced : (first :: rest).dropWhile isSpace = first :: rest := by
    apply List.dropWhile_cons_of_neg
    have bounds := CodePoint.hexValue?_isSome_iff.1 digit
    have blank := CodePoint.ne_of_isHex digit (d := CodePoint.ofChar ' ') (by decide)
    simp only [isSpace, CodePoint.isBetween, Bool.or_eq_true, decide_eq_true_eq, beq_iff_eq,
      blank, or_false]
    omega
  have minus := CodePoint.ne_of_isHex digit (d := CodePoint.ofChar '-') (by decide)
  have plus := CodePoint.ne_of_isHex digit (d := CodePoint.ofChar '+') (by decide)
  rw [read, ascii, unspaced]
  simp only [beq_eq_false_iff_ne.2 minus, beq_eq_false_iff_ne.2 plus, dropMark_of_hex hex,
    readDigits_of_hex filled hex]
  rfl

end Numeral

/-- A hexadecimal numeral has at most four bits for each digit. -/
lemma Text.hexNumber_lt (digits : Text) : digits.hexNumber < 16 ^ digits.length := by
  have bounded : ∀ d ∈ digits.reverse.map fun c => c.hexValue?.getD 0, d < 16 := by
    intro d mem
    obtain ⟨c, _, rfl⟩ := List.mem_map.1 mem
    cases value : c.hexValue? with
    | none => exact Nat.succ_pos 15
    | some d => exact CodePoint.hexValue?_lt value
  have below := Nat.ofDigits_lt_base_pow_length (by decide) bounded
  rwa [List.length_map, List.length_reverse] at below

namespace Text

/-- Digits in front of others count as if as many zeros came behind them. -/
lemma numberIn_append (base : Nat) (value? : CodePoint → Option Nat) (t u : Text) :
    numberIn base value? (t ++ u) =
      numberIn base value? u + base ^ u.length * numberIn base value? t := by
  simp only [numberIn, List.reverse_append, List.map_append, Nat.ofDigits_append, List.length_map,
    List.length_reverse]

/-- The character for a hexadecimal digit has its value. -/
lemma hexNumber_digitChar {d : Nat} (small : d < 16) :
    hexNumber [CodePoint.ofChar d.digitChar] = d := by
  revert d
  decide

/-- The hexadecimal numeral of a number denotes it, whatever zeros stand in front. -/
lemma hexNumber_hex (width n : Nat) : hexNumber (hex width n) = n := by
  have zeros (k : Nat) : hexNumber (List.replicate k (CodePoint.ofChar '0')) = 0 := by
    induction k with
    | zero => rfl
    | succ k ih =>
      rw [List.replicate_succ', hexNumber, numberIn_append, ← hexNumber, ← hexNumber, ih]
      rfl
  have digits : hexNumber ((Nat.toDigits 16 n).map CodePoint.ofChar) = n := by
    induction n using Nat.strongRecOn with
    | ind n ih =>
      rw [Nat.toDigits_eq_if (by decide)]
      split
      · rename_i small
        exact hexNumber_digitChar small
      · rename_i large
        rw [List.map_append, hexNumber, numberIn_append, ← hexNumber, ← hexNumber,
          ih (n / 16) (by omega), List.map_singleton,
          hexNumber_digitChar (Nat.mod_lt n (by decide)), List.length_singleton]
        omega
  rw [hex, hexNumber, numberIn_append, ← hexNumber, ← hexNumber, digits, zeros,
    Nat.mul_zero, Nat.add_zero]

end Text

end Retouch
