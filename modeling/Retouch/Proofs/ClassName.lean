import Mathlib
import Retouch.Proofs.Inert
import Retouch.Proofs.Literal
import Retouch.Proofs.Numeral
import Retouch.Proofs.Prediction
import Retouch.Proofs.Reference

/-!
# Class names that are written and read back

A class name is written between quotes that it does not hold, or as a string between braces.
`Node.ShowsValue` says that a node is what a grammar makes of it: in a string between quotes it
finds the references that end with a semicolon (`Reference.spans`). Whoever writes the value looks
for these too, but passes over the hexadecimal ones that are marked with a capital letter. So a
class name is read as it was asked for, and can be asked for again without an edit, exactly if it
stands between braces or holds no such reference (`Editor.class_name_reads_back`).
-/

namespace Retouch

namespace Reference

/-- A hexadecimal digit of either case. -/
def isHexDigit (c : CodePoint) : Bool :=
  c.hexValue?.isSome

/-- The size of a run of code points and the semicolon after it, unless the run is empty or too
long. -/
def closedRun? (test : CodePoint → Bool) (limit : Nat) (t : Text) : Option Nat :=
  if t.takeWhile test ≠ [] ∧ (t.takeWhile test).length ≤ limit ∧
      (t.dropWhile test).head? = some (CodePoint.ofChar ';') then
    some ((t.takeWhile test).length + 1)
  else none

/-- The size of the number of a character that a grammar finds after an ampersand and a number
sign. -/
def numberSize? : Text → Option Nat
  | [] => none
  | x :: t =>
    if x = 'x' ∨ x = 'X' then (closedRun? isHexDigit 6 t).map (· + 1)
    else closedRun? CodePoint.isAsciiDigit 5 (x :: t)

/-- The size of the reference that a grammar finds after an ampersand: the number of a character, or
a name of letters. -/
def size? : Text → Option Nat
  | [] => none
  | c :: t =>
    if c = '#' then (numberSize? t).map (· + 1) else closedRun? CodePoint.isAsciiLetter 30 (c :: t)

/-- The spans of the references that a grammar finds in a text, which is written from an offset
on. -/
def spans (offset : Nat) : Text → List (Nat × Nat)
  | [] => []
  | c :: t =>
    let others := spans (offset + Utf8.size [c]) t
    if c = '&' then
      match size? t with
      | some size => (offset, offset + Utf8.size (c :: t.take size)) :: others
      | none => others
    else others

/-- The digits of a hexadecimal number that a grammar takes for that of a character. -/
structure IsNumber (digits : Text) : Prop where
  filled : digits ≠ []
  short : digits.length ≤ 6
  hexadecimal : ∀ d ∈ digits, isHexDigit d = true

/-- A hexadecimal reference that is marked with a capital letter. -/
def capital (digits : Text) : Text :=
  "&#X" ++ digits ++ ";"

/-- A text with a hexadecimal reference that is marked with a capital letter. -/
def HoldsCapital (t : Text) : Prop :=
  ∃ before digits after, t = before ++ capital digits ++ after ∧ IsNumber digits

variable {t digits : Text} {offset : Nat}

section Run

variable {test : CodePoint → Bool} {run rest : Text}

/-- A run is followed by what no longer belongs to it. -/
lemma takeWhile_closed (inside : ∀ c ∈ run, test c = true)
    (outside : test (CodePoint.ofChar ';') = false) :
    (run ++ CodePoint.ofChar ';' :: rest).takeWhile test = run := by
  rw [List.takeWhile_append_of_pos inside, List.takeWhile_cons_of_neg (by simp [outside]),
    List.append_nil]

/-- A run is dropped up to the semicolon after it. -/
lemma dropWhile_closed (inside : ∀ c ∈ run, test c = true)
    (outside : test (CodePoint.ofChar ';') = false) :
    (run ++ CodePoint.ofChar ';' :: rest).dropWhile test = CodePoint.ofChar ';' :: rest := by
  rw [List.dropWhile_append_of_pos inside, List.dropWhile_cons_of_neg (by simp [outside])]

/-- A run that a semicolon ends is followed by it. -/
lemma closedRun?_eq_some {limit size : Nat} (closed : closedRun? test limit t = some size) :
    ∃ run rest, t = run ++ CodePoint.ofChar ';' :: rest ∧ run ≠ [] ∧ run.length ≤ limit ∧
      ∀ c ∈ run, test c = true := by
  unfold closedRun? at closed
  split at closed
  · rename_i found
    obtain ⟨filled, short, ends⟩ := found
    obtain ⟨rest, split⟩ := List.head?_eq_some_iff.1 ends
    refine ⟨t.takeWhile test, rest, ?_, filled, short, fun c mem => List.mem_takeWhile_imp mem⟩
    rw [← split, List.takeWhile_append_dropWhile]
  · cases closed

/-- A run that is not too long is found up to the semicolon after it. -/
lemma closedRun?_closed {limit : Nat} (filled : run ≠ []) (short : run.length ≤ limit)
    (inside : ∀ c ∈ run, test c = true) (outside : test (CodePoint.ofChar ';') = false) :
    closedRun? test limit (run ++ CodePoint.ofChar ';' :: rest) = some (run.length + 1) := by
  simp only [closedRun?, takeWhile_closed inside outside, dropWhile_closed inside outside]
  rw [if_pos ⟨filled, short, rfl⟩]

end Run

/-- A number that a grammar finds and that is not avoided is hexadecimal and marked with a capital
letter. -/
lemma capital_of_numberSize? {size : Nat} (found : numberSize? t = some size)
    (passed : Literal.completesReference (CodePoint.ofChar '#' :: t) = false) :
    ∃ digits after, CodePoint.ofChar '&' :: CodePoint.ofChar '#' :: t = capital digits ++ after ∧
      IsNumber digits := by
  cases t with
  | nil => cases found
  | cons x u =>
    rw [Literal.completesReference, if_pos rfl] at passed
    simp only [Bool.or_eq_false_iff] at passed
    obtain ⟨undecimal, unhexadecimal⟩ := passed
    rw [numberSize?] at found
    split at found
    · rename_i marked
      obtain ⟨size', closed, _⟩ := Option.map_eq_some_iff.1 found
      obtain ⟨digits, after, rfl, filled, short, inside⟩ := closedRun?_eq_some closed
      rcases marked with rfl | rfl
      · -- The small letter is looked for.
        change (_ && !(List.takeWhile isHexDigit _).isEmpty &&
          Literal.closes (List.dropWhile isHexDigit _)) = false at unhexadecimal
        rw [takeWhile_closed inside (by decide), dropWhile_closed inside (by decide)]
          at unhexadecimal
        simp [filled, Literal.closes] at unhexadecimal
      · refine ⟨digits, after, ?_, filled, short, inside⟩
        simp [capital, Text.ofString]
    · obtain ⟨digits, after, split, filled, _, inside⟩ := closedRun?_eq_some found
      have decimal : ∀ d ∈ digits, d.isDecimal = true := fun d mem =>
        CodePoint.isDecimal_of_isAsciiDigit (inside d mem)
      rw [split, takeWhile_closed decimal (by decide),
        dropWhile_closed decimal (by decide)] at undecimal
      simp [filled, Literal.closes] at undecimal

/-- A reference that a grammar finds and that is not avoided is hexadecimal and marked with a
capital letter. -/
lemma capital_of_size? {size : Nat} (found : size? t = some size)
    (passed : Literal.completesReference t = false) :
    ∃ digits after, CodePoint.ofChar '&' :: t = capital digits ++ after ∧ IsNumber digits := by
  cases t with
  | nil => cases found
  | cons c t =>
    rw [size?] at found
    split at found
    · rename_i numeric
      subst numeric
      obtain ⟨size', found, _⟩ := Option.map_eq_some_iff.1 found
      exact capital_of_numberSize? found passed
    · rename_i named
      rw [Literal.completesReference, if_neg named] at passed
      obtain ⟨letters, after, split, filled, _, inside⟩ := closedRun?_eq_some found
      obtain ⟨first, letters, rfl⟩ := List.exists_cons_of_ne_nil filled
      rw [List.cons_append, List.cons.injEq] at split
      obtain ⟨rfl, rfl⟩ := split
      rw [inside c List.mem_cons_self, dropWhile_closed (fun d mem => by
        rw [inside d (List.mem_cons_of_mem _ mem), Bool.true_or]) (by decide)] at passed
      simp [Literal.closes] at passed

/-- The references of a text that is written after another one. -/
lemma spans_suffix (offset : Nat) (before t : Text) :
    spans (offset + Utf8.size before) t <:+ spans offset (before ++ t) := by
  induction before generalizing offset with
  | nil => exact List.suffix_rfl
  | cons c before ih =>
    have rest : spans (offset + Utf8.size (c :: before)) t <:+
        spans (offset + Utf8.size [c]) (before ++ t) := by
      rw [Utf8.size_cons, ← Nat.add_assoc]
      exact ih _
    rw [List.cons_append, spans]
    split
    · split
      · exact rest.trans (List.suffix_cons _ _)
      · exact rest
    · exact rest

/-- No reference starts inside a run without ampersands. -/
lemma spans_of_not_mem {before : Text} (without : CodePoint.ofChar '&' ∉ before) :
    spans offset (before ++ t) = spans (offset + Utf8.size before) t := by
  induction before generalizing offset with
  | nil => rfl
  | cons c before ih =>
    rw [List.mem_cons, not_or] at without
    rw [List.cons_append, spans, if_neg (Ne.symm without.1), ih without.2, Utf8.size_cons c before,
      Nat.add_assoc]

/-- A grammar finds a reference that is marked with a capital letter. -/
lemma size?_capital (number : IsNumber digits) (after : Text) :
    size? ((capital digits).drop 1 ++ after) = some ((capital digits).length - 1) := by
  have hex : size? (CodePoint.ofChar '#' :: CodePoint.ofChar 'X' ::
      (digits ++ CodePoint.ofChar ';' :: after)) = some (digits.length + 1 + 2) := by
    rw [size?, if_pos rfl, numberSize?, if_pos (.inr rfl),
      closedRun?_closed number.filled number.short number.hexadecimal (by decide)]
    rfl
  simpa [capital, Text.ofString] using hex

/-- A reference that is marked with a capital letter is one ampersand and what has none. -/
lemma capital_eq_cons (number : IsNumber digits) :
    ∃ body, capital digits = CodePoint.ofChar '&' :: body ∧ CodePoint.ofChar '&' ∉ body := by
  refine ⟨(capital digits).drop 1, rfl, ?_⟩
  have plain : CodePoint.ofChar '&' ∉ digits := fun mem =>
    absurd (number.hexadecimal _ mem) (by decide)
  have marks : CodePoint.ofChar '&' ≠ CodePoint.ofChar '#' ∧
      CodePoint.ofChar '&' ≠ CodePoint.ofChar 'X' ∧
      CodePoint.ofChar '&' ≠ CodePoint.ofChar ';' := by decide
  simp [capital, Text.ofString, plain, marks]

/-- What is found in a text that begins with a reference marked with a capital letter. -/
lemma spans_capital (number : IsNumber digits) (after : Text) :
    spans offset (capital digits ++ after) = (offset, offset + Utf8.size (capital digits)) ::
      spans (offset + Utf8.size (capital digits)) after := by
  have found := size?_capital number after
  obtain ⟨body, split, without⟩ := capital_eq_cons number
  rw [split] at found ⊢
  simp only [List.drop_one, List.tail_cons, List.length_cons, Nat.add_sub_cancel] at found
  rw [List.cons_append, spans, if_pos rfl, found]
  simp only [List.take_left, spans_of_not_mem without, Utf8.size_cons _ body, Nat.add_assoc]

/-- The end of a text without references that are avoided has none. -/
lemma holdsReference_of_append {before : Text}
    (avoided : Literal.holdsReference (before ++ t) = false) :
    Literal.holdsReference t = false := by
  induction before with
  | nil => exact avoided
  | cons c before ih =>
    rw [List.cons_append, Literal.holdsReference, Bool.or_eq_false_iff] at avoided
    exact ih avoided.2

/-- The first reference in a text without any that are avoided is marked with a capital letter. -/
lemma spans_eq_cons {span : Nat × Nat} {others : List (Nat × Nat)}
    (avoided : Literal.holdsReference t = false) (found : spans offset t = span :: others) :
    ∃ before digits after, t = before ++ (capital digits ++ after) ∧ IsNumber digits ∧
      span = (offset + Utf8.size before, offset + Utf8.size before + Utf8.size (capital digits)) ∧
      others = spans (offset + Utf8.size before + Utf8.size (capital digits)) after := by
  induction t generalizing offset with
  | nil => cases found
  | cons c t ih =>
    rw [Literal.holdsReference, Bool.or_eq_false_iff] at avoided
    have later (found : spans (offset + Utf8.size [c]) t = span :: others) :
        ∃ before digits after, c :: t = before ++ (capital digits ++ after) ∧ IsNumber digits ∧
          span = (offset + Utf8.size before,
            offset + Utf8.size before + Utf8.size (capital digits)) ∧
          others = spans (offset + Utf8.size before + Utf8.size (capital digits)) after := by
      obtain ⟨before, digits, after, rfl, number, shape, rest⟩ := ih avoided.2 found
      refine ⟨c :: before, digits, after, rfl, number, ?_, ?_⟩
      · rw [shape, Utf8.size_cons c before, Nat.add_assoc, Nat.add_assoc]
      · rw [rest, Utf8.size_cons c before, Nat.add_assoc offset]
    by_cases ampersand : c = CodePoint.ofChar '&'
    · subst ampersand
      cases size : size? t with
      | none =>
        rw [spans, if_pos rfl, size] at found
        exact later found
      | some size' =>
        simp only [decide_true, Bool.true_and] at avoided
        obtain ⟨digits, after, split, number⟩ := capital_of_size? size avoided.1
        refine ⟨[], digits, after, split, number, ?_⟩
        rw [split, spans_capital number, List.cons.injEq] at found
        exact ⟨found.1.symm, found.2.symm⟩
    · rw [spans, if_neg ampersand] at found
      exact later found

/-- A grammar finds references in a text without any that are avoided exactly if some are marked
with a capital letter. -/
lemma spans_eq_nil_iff (offset : Nat) (avoided : Literal.holdsReference t = false) :
    spans offset t = [] ↔ ¬HoldsCapital t := by
  constructor
  · rintro none ⟨before, digits, after, rfl, number⟩
    have suffix := spans_suffix offset before (capital digits ++ after)
    rw [← List.append_assoc, none, spans_capital number, List.suffix_nil] at suffix
    cases suffix
  · intro without
    cases found : spans offset t with
    | nil => rfl
    | cons span others =>
      obtain ⟨before, digits, after, rfl, number, _⟩ := spans_eq_cons avoided found
      exact absurd ⟨before, digits, after, (List.append_assoc _ _ _).symm, number⟩ without

/-- A reference that is marked with a capital letter is read as a number. -/
lemma read?_capital (number : IsNumber digits) :
    read? (CodePoint.ofChar '#' :: CodePoint.ofChar 'X' :: (digits ++ [CodePoint.ofChar ';'])) =
      .ok (some (digits.length + 3,
        numbered (Numeral.ofDigitValues 16 (digits.filterMap CodePoint.hexValue?)))) := by
  have none : (CodePoint.ofChar 'X' :: (digits ++ [CodePoint.ofChar ';'])).takeWhile
      CodePoint.isAsciiDigit =
      [] := List.takeWhile_cons_of_neg (by decide)
  have run : (digits ++ [CodePoint.ofChar ';']).takeWhile (fun c => c.hexValue?.isSome) = digits :=
    takeWhile_closed number.hexadecimal (by decide)
  have filled : digits.isEmpty = false := by simpa using number.filled
  have closed : semicolonSize ((CodePoint.ofChar '#' :: CodePoint.ofChar 'X' ::
      (digits ++ [CodePoint.ofChar ';'])).drop (2 + digits.length)) = 1 := by
    rw [Nat.add_comm, List.drop_succ_cons, List.drop_succ_cons, List.drop_left]
    rfl
  rw [read?, if_pos rfl]
  simp only [none, run, filled, closed, List.isEmpty_nil, or_true, true_and, Bool.not_true,
    Bool.not_false, Bool.false_eq_true, if_false, if_true]
  rw [Nat.add_comm 2, Nat.add_assoc]

/-- It stands for one character at most. -/
lemma resolve_capital (number : IsNumber digits) :
    ∃ n, resolve (capital digits) = .ok (numbered n) := by
  refine ⟨Numeral.ofDigitValues 16 (digits.filterMap CodePoint.hexValue?), ?_⟩
  have begins : capital digits =
      CodePoint.ofChar '&' :: CodePoint.ofChar '#' :: CodePoint.ofChar 'X' ::
      (digits ++ [CodePoint.ofChar ';']) := rfl
  have rest : resolveAfter (digits.length + 3)
      (CodePoint.ofChar '#' :: CodePoint.ofChar 'X' :: (digits ++ [CodePoint.ofChar ';'])) =
        .ok [] := by
    rw [resolveAfter_eq, List.drop_of_length_le (by simp), resolveAfter]
  rw [begins, resolve, resolveAfter, if_pos rfl, read?_capital number]
  simp only [ok_bind, rest, List.append_nil]
  rfl

end Reference

/-- A value of an attribute that stands between quotes, as a grammar parses it: a string of which
nothing but the references is coded. -/
structure Node.IsQuotedOf (node : Node) (v : Text) : Prop where
  kind : node.kind = .string
  stop : node.stop = node.start + 1 + Utf8.size v + 1
  references : (node.children.filter isCoded).map (fun part => (part.kind, part.start, part.stop)) =
    (Reference.spans (node.start + 1) v).map fun span => (.reference, span.1, span.2)

namespace Document

variable {document : Document} {offset : Nat} {t u : Text}

/-- A part that is a reference marked with a capital letter stands for one character at most. -/
lemma partValue?_capital {part : Node} {digits : Text} (number : Reference.IsNumber digits)
    (scalar : (Reference.capital digits).isScalar = true) (kind : part.kind = .reference)
    (starts : part.start = offset)
    (stops : part.stop = offset + Utf8.size (Reference.capital digits))
    (spelt : document.Spells offset (Reference.capital digits)) :
    ∃ n, document.partValue? part = .ok (some (Reference.numbered n)) := by
  obtain ⟨n, resolves⟩ := Reference.resolve_capital number
  have read : document.text part = .ok (Reference.capital digits) := by
    rw [Document.text, stops, starts]
    exact textBetween_of_spells scalar spelt
  refine ⟨n, ?_⟩
  rw [partValue?, kind]
  simp only [read, resolves, ok_bind]
  rfl

/-- A text between quotes is read as it stands if it holds no references, and gets shorter with each
of them. -/
lemma stringValueFrom_length {parts : List Node} (scalar : t.isScalar = true)
    (avoided : Literal.holdsReference t = false) (spelt : document.Spells offset t)
    (references : parts.map (fun part => (part.kind, part.start, part.stop)) =
      (Reference.spans offset t).map fun span => (.reference, span.1, span.2))
    (read : document.stringValueFrom (offset + Utf8.size t) offset parts = .ok u) :
    u.length + parts.length ≤ t.length := by
  induction parts generalizing offset t u with
  | nil =>
    rw [stringValueFrom, textBetween_of_spells scalar spelt] at read
    cases read
    exact le_rfl
  | cons part parts ih =>
    -- The first part is the first reference: what stands before it is kept, and the rest is read
    -- anew.
    obtain ⟨span, others, found, shape, others_eq⟩ := List.map_eq_cons_iff.1 references.symm
    obtain ⟨before, digits, after, rfl, number, rfl, rfl⟩ := Reference.spans_eq_cons avoided found
    obtain ⟨kind, starts, stops⟩ : part.kind = .reference ∧ part.start = offset + Utf8.size before ∧
        part.stop = offset + Utf8.size before + Utf8.size (Reference.capital digits) := by
      simpa [eq_comm] using shape
    rw [Text.isScalar_append, Text.isScalar_append, Bool.and_eq_true, Bool.and_eq_true] at scalar
    rw [spells_append, spells_append] at spelt
    obtain ⟨n, value⟩ := partValue?_capital number scalar.2.1 kind starts stops spelt.2.1
    have ends : offset + Utf8.size (before ++ (Reference.capital digits ++ after)) =
        part.stop + Utf8.size after := by
      rw [stops, Utf8.size_append, Utf8.size_append]
      omega
    rw [ends, stringValueFrom] at read
    simp only [value, starts, textBetween_of_spells scalar.1 spelt.1, ok_bind, bind_eq_ok,
      pure_eq_ok] at read
    obtain ⟨rest, read, rfl⟩ := read
    rw [← stops] at spelt others_eq
    have shorter := ih scalar.2.2
      (Reference.holdsReference_of_append (Reference.holdsReference_of_append avoided)) spelt.2.2
      others_eq.symm read
    have single := Reference.numbered_length n
    have long : 1 < (Reference.capital digits).length := by
      simp [Reference.capital, Text.ofString]
    simp only [List.length_append, List.length_cons]
    omega

/-- A value that stands between quotes is read as it was written exactly if no reference in it is
marked with a capital letter. -/
lemma stringValue_quoted_iff {node : Node} {quote : CodePoint} (scalar : t.isScalar = true)
    (avoided : Literal.holdsReference t = false) (narrow : Utf8.size [quote] = 1)
    (quoted : node.IsQuotedOf t) (spelt : document.Spells node.start (quote :: t)) :
    document.stringValue node = .ok t ↔ ¬Reference.HoldsCapital t := by
  have inside : document.Spells (node.start + 1) t := by
    have split := (spells_append (t := [quote]) (u := t)).1 spelt
    rw [narrow] at split
    exact split.2
  have last : document.closingQuote node = node.start + 1 + Utf8.size t := by
    rw [closingQuote, if_neg (by rw [quoted.stop]; omega), quoted.stop, Nat.add_sub_cancel]
  rw [stringValue, last, ← stringValueFrom_filter,
    ← Reference.spans_eq_nil_iff (node.start + 1) avoided]
  constructor
  · intro read
    have shorter := stringValueFrom_length scalar avoided inside quoted.references read
    have none : node.children.filter Node.isCoded = [] := List.length_eq_zero_iff.1 (by omega)
    have references := quoted.references
    rw [none, List.map_nil] at references
    exact List.map_eq_nil_iff.1 references.symm
  · intro none
    have references := quoted.references
    rw [none, List.map_nil, List.map_eq_nil_iff] at references
    rw [references, stringValueFrom, textBetween_of_spells scalar inside]

end Document

namespace Literal

variable {quote : CodePoint} {v : Text}

/-- A quote occurs in a text exactly if it is one of its code points. -/
lemma occursIn_singleton (quote : CodePoint) (t : Text) :
    occursIn [quote] t = true ↔ quote ∈ t := by
  induction t with
  | nil => simp [occursIn]
  | cons c t ih => simp [occursIn, ih]

/-- A value is written between braces, or between quotes that it does not hold; then it holds no
reference that is looked for. -/
lemma attributeValue_cases (preferred : IsQuote quote) (v : Text) :
    (∃ chosen, IsQuote chosen ∧ chosen ∉ v ∧
        holdsReference v = false ∧ attributeValue [quote] v = chosen :: (v ++ [chosen])) ∨
      attributeValue [quote] v = braced v := by
  unfold attributeValue
  split
  · exact .inr rfl
  · rename_i avoided
    split
    · rename_i text found
      refine .inl ?_
      have listed := List.mem_of_find?_eq_some found
      have absent := List.find?_some found
      have single : ∃ chosen, IsQuote chosen ∧ text = [chosen] := by
        simp only [List.mem_cons, List.not_mem_nil, or_false] at listed
        rcases listed with rfl | rfl | rfl
        · exact ⟨quote, preferred, rfl⟩
        · exact ⟨CodePoint.ofChar '"', .inl rfl, rfl⟩
        · exact ⟨CodePoint.ofChar '\'', .inr rfl, rfl⟩
      obtain ⟨chosen, allowed, rfl⟩ := single
      refine ⟨chosen, allowed, ?_, by simpa using avoided, rfl⟩
      rw [← occursIn_singleton]
      simpa using absent
    · exact .inr rfl

end Literal

/-- The node that a grammar makes of what is written for a value: a container that holds its
literal, or a string between quotes. -/
inductive Node.ShowsValue (quote : CodePoint) (v : Text) : Node → Prop where
  | quoted {node : Node} :
    Literal.attributeValue [quote] v ≠ Literal.braced v →
    node.IsQuotedOf v →
    Node.ShowsValue quote v node
  | braced {node literal : Node} :
    Literal.attributeValue [quote] v = Literal.braced v →
    node.kind = .container →
    node.firstSignificant? = some literal → literal.start = node.start + 1 → literal.IsLiteralOf v →
    Node.ShowsValue quote v node

namespace ClassName

variable {document : Document} {quote : CodePoint} {v : Text} {node : Node}

/-- A class name that is read as it is asked for, once it has been written. -/
def ReadsBack (quote : CodePoint) (v : Text) : Prop :=
  Literal.attributeValue [quote] v = Literal.braced v ∨ ¬Reference.HoldsCapital v

/-- A literal between braces is read as it was written. -/
lemma ofValue_braced {literal : Node} (scalar : v.isScalar = true) (kind : node.kind = .container)
    (first : node.firstSignificant? = some literal) (inside : literal.start = node.start + 1)
    (parsed : literal.IsLiteralOf v) (spelt : document.Spells node.start (Literal.braced v)) :
    ofValue document node = .ok (.static v) := by
  have value := Document.stringValue_braced scalar parsed inside spelt
  have read : document.literalValue? literal = .ok (some v) := by
    rw [Document.literalValue?, Node.insideParentheses?_of_string parsed.kind]
    simp only [parsed.kind, value]
    rfl
  rw [ofValue, kind]
  simp only [first, read, ok_bind]
  rfl

/-- A class name that has been written is read as it was asked for exactly if it reads back. -/
lemma ofValue_iff (preferred : Literal.IsQuote quote)
    (scalar : v.isScalar = true) (shown : node.ShowsValue quote v)
    (spelt : document.Spells node.start (Literal.attributeValue [quote] v)) :
    ofValue document node = .ok (.static v) ↔ ReadsBack quote v := by
  unfold ReadsBack
  cases shown with
  | quoted unbraced quoted =>
    rcases Literal.attributeValue_cases preferred v with
      ⟨chosen, allowed, _, avoided, written⟩ | braced
    · have narrow : Utf8.size [chosen] = 1 := by
        rcases allowed with rfl | rfl <;> decide
      rw [written, ← List.cons_append, Document.spells_append] at spelt
      rw [← Document.stringValue_quoted_iff scalar avoided narrow quoted spelt.1,
        ofValue, quoted.kind]
      simp only [bind_eq_ok, pure_eq_ok, static.injEq, exists_eq_right, unbraced, false_or]
    · exact absurd braced unbraced
  | braced braced kind first inside parsed =>
    rw [braced] at spelt
    exact ⟨fun _ => .inl braced, fun _ => ofValue_braced scalar kind first inside parsed spelt⟩

end ClassName

namespace Editor

variable {document : Document} {element : Element} {v : Text}

/-- An attribute is not set without an edit. -/
lemma setAttribute_ne_nil (document : Document) (element : Element) (name value : Text) :
    element.setAttribute document name value ≠ .ok [] := by
  intro recorded
  simp only [Element.setAttribute, bind_eq_ok] at recorded
  obtain ⟨found, _, recorded⟩ := recorded
  repeat' split at recorded
  all_goals
    simp only [bind_eq_ok, pure_eq_ok, List.cons_ne_nil, and_false, exists_false] at recorded

/-- Asking for a class name gives no edits exactly if it is the one that is reported. -/
lemma classNameEdits_eq_nil_iff (filled : v ≠ []) :
    classNameEdits document element (some v) = .ok [] ↔
      ClassName.ofElement document element.node = .ok (.static v) := by
  refine ⟨fun recorded => ?_, classNameEdits_echo⟩
  unfold classNameEdits at recorded
  cases read : ClassName.ofElement document element.node with
  | error defect =>
    rw [read] at recorded
    cases recorded
  | ok report =>
    cases report with
    | dynamic expression condition trueValue falseValue =>
      rw [read] at recorded
      cases recorded
    | static current =>
      simp only [read, lift_ok, ok_bind] at recorded
      split at recorded
      · rename_i same
        rw [same]
      · rw [if_neg (by simpa using filled)] at recorded
        exact absurd recorded (setAttribute_ne_nil document element _ v)

/-- A class name is written between quotes that it does not hold or between braces. Once it has been
written, it is read as it was asked for, and can be asked for again without an edit, exactly if it
stands between braces or holds no hexadecimal reference that is marked with a capital letter. -/
theorem class_name_reads_back (document : Document) (element : Element)
    (attr : Attribute) (node : Node) (quote : CodePoint) (v : Text)
    (preferred : Literal.IsQuote quote) (filled : v ≠ []) (scalar : v.isScalar = true)
    (held : element.node.attribute? document ClassName.attributeName = .ok (some attr))
    (valued : attr.value? = some node) (shown : node.ShowsValue quote v)
    (spelt : document.Spells node.start (Literal.attributeValue [quote] v)) :
    ((∃ chosen, Literal.IsQuote chosen ∧ chosen ∉ v ∧
        Literal.attributeValue [quote] v = chosen :: (v ++ [chosen])) ∨
      Literal.attributeValue [quote] v = Literal.braced v) ∧
    (ClassName.ofValue document node = .ok (.static v) ↔ ClassName.ReadsBack quote v) ∧
    (classNameEdits document element (some v) = .ok [] ↔ ClassName.ReadsBack quote v) := by
  have reported : ClassName.ofElement document element.node = ClassName.ofValue document node := by
    rw [ClassName.ofElement, held, ok_bind, ClassName.ofAttribute, valued]
  rw [classNameEdits_eq_nil_iff filled, reported, and_self]
  refine ⟨?_, ClassName.ofValue_iff preferred scalar shown spelt⟩
  rcases Literal.attributeValue_cases preferred v with
    ⟨chosen, allowed, absent, _, written⟩ | braced
  · exact .inl ⟨chosen, allowed, absent, written⟩
  · exact .inr braced

end Editor

namespace Sample.Classed

/-- A file with an element whose class name stands as it is written. -/
def source (written : Text) : Bytes := Utf8.encodeAll ("<b className=" ++ written ++ "/>;")

/-- The attribute with the class name. -/
def classAttribute (value : Node) : Node :=
  part .attribute 3 value.stop [part (.other "property_identifier") 3 12 [],
    ⟨.equals, false, false, none, 12, 13, []⟩, value]

/-- The element. -/
def bold (value : Node) : Node :=
  part .selfClosing 0 (value.stop + 2) [mark "<" 0 1, tagName 1 2, classAttribute value,
    mark "/>" value.stop (value.stop + 2)]

/-- The statement around the element. -/
def statement (value : Node) : Node :=
  part (.other "expression_statement") 0 (value.stop + 3)
    [bold value, mark ";" (value.stop + 2) (value.stop + 3)]

/-- The tree of the file. -/
def tree (value : Node) : Node :=
  part (.other "program") 0 (value.stop + 3) [statement value]

/-- The file as it is parsed. -/
def document (written : Text) (value : Node) : Document := ⟨source written, tree value, .tsx⟩

/-- The element where it stands. -/
def element (value : Node) : Element :=
  ⟨⟨bold value, [(statement value, 0), (tree value, 0)]⟩, .selfClosing, "b", ⟨1, 0⟩⟩

/-- A class name with both quotes, a reference and a character of two bytes. -/
def mixed : Text := "\"'&amp;é"

/-- The literal of that class name, of which a quote is escaped. -/
def mixedLiteral : Node :=
  part .string 14 26 [mark "\"" 14 15, part .escape 15 17 [],
    part (.other "string_fragment") 17 25 [], mark "\"" 25 26]

/-- The braces around the literal. -/
def mixedValue : Node :=
  part .container 13 27 [mark "\x7b" 13 14, mixedLiteral, mark "\x7d" 26 27]

/-- The file with that class name as it is parsed. -/
def mixedDocument : Document := document (Literal.braced mixed) mixedValue

/-- A class name that is a reference marked with a capital letter. -/
def capital : Text := "&#X41;"

/-- That class name between quotes. -/
def capitalValue : Node :=
  part .string 13 21 [mark "\"" 13 14, part .reference 14 20 [], mark "\"" 20 21]

/-- The editor that knows the tree of the file with that class name. -/
def capitalEditor : Editor := editorFor (source "\"&#X41;\"") (tree capitalValue)

end Sample.Classed

namespace Editor

/-- A class name with both quotes and a reference is written between braces, and can be asked for
again. -/
theorem class_name_reads_back_sample :
    Literal.attributeValue [CodePoint.ofChar '\''] Sample.Classed.mixed =
      Literal.braced Sample.Classed.mixed ∧
      Sample.Classed.mixedValue.ShowsValue (CodePoint.ofChar '\'') Sample.Classed.mixed ∧
      classNameEdits Sample.Classed.mixedDocument (Sample.Classed.element Sample.Classed.mixedValue)
        (some Sample.Classed.mixed) = .ok [] := by
  have braced : Literal.attributeValue [CodePoint.ofChar '\''] Sample.Classed.mixed =
      Literal.braced Sample.Classed.mixed := by decide +kernel
  have shown : Sample.Classed.mixedValue.ShowsValue (CodePoint.ofChar '\'') Sample.Classed.mixed :=
    @Node.ShowsValue.braced _ _ _ Sample.Classed.mixedLiteral braced rfl rfl rfl
      ⟨rfl, by decide +kernel, by decide +kernel⟩
  have spelt : Sample.Classed.mixedDocument.Spells 13
      (Literal.attributeValue [CodePoint.ofChar '\''] Sample.Classed.mixed) := by
    unfold Document.Spells
    decide +kernel
  have back := class_name_reads_back Sample.Classed.mixedDocument
    (Sample.Classed.element Sample.Classed.mixedValue)
    ⟨Sample.Classed.classAttribute Sample.Classed.mixedValue, some (Sample.tagName 1 2)⟩
    Sample.Classed.mixedValue (CodePoint.ofChar '\'') Sample.Classed.mixed (.inr rfl)
    (by decide +kernel) (by decide +kernel) rfl rfl shown spelt
  exact ⟨braced, shown, back.2.2.2 (.inl braced)⟩

/-- A reference that is marked with a capital letter is written between quotes and read as a
character: asking for the class name again writes the file. -/
theorem class_name_rewritten :
    Sample.Classed.capitalValue.ShowsValue (CodePoint.ofChar '"') Sample.Classed.capital ∧
      Literal.attributeValue [CodePoint.ofChar '"'] Sample.Classed.capital =
        Text.ofString "\"&#X41;\"" ∧
      ClassName.ofValue (Sample.Classed.document "\"&#X41;\"" Sample.Classed.capitalValue)
        Sample.Classed.capitalValue = .ok (.static "A") ∧
      (Sample.Classed.capitalEditor.update
        (Sample.storeOf (Sample.Classed.source "\"&#X41;\"")) Sample.root
        "page.tsx:1:0" ⟨some Sample.Classed.capital, none⟩).1.changed = true := by
  refine ⟨.quoted (by decide +kernel) ⟨rfl, by decide +kernel, by decide +kernel⟩, ?_⟩
  decide +kernel

end Editor

end Retouch
