import Mathlib
import Retouch.Model.Schema
import Retouch.Proofs.Literal

/-!
# Requests and reports through data and back

Whatever is written as data is read back as what it was. The fields of an object are found again
because no two labels of one object share a spelling (`Label.Apart`); a field that is left out
because it has no value is read as its default, which is to have none. So each check undoes its own
way of writing, in every style (`Check.Reads`), and requests and reports of every kind survive
(`Style.check_dump`).
-/

namespace Retouch

namespace Text

/-- Different strings are different texts. -/
lemma ofString_injective : Function.Injective ofString := by
  intro s t same
  have chars : Function.Injective CodePoint.ofChar := by
    intro c d same
    have numbers : c.toNat = d.toNat := congrArg (fun point : CodePoint => point.val) same
    exact Char.toNat_inj.1 numbers
  exact String.toList_injective (List.map_injective_iff.2 chars same)

end Text

namespace Label

/-- Labels that share no spelling. -/
def Apart (a b : Label) : Prop :=
  a.snake ≠ b.snake ∧ a.snake ≠ b.camel ∧ a.camel ≠ b.snake ∧ a.camel ≠ b.camel

/-- Labels that share no spelling share none in the other order either. -/
lemma Apart.symm {a b : Label} (apart : a.Apart b) : b.Apart a :=
  ⟨apart.1.symm, apart.2.2.1.symm, apart.2.1.symm, apart.2.2.2.symm⟩

/-- A spelling of a label. -/
def Spells (label : Label) (name : String) : Prop :=
  name = label.snake ∨ name = label.camel

/-- The spelling in which a label is written is one of its spellings. -/
lemma spells_spelling (label : Label) (naming : Naming) : label.Spells (label.spelling naming) := by
  cases naming with
  | snake => exact .inl rfl
  | camel => exact .inr rfl

/-- A spelling of a label is none of a label that shares none with it. -/
lemma Apart.not_spells {a b : Label} (apart : a.Apart b) {name : String} (left : a.Spells name) :
    ¬ b.Spells name := by
  obtain ⟨_, _, _, _⟩ := apart
  rcases left with rfl | rfl <;> rintro (same | same) <;> contradiction

end Label

namespace Value

/-- The fields of an object as they are written. -/
def written (style : Style) (fields : List (Label × Value)) : Fields :=
  (fields.filter fun field => style.keepNull || !field.2.isNull).map fun field =>
    (field.1.spelling style.naming, field.2)

/-- An object holds its fields as they are written. -/
lemma record_eq (style : Style) (fields : List (Label × Value)) :
    record style fields = .object (written style fields) :=
  rfl

section Fields

variable {style : Style} {fields : List (Label × Value)} {field other : Label × Value}
    {name : String}

/-- Labels of one object that share no spelling. -/
def Distinct (fields : List (Label × Value)) : Prop :=
  (fields.map (·.1)).Pairwise Label.Apart

/-- Two fields of one object with a common spelling are the same field. -/
lemma Distinct.eq_of_spells (distinct : Distinct fields) (mem : field ∈ fields)
    (mem' : other ∈ fields) (left : field.1.Spells name) (right : other.1.Spells name) :
    field = other := by
  have symm : Std.Symm fun a b : Label × Value => a = b ∨ a.1.Apart b.1 :=
    ⟨fun _ _ related => related.imp Eq.symm Label.Apart.symm⟩
  have related : field = other ∨ field.1.Apart other.1 :=
    List.Pairwise.forall_of_forall (R := fun a b : Label × Value => a = b ∨ a.1.Apart b.1)
      (fun _ _ => .inl rfl) ((List.pairwise_map.1 distinct).imp .inr) mem mem'
  exact related.resolve_right fun apart => apart.not_spells left right

/-- Under a spelling of its label a field is found if it is written in this spelling and not left
out. -/
lemma find?_written (distinct : Distinct fields) (mem : field ∈ fields)
    (spells : field.1.Spells name) :
    (written style fields).find? (fun entry => entry.1 = name) =
      if (style.keepNull || !field.2.isNull) = true ∧ field.1.spelling style.naming = name then
        some (name, field.2)
      else none := by
  rw [written, List.find?_map, List.find?_filter]
  cases found : fields.find? _ with
  | none =>
    rw [List.find?_eq_none] at found
    have absent := found field mem
    simp_all
  | some hit =>
    have keeps := List.find?_some found
    simp only [Function.comp_apply, Bool.decide_and, Bool.and_eq_true, decide_eq_true_eq] at keeps
    -- What is found has the same spelling, and no other field has it.
    have same : hit = field := distinct.eq_of_spells (List.mem_of_find?_eq_some found) mem
      (keeps.2 ▸ Label.spells_spelling _ _) spells
    subst same
    simp [keeps]

/-- A field that is written is found again under its label, and one that is left out is not. -/
lemma field?_written (distinct : Distinct fields) (mem : field ∈ fields) :
    Check.field? (written style fields) field.1 =
      if style.keepNull || !field.2.isNull then some (field.1.spelling style.naming, field.2)
      else none := by
  change (((written style fields).find? fun entry => entry.1 = field.1.camel).or
    ((written style fields).find? fun entry => entry.1 = field.1.snake)) = _
  rw [find?_written distinct mem (.inr rfl), find?_written distinct mem (.inl rfl)]
  obtain ⟨⟨snake, camel⟩, value⟩ := field
  by_cases same : snake = camel
  · cases style.naming <;> simp [Label.spelling, same]
  · cases style.naming <;> simp [Label.spelling, same, Ne.symm same]

end Fields

end Value

namespace Checked

/-- A valid part is valid wherever it stands. -/
@[simp]
lemma within_valid (step : Step) (a : α) : within step (.valid a) = .valid a := rfl

/-- What is built from one valid part is valid. -/
lemma first_valid {f : α → β} {x : Checked α} {a : α} (part : x = .valid a) :
    f <$> x = .valid (f a) :=
  part ▸ rfl

/-- A valid part after other valid parts leaves the whole valid. -/
lemma next_valid {f : α → β} {xs : Checked (α → β)} {x : Checked α} {a : α} (parts : xs = .valid f)
    (part : x = .valid a) : xs <*> x = .valid (f a) :=
  parts ▸ part ▸ rfl

end Checked

namespace Check

/-- A check that makes of a value, which is not null, what was written as it. -/
structure Reads (check : Value → Checked α) (value : Value) (a : α) : Prop where
  filled : value.isNull = false
  valid : check value = .valid a

/-- A text is read back. -/
lemma reads_text (t : Text) : Reads text (.text t) t := ⟨rfl, rfl⟩

/-- A truth value is read back. -/
lemma reads_bool (b : Bool) : Reads bool (.bool b) b := ⟨rfl, rfl⟩

/-- A number is read back. -/
lemma reads_int (n : Int) : Reads int (.int n) n := ⟨rfl, rfl⟩

/-- A number that reaches the bound is read back. -/
lemma reads_intFrom {bound n : Nat} (least : bound ≤ n) :
    Reads (intFrom bound) (.int n) ⟨n, least⟩ :=
  ⟨rfl, by simp [intFrom, int, least]⟩

/-- A text that is not empty and has no surrogates is read back. -/
lemma reads_nonEmptyText {t : Text} (nonEmpty : t ≠ []) (scalar : t.isScalar = true) :
    Reads nonEmptyText (.text t) ⟨t, nonEmpty, scalar⟩ :=
  ⟨rfl, by simp [nonEmptyText, nonEmpty, scalar]⟩

/-- A fixed word is read back. -/
lemma reads_literal (word : String) : Reads (literal word) (.ofString word) () :=
  ⟨rfl, by simp [literal, Value.ofString, legible, Text.isScalar_ofString]⟩

/-- One of some alternatives is known by its code. -/
lemma reads_oneOf {code : α → String} {alternatives : List α}
    (distinct : (alternatives.map code).Nodup) {a : α} (mem : a ∈ alternatives) :
    Reads (oneOf code alternatives) (.ofString (code a)) a := by
  refine ⟨rfl, ?_⟩
  have found :
      alternatives.find? (fun b => Text.ofString (code b) = Text.ofString (code a)) = some a := by
    cases found : alternatives.find? (fun b => Text.ofString (code b) = Text.ofString (code a)) with
    | none => simpa using List.find?_eq_none.1 found a mem
    | some b =>
      have same : code b = code a := Text.ofString_injective (by simpa using List.find?_some found)
      rw [List.inj_on_of_nodup_map distinct (List.mem_of_find?_eq_some found) mem same]
  simp [oneOf, Value.ofString, legible, Text.isScalar_ofString, found]

/-- What is left out is read as such. -/
lemma optional_ofOption {check : Value → Checked α} {write : α → Value}
    (reads : ∀ a, Reads check (write a) a) (o : Option α) :
    optional check (.ofOption write o) = .valid o := by
  cases o with
  | none => rfl
  | some a =>
    obtain ⟨filled, valid⟩ := reads a
    rw [Value.ofOption]
    cases value : write a with
    | null => simp [value, Value.isNull] at filled
    | _ => simp [optional, ← value, valid, Checked.map]

/-- Where no value is written as null, what is written as null is no value. -/
lemma eq_none_of_isNull {write : α → Value} (filled : ∀ a, (write a).isNull = false) {o : Option α}
    (null : (Value.ofOption write o).isNull = true) : o = none := by
  cases o with
  | none => rfl
  | some a =>
    rw [Value.ofOption, filled] at null
    cases null

/-- The items of a list are read one after the other, wherever the first one is. -/
lemma items_map {check : Value → Checked α} {write : α → Value}
    (reads : ∀ a, Reads check (write a) a) (as : List α) (i : Nat) :
    items check i (as.map write) = .valid as := by
  induction as generalizing i with
  | nil => rfl
  | cons a as ih =>
    rw [List.map_cons, items, (reads a).valid]
    exact Checked.next_valid (Checked.first_valid rfl) (ih (i + 1))

/-- A list is read back if each of its items is. -/
lemma reads_list {check : Value → Checked α} {write : α → Value}
    (reads : ∀ a, Reads check (write a) a) (as : List α) :
    Reads (list check) (.list (as.map write)) as :=
  ⟨rfl, items_map reads as 0⟩

section Fields

variable {style : Style} {fields : List (Label × Value)} {label : Label} {value : Value}
    {check : Value → Checked α} {a default : α}

/-- A field that has to be given is read back from what is written. -/
lemma required_written (distinct : Value.Distinct fields) (mem : (label, value) ∈ fields)
    (reads : Reads check value a) :
    required (Value.written style fields) label check = .valid a := by
  simp [required, Value.field?_written distinct mem, reads.filled, reads.valid]

/-- A field that is left out has its default. -/
lemma withDefault_written (distinct : Value.Distinct fields) (mem : (label, value) ∈ fields)
    (valid : check value = .valid a) (absent : value.isNull = true → a = default) :
    withDefault (Value.written style fields) label default check = .valid a := by
  rw [withDefault, Value.field?_written distinct mem]
  cases null : value.isNull with
  | false => simp [valid]
  | true =>
    obtain rfl := absent null
    cases style.keepNull <;> simp [valid]

/-- A field that may be left out is read back from what is written. -/
lemma withDefault_filled (distinct : Value.Distinct fields) (mem : (label, value) ∈ fields)
    (reads : Reads check value a) :
    withDefault (Value.written style fields) label default check = .valid a :=
  withDefault_written distinct mem reads.valid fun null => by
    rw [reads.filled] at null
    cases null

/-- A field that is left out has no value. -/
lemma withDefault_none {write : α → Value} {o : Option α} (distinct : Value.Distinct fields)
    (mem : (label, .ofOption write o) ∈ fields) (reads : ∀ a, Reads check (write a) a) :
    withDefault (Value.written style fields) label none (optional check) = .valid o :=
  withDefault_written distinct mem (optional_ofOption reads o)
    (eq_none_of_isNull fun a => (reads a).filled)

/-- An object is read back if its check accepts the fields as they are written. -/
lemma reads_record {check : Fields → Checked α} (distinct : Value.Distinct fields)
    (valid : Value.Distinct fields → check (Value.written style fields) = .valid a) :
    Reads (object check) (.record style fields) a :=
  ⟨rfl, valid distinct⟩

/-- Of some variants the one is read whose tag is written. -/
lemma reads_variant {variants : List (String × (Value → Checked α))} {name : String}
    {check : Fields → Checked α} (distinct : Value.Distinct ((tagLabel, .ofString name) :: fields))
    (known : variants.find? (fun variant => variant.1 = name) = some (name, object check))
    (valid : Value.Distinct ((tagLabel, .ofString name) :: fields) →
      withDefault (Value.written style ((tagLabel, .ofString name) :: fields)) tagLabel ()
        (literal name) = .valid () →
      check (Value.written style ((tagLabel, .ofString name) :: fields)) = .valid a) :
    Reads (tagged variants) (.record style ((tagLabel, .ofString name) :: fields)) a := by
  refine ⟨rfl, ?_⟩
  have tag : field? (Value.written style ((tagLabel, .ofString name) :: fields)) tagLabel =
      some (tagLabel.spelling style.naming, .text (Text.ofString name)) := by
    simpa [Value.ofString, Value.isNull] using Value.field?_written distinct List.mem_cons_self
  have chosen : variants.find? (fun variant => Text.ofString variant.1 = Text.ofString name) =
      some (name, object check) := by
    simpa only [Text.ofString_injective.eq_iff] using known
  have read := valid distinct (withDefault_filled distinct List.mem_cons_self (reads_literal name))
  rw [Value.record_eq, tagged]
  simp only [tag]
  rw [chosen]
  exact congrArg (Checked.within (.key name)) read

end Fields

end Check

open Check Checked

namespace Location

/-- A location is read back. -/
lemma reads_dump (style : Style) (location : Location) :
    Reads check (location.dump style) location := by
  obtain ⟨path, line, column, nonEmpty, scalar, positive⟩ := location
  refine reads_record (by simp [Value.Distinct, Label.Apart, Label.plain]) fun distinct => ?_
  refine next_valid (a := (⟨column, column.zero_le⟩ : { n : Nat // 0 ≤ n })) (next_valid
    (a := (⟨line, positive⟩ : { n : Nat // 1 ≤ n })) (first_valid
    (a := (⟨path, nonEmpty, scalar⟩ : { t : Text // t ≠ [] ∧ t.isScalar })) ?_) ?_) ?_
  · exact required_written distinct (by simp) (reads_nonEmptyText nonEmpty scalar)
  · exact required_written distinct (by simp) (reads_intFrom positive)
  · exact required_written distinct (by simp) (reads_intFrom column.zero_le)

end Location

namespace ClassName

/-- The report on a class name is read back. -/
lemma reads_dump (style : Style) (className : ClassName) :
    Reads check (className.dump style) className := by
  cases className with
  | static value =>
    refine reads_variant (by simp [Value.Distinct, Label.Apart, Label.plain, tagLabel]) rfl
      fun distinct tag => ?_
    exact next_valid (first_valid tag) (withDefault_filled distinct (by simp) (reads_text value))
  | dynamic expression condition trueValue falseValue =>
    refine reads_variant (by simp [Value.Distinct, Label.Apart, Label.plain, tagLabel]) rfl
      fun distinct tag => ?_
    refine next_valid (next_valid (next_valid (next_valid (first_valid tag) ?_) ?_) ?_) ?_
    · exact withDefault_none distinct (by simp) reads_text
    · exact withDefault_none distinct (by simp) reads_text
    · exact withDefault_none distinct (by simp) reads_text
    · exact withDefault_none distinct (by simp) reads_text

end ClassName

namespace TextContent

/-- The reason why a text is dynamic is read back from its code. -/
lemma reads_reason (reason : Reason) :
    Reads (oneOf Reason.code Reason.all) (.ofString reason.code) reason :=
  reads_oneOf (by decide) (by cases reason <;> decide)

/-- The report on a text is read back. -/
lemma reads_dump (style : Style) (content : TextContent) :
    Reads check (content.dump style) content := by
  cases content with
  | static value =>
    refine reads_variant (by simp [Value.Distinct, Label.Apart, Label.plain, tagLabel]) rfl
      fun distinct tag => ?_
    exact next_valid (first_valid tag) (withDefault_filled distinct (by simp) (reads_text value))
  | dynamic reason expression =>
    refine reads_variant (by simp [Value.Distinct, Label.Apart, Label.plain, tagLabel]) rfl
      fun distinct tag => ?_
    refine next_valid (next_valid (first_valid tag) ?_) ?_
    · exact required_written distinct (by simp) (reads_reason reason)
    · exact withDefault_none distinct (by simp) reads_text

end TextContent

namespace Placement

/-- The reason why a placement is dynamic is read back from its code. -/
lemma reads_reason (reason : Reason) :
    Reads (oneOf Reason.code Reason.all) (.ofString reason.code) reason :=
  reads_oneOf (by decide) (by cases reason <;> decide)

/-- The report on a placement is read back. -/
lemma reads_dump (style : Style) (placement : Placement) :
    Reads check (placement.dump style) placement := by
  cases placement with
  | static =>
    refine reads_variant (by simp [Value.Distinct]) rfl fun _ tag => ?_
    exact first_valid tag
  | dynamic reason =>
    refine reads_variant (by simp [Value.Distinct, Label.Apart, Label.plain, tagLabel]) rfl
      fun distinct tag => ?_
    exact next_valid (first_valid tag) (required_written distinct (by simp) (reads_reason reason))

end Placement

namespace Updates

/-- The updates of a request are read back. -/
lemma reads_dump (style : Style) (updates : Updates) :
    Reads check (updates.dump style) updates := by
  obtain ⟨className, textContent⟩ := updates
  refine reads_record (by simp [Value.Distinct, Label.Apart]) fun distinct => ?_
  refine next_valid (first_valid ?_) ?_
  · exact withDefault_none distinct (by simp) reads_text
  · exact withDefault_none distinct (by simp) reads_text

end Updates

namespace NearbyElement

/-- An element that a search reports as near is read back. -/
lemma reads_dump (style : Style) (element : NearbyElement) :
    Reads check (element.dump style) element := by
  obtain ⟨line, column, tag⟩ := element
  refine reads_record (by simp [Value.Distinct, Label.Apart, Label.plain]) fun distinct => ?_
  refine next_valid (next_valid (first_valid ?_) ?_) ?_
  · exact required_written distinct (by simp) (reads_int line)
  · exact required_written distinct (by simp) (reads_int column)
  · exact required_written distinct (by simp) (reads_text tag)

end NearbyElement

namespace Diagnostics

/-- The diagnostics of a search are read back. -/
lemma reads_dump (style : Style) (diagnostics : Diagnostics) :
    Reads check (diagnostics.dump style) diagnostics := by
  obtain ⟨scanned, nearby⟩ := diagnostics
  refine reads_record (by simp [Value.Distinct, Label.Apart, Label.plain]) fun distinct => ?_
  refine next_valid (first_valid ?_) ?_
  · exact withDefault_filled distinct (by simp) (reads_int scanned)
  · exact withDefault_filled distinct (by simp) (reads_list (NearbyElement.reads_dump style) nearby)

end Diagnostics

/-- A kind of failure is read back from its code. -/
lemma FailureKind.reads_code (kind : FailureKind) :
    Reads FailureKind.check (.ofString kind.code) kind :=
  reads_oneOf (by decide) (by cases kind <;> decide)

namespace AnalysisReport

/-- The report of an analysis is read back. -/
lemma reads_dump (style : Style) (report : AnalysisReport) :
    Reads check (report.dump style) report := by
  obtain ⟨success, componentId, tag, className, textContent, placement, error, errorKind,
    diagnostics⟩ := report
  refine reads_record (by simp [Value.Distinct, Label.Apart, Label.plain]) fun distinct => ?_
  refine next_valid
    (next_valid (next_valid (next_valid (next_valid (next_valid (next_valid (next_valid
    (first_valid ?_) ?_) ?_) ?_) ?_) ?_) ?_) ?_) ?_
  · exact required_written distinct (by simp) (reads_bool success)
  · exact required_written distinct (by simp) (reads_text componentId)
  · exact withDefault_none distinct (by simp) reads_text
  · exact withDefault_none distinct (by simp) (ClassName.reads_dump style)
  · exact withDefault_none distinct (by simp) (TextContent.reads_dump style)
  · exact withDefault_none distinct (by simp) (Placement.reads_dump style)
  · exact withDefault_none distinct (by simp) reads_text
  · exact withDefault_none distinct (by simp) FailureKind.reads_code
  · exact withDefault_none distinct (by simp) (Diagnostics.reads_dump style)

end AnalysisReport

namespace MutationReport

/-- The report of a change is read back. -/
lemma reads_dump (style : Style) (report : MutationReport) :
    Reads check (report.dump style) report := by
  obtain ⟨success, filePath, changed, error, errorKind, diagnostics⟩ := report
  refine reads_record (by simp [Value.Distinct, Label.Apart, Label.plain]) fun distinct => ?_
  refine next_valid
    (next_valid (next_valid (next_valid (next_valid (first_valid ?_) ?_) ?_) ?_) ?_) ?_
  · exact required_written distinct (by simp) (reads_bool success)
  · exact withDefault_none distinct (by simp) reads_text
  · exact withDefault_filled distinct (by simp) (reads_bool changed)
  · exact withDefault_none distinct (by simp) reads_text
  · exact withDefault_none distinct (by simp) FailureKind.reads_code
  · exact withDefault_none distinct (by simp) (Diagnostics.reads_dump style)

end MutationReport

/-- Locations, requested updates and reports are read back as what they were, whatever the style in
which they were written: with either spelling of the names of fields, and with or without the fields
that have no value. -/
theorem Style.check_dump (style : Style) :
    (∀ location : Location, Location.check (location.dump style) = .valid location) ∧
    (∀ updates : Updates, Updates.check (updates.dump style) = .valid updates) ∧
    (∀ report : AnalysisReport, AnalysisReport.check (report.dump style) = .valid report) ∧
    ∀ report : MutationReport, MutationReport.check (report.dump style) = .valid report := by
  refine ⟨?_, ?_, ?_, ?_⟩
  · exact fun location => (Location.reads_dump style location).valid
  · exact fun updates => (Updates.reads_dump style updates).valid
  · exact fun report => (AnalysisReport.reads_dump style report).valid
  · exact fun report => (MutationReport.reads_dump style report).valid

end Retouch
