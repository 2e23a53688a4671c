import Retouch.Model.Binary
import Retouch.Model.Issue
import Retouch.Model.Value
import Retouch.Text.Blank
import Retouch.Text.Numeral

/-!
# Checking data

Data from outside is checked part by part, and all issues are reported together, in the order of the
parts. Numbers and truth values may come in other clothes, as long as their meaning is plain.
-/

namespace Retouch

/-- What a check makes of a value. -/
inductive Checked (α : Type) where
  | valid (a : α)
  | invalid (issues : List Issue)

namespace Checked

/-- A check that finds one issue with the whole. -/
def fault (cause : Issue.Cause) : Checked α :=
  .invalid [⟨cause, []⟩]

/-- Applies a function to checked data. -/
def map (f : α → β) : Checked α → Checked β
  | .valid a => .valid (f a)
  | .invalid issues => .invalid issues

/-- Puts two checked parts together, with the issues of both. -/
def apply : Checked (α → β) → Checked α → Checked β
  | .valid f, .valid a => .valid (f a)
  | .valid _, .invalid issues => .invalid issues
  | .invalid issues, .valid _ => .invalid issues
  | .invalid issues, .invalid more => .invalid (issues ++ more)

instance : Applicative Checked where
  pure := .valid
  map := map
  seq f a := apply f (a ())

/-- Checked data that stands one step inside other data. -/
def within (step : Step) : Checked α → Checked α
  | .valid a => .valid a
  | .invalid issues => .invalid (issues.map (Issue.within step))

/-- The data, or the issues. -/
def toExcept : Checked α → Except (List Issue) α
  | .valid a => .ok a
  | .invalid issues => .error issues

end Checked

/-- The fields of an object. -/
abbrev Fields := List (String × Value)

namespace Check

/-- A text. -/
def text : Value → Checked Text
  | .text t => .valid t
  | _ => .fault .stringType

/-- A text that is looked into, which it cannot be if it holds a lone surrogate. -/
def legible (check : Text → Checked α) (t : Text) : Checked α :=
  if Text.isScalar t then check t else .fault .stringUnicode

/-- A text that is not empty. It is looked into to find that out. -/
def nonEmptyText : Value → Checked { t : Text // t ≠ [] ∧ t.isScalar }
  | .text t =>
    if scalar : t.isScalar then
      if nonEmpty : t ≠ [] then .valid ⟨t, nonEmpty, scalar⟩ else .fault .stringTooShort
    else .fault .stringUnicode
  | _ => .fault .stringType

/-- Blanks around numerals in data; the separators among the controls are none. -/
def isBlank (c : CodePoint) : Bool :=
  c.isBlank && !c.isBetween 0x1C 0x1F

/-- A digit other than zero. -/
def isPositiveDigit (c : CodePoint) : Bool :=
  c.isBetween 0x31 0x39

/-- Drops the zeros that start a numeral, with underscores among them, but keeps a last one. A sign
may come after them. -/
def dropZeros : Text → Option Text
  | [] => none
  | c :: t =>
    if c = '0' then
      match t.dropWhile fun (d : CodePoint) => d == '0' || d == '_' with
      | [] => some [(c :: t).getLast (by simp)]
      | d :: rest =>
        if isPositiveDigit d ∨ d = '-' then some (d :: rest)
        else if d = '.' then some ((c :: t).drop (t.length - rest.length - 1))
        else none
    else if isPositiveDigit c ∨ c = '-' then some (c :: t)
    else none

/-- Drops the zeros that start a numeral, with or without a sign before them. -/
def dropSignedZeros : Text → Option Text
  | [] => none
  | c :: t => if c = '-' then (dropZeros t).map (c :: ·) else dropZeros (c :: t)

/-- Drops a decimal point after which there are only zeros, but at least one. -/
def dropPlaces (t : Text) : Text :=
  let whole := t.takeWhile fun (c : CodePoint) => c != '.'
  let places := t.drop (whole.length + 1)
  if !places.isEmpty && places.all fun (c : CodePoint) => c == '0' then whole else t

/-- Decides whether two underscores stand side by side. -/
def hasDoubleUnderscore : Text → Bool
  | c :: d :: t => c == '_' && d == '_' || hasDoubleUnderscore (d :: t)
  | _ => false

/-- Drops single underscores inside a numeral. -/
def dropUnderscores (t : Text) : Text :=
  if t.head? = some (CodePoint.ofChar '_') ∨ t.getLast? = some (CodePoint.ofChar '_') ∨
      hasDoubleUnderscore t then t
  else t.filter fun (c : CodePoint) => c != '_'

/-- Decides whether a text starts like a plain numeral with more digits than are read, whatever
comes after them. -/
def isTooLong (t : Text) : Bool :=
  let unsigned := if t.head? = some (CodePoint.ofChar '-') then t.drop 1 else t
  unsigned.head?.any isPositiveDigit &&
    Numeral.digitLimit < (unsigned.takeWhile CodePoint.isAsciiDigit).length

/-- The natural number of ASCII digits without superfluous zeros. -/
def digits? (t : Text) : Option Nat :=
  match t.mapM fun c => if c.isAsciiDigit then some (c.val - 0x30) else none with
  | none => none
  | some [] => none
  | some (0 :: _ :: _) => none
  | some values => some (values.foldl (fun n d => n * 10 + d) 0)

/-- The integer of a plain numeral that is not too long. -/
def plainInt? (t : Text) : Option Int :=
  if isTooLong t then none
  else match t with
    | [] => none
    | c :: rest =>
      if c = '-' then (digits? rest).map (fun (n : Nat) => -(n : Int)) else (digits? t).map Int.ofNat

/-- A numeral without what plain ones do not have: blanks around it, a plus sign, superfluous zeros
and underscores. -/
def cleaned? (t : Text) : Option Text :=
  let trimmed := trim isBlank t
  let unsigned? := match trimmed with
    | c :: rest =>
      if c = '+' then if rest.head? = some (CodePoint.ofChar '-') then none else some rest
      else some trimmed
    | [] => none
  (unsigned?.bind dropSignedZeros).map fun numeral => dropUnderscores (dropPlaces numeral)

/-- The integer that a text names. Only a plain numeral is refused for its length. -/
def intOfText (t : Text) : Checked Int :=
  match plainInt? t with
  | some n => .valid n
  | none =>
    if isTooLong t then .fault .intParsingSize
    else match (cleaned? t).bind plainInt? with
      | some n => .valid n
      | none => .fault .intParsing

/-- The number of whole numbers that are not negative and fit into a word of sixty-four bits. -/
def wordBound : Int := 0x8000000000000000

/-- The integer of a number with a decimal point. -/
def intOfDecimal (digits : Int) (places : Nat) : Checked Int :=
  let binary := Binary.ofQuotient digits.natAbs (Nat.pow 10 places)
  if binary.isTooLarge then .fault .notFinite
  else match binary.toNat? with
    | none => .fault .intFromFraction
    | some magnitude =>
      let n : Int := if digits < 0 then -(magnitude : Int) else magnitude
      if -wordBound < n ∧ n < wordBound then .valid n else .fault .intParsingSize

/-- An integer. -/
def int : Value → Checked Int
  | .int n => .valid n
  | .bool b => .valid (if b then 1 else 0)
  | .decimal digits places => intOfDecimal digits places
  | .irregular => .fault .notFinite
  | .text t => legible intOfText t
  | _ => .fault .intType

/-- An integer that is not below a bound. -/
def intFrom (bound : Nat) (value : Value) : Checked { n : Nat // bound ≤ n } :=
  match int value with
  | .valid n => if h : (bound : Int) ≤ n then .valid ⟨n.toNat, by omega⟩ else .fault .tooSmall
  | .invalid issues => .invalid issues

/-- The words for the truth values. -/
def truthWords : List (Text × Bool) := [
  ("0", false), ("off", false), ("f", false), ("false", false), ("n", false), ("no", false),
  ("1", true), ("on", true), ("t", true), ("true", true), ("y", true), ("yes", true)]

/-- The truth value that a number stands for. Numbers beyond a word of sixty-four bits are no
candidates. -/
def boolOfInt (n : Int) : Checked Bool :=
  if n = 0 then .valid false
  else if n = 1 then .valid true
  else if -wordBound ≤ n ∧ n < wordBound then .fault .boolParsing
  else .fault .boolType

/-- A truth value. -/
def bool : Value → Checked Bool
  | .bool b => .valid b
  | .text t =>
    legible (fun t => match truthWords.lookup (t.map CodePoint.toAsciiLower) with
      | some b => .valid b
      | none => .fault .boolParsing) t
  | .int n => boolOfInt n
  | .decimal digits places =>
    match intOfDecimal digits places with
    | .valid n => boolOfInt n
    | .invalid _ => .fault .boolType
  | _ => .fault .boolType

/-- Something that may be left out. -/
def optional (check : Value → Checked α) : Value → Checked (Option α)
  | .null => .valid none
  | value => (check value).map some

/-- The items of a list, from the given number on. -/
def items (check : Value → Checked α) (i : Nat) : List Value → Checked (List α)
  | [] => .valid []
  | value :: values => List.cons <$> (check value).within (.index i) <*> items check (i + 1) values

/-- A list. -/
def list (check : Value → Checked α) : Value → Checked (List α)
  | .list values => items check 0 values
  | _ => .fault .listType

/-- One of some alternatives, each known by a code. -/
def oneOf (code : α → String) (alternatives : List α) : Value → Checked α
  | .text t =>
    legible (fun t => match alternatives.find? fun a => Text.ofString (code a) = t with
      | some a => .valid a
      | none => .fault .enumeration) t
  | _ => .fault .enumeration

/-- A fixed word. -/
def literal (word : String) : Value → Checked Unit
  | .text t => legible (fun t => if t = Text.ofString word then .valid () else .fault .literal) t
  | _ => .fault .literal

/-- An object. -/
def object (check : Fields → Checked α) : Value → Checked α
  | .object fields => check fields
  | _ => .fault .objectType

/-- A field under either spelling of its label; the camel-case one counts if both are there. -/
def field? (fields : Fields) (label : Label) : Option (String × Value) :=
  (fields.find? fun (key, _) => key = label.camel).or (fields.find? fun (key, _) => key = label.snake)

/-- A field that has to be there. -/
def required (fields : Fields) (label : Label) (check : Value → Checked α) : Checked α :=
  match field? fields label with
  | some (key, value) => (check value).within (.key key)
  | none => .invalid [⟨.missing, [.key label.camel]⟩]

/-- A field that has a value if it is not there. -/
def withDefault (fields : Fields) (label : Label) (default : α) (check : Value → Checked α) : Checked α :=
  match field? fields label with
  | some (key, value) => (check value).within (.key key)
  | none => .valid default

/-- The label of the field that tells variants apart. -/
def tagLabel : Label := .plain "kind"

/-- One of some variants, told apart by a tag. -/
def tagged (variants : List (String × (Value → Checked α))) : Value → Checked α
  | .object fields =>
    match field? fields tagLabel with
    | none => .fault .noTag
    | some (_, tag) =>
      match variants.find? fun (name, _) => match tag with
        | .text t => Text.ofString name = t
        | _ => false with
      | some (name, check) => (check (.object fields)).within (.key name)
      | none => .fault .unknownTag
  | _ => .fault .attributesType

end Check

end Retouch
