import Retouch.Model.Value
import Retouch.Text.Numeral
import Retouch.Text.Quote
import Retouch.Text.Utf8

/-!
# Data as JSON text

Writing a value over several lines, and reading one. A text that is no value is refused at the
position where reading cannot go on.
-/

namespace Retouch.Json

/-! ## Writing -/

/-- A line break followed by spaces for a depth. -/
def lineBreak (depth : Nat) : Text :=
  CodePoint.ofChar '\n' :: List.replicate (2 * depth) (CodePoint.ofChar ' ')

/-- A number with a decimal point. -/
def writeDecimal (digits : Int) (places : Nat) : Text :=
  let whole := digits.natAbs / Nat.pow 10 places
  let rest := Text.ofNat (digits.natAbs % Nat.pow 10 places)
  let sign : Text := if digits < 0 then "-" else ""
  sign ++ Text.ofNat whole ++ "." ++
    List.replicate (places - rest.length) (CodePoint.ofChar '0') ++ rest

mutual

/-- A value inside others, with its own parts on lines of their own. -/
def write (depth : Nat) : Value → Text
  | .null => "null"
  | .bool b => if b then "true" else "false"
  | .int n => Text.ofInt n
  | .decimal digits places => writeDecimal digits places
  | .irregular => "NaN"
  | .text t => Text.literal t
  | .list [] => "[]"
  | .list (item :: items) =>
    "[" ++ lineBreak (depth + 1) ++ write (depth + 1) item ++ writeItems (depth + 1) items ++
      lineBreak depth ++ "]"
  | .object [] => "\x7b\x7d"
  | .object (field :: fields) =>
    "\x7b" ++ lineBreak (depth + 1) ++ writeField (depth + 1) field ++ writeFields (depth + 1) fields ++
      lineBreak depth ++ "\x7d"

/-- The items of a list after the first. -/
def writeItems (depth : Nat) : List Value → Text
  | [] => []
  | item :: items => "," ++ lineBreak depth ++ write depth item ++ writeItems depth items

/-- A field of an object. -/
def writeField (depth : Nat) : String × Value → Text
  | (name, value) => Text.literal (Text.ofString name) ++ ": " ++ write depth value

/-- The fields of an object after the first. -/
def writeFields (depth : Nat) : List (String × Value) → Text
  | [] => []
  | field :: fields => "," ++ lineBreak depth ++ writeField depth field ++ writeFields depth fields

end

mutual

/-- The first lone surrogates in the texts of a value, because of which it cannot be written to a
file. -/
def encodeError? : Value → Option Utf8.EncodeError
  | .text t => Utf8.encodeError? t
  | .list items => firstEncodeError? items
  | .object fields => fieldEncodeError? fields
  | _ => none

/-- The first lone surrogates in the items of a list. -/
def firstEncodeError? : List Value → Option Utf8.EncodeError
  | [] => none
  | item :: items => (encodeError? item).or (firstEncodeError? items)

/-- The first lone surrogates in the fields of an object. -/
def fieldEncodeError? : List (String × Value) → Option Utf8.EncodeError
  | [] => none
  | (_, value) :: fields => (encodeError? value).or (fieldEncodeError? fields)

end

/-! ## Reading -/

/-- Why a text is not read as a value. -/
inductive Refusal where
  /-- Reading cannot go on at a position. -/
  | unexpected (position : Nat)
  /-- A whole number has more digits than are read. -/
  | tooManyDigits
  /-- Lists and objects stand inside each other too deep. -/
  | tooDeep
  deriving DecidableEq

/-- How deep lists and objects may stand inside each other. -/
def depthLimit : Nat := 950

/-- What is left of a text after a part has been read. -/
structure Rest where
  position : Nat
  text : Text

namespace Rest

/-- The next code point. -/
def head? (rest : Rest) : Option CodePoint :=
  rest.text.head?

/-- What is left after some code points. -/
def skip (rest : Rest) (count : Nat) : Rest :=
  ⟨rest.position + count, rest.text.drop count⟩

/-- What is left after blanks. -/
def skipBlanks (rest : Rest) : Rest :=
  rest.skip (rest.text.takeWhile fun (c : CodePoint) => c == ' ' || c == '\t' || c == '\n' || c == '\r').length

/-- Decides whether a word comes next. -/
def starts (rest : Rest) (word : String) : Bool :=
  (Text.ofString word).isPrefixOf rest.text

/-- The refusal to go on here. -/
def refuse (rest : Rest) : Except Refusal α :=
  .error (.unexpected rest.position)

end Rest

/-- The number of four hexadecimal digits. -/
def hexUnit? (t : Text) : Option Nat :=
  match (t.take 4).mapM CodePoint.hexValue? with
  | some [a, b, c, d] => some (((a * 16 + b) * 16 + c) * 16 + d)
  | _ => none

/-- The characters that a letter after a backslash names. -/
def escapes : List (CodePoint × CodePoint) := [
  ('"', 0x22), ('\\', 0x5C), ('/', 0x2F), ('b', 0x08), ('f', 0x0C), ('n', 0x0A), ('r', 0x0D), ('t', 0x09)]

/-- Reads the rest of a string whose opening quote stands at `opening`, given what has been read of
it, the last first. -/
def readString (opening : Nat) : (steps : Nat) → Rest → (done : Text) → Except Refusal (Text × Rest)
  | 0, _, _ => .error (.unexpected opening)
  | steps + 1, rest, done =>
    match rest.text with
    | [] => .error (.unexpected opening)
    | c :: tail =>
      if c = '"' then .ok (done.reverse, rest.skip 1)
      else if c = '\\' then
        match tail with
        | [] => .error (.unexpected opening)
        | d :: digits =>
          if d = 'u' then
            match hexUnit? digits with
            | none => (rest.skip 1).refuse
            | some high =>
              if (digits.drop 4).isEmpty then (rest.skip 1).refuse
              else
                let after := rest.skip 6
                let pair? := if 0xD800 ≤ high ∧ high ≤ 0xDBFF ∧ !(after.text.drop 6).isEmpty ∧
                    after.starts "\\u" then some (after.skip 2) else none
                match pair? with
                | none => readString opening steps after (Fin.ofNat _ high :: done)
                | some second =>
                  match hexUnit? second.text with
                  | none => (after.skip 1).refuse
                  | some low =>
                    if 0xDC00 ≤ low ∧ low ≤ 0xDFFF then
                      readString opening steps (second.skip 4)
                        (Fin.ofNat _ (0x10000 + (high - 0xD800) * 0x400 + (low - 0xDC00)) :: done)
                    else readString opening steps after (Fin.ofNat _ high :: done)
          else match escapes.lookup d with
            | some value => readString opening steps (rest.skip 2) (value :: done)
            | none => rest.refuse
      else if c.val < 0x20 then rest.refuse
      else readString opening steps (rest.skip 1) (c :: done)

/-- The number of ASCII digits. -/
def numberOf (t : Text) : Nat :=
  t.foldl (fun n c => n * 10 + (c.val - 0x30)) 0

/-- The exponent that stands at the start of a text, and its length. -/
def exponent? : Text → Option (Int × Nat)
  | [] => none
  | c :: tail =>
    if c = 'e' ∨ c = 'E' then
      let signed := tail.head?.any fun (s : CodePoint) => s == '+' || s == '-'
      let power := (if signed then tail.drop 1 else tail).takeWhile CodePoint.isAsciiDigit
      if power.isEmpty then none
      else
        let size := power.length + if signed then 2 else 1
        if tail.head? = some (CodePoint.ofChar '-') then some (-(numberOf power : Int), size)
        else some (numberOf power, size)
    else none

/-- The digits before and after the decimal point of the largest and the smallest numbers. -/
def decimalRange : Nat := 400

/-- A number with a decimal point: digits times ten to a power. One that is too large is irregular,
and one that is too small is zero. -/
def decimal (digits : Int) (size : Nat) (power : Int) : Value :=
  if digits = 0 ∨ (size : Int) + power < -(decimalRange : Int) then .decimal 0 1
  else if (decimalRange : Int) < size + power then .irregular
  else if power < 0 then .decimal digits (-power).toNat
  else .decimal (digits * Nat.pow 10 power.toNat * 10) 1

/-- Reads a number. -/
def readNumber (rest : Rest) : Except Refusal (Value × Rest) :=
  let negative := rest.head? = some (CodePoint.ofChar '-')
  let unsigned := if negative then rest.skip 1 else rest
  let digits := unsigned.text.takeWhile CodePoint.isAsciiDigit
  let whole := if digits.head? = some (CodePoint.ofChar '0') then digits.take 1 else digits
  if whole.isEmpty then rest.refuse
  else
    let after := unsigned.skip whole.length
    let places := match after.text with
      | c :: tail => if c = '.' then tail.takeWhile CodePoint.isAsciiDigit else []
      | [] => []
    let afterPlaces := if places.isEmpty then after else after.skip (places.length + 1)
    let all := whole ++ places
    let magnitude : Int := numberOf all
    let signed : Int := if negative then -magnitude else magnitude
    let size := (all.dropWhile fun (c : CodePoint) => c == '0').length
    match places.isEmpty, exponent? afterPlaces.text with
    | true, none =>
      if Numeral.digitLimit < whole.length then .error .tooManyDigits else .ok (.int signed, after)
    | _, none => .ok (decimal signed size (-(places.length : Int)), afterPlaces)
    | _, some (power, length) =>
      .ok (decimal signed size (power - places.length), afterPlaces.skip length)

/-- The fields of an object with one more, which takes the place of an older one of its name. -/
def insertField (fields : List (String × Value)) (name : String) (value : Value) : List (String × Value) :=
  if fields.any (·.1 == name) then
    fields.map fun (key, old) => if key = name then (key, value) else (key, old)
  else fields ++ [(name, value)]

mutual

/-- Reads a value, given how many lists and objects it may still open. -/
def readValue : (steps depth : Nat) → Rest → Except Refusal (Value × Rest)
  | 0, _, rest => rest.refuse
  | steps + 1, depth, rest =>
    match rest.text with
    | [] => rest.refuse
    | c :: _ =>
      if c = '"' then do
        let (t, after) ← readString rest.position steps (rest.skip 1) []
        return (.text t, after)
      else if c = '\x7b' then
        match depth with
        | 0 => .error .tooDeep
        | depth + 1 =>
          let inside := (rest.skip 1).skipBlanks
          if inside.head? = some (CodePoint.ofChar '\x7d') then .ok (.object [], inside.skip 1)
          else readFields steps depth inside []
      else if c = '[' then
        match depth with
        | 0 => .error .tooDeep
        | depth + 1 =>
          let inside := (rest.skip 1).skipBlanks
          if inside.head? = some (CodePoint.ofChar ']') then .ok (.list [], inside.skip 1)
          else readItems steps depth inside []
      else if rest.starts "null" then .ok (.null, rest.skip 4)
      else if rest.starts "true" then .ok (.bool true, rest.skip 4)
      else if rest.starts "false" then .ok (.bool false, rest.skip 5)
      else if rest.starts "NaN" then .ok (.irregular, rest.skip 3)
      else if rest.starts "Infinity" then .ok (.irregular, rest.skip 8)
      else if rest.starts "-Infinity" then .ok (.irregular, rest.skip 9)
      else readNumber rest

/-- Reads the items of a list up to its end, given those before, the last first. -/
def readItems : (steps depth : Nat) → Rest → (done : List Value) → Except Refusal (Value × Rest)
  | 0, _, rest, _ => rest.refuse
  | steps + 1, depth, rest, done => do
    let (item, after) ← readValue steps depth rest
    let next := after.skipBlanks
    if next.head? = some (CodePoint.ofChar ']') then return (.list (item :: done).reverse, next.skip 1)
    else if next.head? = some (CodePoint.ofChar ',') then
      readItems steps depth (next.skip 1).skipBlanks (item :: done)
    else next.refuse

/-- Reads the fields of an object up to its end. -/
def readFields : (steps depth : Nat) → Rest → (done : List (String × Value)) → Except Refusal (Value × Rest)
  | 0, _, rest, _ => rest.refuse
  | steps + 1, depth, rest, done => do
    if rest.head? ≠ some (CodePoint.ofChar '"') then rest.refuse
    let (name, after) ← readString rest.position steps (rest.skip 1) []
    let colon := after.skipBlanks
    if colon.head? ≠ some (CodePoint.ofChar ':') then colon.refuse
    let (value, after) ← readValue steps depth (colon.skip 1).skipBlanks
    let next := after.skipBlanks
    let fields := insertField done ((Text.toString? name).getD "") value
    if next.head? = some (CodePoint.ofChar '\x7d') then return (.object fields, next.skip 1)
    else if next.head? = some (CodePoint.ofChar ',') then
      readFields steps depth (next.skip 1).skipBlanks fields
    else next.refuse

end

/-- Reads a text as a value. -/
def read (t : Text) : Except Refusal Value := do
  let (value, after) ← readValue (2 * t.length + 2) depthLimit (Rest.mk 0 t).skipBlanks
  let last := after.skipBlanks
  if last.text.isEmpty then return value else last.refuse

end Retouch.Json
