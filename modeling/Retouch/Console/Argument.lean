import Retouch.Text.Blank
import Retouch.Text.Word

/-!
# Arguments of actions

A tag can name an action with arguments, and what is written there has to be a value: a number,
quoted text, one of a few names, or a tuple, a set or a table of values. Only the form is of
interest here, since a console without a pointer runs no actions.
-/

namespace Retouch.Console.Argument

/-- What a value is as far as other values depend on it. -/
inductive Kind where
  /-- A number, whether it is imaginary and whether it has a sign. -/
  | number (imaginary signed : Bool)
  /-- Quoted text or quoted bytes. -/
  | quoted (bytes : Bool)
  /-- Any other value that can be a member of a set. -/
  | fixed
  /-- A value that cannot be a member of a set. -/
  | mutable
  deriving DecidableEq

/-- Decides whether a value can be a member of a set. -/
def Kind.isFixed (kind : Kind) : Bool :=
  kind ≠ .mutable

/-- The smallest parts of what is written. -/
inductive Token where
  | value (kind : Kind)
  /-- The name of the constructor of sets. -/
  | set
  | sign (c : CodePoint)
  /-- The end of a line outside of brackets. -/
  | lineEnd
  deriving DecidableEq

/-- Decides whether a text is made of digits of some kind, at least one, with single underscores
between them. -/
def areDigits (isDigit : CodePoint → Bool) : Text → Bool
  | [] => false
  | [c] => isDigit c
  | c :: d :: t =>
    isDigit c && (if d = '_' then areDigits isDigit t else areDigits isDigit (d :: t))

/-- Decides whether a text is an exponent after its letter: digits with at most one sign before
them. -/
def isExponent (t : Text) : Bool :=
  match t with
  | [] => false
  | c :: rest =>
    if c = '+' ∨ c = '-' then areDigits CodePoint.isAsciiDigit rest
    else areDigits CodePoint.isAsciiDigit t

/-- Decides whether a text is a decimal fraction, with a point, an exponent or both. -/
def isFraction (t : Text) : Bool :=
  let mantissa := t.takeWhile fun (c : CodePoint) => c != 'e' && c != 'E'
  let exponent := t.drop mantissa.length
  let whole := mantissa.takeWhile fun (c : CodePoint) => c != '.'
  let hasPoint := whole.length < mantissa.length
  let places := mantissa.drop (whole.length + 1)
  let fits := fun part => part.isEmpty || areDigits CodePoint.isAsciiDigit part
  fits whole && fits places && !(whole.isEmpty && places.isEmpty) &&
    (hasPoint || !exponent.isEmpty) && (exponent.isEmpty || isExponent exponent.tail)

/-- Decides whether a text is a whole number: in decimal without zeros before it, or after a mark of
its base. -/
def isWhole (t : Text) : Bool :=
  let marked := fun (mark : CodePoint) (rest : Text) (isDigit : CodePoint → Bool) (letter : CodePoint) =>
    mark.toAsciiLower = letter &&
      areDigits isDigit (if rest.head? = some (CodePoint.ofChar '_') then rest.tail else rest)
  areDigits CodePoint.isAsciiDigit t && (t.head? ≠ some (CodePoint.ofChar '0') || areDigits (· == '0') t) ||
    match t with
    | c :: mark :: rest =>
      c = '0' && (marked mark rest (·.hexValue?.isSome) 'x' || marked mark rest (·.isBetween 0x30 0x37) 'o' ||
        marked mark rest (·.isBetween 0x30 0x31) 'b')
    | _ => false

/-- The kind of a number. -/
def number? (t : Text) : Option Kind :=
  let digits := t.dropLast
  let isMarked := t.getLast?.any (·.toAsciiLower == CodePoint.ofChar 'j')
  if isMarked && (areDigits CodePoint.isAsciiDigit digits || isFraction digits) then some (.number true false)
  else if isWhole t ∨ isFraction t then some (.number false false)
  else none

/-- The letters and digits of a number, with its point and the sign of its exponent, given the code
point before. -/
def numberRun (before : Option CodePoint) : Text → Text
  | [] => []
  | c :: t =>
    let isSign := (c == '+' || c == '-') && before.any (·.toAsciiLower == CodePoint.ofChar 'e')
    if c.isWord || c == '.' || isSign then c :: numberRun (some c) t else []

/-- The number that starts a text. The sign of an exponent belongs to it only in decimal. -/
def numberText (t : Text) : Text :=
  match t with
  | c :: mark :: _ =>
    if c = '0' ∧ mark.toAsciiLower = 'x' then t.takeWhile CodePoint.isWord else numberRun none t
  | _ => t

/-- What stands between quotes, up to the closing quotes, after passing over some code points. A
backslash keeps the code point after it from closing. Lines end only between three quotes or after a
backslash. -/
def quotedRun? (closing : Text) : (passed : Nat) → Text → Option Text
  | _, [] => none
  | passed + 1, c :: t => (quotedRun? closing passed t).map (c :: ·)
  | 0, c :: t =>
    if closing.isPrefixOf (c :: t) then some []
    else if c = '\n' ∧ closing.length = 1 then none
    else (quotedRun? closing (if c = '\\' then 1 else 0) t).map (c :: ·)

/-- The number of hexadecimal digits that have to follow a letter after a backslash. -/
def escapeDigits (bytes : Bool) (letter : CodePoint) : Nat :=
  if letter = 'x' then 2 else if bytes then 0 else if letter = 'u' then 4 else if letter = 'U' then 8 else 0

/-- Decides whether the escapes in quoted text are complete, after passing over some code points. -/
def escapesFit (bytes : Bool) : (passed : Nat) → Text → Bool
  | _, [] => true
  | passed + 1, _ :: t => escapesFit bytes passed t
  | 0, c :: t =>
    if c = '\\' then
      match t.head? with
      | none => false
      | some letter =>
        let count := escapeDigits bytes letter
        let values := ((t.drop 1).take count).filterMap CodePoint.hexValue?
        values.length = count && values.foldl (fun n d => n * 16 + d) 0 < 0x110000 &&
          (bytes || letter != 'N') && escapesFit bytes 1 t
    else escapesFit bytes 0 t

/-- The letters that can stand before quotes, and whether they ask for bytes and for backslashes to
stand for themselves. -/
def quoteMarks : List (Text × Bool × Bool) := [
  ("", false, false), ("u", false, false), ("r", false, true), ("b", true, false), ("br", true, true),
  ("rb", true, true)]

/-- Quoted text that starts a text, with its length. -/
def quoted? (t : Text) : Option (Kind × Nat) :=
  let mark := t.takeWhile fun (c : CodePoint) => c != '"' && c != '\''
  match quoteMarks.lookup (mark.map CodePoint.toAsciiLower), t.drop mark.length with
  | some (bytes, raw), quote :: rest =>
    let closing := if [quote, quote].isPrefixOf rest then [quote, quote, quote] else [quote]
    let start := rest.drop (closing.length - 1)
    match quotedRun? closing 0 start with
    | none => none
    | some inside =>
      if (raw || escapesFit bytes 0 inside) && (!bytes || inside.all (·.val < 0x80)) then
        some (.quoted bytes, mark.length + 2 * closing.length + inside.length)
      else none
  | _, _ => none

/-- The names that are values. -/
def names : List (Text × Token) := [
  ("True", .value .fixed), ("False", .value .fixed), ("None", .value .fixed), ("set", .set)]

/-- The token that starts a text, with its length. -/
def token? (t : Text) : Option (Token × Nat) :=
  let word := t.takeWhile CodePoint.isWord
  match quoted? t with
  | some (kind, length) => some (.value kind, length)
  | none =>
    if List.isPrefixOf (Text.ofString "...") t then some (.value .fixed, 3)
    else if t.head?.any (fun (c : CodePoint) => c.isAsciiDigit || c == '.') then
      (number? (numberText t)).map fun kind => (.value kind, (numberText t).length)
    else if word ≠ [] then (names.lookup word).map fun token => (token, word.length)
    else t.head?.bind fun c =>
      if List.contains "()\x7b\x7d:,+-" c then some (.sign c, 1) else none

/-- The tokens of a text after passing over some code points, given the number of open brackets and
whether a comment is being passed over. A backslash at the end of a line lets it go on. -/
def tokensAfter? : (passed depth : Nat) → (comment : Bool) → Text → Option (List Token)
  | _, _, _, [] => some []
  | passed + 1, depth, comment, _ :: t => tokensAfter? passed depth comment t
  | 0, depth, comment, c :: t =>
    if c = '\n' then
      (tokensAfter? 0 depth false t).map fun rest => if depth = 0 then .lineEnd :: rest else rest
    else if comment ∨ c = ' ' ∨ c = '\t' ∨ c.val = 12 then tokensAfter? 0 depth comment t
    else if c = '#' then tokensAfter? 0 depth true t
    else if c = '\\' ∧ t.head? = some (CodePoint.ofChar '\n') then tokensAfter? 1 depth false t
    else match token? (c :: t) with
      | none => none
      | some (token, length) =>
        let depth := if c = '(' ∨ c = '\x7b' then depth + 1
          else if c = ')' ∨ c = '\x7d' then depth - 1 else depth
        (tokensAfter? (length - 1) depth false t).map (token :: ·)

/-- A part of what is written: its kind, and what follows it. -/
abbrev Reading := Option (Kind × List Token)

/-- Quoted text may go on in more quoted text of the same kind. -/
def continueQuoted (bytes : Bool) : List Token → Reading
  | .value (.quoted more) :: rest => if more = bytes then continueQuoted bytes rest else none
  | rest => some (.quoted bytes, rest)

/-- A number after its sign. Only a number without a sign can have one. -/
def signed : Reading → Reading
  | some (.number imaginary false, rest) => some (.number imaginary true, rest)
  | _ => none

/-- Decides whether a token is a sign. -/
def isSign (c : Char) (token : Token) : Bool :=
  token = .sign c

mutual

/-- Reads a value, which may be the sum of a real and an imaginary number. -/
def value? : (fuel : Nat) → List Token → Reading
  | 0, _ => none
  | fuel + 1, tokens =>
    match operand? fuel tokens with
    | some (.number false left, .sign c :: rest) =>
      if c = '+' ∨ c = '-' then
        match operand? fuel rest with
        | some (.number true false, rest) => some (.fixed, rest)
        | _ => none
      else some (.number false left, .sign c :: rest)
    | reading => reading

/-- Reads a value that is no sum. -/
def operand? : (fuel : Nat) → List Token → Reading
  | 0, _ => none
  | fuel + 1, tokens =>
    match tokens with
    | .value (.quoted bytes) :: rest => continueQuoted bytes rest
    | .value kind :: rest => some (kind, rest)
    | .set :: left :: right :: rest =>
      if isSign '(' left && isSign ')' right then some (.mutable, rest) else none
    | .sign c :: rest =>
      if c = '+' ∨ c = '-' then signed (operand? fuel rest)
      else if c = '(' then
        match sequence? fuel ')' rest with
        | some (kind, _ :: rest) => some (kind, rest)
        | _ => none
      else if c = '\x7b' then members? fuel rest
      else none
    | _ => none

/-- Reads the values of a tuple, up to what closes it. A single value without a comma is no
tuple. -/
def sequence? : (fuel : Nat) → (closing : Char) → List Token → Reading
  | 0, _, _ => none
  | fuel + 1, closing, tokens =>
    if tokens.head?.any (isSign closing) then some (.fixed, tokens)
    else match value? fuel tokens with
      | some (kind, comma :: rest) =>
        if isSign ',' comma then
          match sequence? fuel closing rest with
          | some (others, rest) => some (if kind.isFixed && others.isFixed then .fixed else .mutable, rest)
          | none => none
        else if isSign closing comma then some (kind, comma :: rest)
        else none
      | _ => none

/-- Reads the members of a set or a table, with what closes it. -/
def members? : (fuel : Nat) → List Token → Reading
  | 0, _ => none
  | fuel + 1, tokens =>
    if tokens.head?.any (isSign '\x7d') then some (.mutable, tokens.tail)
    else match value? fuel tokens with
      | some (kind, colon :: rest) =>
        if !kind.isFixed then none
        else if isSign ':' colon then entries? fuel (colon :: rest)
        else match sequence? fuel '\x7d' tokens with
          | some (kind, _ :: rest) => if kind.isFixed then some (.mutable, rest) else none
          | _ => none
      | _ => none

/-- Reads the rest of a table after the key of an entry. -/
def entries? : (fuel : Nat) → List Token → Reading
  | 0, _ => none
  | fuel + 1, tokens =>
    if !tokens.head?.any (isSign ':') then none
    else match value? fuel tokens.tail with
      | some (_, next :: rest) =>
        if isSign '\x7d' next then some (.mutable, rest)
        else if !isSign ',' next then none
        else if rest.head?.any (isSign '\x7d') then some (.mutable, rest.tail)
        else match value? fuel rest with
          | some (key, rest) => if key.isFixed then entries? fuel rest else none
          | none => none
      | _ => none

end

/-- Reads values between commas without brackets around them. -/
def topLevel : (fuel : Nat) → List Token → Option (List Token)
  | 0, _ => none
  | fuel + 1, tokens =>
    match value? (fuel + 1) tokens with
    | some (_, comma :: rest) =>
      if isSign ',' comma then
        if rest.all (· = .lineEnd) then some rest else topLevel fuel rest
      else some (comma :: rest)
    | some (_, []) => some []
    | none => none

/-- Decides whether a text is a value. -/
def isValue (t : Text) : Bool :=
  match tokensAfter? 0 0 false t with
  | none => false
  | some tokens =>
    match topLevel (4 * tokens.length + 4) (tokens.dropWhile (· = .lineEnd)) with
    | some rest => rest.all (· = .lineEnd)
    | none => false

/-- The arguments of an action: what stands in brackets after its name, or no arguments if it is
only a name, and everything if it does not start with a name. -/
def ofAction (t : Text) : Text :=
  let name := t.takeWhile fun (c : CodePoint) => c.isWord || c == '.'
  match t.drop name.length with
  | [] => "()"
  | c :: rest =>
    if c = '(' ∧ rest.getLast? = some (CodePoint.ofChar ')') ∧ !rest.contains (CodePoint.ofChar '\n') then c :: rest
    else t

/-- Decides whether what is written for an action is in order. -/
def isAction (t : Text) : Bool :=
  isValue (ofAction (Text.strip t))

end Retouch.Console.Argument
