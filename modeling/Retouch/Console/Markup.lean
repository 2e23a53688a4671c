import Retouch.Console.Argument
import Retouch.Console.Emoji
import Retouch.Console.TextStyle

/-!
# Console markup

Text for a console may hold tags in square brackets that switch styles on and off, and names of
emoji. Plain output has no styles, so tags vanish, but a closing tag has to have something to close
and what a tag says has to make sense. A backslash before a tag keeps it as text.
-/

namespace Retouch.Console

/-- Why marked-up text cannot be shown. -/
inductive Fault where
  /-- A closing tag has nothing to close. -/
  | unmatched
  /-- The arguments of an action are no value. -/
  | badArguments
  /-- A part of a colour is not a number. -/
  | badNumber
  deriving DecidableEq

/-- How faults are worded. -/
def Fault.message : Fault → Text
  | .unmatched => "a closing tag of console markup has nothing to close"
  | .badArguments => "the arguments of an action in console markup are no value"
  | .badNumber => "a part of a colour in console markup is not a number"

/-- The code points with which the inside of a tag starts. -/
def startsTag (c : CodePoint) : Bool :=
  c.isBetween 0x61 0x7A || c == '#' || c == '/' || c == '@'

/-- The inside of the tag that an opening bracket before the text starts. -/
def tagInside? (t : Text) : Option Text :=
  let inside := t.takeWhile fun (c : CodePoint) => c != ']' && c != '['
  match inside with
  | [] => none
  | c :: _ =>
    if startsTag c ∧ (t.drop inside.length).head? = some (CodePoint.ofChar ']') then some inside
    else none

/-- Some backslashes. -/
def backslashes (count : Nat) : Text :=
  List.replicate count '\\'

/-- A piece of marked-up text: plain text, or a tag. -/
inductive Piece where
  | plain (t : Text)
  | tag (inside : Text)
  deriving DecidableEq

/-- Pieces after plain text, if there is any. -/
def withPlain (t : Text) (rest : List Piece) : List Piece :=
  if t.isEmpty then rest else .plain t :: rest

/-- The pieces of marked-up text after passing over some code points, given the plain text before
it, in reverse, and the backslashes after that. Of the backslashes before a tag half are meant, and
an odd one keeps the tag. -/
def piecesAfter : (passed slashes : Nat) → (before : Text) → Text → List Piece
  | _, slashes, before, [] => withPlain (before.reverse ++ backslashes slashes) []
  | passed + 1, slashes, before, _ :: t => piecesAfter passed slashes before t
  | 0, slashes, before, c :: t =>
    if c = '\\' then piecesAfter 0 (slashes + 1) before t
    else match if c = '[' then tagInside? t else none with
      | none => piecesAfter 0 0 (c :: (backslashes slashes ++ before)) t
      | some inside =>
        withPlain before.reverse <| withPlain (backslashes (slashes / 2)) <|
          (if slashes % 2 = 1 then .plain ("[" ++ inside ++ "]") else .tag inside) ::
            piecesAfter (inside.length + 1) 0 [] t

/-- The pieces of marked-up text. -/
def pieces (t : Text) : List Piece :=
  piecesAfter 0 0 [] t

/-- Plain text without the backslashes that stand directly before opening brackets. -/
def dropBracketSlashes : Text → Text
  | [] => []
  | c :: t =>
    if c = '\\' ∧ t.head? = some (CodePoint.ofChar '[') then dropBracketSlashes t
    else c :: dropBracketSlashes t

/-- Controls that a console does not print. -/
def isSilent (c : CodePoint) : Bool :=
  c.val == 7 || c.val == 8 || c.isBetween 11 13

/-- What a piece of plain text shows. -/
def shownPlain (t : Text) : Text :=
  (replaceEmoji (dropBracketSlashes t)).filter fun c => !isSilent c

/-- A tag: its name, and what comes after an equals sign. -/
structure Tag where
  name : Text
  parameters : Option Text
  deriving DecidableEq

/-- The tag with an inside. -/
def Tag.ofInside (inside : Text) : Tag :=
  let name := inside.takeWhile fun (c : CodePoint) => c != '='
  ⟨name, if name.length < inside.length then some (inside.drop (name.length + 1)) else none⟩

/-- What a tag says about the style of the text after it. -/
def Tag.definition (tag : Tag) : Text :=
  tag.name ++ ((tag.parameters.map (Text.ofString " " ++ ·)).getD [])

/-- Decides whether a tag names an action. -/
def Tag.isAction (tag : Tag) : Bool :=
  tag.name.head? = some (CodePoint.ofChar '@')

/-- The normal form of the name of a tag. -/
def tagName (t : Text) : Except Fault Text :=
  (normalForm t).mapError fun _ => .badNumber

/-- Marked-up text without its tags: the text, and what the tags say about its style. -/
structure Plain where
  text : Text
  definitions : List Text

/-- Plain text after some more of it. -/
def Plain.after (t : Text) (plain : Plain) : Plain :=
  { plain with text := t ++ plain.text }

/-- Plain text under one more style. -/
def Plain.styled (definition : Text) (plain : Plain) : Plain :=
  { plain with definitions := definition :: plain.definitions }

/-- Takes the tag that a closing tag closes out of the open tags, the last first: the last one of
the name, or the last one of all if there is no name. -/
def closeTag (name : Text) (openTags : List Tag) : Except Fault (Tag × List Tag) :=
  match if name.isEmpty then openTags.head? else openTags.find? (·.name == name) with
  | some tag => .ok (tag, if name.isEmpty then openTags.tail else openTags.eraseP (·.name == name))
  | none => .error .unmatched

/-- Plain text from pieces, given the open tags, the last first. The arguments of an action are
checked when it is closed. -/
def plainFrom (openTags : List Tag) : List Piece → Except Fault Plain
  | [] => .ok ⟨[], openTags.map Tag.definition⟩
  | .plain t :: rest => (plainFrom openTags rest).map (Plain.after (shownPlain t))
  | .tag inside :: rest =>
    let tag := Tag.ofInside inside
    if tag.name.head? = some (CodePoint.ofChar '/') then do
      let closed := Text.strip tag.name.tail
      let name ← if closed.isEmpty then pure [] else tagName closed
      let (tag, others) ← closeTag name openTags
      if !tag.isAction then return (← plainFrom others rest).styled tag.definition
      if (tag.parameters.getD []).isEmpty || Argument.isAction (tag.parameters.getD []) then
        plainFrom others rest
      else .error .badArguments
    else do
      let name ← tagName tag.name
      plainFrom (⟨name, tag.parameters⟩ :: openTags) rest

/-- What marked-up text shows. Styles that are unknown change nothing, but the numbers in them have
to be numbers. -/
def render (t : Text) : Except Fault Text := do
  let plain ← plainFrom [] (pieces t)
  if plain.definitions.any fun definition =>
      match TextStyle.read definition with
      | .error .badNumber => true
      | _ => false then .error .badNumber
  else .ok plain.text

/-- Marked-up text for a text after passing over some code points, given the backslashes before
it. -/
def escapeAfter : (passed slashes : Nat) → Text → Text
  | _, slashes, [] => backslashes slashes
  | passed + 1, slashes, _ :: t => escapeAfter passed slashes t
  | 0, slashes, c :: t =>
    if c = '\\' then escapeAfter 0 (slashes + 1) t
    else match if c = '[' then tagInside? t else none with
      | none => backslashes slashes ++ [c] ++ escapeAfter 0 0 t
      | some inside =>
        backslashes (2 * slashes + 1) ++ "[" ++ inside ++ "]" ++ escapeAfter (inside.length + 1) 0 t

/-- Marked-up text in which a text stands for itself. A single backslash at the end is doubled. -/
def escape (t : Text) : Text :=
  let escaped := escapeAfter 0 0 t
  match escaped.reverse with
  | [c] => if c = '\\' then escaped ++ "\\" else escaped
  | c :: d :: _ => if c = '\\' ∧ d ≠ '\\' then escaped ++ "\\" else escaped
  | [] => escaped

end Retouch.Console
