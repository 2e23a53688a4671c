import Retouch.Console.EmojiTable
import Retouch.Text.Blank
import Retouch.Text.Case

/-!
# Emoji by name

A name between two colons stands for an emoji. It may end by asking for the emoji as a picture or as
text, which a selector after the emoji says.
-/

namespace Retouch.Console

/-- The selectors that the endings of names stand for. -/
def emojiSelectors : List (Text × CodePoint) := [
  ("-emoji", 0xFE0F), ("-text", 0xFE0E)]

/-- The emoji of a name, whatever the case of its letters. -/
def emojiNamed? (name : Text) : Option Text :=
  (Text.toString? (Text.toLower name)).bind fun small =>
    (EmojiTable.all.lookup small).map Text.ofString

/-- The emoji that stands between two colons: that of the name, and the selector its ending asks
for. -/
def emoji? (inside : Text) : Option Text :=
  match emojiSelectors.find? fun (ending, _) => ending.isSuffixOf inside with
  | some (ending, selector) =>
    (emojiNamed? (inside.take (inside.length - ending.length))).map (· ++ [selector])
  | none => emojiNamed? inside

/-- What stands between a colon before the text and the next one, unless there is a blank between
them. -/
def betweenColons? (t : Text) : Option Text :=
  let inside := t.takeWhile fun (c : CodePoint) => c != ':' && !c.isBlank
  if (t.drop inside.length).head? = some (CodePoint.ofChar ':') then some inside else none

/-- A text with names replaced by emoji, after passing over some code points. -/
def replaceEmojiAfter : (passed : Nat) → Text → Text
  | _, [] => []
  | passed + 1, _ :: t => replaceEmojiAfter passed t
  | 0, c :: t =>
    match if c = ':' then betweenColons? t else none with
    | none => c :: replaceEmojiAfter 0 t
    | some inside =>
      (emoji? inside).getD (":" ++ inside ++ ":") ++ replaceEmojiAfter (inside.length + 1) t

/-- A text with names replaced by emoji. A colon that closes one name does not open the next, and
unknown names stay. -/
def replaceEmoji (t : Text) : Text :=
  replaceEmojiAfter 0 t

end Retouch.Console
