import Retouch.Text.Blank
import Retouch.Text.Case
import Retouch.Text.Numeral

/-!
# Styles of text on a console

A style is written as words: attributes, a colour, a colour for the background and the target of a
link. One style can be written in many ways, so tags are compared by the normal form of what they
say.
-/

namespace Retouch.Console

/-- Why words are not a style. -/
inductive StyleFault where
  /-- A word is no part of a style. -/
  | unknown
  /-- A part of a colour is not a number. -/
  | badNumber
  deriving DecidableEq

/-- The attributes of text, in the order in which a style lists them. -/
def attributes : List Text := [
  "bold", "dim", "italic", "underline", "blink", "blink2", "reverse", "conceal", "strike", "underline2",
  "frame", "encircle", "overline"]

/-- Short names of attributes. -/
def shortAttributes : List (Text × Text) := [
  ("b", "bold"), ("d", "dim"), ("i", "italic"), ("u", "underline"), ("uu", "underline2"),
  ("r", "reverse"), ("c", "conceal"), ("s", "strike"), ("o", "overline")]

/-- The attribute that a word names. -/
def attribute? (word : Text) : Option Text :=
  if attributes.contains word then some word else shortAttributes.lookup word

/-- The colours that have a name. -/
def colourNames : List String := [
  "default", "aquamarine1", "aquamarine3", "black", "blue", "blue1", "blue3", "blue_violet",
  "bright_black", "bright_blue", "bright_cyan", "bright_green", "bright_magenta", "bright_red",
  "bright_white", "bright_yellow", "cadet_blue", "chartreuse1", "chartreuse2", "chartreuse3",
  "chartreuse4", "cornflower_blue", "cornsilk1", "cyan", "cyan1", "cyan2", "cyan3", "dark_blue",
  "dark_cyan", "dark_goldenrod", "dark_green", "dark_khaki", "dark_magenta", "dark_olive_green1",
  "dark_olive_green2", "dark_olive_green3", "dark_orange", "dark_orange3", "dark_red",
  "dark_sea_green", "dark_sea_green1", "dark_sea_green2", "dark_sea_green3", "dark_sea_green4",
  "dark_slate_gray1", "dark_slate_gray2", "dark_slate_gray3", "dark_turquoise", "dark_violet",
  "deep_pink1", "deep_pink2", "deep_pink3", "deep_pink4", "deep_sky_blue1", "deep_sky_blue2",
  "deep_sky_blue3", "deep_sky_blue4", "dodger_blue1", "dodger_blue2", "dodger_blue3", "gold1",
  "gold3", "gray0", "gray100", "gray11", "gray15", "gray19", "gray23", "gray27", "gray3", "gray30",
  "gray35", "gray37", "gray39", "gray42", "gray46", "gray50", "gray53", "gray54", "gray58",
  "gray62", "gray63", "gray66", "gray69", "gray7", "gray70", "gray74", "gray78", "gray82", "gray84",
  "gray85", "gray89", "gray93", "green", "green1", "green3", "green4", "green_yellow", "grey0",
  "grey100", "grey11", "grey15", "grey19", "grey23", "grey27", "grey3", "grey30", "grey35",
  "grey37", "grey39", "grey42", "grey46", "grey50", "grey53", "grey54", "grey58", "grey62",
  "grey63", "grey66", "grey69", "grey7", "grey70", "grey74", "grey78", "grey82", "grey84", "grey85",
  "grey89", "grey93", "honeydew2", "hot_pink", "hot_pink2", "hot_pink3", "indian_red",
  "indian_red1", "khaki1", "khaki3", "light_coral", "light_cyan1", "light_cyan3",
  "light_goldenrod1", "light_goldenrod2", "light_goldenrod3", "light_green", "light_pink1",
  "light_pink3", "light_pink4", "light_salmon1", "light_salmon3", "light_sea_green",
  "light_sky_blue1", "light_sky_blue3", "light_slate_blue", "light_slate_gray", "light_slate_grey",
  "light_steel_blue", "light_steel_blue1", "light_steel_blue3", "light_yellow3", "magenta",
  "magenta1", "magenta2", "magenta3", "medium_orchid", "medium_orchid1", "medium_orchid3",
  "medium_purple", "medium_purple1", "medium_purple2", "medium_purple3", "medium_purple4",
  "medium_spring_green", "medium_turquoise", "medium_violet_red", "misty_rose1", "misty_rose3",
  "navajo_white1", "navajo_white3", "navy_blue", "orange1", "orange3", "orange4", "orange_red1",
  "orchid", "orchid1", "orchid2", "pale_green1", "pale_green3", "pale_turquoise1",
  "pale_turquoise4", "pale_violet_red1", "pink1", "pink3", "plum1", "plum2", "plum3", "plum4",
  "purple", "purple3", "purple4", "red", "red1", "red3", "rosy_brown", "royal_blue1", "salmon1",
  "sandy_brown", "sea_green1", "sea_green2", "sea_green3", "sky_blue1", "sky_blue2", "sky_blue3",
  "slate_blue1", "slate_blue3", "spring_green1", "spring_green2", "spring_green3", "spring_green4",
  "steel_blue", "steel_blue1", "steel_blue3", "tan", "thistle1", "thistle3", "turquoise2",
  "turquoise4", "violet", "wheat1", "wheat4", "white", "yellow", "yellow1", "yellow2", "yellow3",
  "yellow4"]

/-- What stands in brackets after a word. -/
def bracketed? (word t : Text) : Option Text :=
  let inside := t.drop (word.length + 1)
  if (word ++ "(").isPrefixOf t ∧ inside.getLast? = some (CodePoint.ofChar ')') then some inside.dropLast
  else none

/-- Checks the components of a colour: three numbers up to 255. -/
def checkComponents (inside : Text) : Except StyleFault Unit :=
  match Text.split ',' inside with
  | [red, green, blue] =>
    match Numeral.read .decimal red, Numeral.read .decimal green, Numeral.read .decimal blue with
    | .ok r, .ok g, .ok b => if r ≤ 255 ∧ g ≤ 255 ∧ b ≤ 255 then .ok () else .error .unknown
    | _, _, _ => .error .badNumber
  | _ => .error .unknown

/-- Checks a colour in small letters: a name, six digits, a number in a palette, or three
components. -/
def checkColour (colour : Text) : Except StyleFault Unit :=
  if colourNames.any fun name => Text.ofString name == colour then .ok ()
  else match colour with
    | c :: digits =>
      if c = '#' ∧ digits.length = 6 ∧ digits.all (·.hexValue?.isSome) then .ok ()
      else match bracketed? "color" colour, bracketed? "rgb" colour with
        | some number, _ =>
          if number ≠ [] ∧ number.length ≤ 3 ∧ number.all CodePoint.isAsciiDigit ∧
              (Numeral.read .decimal number).toOption.any (· ≤ 255) then .ok ()
          else .error .unknown
        | none, some inside =>
          if inside ≠ [] ∧ inside.all fun (c : CodePoint) => c.isDecimal || c == ',' then checkComponents inside
          else .error .unknown
        | none, none => .error .unknown
    | [] => .error .unknown

/-- A style. -/
structure TextStyle where
  /-- The attributes that are switched on or off, the last first. -/
  switches : List (Text × Bool)
  colour : Option Text
  background : Option Text
  link : Option Text

namespace TextStyle

/-- The style that changes nothing. -/
def plain : TextStyle :=
  ⟨[], none, none, none⟩

/-- A style with more words. Where two words disagree the last one counts. -/
def readWords (style : TextStyle) : List Text → Except StyleFault TextStyle
  | [] => .ok style
  | word :: rest =>
    let small := Text.toLower word
    if small = Text.ofString "on" then
      match rest with
      | [] => .error .unknown
      | colour :: rest =>
        let colour := Text.toLower colour
        match checkColour colour with
        | .ok () => readWords { style with background := some colour } rest
        | .error fault => .error fault
    else if small = Text.ofString "not" then
      match rest with
      | [] => .error .unknown
      | name :: rest =>
        match attribute? name with
        | some name => readWords { style with switches := (name, false) :: style.switches } rest
        | none => .error .unknown
    else if small = Text.ofString "link" then
      match rest with
      | [] => .error .unknown
      | target :: rest => readWords { style with link := some target } rest
    else match attribute? small with
      | some name => readWords { style with switches := (name, true) :: style.switches } rest
      | none =>
        match checkColour small with
        | .ok () => readWords { style with colour := some small } rest
        | .error fault => .error fault

/-- Reads a style. -/
def read (t : Text) : Except StyleFault TextStyle :=
  if Text.strip t = Text.ofString "none" then .ok plain else readWords plain (Text.words t)

/-- Writes a style in the order of its parts. -/
def write (style : TextStyle) : Text :=
  let switches := attributes.filterMap fun name =>
    (style.switches.lookup name).map fun on => if on then name else "not " ++ name
  let parts := switches ++ style.colour.toList ++ (style.background.map (Text.ofString "on " ++ ·)).toList ++
    (style.link.map (Text.ofString "link " ++ ·)).toList
  if parts.isEmpty then "none" else Text.join " " parts

end TextStyle

/-- The normal form of what a tag says: its style as it is written, or its words in small letters if
they are no style. -/
def normalForm (t : Text) : Except StyleFault Text :=
  match TextStyle.read t with
  | .ok style => .ok style.write
  | .error .unknown => .ok (Text.toLower (Text.strip t))
  | .error .badNumber => .error .badNumber

end Retouch.Console
