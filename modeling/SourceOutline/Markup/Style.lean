import SourceOutline.Text.Fields
import SourceOutline.Text.LowerCase

/-!
The names of styles. Two names stand for the same style when they hold the same attributes and colours,
in whatever order and under whatever short names.
-/
namespace SourceOutline.Markup

/-- The attributes of a style by all their names, in the order in which they are written. -/
def attributeNames : List (List String) := [
  ["bold", "b"], ["dim", "d"], ["italic", "i"], ["underline", "u"], ["blink"], ["blink2"],
  ["reverse", "r"], ["conceal", "c"], ["strike", "s"], ["underline2", "uu"], ["frame"], ["encircle"],
  ["overline", "o"]]

/-- The colours that have a name, apart from the shades of grey that are numbered. -/
def colorNames : List String := [
  "default", "black", "red", "green", "yellow", "blue", "magenta", "cyan", "white", "bright_black",
  "bright_red", "bright_green", "bright_yellow", "bright_blue", "bright_magenta", "bright_cyan",
  "bright_white", "navy_blue", "dark_blue", "blue3", "blue1", "dark_green", "deep_sky_blue4",
  "dodger_blue3", "dodger_blue2", "green4", "spring_green4", "turquoise4", "deep_sky_blue3",
  "dodger_blue1", "green3", "spring_green3", "dark_cyan", "light_sea_green", "deep_sky_blue2",
  "deep_sky_blue1", "spring_green2", "cyan3", "dark_turquoise", "turquoise2", "green1",
  "spring_green1", "medium_spring_green", "cyan2", "cyan1", "dark_red", "deep_pink4", "purple4",
  "purple3", "blue_violet", "orange4", "medium_purple4", "slate_blue3", "royal_blue1", "chartreuse4",
  "dark_sea_green4", "pale_turquoise4", "steel_blue", "steel_blue3", "cornflower_blue", "chartreuse3",
  "cadet_blue", "sky_blue3", "steel_blue1", "pale_green3", "sea_green3", "aquamarine3",
  "medium_turquoise", "chartreuse2", "sea_green2", "sea_green1", "aquamarine1", "dark_slate_gray2",
  "dark_magenta", "dark_violet", "purple", "light_pink4", "plum4", "medium_purple3", "slate_blue1",
  "yellow4", "wheat4", "light_slate_grey", "light_slate_gray", "medium_purple", "light_slate_blue",
  "dark_olive_green3", "dark_sea_green", "light_sky_blue3", "sky_blue2", "dark_sea_green3",
  "dark_slate_gray3", "sky_blue1", "chartreuse1", "light_green", "pale_green1", "dark_slate_gray1",
  "red3", "medium_violet_red", "magenta3", "dark_orange3", "indian_red", "hot_pink3",
  "medium_orchid3", "medium_orchid", "medium_purple2", "dark_goldenrod", "light_salmon3",
  "rosy_brown", "medium_purple1", "gold3", "dark_khaki", "navajo_white3", "light_steel_blue3",
  "light_steel_blue", "yellow3", "dark_sea_green2", "light_cyan3", "light_sky_blue1", "green_yellow",
  "dark_olive_green2", "dark_sea_green1", "pale_turquoise1", "deep_pink3", "magenta2", "hot_pink2",
  "orchid", "medium_orchid1", "orange3", "light_pink3", "pink3", "plum3", "violet",
  "light_goldenrod3", "tan", "misty_rose3", "thistle3", "plum2", "khaki3", "light_goldenrod2",
  "light_yellow3", "light_steel_blue1", "yellow2", "dark_olive_green1", "honeydew2", "light_cyan1",
  "red1", "deep_pink2", "deep_pink1", "magenta1", "orange_red1", "indian_red1", "hot_pink",
  "dark_orange", "salmon1", "light_coral", "pale_violet_red1", "orchid2", "orchid1", "orange1",
  "sandy_brown", "light_salmon1", "light_pink1", "pink1", "plum1", "gold1", "navajo_white1",
  "misty_rose1", "thistle1", "yellow1", "light_goldenrod1", "khaki1", "wheat1", "cornsilk1"]

/-- The numbers of the shades of grey. -/
def greyLevels : List Nat := [
  0, 3, 7, 11, 15, 19, 23, 27, 30, 35, 37, 39, 42, 46, 50, 53, 54, 58, 62, 63, 66, 69, 70, 74, 78, 82,
  84, 85, 89, 93, 100]

def isHexDigit (c : Char) : Bool := c.isDigit || ('a' ≤ c && c ≤ 'f')

/-- The text between a start and an end. -/
def between? (start stop text : List Char) : Option (List Char) :=
  if start.isPrefixOf text && stop.isSuffixOf text && start.length + stop.length ≤ text.length then
    some ((text.drop start.length).take (text.length - start.length - stop.length))
  else none

/-- Whether a text is up to three digits that stand for at most 255. -/
def isColorLevel (text : List Char) : Bool :=
  !text.isEmpty && text.length ≤ 3 && text.all Char.isDigit && Nat.ofDigitChars 10 text 0 ≤ 255

/-- Whether a word in lower case is a colour. -/
def isColor (word : List Char) : Bool :=
  colorNames.any (·.toList == word) ||
    greyLevels.any (fun n =>
      "grey".toList ++ Nat.toDigits 10 n == word || "gray".toList ++ Nat.toDigits 10 n == word) ||
    (match word with
      | '#' :: digits => digits.length == 6 && digits.all isHexDigit
      | _ => false) ||
    (between? "color(".toList [')'] word).any isColorLevel ||
    (between? "rgb(".toList [')'] word).any fun levels =>
      (Text.fields ',' levels).length == 3 && (Text.fields ',' levels).all isColorLevel

/-- A style: which attributes it sets, its colours, and where it links to. -/
structure Style where
  attributes : List (Nat × Bool) := []
  color : Option (List Char) := none
  background : Option (List Char) := none
  link : Option (List Char) := none
deriving Repr, Inhabited

/-- The place of an attribute in the order of attributes. -/
def attributeIndex? (word : List Char) : Option Nat :=
  attributeNames.findIdx? fun names => names.any (·.toList == word)

namespace Style

def setAttribute (s : Style) (n : Nat) (on : Bool) : Style :=
  { s with attributes := (n, on) :: s.attributes }

/-- Reads the words of a style. -/
def ofWords? : List (List Char) → Style → Option Style
  | [], s => some s
  | word :: rest, s =>
    let lower := Text.lower word
    if lower = ['o', 'n'] then
      match rest with
      | background :: rest =>
        if isColor (Text.lower background) then
          ofWords? rest { s with background := some (Text.lower background) }
        else none
      | [] => none
    else if lower = ['n', 'o', 't'] then
      match rest with
      | name :: rest =>
        match attributeIndex? name with
        | some n => ofWords? rest (s.setAttribute n false)
        | none => none
      | [] => none
    else if lower = ['l', 'i', 'n', 'k'] then
      match rest with
      | target :: rest => ofWords? rest { s with link := some target }
      | [] => none
    else
      match attributeIndex? lower with
      | some n => ofWords? rest (s.setAttribute n true)
      | none => if isColor lower then ofWords? rest { s with color := some lower } else none

/-- The words of a style in their usual order. -/
def words (s : Style) : List (List Char) :=
  let attributes := (List.range attributeNames.length).filterMap fun n =>
    (s.attributes.find? (·.1 == n)).map fun (_, on) =>
      let name := ((attributeNames[n]?.bind List.head?).getD "").toList
      if on then name else "not ".toList ++ name
  attributes ++ s.color.toList ++ (s.background.map ("on ".toList ++ ·)).toList ++
    (s.link.map ("link ".toList ++ ·)).toList

end Style

/-- The usual name of a style. A name that stands for no style is only put in lower case. -/
def styleName (text : List Char) : List Char :=
  let words := Text.words text []
  if words.isEmpty ∨ words = ["none".toList] then "none".toList
  else
    match Style.ofWords? words {} with
    | some s => Text.joinFields ' ' s.words
    | none => Text.lower (Text.trim Text.isSpace text)

end SourceOutline.Markup
