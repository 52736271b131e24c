import Concordance.Numeral.Digit
import Concordance.Text.Blank
import Concordance.Text.Lower
import Concordance.Text.Pieces

/-! Styles as tags name them. Two texts name one style if they ask for the same attributes, colors
and link, in whatever order and with whatever short forms. -/

namespace Concordance.Console

inductive Style.Fault
  | word
  | number
  deriving DecidableEq, Repr

structure Style where
  attributes : List (String × Bool) := []
  color : Option (List Char) := none
  background : Option (List Char) := none
  link : Option (List Char) := none
  deriving DecidableEq, Repr

namespace Style

def attributeNames : List (String × List String) :=
  [("bold", ["b"]), ("dim", ["d"]), ("italic", ["i"]), ("underline", ["u"]), ("blink", []),
   ("blink2", []), ("reverse", ["r"]), ("conceal", ["c"]), ("strike", ["s"]),
   ("underline2", ["uu"]), ("frame", []), ("encircle", []), ("overline", ["o"])]

def attribute? (word : List Char) : Option String :=
  (attributeNames.find? fun (name, short) => (name :: short).any (·.toList = word)).map (·.1)

def colorNames : List String :=
  ["black red green yellow blue magenta cyan white bright_black bright_red bright_green",
   "bright_yellow bright_blue bright_magenta bright_cyan bright_white grey0 gray0 navy_blue",
   "dark_blue blue3 blue1 dark_green deep_sky_blue4 dodger_blue3 dodger_blue2 green4",
   "spring_green4 turquoise4 deep_sky_blue3 dodger_blue1 green3 spring_green3 dark_cyan",
   "light_sea_green deep_sky_blue2 deep_sky_blue1 spring_green2 cyan3 dark_turquoise turquoise2",
   "green1 spring_green1 medium_spring_green cyan2 cyan1 dark_red deep_pink4 purple4 purple3",
   "blue_violet orange4 grey37 gray37 medium_purple4 slate_blue3 royal_blue1 chartreuse4",
   "dark_sea_green4 pale_turquoise4 steel_blue steel_blue3 cornflower_blue chartreuse3 cadet_blue",
   "sky_blue3 steel_blue1 pale_green3 sea_green3 aquamarine3 medium_turquoise chartreuse2",
   "sea_green2 sea_green1 aquamarine1 dark_slate_gray2 dark_magenta dark_violet purple",
   "light_pink4 plum4 medium_purple3 slate_blue1 yellow4 wheat4 grey53 gray53 light_slate_grey",
   "light_slate_gray medium_purple light_slate_blue dark_olive_green3 dark_sea_green",
   "light_sky_blue3 sky_blue2 dark_sea_green3 dark_slate_gray3 sky_blue1 chartreuse1 light_green",
   "pale_green1 dark_slate_gray1 red3 medium_violet_red magenta3 dark_orange3 indian_red",
   "hot_pink3 medium_orchid3 medium_orchid medium_purple2 dark_goldenrod light_salmon3 rosy_brown",
   "grey63 gray63 medium_purple1 gold3 dark_khaki navajo_white3 grey69 gray69 light_steel_blue3",
   "light_steel_blue yellow3 dark_sea_green2 light_cyan3 light_sky_blue1 green_yellow",
   "dark_olive_green2 dark_sea_green1 pale_turquoise1 deep_pink3 magenta2 hot_pink2 orchid",
   "medium_orchid1 orange3 light_pink3 pink3 plum3 violet light_goldenrod3 tan misty_rose3",
   "thistle3 plum2 khaki3 light_goldenrod2 light_yellow3 grey84 gray84 light_steel_blue1 yellow2",
   "dark_olive_green1 honeydew2 light_cyan1 red1 deep_pink2 deep_pink1 magenta1 orange_red1",
   "indian_red1 hot_pink dark_orange salmon1 light_coral pale_violet_red1 orchid2 orchid1 orange1",
   "sandy_brown light_salmon1 light_pink1 pink1 plum1 gold1 navajo_white1 misty_rose1 thistle1",
   "yellow1 light_goldenrod1 khaki1 wheat1 cornsilk1 grey100 gray100 grey3 gray3 grey7 gray7",
   "grey11 gray11 grey15 gray15 grey19 gray19 grey23 gray23 grey27 gray27 grey30 gray30 grey35",
   "gray35 grey39 gray39 grey42 gray42 grey46 gray46 grey50 gray50 grey54 gray54 grey58 gray58",
   "grey62 gray62 grey66 gray66 grey70 gray70 grey74 gray74 grey78 gray78 grey82 gray82 grey85",
   "gray85 grey89 gray89 grey93 gray93"]

def colors : List (List Char) := colorNames.flatMap (Text.words ·.toList)

def within? (opening : String) (word : List Char) : Option (List Char) :=
  (opening.toList.isPrefixOf? word).bind fun inside =>
    if inside.getLast? = some ')' then some inside.dropLast else none

def isShade (digits : List Char) : Bool :=
  Numeral.ofDigits (digits.filterMap Numeral.digit?) ≤ 255

def isSmallHexDigit (c : Char) : Bool := c.isDigit || ('a' ≤ c && c ≤ 'f')

/-- A color in small letters: a name, six hexadecimal digits, a number, or three shades. -/
def color? (word : List Char) : Except Fault (List Char) :=
  let word := Text.lower word
  let orFault b := if b then .ok word else .error .word
  if word = "default".toList || colors.contains word then .ok word
  else match word, within? "color(" word, within? "rgb(" word with
  | '#' :: digits, _, _ => orFault (digits.length == 6 && digits.all isSmallHexDigit)
  | _, some digits, _ =>
    orFault (!digits.isEmpty && digits.length ≤ 3 && digits.all Char.isDigit && isShade digits)
  | _, none, some inside =>
    let shades := Text.pieces ',' inside
    if inside.all (fun c => c == ',' || (Numeral.digit? c).isSome) && shades.length == 3 then
      if shades.contains [] then .error .number else orFault (shades.all isShade)
    else .error .word
  | _, none, none => .error .word

/-- Adds to a style what words ask for; of two words for the same thing the later one counts. -/
def read (s : Style) : List (List Char) → Except Fault Style
  | [] => .ok s
  | word :: words =>
    match String.ofList (Text.lower word), words with
    | "on", c :: words => do read { s with background := some (← color? c) } words
    | "on", [] => .error .word
    | "not", a :: words =>
      match attribute? a with
      | some name => read { s with attributes := (name, false) :: s.attributes } words
      | none => .error .word
    | "not", [] => .error .word
    | "link", target :: words => read { s with link := some target } words
    | "link", [] => .error .word
    | lowered, words =>
      match attribute? lowered.toList with
      | some name => read { s with attributes := (name, true) :: s.attributes } words
      | none => do read { s with color := some (← color? word) } words

def words (s : Style) : List (List Char) :=
  let asked name := (s.attributes.lookup name).map fun isOn =>
    if isOn then name.toList else "not ".toList ++ name.toList
  attributeNames.filterMap (asked ·.1) ++ s.color.toList ++
    (s.background.map ("on ".toList ++ ·)).toList ++ (s.link.map ("link ".toList ++ ·)).toList

def name (s : Style) : List Char := if s.words.isEmpty then "none".toList else Text.spaced s.words

/-- The one name for all texts that name the same style. A text that names none stands for itself,
in small letters; one with a color that lacks a number has no name. -/
def canonical? (text : List Char) : Option (List Char) :=
  let text := Text.trim text
  if text = "none".toList then some text
  else match read {} (Text.words text) with
  | .ok s => some s.name
  | .error .word => some (Text.lower text)
  | .error .number => none

end Concordance.Console.Style
