import PageMarkup.Text.Digit
import PageMarkup.Text.LetterCase
import PageMarkup.Text.Pieces

/-!
# Styles

A style is named by words: attributes of the letters, each perhaps denied by a word before it, a
colour, a colour of the background, and an address. Two names mean one style when they say the same,
in whatever order and with whichever short forms; the normal form of a name is what it says, in a
fixed order.

## Main definitions

* `Style`, `Style.ofWords?` : what a name says.
* `normalStyle` : the normal form of a name.
-/

namespace PageMarkup.Terminal

/-- The attributes of letters in their order, each with its short form if it has one. -/
def attributeNames : List (String × Option String) := [
  ("bold", some "b"), ("dim", some "d"), ("italic", some "i"), ("underline", some "u"),
  ("blink", none), ("blink2", none), ("reverse", some "r"), ("conceal", some "c"),
  ("strike", some "s"), ("underline2", some "uu"), ("frame", none), ("encircle", none),
  ("overline", some "o")]

def attribute? (word : String) : Option String :=
  (attributeNames.find? fun e => e.1 == word || e.2 == some word).map (·.1)

def colourRows : List String := [
  "default black red green yellow blue magenta cyan white bright_black bright_red bright_green",
  "bright_yellow bright_blue bright_magenta bright_cyan bright_white grey0 gray0 navy_blue",
  "dark_blue blue3 blue1 dark_green deep_sky_blue4 dodger_blue3 dodger_blue2 green4 spring_green4",
  "turquoise4 deep_sky_blue3 dodger_blue1 green3 spring_green3 dark_cyan light_sea_green",
  "deep_sky_blue2 deep_sky_blue1 spring_green2 cyan3 dark_turquoise turquoise2 green1",
  "spring_green1 medium_spring_green cyan2 cyan1 dark_red deep_pink4 purple4 purple3 blue_violet",
  "orange4 grey37 gray37 medium_purple4 slate_blue3 royal_blue1 chartreuse4 dark_sea_green4",
  "pale_turquoise4 steel_blue steel_blue3 cornflower_blue chartreuse3 cadet_blue sky_blue3",
  "steel_blue1 pale_green3 sea_green3 aquamarine3 medium_turquoise chartreuse2 sea_green2",
  "sea_green1 aquamarine1 dark_slate_gray2 dark_magenta dark_violet purple light_pink4 plum4",
  "medium_purple3 slate_blue1 yellow4 wheat4 grey53 gray53 light_slate_grey light_slate_gray",
  "medium_purple light_slate_blue dark_olive_green3 dark_sea_green light_sky_blue3 sky_blue2",
  "dark_sea_green3 dark_slate_gray3 sky_blue1 chartreuse1 light_green pale_green1",
  "dark_slate_gray1 red3 medium_violet_red magenta3 dark_orange3 indian_red hot_pink3",
  "medium_orchid3 medium_orchid medium_purple2 dark_goldenrod light_salmon3 rosy_brown grey63",
  "gray63 medium_purple1 gold3 dark_khaki navajo_white3 grey69 gray69 light_steel_blue3",
  "light_steel_blue yellow3 dark_sea_green2 light_cyan3 light_sky_blue1 green_yellow",
  "dark_olive_green2 dark_sea_green1 pale_turquoise1 deep_pink3 magenta2 hot_pink2 orchid",
  "medium_orchid1 orange3 light_pink3 pink3 plum3 violet light_goldenrod3 tan misty_rose3",
  "thistle3 plum2 khaki3 light_goldenrod2 light_yellow3 grey84 gray84 light_steel_blue1 yellow2",
  "dark_olive_green1 honeydew2 light_cyan1 red1 deep_pink2 deep_pink1 magenta1 orange_red1",
  "indian_red1 hot_pink dark_orange salmon1 light_coral pale_violet_red1 orchid2 orchid1 orange1",
  "sandy_brown light_salmon1 light_pink1 pink1 plum1 gold1 navajo_white1 misty_rose1 thistle1",
  "yellow1 light_goldenrod1 khaki1 wheat1 cornsilk1 grey100 gray100 grey3 gray3 grey7 gray7",
  "grey11 gray11 grey15 gray15 grey19 gray19 grey23 gray23 grey27 gray27 grey30 gray30 grey35",
  "gray35 grey39 gray39 grey42 gray42 grey46 gray46 grey50 gray50 grey54 gray54 grey58 gray58",
  "grey62 gray62 grey66 gray66 grey70 gray70 grey74 gray74 grey78 gray78 grey82 gray82 grey85",
  "gray85 grey89 gray89 grey93 gray93"]

/-- A hexadecimal digit in small letters. -/
def isSmallHexDigit (c : Char) : Bool :=
  c.isDigit || ('a' ≤ c && c ≤ 'f')

/-- The text between a beginning and a closing parenthesis at the end. -/
def inParentheses? (start : String) (word : List Char) : Option (List Char) :=
  if start.toList.isPrefixOf word && word.getLast? == some ')' then
    some (word.drop start.length).dropLast
  else none

/-- Whether a text is a number of decimal digits of at most a byte. -/
def isByte (s : List Char) : Bool :=
  let value := s.foldlM (fun n c => (Text.decimalValue? c).map (n * 10 + ·)) 0
  !s.isEmpty && value.any (· ≤ 255)

def cutCommas (s : List Char) : List (List Char) :=
  ((String.ofList s).splitOn ",").map String.toList

/-- Whether a word in small letters names a colour: by a name, by six hexadecimal digits, by its
number, or by its three parts. -/
def isColour (word : List Char) : Bool :=
  (colourRows.any fun row => (Text.blankWords row.toList).contains word) ||
    (word.head? == some '#' && word.length == 7 && (word.drop 1).all isSmallHexDigit) ||
    ((inParentheses? "color(" word).any fun n =>
      n.length ≤ 3 && n.all Char.isDigit && isByte n) ||
    ((inParentheses? "rgb(" word).any fun parts =>
      (cutCommas parts).length == 3 && (cutCommas parts).all isByte)

/-- What the name of a style says. -/
structure Style where
  attributes : List (String × Bool) := []
  colour : Option (List Char) := none
  background : Option (List Char) := none
  address : Option (List Char) := none

namespace Style

/-- Sets or denies an attribute; the last word on it counts. -/
def setAttribute (s : Style) (name : String) (on : Bool) : Style :=
  { s with attributes := (name, on) :: s.attributes.filter fun e => e.1 != name }

/-- A style with what the words of a name say over it, if they name a style. -/
def addWords? (s : Style) : List (List Char) → Option Style
  | [] => some s
  | [word] => addLast? s word
  | word :: next :: words =>
    match String.ofList (Text.lower word) with
    | "on" =>
      let colour := Text.lower next
      if isColour colour then addWords? { s with background := some colour } words else none
    | "not" => do addWords? (s.setAttribute (← attribute? (String.ofList next)) false) words
    | "link" => addWords? { s with address := some next } words
    | _ => do addWords? (← addLast? s word) (next :: words)
where
  /-- A style with what a single word says over it. -/
  addLast? (s : Style) (word : List Char) : Option Style :=
    let small := Text.lower word
    match attribute? (String.ofList small) with
    | some name => some (s.setAttribute name true)
    | none => if isColour small then some { s with colour := some small } else none

/-- What a style says, in its fixed order. -/
def words (s : Style) : List (List Char) :=
  let attributes := attributeNames.flatMap fun (name, _) =>
    match s.attributes.lookup name with
    | some true => [name.toList]
    | some false => ["not".toList, name.toList]
    | none => []
  let behind (word : String) (part : Option (List Char)) : List (List Char) :=
    (part.map fun p => [word.toList, p]).getD []
  attributes ++ s.colour.toList ++ behind "on" s.background ++ behind "link" s.address

end Style

/-- The name of the style that says nothing. -/
def plainStyle : String := "none"

/-- The normal form of the name of a style; what names no style is only put into small letters. -/
def normalStyle (name : List Char) : List Char :=
  let words := Text.blankWords name
  if words = [] ∨ words = [plainStyle.toList] then plainStyle.toList
  else match Style.addWords? {} words with
    | some s => (String.intercalate " " (s.words.map String.ofList)).toList
    | none => Text.lower (Text.strip name)

end PageMarkup.Terminal
