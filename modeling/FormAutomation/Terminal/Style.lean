import FormAutomation.Number.Numeral
import FormAutomation.Terminal.Wrap
import FormAutomation.Text.Case

/-!
# Styles

A style says how text is to look: a row of words such as `bold red on white`.
Words for looks may be shortened, and `not` takes a look away.  A colour is named,
or given by its number, its shares of red, green and blue, or six digits; after
`on` it is that of the background, and after `link` stands an address.  A later
word counts more than an earlier one.

The same style may be written in many ways and has one *form* (`Style.form`), by
which styles are compared.  A name that is no style is its own form, in small
letters.
-/

namespace FormAutomation.Terminal

open Text

/-- How text is to look. -/
structure Style where
  /-- the looks that are asked for or not wanted, the latest first -/
  looks : List (String × Bool) := []
  /-- the colour -/
  colour : Option String := none
  /-- the colour of the background -/
  background : Option String := none
  /-- the address that it leads to -/
  link : Option String := none
  deriving DecidableEq

namespace Style

/-- Why words are no style. -/
inductive Fault where
  /-- one of them means nothing -/
  | unknown
  /-- a share of a colour is missing -/
  | missingShare
  deriving DecidableEq

/-! ## Colours -/

/-- The names of colours, in lines. -/
def colourLines : List String :=
  ["black red green yellow blue magenta cyan white bright_black bright_red bright_green",
   "bright_yellow bright_blue bright_magenta bright_cyan bright_white grey0 gray0 navy_blue",
   "dark_blue blue3 blue1 dark_green deep_sky_blue4 dodger_blue3 dodger_blue2 green4",
   "spring_green4 turquoise4 deep_sky_blue3 dodger_blue1 green3 spring_green3 dark_cyan",
   "light_sea_green deep_sky_blue2 deep_sky_blue1 spring_green2 cyan3 dark_turquoise",
   "turquoise2 green1 spring_green1 medium_spring_green cyan2 cyan1 dark_red deep_pink4",
   "purple4 purple3 blue_violet orange4 grey37 gray37 medium_purple4 slate_blue3 royal_blue1",
   "chartreuse4 dark_sea_green4 pale_turquoise4 steel_blue steel_blue3 cornflower_blue",
   "chartreuse3 cadet_blue sky_blue3 steel_blue1 pale_green3 sea_green3 aquamarine3",
   "medium_turquoise chartreuse2 sea_green2 sea_green1 aquamarine1 dark_slate_gray2",
   "dark_magenta dark_violet purple light_pink4 plum4 medium_purple3 slate_blue1 yellow4",
   "wheat4 grey53 gray53 light_slate_grey light_slate_gray medium_purple light_slate_blue",
   "dark_olive_green3 dark_sea_green light_sky_blue3 sky_blue2 dark_sea_green3",
   "dark_slate_gray3 sky_blue1 chartreuse1 light_green pale_green1 dark_slate_gray1 red3",
   "medium_violet_red magenta3 dark_orange3 indian_red hot_pink3 medium_orchid3 medium_orchid",
   "medium_purple2 dark_goldenrod light_salmon3 rosy_brown grey63 gray63 medium_purple1 gold3",
   "dark_khaki navajo_white3 grey69 gray69 light_steel_blue3 light_steel_blue yellow3",
   "dark_sea_green2 light_cyan3 light_sky_blue1 green_yellow dark_olive_green2 dark_sea_green1",
   "pale_turquoise1 deep_pink3 magenta2 hot_pink2 orchid medium_orchid1 orange3 light_pink3",
   "pink3 plum3 violet light_goldenrod3 tan misty_rose3 thistle3 plum2 khaki3 light_goldenrod2",
   "light_yellow3 grey84 gray84 light_steel_blue1 yellow2 dark_olive_green1 honeydew2",
   "light_cyan1 red1 deep_pink2 deep_pink1 magenta1 orange_red1 indian_red1 hot_pink",
   "dark_orange salmon1 light_coral pale_violet_red1 orchid2 orchid1 orange1 sandy_brown",
   "light_salmon1 light_pink1 pink1 plum1 gold1 navajo_white1 misty_rose1 thistle1 yellow1",
   "light_goldenrod1 khaki1 wheat1 cornsilk1 grey100 gray100 grey3 gray3 grey7 gray7 grey11",
   "gray11 grey15 gray15 grey19 gray19 grey23 gray23 grey27 gray27 grey30 gray30 grey35 gray35",
   "grey39 gray39 grey42 gray42 grey46 gray46 grey50 gray50 grey54 gray54 grey58 gray58 grey62",
   "gray62 grey66 gray66 grey70 gray70 grey74 gray74 grey78 gray78 grey82 gray82 grey85 gray85",
   "grey89 gray89 grey93 gray93"]

/-- The names of colours. -/
def colourNames : List String :=
  "default" :: colourLines.flatMap fun line =>
    (splitOn ' ' line.toList).map String.ofList

/-- What stands between the brackets of a function. -/
def between? (name : String) (cs : List Char) : Option (List Char) :=
  let start := name.toList ++ ['(']
  if start.isPrefixOf cs ∧ cs.getLast? = some ')' then some (cs.drop start.length).dropLast
  else none

/-- Whether the characters are six digits in base sixteen after a sharp. -/
def isHex (cs : List Char) : Bool :=
  match cs with
  | '#' :: digits =>
    digits.length == 6 && digits.all fun c => c.isDigit || ('a' ≤ c && c ≤ 'f')
  | _ => false

/-- Whether the characters are the number of a colour. -/
def isNumber (cs : List Char) : Bool :=
  match between? "color" cs with
  | some digits =>
    !digits.isEmpty && digits.length ≤ 3 && digits.all Char.isDigit
      && (Numeral.readInt digits).any (· ≤ 255)
  | none => false

/-- Whether the characters are shares of red, green and blue; it is a fault of its
own when there are three and one is empty. -/
def areShares (cs : List Char) : Except Fault Bool :=
  match between? "rgb" cs with
  | some inside =>
    let shares := splitOn ',' inside
    if inside.all (fun c => c = ',' || (digitValue? c).isSome) && shares.length = 3 then
      if shares.any List.isEmpty then .error .missingShare
      else .ok (shares.all fun share => (Numeral.readInt share).any (· ≤ 255))
    else .ok false
  | none => .ok false

/-- The colour that a word is. -/
def readColour (word : String) : Except Fault String := do
  let name := lower word
  if colourNames.contains name || isHex name.toList || isNumber name.toList then return name
  if ← areShares name.toList then return name
  throw .unknown

/-! ## Looks -/

/-- The names of looks, each with its short form. -/
def lookNames : List (String × String) :=
  [("bold", "b"), ("dim", "d"), ("italic", "i"), ("underline", "u"), ("blink", "blink"),
   ("blink2", "blink2"), ("reverse", "r"), ("conceal", "c"), ("strike", "s"),
   ("underline2", "uu"), ("frame", "frame"), ("encircle", "encircle"), ("overline", "o")]

/-- The look that a word is. -/
def look? (word : String) : Option String :=
  (lookNames.find? fun look => look.1 == word || look.2 == word).map (·.1)

/-! ## Reading -/

/-- The style that words say, after those that were read. -/
def readFrom (style : Style) : List String → Except Fault Style
  | [] => .ok style
  | word :: rest =>
    let known := lower word
    if known = "on" then
      match rest with
      | [] => .error .unknown
      | colour :: rest => do
        readFrom { style with background := some (← readColour colour) } rest
    else if known = "not" then
      match rest with
      | [] => .error .unknown
      | word :: rest =>
        match look? word with
        | some look => readFrom { style with looks := (look, false) :: style.looks } rest
        | none => .error .unknown
    else if known = "link" then
      match rest with
      | [] => .error .unknown
      | address :: rest => readFrom { style with link := some address } rest
    else
      match look? known with
      | some look => readFrom { style with looks := (look, true) :: style.looks } rest
      | none => do readFrom { style with colour := some (← readColour word) } rest

/-- The words of a text. -/
def words (text : String) : List String :=
  ((partsBetween isBlank text.toList).filter fun word => !word.isEmpty).map String.ofList

/-- The style that a text says. -/
def read (text : String) : Except Fault Style :=
  if trim text = "none" then .ok {} else readFrom {} (words text)

/-! ## Writing -/

/-- The words of a style in order. -/
def toWords (style : Style) : List String :=
  let said (look : String × String) : Option String :=
    (style.looks.lookup look.1).map fun wanted => if wanted then look.1 else s!"not {look.1}"
  lookNames.filterMap said
    ++ style.colour.toList
    ++ (style.background.toList.flatMap fun colour => ["on", colour])
    ++ (style.link.toList.flatMap fun address => ["link", address])

/-- A style as a text. -/
def toText (style : Style) : String :=
  if style.toWords.isEmpty then "none" else " ".intercalate style.toWords

/-- The form by which styles are compared; nothing where a share of a colour is
missing. -/
def form (text : String) : Option String :=
  match read text with
  | .ok style => some style.toText
  | .error .unknown => some (lower (trim text))
  | .error .missingShare => none

end Style

end FormAutomation.Terminal
