import SchemaTypings.Json.Reader
import SchemaTypings.Text.Blank
import SchemaTypings.Text.Digit
import SchemaTypings.Text.LetterCase

/-!
# Styles

A style is told in words: attributes, each of which `not` turns off, a color, a background after `on`
and the target of a link after `link`. Styles of one effect have one normal form, by which a tag finds
the tag that it closes.
-/

namespace SchemaTypings.Console

/-! ## Colors -/

def colorNames : List String :=
  ["black", "red", "green", "yellow", "blue", "magenta", "cyan", "white", "bright_black",
   "bright_red", "bright_green", "bright_yellow", "bright_blue", "bright_magenta", "bright_cyan",
   "bright_white", "grey0", "gray0", "navy_blue", "dark_blue", "blue3", "blue1", "dark_green",
   "deep_sky_blue4", "dodger_blue3", "dodger_blue2", "green4", "spring_green4", "turquoise4",
   "deep_sky_blue3", "dodger_blue1", "green3", "spring_green3", "dark_cyan", "light_sea_green",
   "deep_sky_blue2", "deep_sky_blue1", "spring_green2", "cyan3", "dark_turquoise", "turquoise2",
   "green1", "spring_green1", "medium_spring_green", "cyan2", "cyan1", "dark_red", "deep_pink4",
   "purple4", "purple3", "blue_violet", "orange4", "grey37", "gray37", "medium_purple4",
   "slate_blue3", "royal_blue1", "chartreuse4", "dark_sea_green4", "pale_turquoise4",
   "steel_blue", "steel_blue3", "cornflower_blue", "chartreuse3", "cadet_blue", "sky_blue3",
   "steel_blue1", "pale_green3", "sea_green3", "aquamarine3", "medium_turquoise", "chartreuse2",
   "sea_green2", "sea_green1", "aquamarine1", "dark_slate_gray2", "dark_magenta", "dark_violet",
   "purple", "light_pink4", "plum4", "medium_purple3", "slate_blue1", "yellow4", "wheat4",
   "grey53", "gray53", "light_slate_grey", "light_slate_gray", "medium_purple",
   "light_slate_blue", "dark_olive_green3", "dark_sea_green", "light_sky_blue3", "sky_blue2",
   "dark_sea_green3", "dark_slate_gray3", "sky_blue1", "chartreuse1", "light_green",
   "pale_green1", "dark_slate_gray1", "red3", "medium_violet_red", "magenta3", "dark_orange3",
   "indian_red", "hot_pink3", "medium_orchid3", "medium_orchid", "medium_purple2",
   "dark_goldenrod", "light_salmon3", "rosy_brown", "grey63", "gray63", "medium_purple1", "gold3",
   "dark_khaki", "navajo_white3", "grey69", "gray69", "light_steel_blue3", "light_steel_blue",
   "yellow3", "dark_sea_green2", "light_cyan3", "light_sky_blue1", "green_yellow",
   "dark_olive_green2", "dark_sea_green1", "pale_turquoise1", "deep_pink3", "magenta2",
   "hot_pink2", "orchid", "medium_orchid1", "orange3", "light_pink3", "pink3", "plum3", "violet",
   "light_goldenrod3", "tan", "misty_rose3", "thistle3", "plum2", "khaki3", "light_goldenrod2",
   "light_yellow3", "grey84", "gray84", "light_steel_blue1", "yellow2", "dark_olive_green1",
   "honeydew2", "light_cyan1", "red1", "deep_pink2", "deep_pink1", "magenta1", "orange_red1",
   "indian_red1", "hot_pink", "dark_orange", "salmon1", "light_coral", "pale_violet_red1",
   "orchid2", "orchid1", "orange1", "sandy_brown", "light_salmon1", "light_pink1", "pink1",
   "plum1", "gold1", "navajo_white1", "misty_rose1", "thistle1", "yellow1", "light_goldenrod1",
   "khaki1", "wheat1", "cornsilk1", "grey100", "gray100", "grey3", "gray3", "grey7", "gray7",
   "grey11", "gray11", "grey15", "gray15", "grey19", "gray19", "grey23", "gray23", "grey27",
   "gray27", "grey30", "gray30", "grey35", "gray35", "grey39", "gray39", "grey42", "gray42",
   "grey46", "gray46", "grey50", "gray50", "grey54", "gray54", "grey58", "gray58", "grey62",
   "gray62", "grey66", "gray66", "grey70", "gray70", "grey74", "gray74", "grey78", "gray78",
   "grey82", "gray82", "grey85", "gray85", "grey89", "gray89", "grey93", "gray93"]

/-- Why words are no style. -/
inductive StyleFault where
  | unknown (word : String)
  /-- A part of a color is empty where a number has to stand. -/
  | missingNumber
  /-- A part of a color has more digits than any number. -/
  | tooManyDigits (count : Nat)
  deriving DecidableEq, Repr

def StyleFault.message : StyleFault → String
  | unknown word => "unable to parse " ++ word
  | missingNumber => "invalid literal for int() with base 10: ''"
  | tooManyDigits count => (Json.Fault.tooManyDigits count).message

def isHexDigit (c : Char) : Bool := c.isDigit || ('a' ≤ c && c ≤ 'f')

/-- What stands between an opening word and a bracket that ends the text. -/
def between? (opening : String) (cs : List Char) : Option (List Char) :=
  if opening.toList.isPrefixOf cs && cs.getLast? = some ')' then
    some (cs.drop opening.length).dropLast
  else none

/-- Why digits are no number. -/
def numberFault? (digits : List Char) : Option StyleFault :=
  if digits.isEmpty then some .missingNumber
  else if Value.maxDigits < digits.length then some (.tooManyDigits digits.length)
  else none

/-- Whether three parts of a color are at most 255 each. -/
def checkParts (word : String) (parts : List (List Char)) : Except StyleFault Unit :=
  if parts.length ≠ 3 then .error (.unknown word)
  else
    match parts.findSome? numberFault? with
    | some fault => .error fault
    | none =>
      if parts.all fun p => Text.decimalValue p ≤ 255 then .ok () else .error (.unknown word)

/-- A color by its name, as six hexadecimal digits, by its number or by its three parts. -/
def color (word : String) : Except StyleFault String :=
  let cs := Text.lower word.toList
  let name := String.ofList cs
  let unknown : Except StyleFault String := .error (.unknown word)
  if name = "default" || colorNames.contains name then .ok name
  else
    match cs with
    | '#' :: digits => if digits.length = 6 && digits.all isHexDigit then .ok name else unknown
    | _ =>
      match between? "color(" cs with
      | some digits =>
        if 1 ≤ digits.length && digits.length ≤ 3 && digits.all Char.isDigit &&
          Text.decimalValue digits ≤ 255 then .ok name
        else unknown
      | none =>
        match between? "rgb(" cs with
        | some inner =>
          if inner.isEmpty || !inner.all fun c => Text.isDecimalDigit c || c = ',' then unknown
          else (checkParts word (Text.cut ',' inner)).map fun _ => name
        | none => unknown

/-! ## Styles by words -/

/-- The words for attributes, short ones among them, with the attributes that they name. -/
def attributeWords : List (String × String) :=
  [("dim", "dim"), ("d", "dim"), ("bold", "bold"), ("b", "bold"), ("italic", "italic"),
   ("i", "italic"), ("underline", "underline"), ("u", "underline"), ("blink", "blink"),
   ("blink2", "blink2"), ("reverse", "reverse"), ("r", "reverse"), ("conceal", "conceal"),
   ("c", "conceal"), ("strike", "strike"), ("s", "strike"), ("underline2", "underline2"),
   ("uu", "underline2"), ("frame", "frame"), ("encircle", "encircle"), ("overline", "overline"),
   ("o", "overline")]

/-- The attributes in the order of a normal form. -/
def attributes : List String :=
  ["bold", "dim", "italic", "underline", "blink", "blink2", "reverse", "conceal", "strike",
   "underline2", "frame", "encircle", "overline"]

structure Style where
  /-- Attributes that are set, to on or off; the first entry for an attribute counts. -/
  set : List (String × Bool) := []
  color : Option String := none
  background : Option String := none
  link : Option String := none
  deriving DecidableEq, Repr

namespace Style

/-- Adds a word that stands alone: an attribute or a color. -/
def addWord (style : Style) (word : String) : Except StyleFault Style :=
  match attributeWords.lookup (Text.lowerString word) with
  | some name => .ok { style with set := (name, true) :: style.set }
  | none => (Console.color word).map fun name => { style with color := some name }

def addWords (style : Style) : List String → Except StyleFault Style
  | [] => .ok style
  | word :: rest =>
    match Text.lowerString word, rest with
    | "on", next :: rest =>
      match Console.color next with
      | .ok name => addWords { style with background := some name } rest
      | .error fault => .error fault
    | "not", next :: rest =>
      match attributeWords.lookup next with
      | some name => addWords { style with set := (name, false) :: style.set } rest
      | none => .error (.unknown next)
    | "link", next :: rest => addWords { style with link := some next } rest
    | _, rest =>
      match style.addWord word with
      | .ok style => addWords style rest
      | .error fault => .error fault

/-- The words of a style in their fixed order. -/
def words (style : Style) : List String :=
  (attributes.filterMap fun name =>
    (style.set.lookup name).map fun on => (if on then "" else "not ") ++ name) ++
  style.color.toList ++
  (style.background.toList.map ("on " ++ ·)) ++
  (style.link.toList.map ("link " ++ ·))

def text (style : Style) : String :=
  if style.words.isEmpty then "none" else " ".intercalate style.words

/-- The blank-separated words of a text. -/
def split (cs : List Char) : List String :=
  let spaced := cs.map fun c => if Text.isBlank c then ' ' else c
  ((Text.cut ' ' spaced).filter fun w => !w.isEmpty).map String.ofList

/-- The normal form of a style; words that are none stay as they are, in small letters. -/
def normal (cs : List Char) : Except StyleFault String :=
  if Text.trim cs = "none".toList then .ok "none"
  else
    match addWords {} (split cs) with
    | .ok style => .ok style.text
    | .error (.unknown _) => .ok (String.ofList (Text.lower (Text.trim cs)))
    | .error fault => .error fault

end Style

end SchemaTypings.Console
