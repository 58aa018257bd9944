import ClientMigration.Number.Numeral
import ClientMigration.Text.Blank
import ClientMigration.Text.Literal
import ClientMigration.Text.Lowercase
import ClientMigration.Text.Quoted

/-! # Styles

A style is defined by words: attributes, the colour of the text, the colour behind it after `on`, and an address after
`link`. Definitions of one effect have one normal form. A definition that is no style stands for itself in lower case. -/

namespace ClientMigration.CommandLine

structure Style where
  attributes : List (String × Bool) := []
  color : Option String := none
  background : Option String := none
  link : Option String := none
deriving DecidableEq, Repr

namespace Style

/-- Why a component of a colour is no integer. -/
inductive IntegerFault where
  | empty
  | long (digits : Nat)
deriving DecidableEq, Repr

def IntegerFault.message : IntegerFault → String
  | .empty => "invalid literal for int() with base 10: " ++ Text.quoted ""
  | .long digits => longIntegerMessage digits

/-! ### Colours -/

def colorNames : List String :=
  ["black", "red", "green", "yellow", "blue", "magenta", "cyan", "white", "bright_black", "bright_red",
   "bright_green", "bright_yellow", "bright_blue", "bright_magenta", "bright_cyan", "bright_white", "grey0",
   "gray0", "navy_blue", "dark_blue", "blue3", "blue1", "dark_green", "deep_sky_blue4", "dodger_blue3",
   "dodger_blue2", "green4", "spring_green4", "turquoise4", "deep_sky_blue3", "dodger_blue1", "green3",
   "spring_green3", "dark_cyan", "light_sea_green", "deep_sky_blue2", "deep_sky_blue1", "spring_green2",
   "cyan3", "dark_turquoise", "turquoise2", "green1", "spring_green1", "medium_spring_green", "cyan2", "cyan1",
   "dark_red", "deep_pink4", "purple4", "purple3", "blue_violet", "orange4", "grey37", "gray37",
   "medium_purple4", "slate_blue3", "royal_blue1", "chartreuse4", "dark_sea_green4", "pale_turquoise4",
   "steel_blue", "steel_blue3", "cornflower_blue", "chartreuse3", "cadet_blue", "sky_blue3", "steel_blue1",
   "pale_green3", "sea_green3", "aquamarine3", "medium_turquoise", "chartreuse2", "sea_green2", "sea_green1",
   "aquamarine1", "dark_slate_gray2", "dark_magenta", "dark_violet", "purple", "light_pink4", "plum4",
   "medium_purple3", "slate_blue1", "yellow4", "wheat4", "grey53", "gray53", "light_slate_grey",
   "light_slate_gray", "medium_purple", "light_slate_blue", "dark_olive_green3", "dark_sea_green",
   "light_sky_blue3", "sky_blue2", "dark_sea_green3", "dark_slate_gray3", "sky_blue1", "chartreuse1",
   "light_green", "pale_green1", "dark_slate_gray1", "red3", "medium_violet_red", "magenta3", "dark_orange3",
   "indian_red", "hot_pink3", "medium_orchid3", "medium_orchid", "medium_purple2", "dark_goldenrod",
   "light_salmon3", "rosy_brown", "grey63", "gray63", "medium_purple1", "gold3", "dark_khaki", "navajo_white3",
   "grey69", "gray69", "light_steel_blue3", "light_steel_blue", "yellow3", "dark_sea_green2", "light_cyan3",
   "light_sky_blue1", "green_yellow", "dark_olive_green2", "dark_sea_green1", "pale_turquoise1", "deep_pink3",
   "magenta2", "hot_pink2", "orchid", "medium_orchid1", "orange3", "light_pink3", "pink3", "plum3", "violet",
   "light_goldenrod3", "tan", "misty_rose3", "thistle3", "plum2", "khaki3", "light_goldenrod2",
   "light_yellow3", "grey84", "gray84", "light_steel_blue1", "yellow2", "dark_olive_green1", "honeydew2",
   "light_cyan1", "red1", "deep_pink2", "deep_pink1", "magenta1", "orange_red1", "indian_red1", "hot_pink",
   "dark_orange", "salmon1", "light_coral", "pale_violet_red1", "orchid2", "orchid1", "orange1", "sandy_brown",
   "light_salmon1", "light_pink1", "pink1", "plum1", "gold1", "navajo_white1", "misty_rose1", "thistle1",
   "yellow1", "light_goldenrod1", "khaki1", "wheat1", "cornsilk1", "grey100", "gray100", "grey3", "gray3",
   "grey7", "gray7", "grey11", "gray11", "grey15", "gray15", "grey19", "gray19", "grey23", "gray23", "grey27",
   "gray27", "grey30", "gray30", "grey35", "gray35", "grey39", "gray39", "grey42", "gray42", "grey46",
   "gray46", "grey50", "gray50", "grey54", "gray54", "grey58", "gray58", "grey62", "gray62", "grey66",
   "gray66", "grey70", "gray70", "grey74", "gray74", "grey78", "gray78", "grey82", "gray82", "grey85",
   "gray85", "grey89", "gray89", "grey93", "gray93"]

def isHexColor (cs : List Char) : Bool :=
  cs.head? == some '#' && cs.length == 7 && cs.tail.all fun c => c.isDigit || 'a' ≤ c && c ≤ 'f'

/-- What stands between a name and a closing bracket, of a text that begins and ends with them. -/
def arguments? (name : String) (cs : List Char) : Option (List Char) :=
  let opening := name.toList ++ ['(']
  if opening.isPrefixOf cs && opening.length < cs.length && cs.getLast? == some ')' then
    some (cs.drop opening.length).dropLast
  else none

/-- A colour of the palette has a number of at most three digits. -/
def isPaletteNumber (cs : List Char) : Bool :=
  !cs.isEmpty && cs.length ≤ 3 && cs.all Char.isDigit && Numeral.valueOf cs ≤ 255

/-- The value of a component, of decimal digits of any script. -/
def component (cs : List Char) : Except IntegerFault Nat :=
  if cs.isEmpty then .error .empty
  else if longestInteger < cs.length then .error (.long cs.length)
  else .ok (Numeral.valueOf (cs.map asciiDigit))

/-- Whether the components of a colour are three and in range. -/
def areComponents (cs : List Char) : Except IntegerFault Bool := do
  if cs.isEmpty || !cs.all (fun c => Text.isDigit c || c == ',') then return false
  match Text.pieces [','] cs with
  | [red, green, blue] => return [← component red, ← component green, ← component blue].all (· ≤ 255)
  | _ => return false

/-- Whether a word in lower case names a colour. -/
def isColor (word : String) : Except IntegerFault Bool :=
  let cs := word.toList
  if word == "default" || colorNames.contains word || isHexColor cs || (arguments? "color" cs).any isPaletteNumber then
    .ok true
  else
    match arguments? "rgb" cs with
    | some inside => areComponents inside
    | none => .ok false

/-! ### Definitions -/

/-- The attributes with their short names, in the order of normal forms. -/
def attributeNames : List (String × List String) :=
  [("bold", ["b"]), ("dim", ["d"]), ("italic", ["i"]), ("underline", ["u"]), ("blink", []), ("blink2", []),
   ("reverse", ["r"]), ("conceal", ["c"]), ("strike", ["s"]), ("underline2", ["uu"]), ("frame", []),
   ("encircle", []), ("overline", ["o"])]

def attribute? (word : String) : Option String :=
  (attributeNames.find? fun (name, short) => name == word || short.contains word).map (·.1)

/-- The style that words define, beside what it has already; none if they define none. -/
def ofWords (s : Style) : List String → Except IntegerFault (Option Style)
  | [] => .ok (some s)
  | word :: rest =>
    let name := Text.lower word
    if name = "on" then
      match rest with
      | [] => .ok none
      | word :: rest => do
        let color := Text.lower word
        if ← isColor color then ofWords { s with background := some color } rest else return none
    else if name = "not" then
      match rest with
      | [] => .ok none
      | word :: rest =>
        match attribute? word with
        | some name => ofWords { s with attributes := (name, false) :: s.attributes } rest
        | none => .ok none
    else if name = "link" then
      match rest with
      | [] => .ok none
      | word :: rest => ofWords { s with link := some word } rest
    else
      match attribute? name with
      | some name => ofWords { s with attributes := (name, true) :: s.attributes } rest
      | none => do
        if ← isColor name then ofWords { s with color := some name } rest else return none

/-- The words of the normal form. -/
def words (s : Style) : List String :=
  attributeNames.flatMap (fun (name, _) =>
    match s.attributes.lookup name with
    | some true => [name]
    | some false => ["not", name]
    | none => []) ++
  s.color.toList ++ (s.background.map (["on", ·])).getD [] ++ (s.link.map (["link", ·])).getD []

/-- The words between the blanks of a text. -/
def wordsOf (s : String) : List String :=
  ((Text.splitLines (s.toList.map fun c => if Text.isBlank c then '\n' else c)).filter (!·.isEmpty)).map String.ofList

/-- The normal form of a definition. -/
def normal (definition : String) : Except IntegerFault String := do
  if definition.isEmpty || Text.strip definition == "none" then return "none"
  match ← ofWords {} (wordsOf definition) with
  | some s => return if s.words.isEmpty then "none" else String.intercalate " " s.words
  | none => return Text.lower (Text.strip definition)

end Style

end ClientMigration.CommandLine
