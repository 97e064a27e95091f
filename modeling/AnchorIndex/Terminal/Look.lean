import AnchorIndex.Fault
import AnchorIndex.Text.LetterCase
import AnchorIndex.Text.Numeral

/-!
# Names of looks

The tags of a message name looks: a list of qualities, each of which may be denied, colors for the
letters and for the ground, and a place that the text links to. Looks that are the same have one
name (`lookName`), whatever words ask for them and in whatever order. What names no look stands for
itself in small letters.
-/

namespace AnchorIndex.Terminal

/-! ### Words of a look -/

/-- The qualities of a look, in the order in which its name has them, with the words for each. -/
def qualityWords : List (String × List String) :=
  [("bold", ["bold", "b"]), ("dim", ["dim", "d"]), ("italic", ["italic", "i"]),
   ("underline", ["underline", "u"]), ("blink", ["blink"]), ("blink2", ["blink2"]),
   ("reverse", ["reverse", "r"]), ("conceal", ["conceal", "c"]), ("strike", ["strike", "s"]),
   ("underline2", ["underline2", "uu"]), ("frame", ["frame"]), ("encircle", ["encircle"]),
   ("overline", ["overline", "o"])]

/-- The quality that a word asks for. -/
def quality? (word : String) : Option String :=
  (qualityWords.find? fun (_, words) => words.contains word).map (·.1)

/-- The names of colors. -/
def colorNames : String := "default
black red green yellow blue magenta cyan white bright_black bright_red bright_green
bright_yellow bright_blue bright_magenta bright_cyan bright_white grey0 gray0 navy_blue
dark_blue blue3 blue1 dark_green deep_sky_blue4 dodger_blue3 dodger_blue2 green4
spring_green4 turquoise4 deep_sky_blue3 dodger_blue1 green3 spring_green3 dark_cyan
light_sea_green deep_sky_blue2 deep_sky_blue1 spring_green2 cyan3 dark_turquoise turquoise2
green1 spring_green1 medium_spring_green cyan2 cyan1 dark_red deep_pink4 purple4 purple3
blue_violet orange4 grey37 gray37 medium_purple4 slate_blue3 royal_blue1 chartreuse4
dark_sea_green4 pale_turquoise4 steel_blue steel_blue3 cornflower_blue chartreuse3
cadet_blue sky_blue3 steel_blue1 pale_green3 sea_green3 aquamarine3 medium_turquoise
chartreuse2 sea_green2 sea_green1 aquamarine1 dark_slate_gray2 dark_magenta dark_violet
purple light_pink4 plum4 medium_purple3 slate_blue1 yellow4 wheat4 grey53 gray53
light_slate_grey light_slate_gray medium_purple light_slate_blue dark_olive_green3
dark_sea_green light_sky_blue3 sky_blue2 dark_sea_green3 dark_slate_gray3 sky_blue1
chartreuse1 light_green pale_green1 dark_slate_gray1 red3 medium_violet_red magenta3
dark_orange3 indian_red hot_pink3 medium_orchid3 medium_orchid medium_purple2 dark_goldenrod
light_salmon3 rosy_brown grey63 gray63 medium_purple1 gold3 dark_khaki navajo_white3 grey69
gray69 light_steel_blue3 light_steel_blue yellow3 dark_sea_green2 light_cyan3
light_sky_blue1 green_yellow dark_olive_green2 dark_sea_green1 pale_turquoise1 deep_pink3
magenta2 hot_pink2 orchid medium_orchid1 orange3 light_pink3 pink3 plum3 violet
light_goldenrod3 tan misty_rose3 thistle3 plum2 khaki3 light_goldenrod2 light_yellow3 grey84
gray84 light_steel_blue1 yellow2 dark_olive_green1 honeydew2 light_cyan1 red1 deep_pink2
deep_pink1 magenta1 orange_red1 indian_red1 hot_pink dark_orange salmon1 light_coral
pale_violet_red1 orchid2 orchid1 orange1 sandy_brown light_salmon1 light_pink1 pink1 plum1
gold1 navajo_white1 misty_rose1 thistle1 yellow1 light_goldenrod1 khaki1 wheat1 cornsilk1
grey100 gray100 grey3 gray3 grey7 gray7 grey11 gray11 grey15 gray15 grey19 gray19 grey23
gray23 grey27 gray27 grey30 gray30 grey35 gray35 grey39 gray39 grey42 gray42 grey46 gray46
grey50 gray50 grey54 gray54 grey58 gray58 grey62 gray62 grey66 gray66 grey70 gray70 grey74
gray74 grey78 gray78 grey82 gray82 grey85 gray85 grey89 gray89 grey93 gray93"

/-- The parts of a color between the brackets after a word. -/
def between? (word : String) (cs : List Char) : Option (List Char) :=
  match Text.afterPiece? (word ++ "(").toList cs with
  | some rest => if rest.getLast? = some ')' then some rest.dropLast else none
  | none => none

/-- A digit of a number of two. -/
def isHexDigit (c : Char) : Bool :=
  (Text.hexValue? c).isSome

/-- A number sign and six digits are a color. -/
def isHexColor : List Char → Bool
  | '#' :: digits => digits.length == 6 && digits.all isHexDigit
  | _ => false

/-- The number of a color, one of at most three digits, is a color. -/
def isColorNumber (digits : List Char) : Bool :=
  0 < digits.length && digits.length ≤ 3 && digits.all (·.isDigit) &&
    ((String.ofList digits).toNat?).any (· ≤ 255)

/-- Three numbers between commas are a color, or none if one of them is too great. A number that is
left out is a failure. -/
def isColorTriple (cs : List Char) : Except Failure Bool :=
  let isPart (c : Char) : Bool := c == ',' || (Text.digitValue? c).isSome
  let parts := Text.splitAt ',' cs
  if cs.isEmpty || !cs.all isPart || parts.length != 3 then .ok false
  else if parts.contains [] then
    .error (.argument ("invalid literal for int() with base 10: " ++ Text.quote ""))
  else .ok (parts.all fun part => (Text.readNat? part).any (· ≤ 255))

/-- A word in small letters is a color. -/
def isColor (word : String) : Except Failure Bool :=
  let cs := word.toList
  if (Text.words colorNames.toList).contains cs || isHexColor cs then .ok true
  else
    match between? "color" cs, between? "rgb" cs with
    | some number, _ => .ok (isColorNumber number)
    | _, some triple => isColorTriple triple
    | _, _ => .ok false

/-! ### Looks -/

/-- What a look is made of. -/
inductive LookPart where
  | quality (name : String) (isOn : Bool)
  | color (name : String)
  | ground (name : String)
  | link (place : String)

/-- The part that one word asks for, if it is one. -/
def partOfWord? (word : String) : Except Failure (Option LookPart) := do
  match quality? word with
  | some name => return some (.quality name true)
  | none => if ← isColor word then return some (.color word) else return none

/-- The part that a word and the one after it ask for; nothing if the first asks for a part alone,
or if they ask for none. -/
def partOfWords? (word next : String) : Except Failure (Option LookPart) := do
  match word with
  | "on" =>
    let color := Text.lower next
    if ← isColor color then return some (.ground color) else return none
  | "not" => return (quality? next).map (.quality · false)
  | "link" => return some (.link next)
  | _ => return none

/-- The words that another one has to follow. -/
def leadingWords : List String := ["on", "not", "link"]

/-- The parts that words ask for, unless one of them asks for none. -/
def lookParts? : List String → Except Failure (Option (List LookPart))
  | [] => return some []
  | [word] => return (← partOfWord? (Text.lower word)).map ([·])
  | word :: next :: rest => do
    let word := Text.lower word
    if leadingWords.contains word then
      let some part ← partOfWords? word next | return none
      return (← lookParts? rest).map (part :: ·)
    else
      let some part ← partOfWord? word | return none
      return (← lookParts? (next :: rest)).map (part :: ·)

/-- A quality, and whether a part sets or denies it. -/
def LookPart.quality? : LookPart → Option (String × Bool)
  | quality name isOn => some (name, isOn)
  | _ => none

/-- The color of the letters, if a part is that. -/
def LookPart.color? : LookPart → Option String
  | color name => some name
  | _ => none

/-- The color of the ground, if a part is that. -/
def LookPart.ground? : LookPart → Option String
  | ground name => some name
  | _ => none

/-- The place of a link, if a part is that. -/
def LookPart.link? : LookPart → Option String
  | link place => some place
  | _ => none

/-- The name of the look with some parts, of which later ones win. -/
def nameOfParts (parts : List LookPart) : String :=
  let latest := parts.reverse
  let isOn := latest.filterMap (·.quality?)
  let qualities := qualityWords.filterMap fun (name, _) =>
    (isOn.lookup name).map fun b => if b then name else "not " ++ name
  let color := (latest.findSome? (·.color?)).toList
  let ground := (latest.findSome? (·.ground?)).toList.map ("on " ++ ·)
  let link := (latest.findSome? (·.link?)).toList.map ("link " ++ ·)
  let words := qualities ++ color ++ ground ++ link
  if words.isEmpty then "none" else " ".intercalate words

/-- The name of the look that a text asks for. A text that asks for none is its own name, in small
letters and without the blanks around it. -/
def lookName (cs : List Char) : Except Failure String := do
  match ← lookParts? ((Text.words cs).map String.ofList) with
  | some parts => return nameOfParts parts
  | none => return Text.lower (String.ofList (Text.strip cs))

end AnchorIndex.Terminal
