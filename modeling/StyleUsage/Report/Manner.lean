import StyleUsage.Collection.Entries
import StyleUsage.Text.Basic
import StyleUsage.Text.Digits
import StyleUsage.Text.Lowercase

/-!
# Manners of writing

A manner of writing is described by words: attributes, a color, a color of the ground after the word
`on`, and the target of a link after the word `link`. Descriptions that mean the same have one plain
form, in which the attributes stand in a fixed order.
-/

namespace StyleUsage.Report

/-- The attributes of a manner of writing, in the order of the plain form. -/
def attributeNames : List String :=
  ["bold", "dim", "italic", "underline", "blink", "blink2", "reverse", "conceal", "strike",
   "underline2", "frame", "encircle", "overline"]

def shortNames : List (String × String) :=
  [("b", "bold"), ("d", "dim"), ("i", "italic"), ("u", "underline"), ("r", "reverse"),
   ("c", "conceal"), ("s", "strike"), ("uu", "underline2"), ("o", "overline")]

def attribute? (word : String) : Option String :=
  if attributeNames.contains word then some word else shortNames.lookup word

def colorNames : List String := [
  "aquamarine1 aquamarine3 black blue blue1 blue3 blue_violet bright_black bright_blue",
  "bright_cyan bright_green bright_magenta bright_red bright_white bright_yellow cadet_blue",
  "chartreuse1 chartreuse2 chartreuse3 chartreuse4 cornflower_blue cornsilk1 cyan cyan1 cyan2",
  "cyan3 dark_blue dark_cyan dark_goldenrod dark_green dark_khaki dark_magenta dark_olive_green1",
  "dark_olive_green2 dark_olive_green3 dark_orange dark_orange3 dark_red dark_sea_green",
  "dark_sea_green1 dark_sea_green2 dark_sea_green3 dark_sea_green4 dark_slate_gray1",
  "dark_slate_gray2 dark_slate_gray3 dark_turquoise dark_violet deep_pink1 deep_pink2 deep_pink3",
  "deep_pink4 deep_sky_blue1 deep_sky_blue2 deep_sky_blue3 deep_sky_blue4 dodger_blue1",
  "dodger_blue2 dodger_blue3 gold1 gold3 gray0 gray100 gray11 gray15 gray19 gray23 gray27 gray3",
  "gray30 gray35 gray37 gray39 gray42 gray46 gray50 gray53 gray54 gray58 gray62 gray63 gray66",
  "gray69 gray7 gray70 gray74 gray78 gray82 gray84 gray85 gray89 gray93 green green1 green3",
  "green4 green_yellow grey0 grey100 grey11 grey15 grey19 grey23 grey27 grey3 grey30 grey35",
  "grey37 grey39 grey42 grey46 grey50 grey53 grey54 grey58 grey62 grey63 grey66 grey69 grey7",
  "grey70 grey74 grey78 grey82 grey84 grey85 grey89 grey93 honeydew2 hot_pink hot_pink2",
  "hot_pink3 indian_red indian_red1 khaki1 khaki3 light_coral light_cyan1 light_cyan3",
  "light_goldenrod1 light_goldenrod2 light_goldenrod3 light_green light_pink1 light_pink3",
  "light_pink4 light_salmon1 light_salmon3 light_sea_green light_sky_blue1 light_sky_blue3",
  "light_slate_blue light_slate_gray light_slate_grey light_steel_blue light_steel_blue1",
  "light_steel_blue3 light_yellow3 magenta magenta1 magenta2 magenta3 medium_orchid",
  "medium_orchid1 medium_orchid3 medium_purple medium_purple1 medium_purple2 medium_purple3",
  "medium_purple4 medium_spring_green medium_turquoise medium_violet_red misty_rose1 misty_rose3",
  "navajo_white1 navajo_white3 navy_blue orange1 orange3 orange4 orange_red1 orchid orchid1",
  "orchid2 pale_green1 pale_green3 pale_turquoise1 pale_turquoise4 pale_violet_red1 pink1 pink3",
  "plum1 plum2 plum3 plum4 purple purple3 purple4 red red1 red3 rosy_brown royal_blue1 salmon1",
  "sandy_brown sea_green1 sea_green2 sea_green3 sky_blue1 sky_blue2 sky_blue3 slate_blue1",
  "slate_blue3 spring_green1 spring_green2 spring_green3 spring_green4 steel_blue steel_blue1",
  "steel_blue3 tan thistle1 thistle3 turquoise2 turquoise4 violet wheat1 wheat4 white yellow",
  "yellow1 yellow2 yellow3 yellow4"]

/-- A manner of writing. -/
structure Manner where
  attributes : Entries String Bool
  color : Option String
  ground : Option String
  link : Option String
  deriving Inhabited

/-- Why words describe no manner of writing. -/
inductive MannerFault where
  | unknown
  /-- A part of a color that should be a number has no digits. -/
  | missingNumber
  deriving DecidableEq, Repr

def MannerFault.message : MannerFault → String
  | .unknown => "unable to parse the description"
  | .missingNumber => "invalid literal for int() with base 10: ''"

namespace Manner

/-! ## Colors -/

/-- What stands between the name of a form of color and the bracket that closes it. -/
def inBrackets? (name : String) (word : List Char) : Option (List Char) :=
  let front := name.toList ++ ['(']
  if front.isPrefixOf word && word.getLast? == some ')' then
    some ((word.drop front.length).dropLast)
  else none

/-- Whether a number may be a part of a color. -/
def isShade (n : Nat) : Bool := n < 256

/-- Check three numbers with commas between them. Digits of every script count. -/
def checkShades (cs : List Char) : Except MannerFault Unit :=
  let numbers := Text.parts ',' (cs.map Text.plainDigit)
  if numbers.length ≠ 3 ∨ numbers.any (fun ds => !ds.all Char.isDigit) then
    .error .unknown
  else if numbers.any List.isEmpty then .error .missingNumber
  else if numbers.all fun ds => isShade (Text.digitsValue ds) then .ok ()
  else .error .unknown

/-- The small form of a word that names a color. -/
def readColor (word : List Char) : Except MannerFault String :=
  let small := Text.lower word
  let name := String.ofList small
  let isHex (c : Char) : Bool := c.isDigit || ('a' ≤ c && c ≤ 'f')
  let named := name == "default" ||
    colorNames.any fun line => (Text.parts ' ' line.toList).contains small
  let hexadecimal := small.head? == some '#' && small.length == 7 && (small.drop 1).all isHex
  let numbered := (inBrackets? "color" small).any fun ds =>
    !ds.isEmpty && ds.length ≤ 3 && ds.all Char.isDigit && isShade (Text.digitsValue ds)
  if named || hexadecimal || numbered then .ok name
  else match inBrackets? "rgb" small with
    | some shades => (checkShades shades).map fun _ => name
    | none => .error .unknown

/-! ## Descriptions -/

def words (cs : List Char) : List (List Char) :=
  (Text.parts ' ' (cs.map fun c => if Text.isBlank c then ' ' else c)).filter fun w => !w.isEmpty

/-- Take up the words of a description one after another. -/
def readWords (m : Manner) : List (List Char) → Except MannerFault Manner
  | [] => .ok m
  | word :: rest =>
    let name := String.ofList (Text.lower word)
    if name = "on" then
      match rest with
      | [] => .error .unknown
      | color :: rest => do
        let ground ← readColor color
        readWords { m with ground := some ground } rest
    else if name = "not" then
      match rest with
      | [] => .error .unknown
      | excluded :: rest =>
        match attribute? (String.ofList excluded) with
        | some a => readWords { m with attributes := Entries.put m.attributes a false } rest
        | none => .error .unknown
    else if name = "link" then
      match rest with
      | [] => .error .unknown
      | target :: rest => readWords { m with link := some (String.ofList target) } rest
    else
      match attribute? name with
      | some a => readWords { m with attributes := Entries.put m.attributes a true } rest
      | none => do
        let color ← readColor word
        readWords { m with color := some color } rest

/-- The manner of writing that a text describes. -/
def read (cs : List Char) : Except MannerFault Manner :=
  let words := words cs
  if words == ["none".toList] then .ok default else readWords default words

/-- The plain form of the description of a manner. -/
def text (m : Manner) : String :=
  let attributes := attributeNames.filterMap fun a =>
    (Entries.get? m.attributes a).map fun b => if b then a else "not " ++ a
  let ground := m.ground.toList.map ("on " ++ ·)
  let link := m.link.toList.map ("link " ++ ·)
  match attributes ++ m.color.toList ++ ground ++ link with
  | [] => "none"
  | parts => " ".intercalate parts

/-- The plain form of a description. A text that describes no manner is taken as a name, whose case
does not matter. -/
def plainForm (cs : List Char) : Except MannerFault String :=
  match read cs with
  | .ok m => .ok m.text
  | .error .unknown => .ok (String.ofList (Text.lower (Text.stripChars cs)))
  | .error e => .error e

end Manner

end StyleUsage.Report
