import WebLint.Number.Decimal
import WebLint.Text.Lower

namespace WebLint.Style

def colorNames : List Text := Text.words <|
  "black red green yellow blue magenta cyan white bright_black bright_red bright_green " ++
  "bright_yellow bright_blue bright_magenta bright_cyan bright_white grey0 gray0 navy_blue " ++
  "dark_blue blue3 blue1 dark_green deep_sky_blue4 dodger_blue3 dodger_blue2 green4 " ++
  "spring_green4 turquoise4 deep_sky_blue3 dodger_blue1 green3 spring_green3 dark_cyan " ++
  "light_sea_green deep_sky_blue2 deep_sky_blue1 spring_green2 cyan3 dark_turquoise " ++
  "turquoise2 green1 spring_green1 medium_spring_green cyan2 cyan1 dark_red deep_pink4 " ++
  "purple4 purple3 blue_violet orange4 grey37 gray37 medium_purple4 slate_blue3 royal_blue1 " ++
  "chartreuse4 dark_sea_green4 pale_turquoise4 steel_blue steel_blue3 cornflower_blue " ++
  "chartreuse3 cadet_blue sky_blue3 steel_blue1 pale_green3 sea_green3 aquamarine3 " ++
  "medium_turquoise chartreuse2 sea_green2 sea_green1 aquamarine1 dark_slate_gray2 " ++
  "dark_magenta dark_violet purple light_pink4 plum4 medium_purple3 slate_blue1 yellow4 " ++
  "wheat4 grey53 gray53 light_slate_grey light_slate_gray medium_purple light_slate_blue " ++
  "dark_olive_green3 dark_sea_green light_sky_blue3 sky_blue2 dark_sea_green3 " ++
  "dark_slate_gray3 sky_blue1 chartreuse1 light_green pale_green1 dark_slate_gray1 red3 " ++
  "medium_violet_red magenta3 dark_orange3 indian_red hot_pink3 medium_orchid3 " ++
  "medium_orchid medium_purple2 dark_goldenrod light_salmon3 rosy_brown grey63 gray63 " ++
  "medium_purple1 gold3 dark_khaki navajo_white3 grey69 gray69 light_steel_blue3 " ++
  "light_steel_blue yellow3 dark_sea_green2 light_cyan3 light_sky_blue1 green_yellow " ++
  "dark_olive_green2 dark_sea_green1 pale_turquoise1 deep_pink3 magenta2 hot_pink2 orchid " ++
  "medium_orchid1 orange3 light_pink3 pink3 plum3 violet light_goldenrod3 tan misty_rose3 " ++
  "thistle3 plum2 khaki3 light_goldenrod2 light_yellow3 grey84 gray84 light_steel_blue1 " ++
  "yellow2 dark_olive_green1 honeydew2 light_cyan1 red1 deep_pink2 deep_pink1 magenta1 " ++
  "orange_red1 indian_red1 hot_pink dark_orange salmon1 light_coral pale_violet_red1 " ++
  "orchid2 orchid1 orange1 sandy_brown light_salmon1 light_pink1 pink1 plum1 gold1 " ++
  "navajo_white1 misty_rose1 thistle1 yellow1 light_goldenrod1 khaki1 wheat1 cornsilk1 " ++
  "grey100 gray100 grey3 gray3 grey7 gray7 grey11 gray11 grey15 gray15 grey19 gray19 grey23 " ++
  "gray23 grey27 gray27 grey30 gray30 grey35 gray35 grey39 gray39 grey42 gray42 grey46 " ++
  "gray46 grey50 gray50 grey54 gray54 grey58 gray58 grey62 gray62 grey66 gray66 grey70 " ++
  "gray70 grey74 gray74 grey78 gray78 grey82 gray82 grey85 gray85 grey89 gray89 grey93 " ++
  "gray93"

def attributes : List (Text × List Text) := [
  ("bold", ["bold", "b"]), ("dim", ["dim", "d"]), ("italic", ["italic", "i"]),
  ("underline", ["underline", "u"]), ("blink", ["blink"]), ("blink2", ["blink2"]),
  ("reverse", ["reverse", "r"]), ("conceal", ["conceal", "c"]), ("strike", ["strike", "s"]),
  ("underline2", ["underline2", "uu"]), ("frame", ["frame"]), ("encircle", ["encircle"]),
  ("overline", ["overline", "o"])]

def attribute? (name : Text) : Option Text :=
  (attributes.find? fun a => a.2.contains name).map (·.1)

def isChannel (t : Text) : Bool :=
  !t.isEmpty && t.all Code.isAsciiDigit && ofAsciiDigits t ≤ 255

def arguments? (name word : Text) : Option Text :=
  (word.dropPrefix? name).bind fun r =>
    if r.endsWithCode close then some r.dropLast else none
where
  close : Code := ')'

/-- Is a word in small letters a colour: a name, six hexadecimal digits, a number or three? -/
def isColor (word : Text) : Bool :=
  word == "default" || colorNames.contains word ||
    (match word.dropPrefix? "#" with
    | some ds => ds.length == 6 && ds.all fun c => c.hexValue?.isSome
    | none => false) ||
    (match arguments? "color(" word with
    | some n => n.length ≤ 3 && isChannel n
    | none => false) ||
    (match arguments? "rgb(" word with
    | some ns =>
      let channels := Text.splitOn ',' ns
      channels.length == 3 && channels.all isChannel
    | none => false)

/-- A style: attributes that are turned on or off, the latest first, and colours and a link. -/
structure Parts where
  switches : List (Text × Bool) := []
  color : Option Text := none
  background : Option Text := none
  link : Option Text := none

def parts? (p : Parts) : List Text → Option Parts
  | [] => some p
  | [w] =>
    let word := w.lower
    match attribute? word with
    | some a => some { p with switches := (a, true) :: p.switches }
    | none => if isColor word then some { p with color := some word } else none
  | w :: next :: rest =>
    let word := w.lower
    if word = "on" then
      if isColor next.lower then parts? { p with background := some next.lower } rest else none
    else if word = "not" then
      match attribute? next with
      | some a => parts? { p with switches := (a, false) :: p.switches } rest
      | none => none
    else if word = "link" then parts? { p with link := some next } rest
    else match attribute? word with
    | some a => parts? { p with switches := (a, true) :: p.switches } (next :: rest)
    | none =>
      if isColor word then parts? { p with color := some word } (next :: rest) else none

def Parts.text (p : Parts) : Text :=
  let switched := attributes.filterMap fun a =>
    (p.switches.lookup a.1).map fun on => if on then a.1 else Text.ofString "not " ++ a.1
  let color := p.color.toList
  let background := p.background.toList.map (Text.ofString "on " ++ ·)
  let link := p.link.toList.map (Text.ofString "link " ++ ·)
  match switched ++ color ++ background ++ link with
  | [] => "none"
  | ws => Text.join " " ws

def normal (t : Text) : Text :=
  match if t.trim = "none" then some {} else parts? {} t.words with
  | some p => p.text
  | none => t.trim.lower

end WebLint.Style
