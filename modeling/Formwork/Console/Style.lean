import Formwork.Number.Reading
import Formwork.Text.Case
import Formwork.Text.Lines

/-!
Styles as markup tags name them. A style is a list of words: marks such as bold, colours, a
background and a link. Two tags name the same style when their canonical texts agree; words that
name no style are compared as they are, without regard to case.
-/

namespace Formwork.Console

inductive Mark
  | bold | dim | italic | underline | blink | blinkFast | reverse | conceal | strike
  | underlineTwice | frame | encircle | overline
  deriving DecidableEq, Repr

namespace Mark

def all : List Mark :=
  [.bold, .dim, .italic, .underline, .blink, .blinkFast, .reverse, .conceal, .strike,
    .underlineTwice, .frame, .encircle, .overline]

def name : Mark → String
  | .bold => "bold"
  | .dim => "dim"
  | .italic => "italic"
  | .underline => "underline"
  | .blink => "blink"
  | .blinkFast => "blink2"
  | .reverse => "reverse"
  | .conceal => "conceal"
  | .strike => "strike"
  | .underlineTwice => "underline2"
  | .frame => "frame"
  | .encircle => "encircle"
  | .overline => "overline"

def shortNames : List (String × Mark) :=
  [("b", .bold), ("d", .dim), ("i", .italic), ("u", .underline), ("uu", .underlineTwice),
    ("r", .reverse), ("s", .strike), ("c", .conceal), ("o", .overline)]

def ofWord? (word : String) : Option Mark :=
  (all.find? fun m => m.name == word) <|> shortNames.lookup word

end Mark

namespace Style

/-- The names of colours. -/
def colorNames : List (List Char) :=
  Text.words "
    aquamarine1 aquamarine3 black blue blue1 blue3 blue_violet bright_black bright_blue
    bright_cyan bright_green bright_magenta bright_red bright_white bright_yellow cadet_blue
    chartreuse1 chartreuse2 chartreuse3 chartreuse4 cornflower_blue cornsilk1 cyan cyan1 cyan2
    cyan3 dark_blue dark_cyan dark_goldenrod dark_green dark_khaki dark_magenta
    dark_olive_green1 dark_olive_green2 dark_olive_green3 dark_orange dark_orange3 dark_red
    dark_sea_green dark_sea_green1 dark_sea_green2 dark_sea_green3 dark_sea_green4
    dark_slate_gray1 dark_slate_gray2 dark_slate_gray3 dark_turquoise dark_violet deep_pink1
    deep_pink2 deep_pink3 deep_pink4 deep_sky_blue1 deep_sky_blue2 deep_sky_blue3
    deep_sky_blue4 dodger_blue1 dodger_blue2 dodger_blue3 gold1 gold3 gray0 gray100 gray11
    gray15 gray19 gray23 gray27 gray3 gray30 gray35 gray37 gray39 gray42 gray46 gray50 gray53
    gray54 gray58 gray62 gray63 gray66 gray69 gray7 gray70 gray74 gray78 gray82 gray84 gray85
    gray89 gray93 green green1 green3 green4 green_yellow grey0 grey100 grey11 grey15 grey19
    grey23 grey27 grey3 grey30 grey35 grey37 grey39 grey42 grey46 grey50 grey53 grey54 grey58
    grey62 grey63 grey66 grey69 grey7 grey70 grey74 grey78 grey82 grey84 grey85 grey89 grey93
    honeydew2 hot_pink hot_pink2 hot_pink3 indian_red indian_red1 khaki1 khaki3 light_coral
    light_cyan1 light_cyan3 light_goldenrod1 light_goldenrod2 light_goldenrod3 light_green
    light_pink1 light_pink3 light_pink4 light_salmon1 light_salmon3 light_sea_green
    light_sky_blue1 light_sky_blue3 light_slate_blue light_slate_gray light_slate_grey
    light_steel_blue light_steel_blue1 light_steel_blue3 light_yellow3 magenta magenta1
    magenta2 magenta3 medium_orchid medium_orchid1 medium_orchid3 medium_purple medium_purple1
    medium_purple2 medium_purple3 medium_purple4 medium_spring_green medium_turquoise
    medium_violet_red misty_rose1 misty_rose3 navajo_white1 navajo_white3 navy_blue orange1
    orange3 orange4 orange_red1 orchid orchid1 orchid2 pale_green1 pale_green3 pale_turquoise1
    pale_turquoise4 pale_violet_red1 pink1 pink3 plum1 plum2 plum3 plum4 purple purple3
    purple4 red red1 red3 rosy_brown royal_blue1 salmon1 sandy_brown sea_green1 sea_green2
    sea_green3 sky_blue1 sky_blue2 sky_blue3 slate_blue1 slate_blue3 spring_green1
    spring_green2 spring_green3 spring_green4 steel_blue steel_blue1 steel_blue3 tan thistle1
    thistle3 turquoise2 turquoise4 violet wheat1 wheat4 white yellow yellow1 yellow2 yellow3
    yellow4".toList

inductive Fault
  | unknown
  | share (fault : Number.Reading.IntegerFault)
  deriving DecidableEq, Repr

def argument? (function : String) (cs : List Char) : Option (List Char) :=
  let opening := function.toList ++ ['(']
  if opening.isPrefixOf cs && cs.getLast? == some ')' then
    some (cs.drop opening.length).dropLast
  else none

/-- The most digits of the number of a colour. -/
def longestNumber : Nat := 3

/-- The greatest number of a colour, and the greatest share of red, green or blue. -/
def greatestShare : Int := 255

def isColorNumber (cs : List Char) : Bool :=
  !cs.isEmpty && cs.length ≤ longestNumber &&
    match cs.mapM Text.asciiDigit? with
    | some digits => Text.ofDigits 10 digits ≤ greatestShare
    | none => false

/-- Whether a character may stand between the parentheses of shares. -/
def isShareChar (c : Char) : Bool := (Text.digitValue? c).isSome || c == ','

/-- Checks the shares of red, green and blue. Each has to be a whole number, before any of them is
compared with the greatest one. -/
def checkShares (inner : List Char) : Except Fault Unit := do
  let shares := Text.pieces ',' inner
  if inner.isEmpty || !inner.all isShareChar || shares.length != 3 then throw .unknown
  let values ← shares.mapM fun share => (Number.Reading.boundedInt share).mapError .share
  unless values.all (· ≤ greatestShare) do throw .unknown

/-- Checks that a word in lower case names a colour: by a name, six hexadecimal digits, a number,
or the shares of red, green and blue. -/
def checkColor (word : String) : Except Fault Unit := do
  let cs := word.toList
  if let some inner := argument? "rgb" cs then checkShares inner
  else
    unless word == "default" || colorNames.contains cs ||
        (cs.head? == some '#' && cs.length == 7 &&
          cs.tail.all fun c => (Text.hexValue? c).isSome) ||
        (argument? "color" cs).any isColorNumber do
      throw .unknown

end Style

structure Style where
  marks : List (Mark × Bool) := []
  color : Option String := none
  background : Option String := none
  link : Option String := none
  deriving DecidableEq, Repr, Inhabited

namespace Style

/-- Sets a mark; what was set before for the same mark is lost. -/
def mark (s : Style) (m : Mark) (on : Bool) : Style :=
  { s with marks := (m, on) :: s.marks.filter fun p => p.1 ≠ m }

/-- Reads the words of a style on top of the words before them. -/
def readOnto (s : Style) : List String → Except Fault Style
  | [] => .ok s
  | given :: rest =>
    let word := Text.lower given
    if word = "on" then
      match rest with
      | next :: rest => do
        checkColor (Text.lower next)
        readOnto { s with background := some (Text.lower next) } rest
      | [] => .error .unknown
    else if word = "not" then
      match rest with
      | next :: rest =>
        match Mark.ofWord? next with
        | some m => readOnto (s.mark m false) rest
        | none => .error .unknown
      | [] => .error .unknown
    else if word = "link" then
      match rest with
      | next :: rest => readOnto { s with link := some next } rest
      | [] => .error .unknown
    else
      match Mark.ofWord? word with
      | some m => readOnto (s.mark m true) rest
      | none => do
        checkColor word
        readOnto { s with color := some word } rest

def read (text : String) : Except Fault Style :=
  if Text.strip text = "none" then .ok {}
  else readOnto {} ((Text.words text.toList).map String.ofList)

def words (s : Style) : List String :=
  (Mark.all.filterMap fun m =>
    (s.marks.lookup m).map fun on => if on then m.name else "not " ++ m.name) ++
  s.color.toList ++ (s.background.toList.map ("on " ++ ·)) ++ (s.link.toList.map ("link " ++ ·))

def text (s : Style) : String :=
  if s.words.isEmpty then "none" else " ".intercalate s.words

/-- The name under which a tag is remembered: the canonical text of the style it names, or the
tag itself in lower case. A colour with a share that is no whole number has none. -/
def canonical (tag : String) : Except Number.Reading.IntegerFault String :=
  match read tag with
  | .ok s => .ok s.text
  | .error .unknown => .ok (Text.lower (Text.strip tag))
  | .error (.share fault) => .error fault

end Style

end Formwork.Console
