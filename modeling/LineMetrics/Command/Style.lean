import LineMetrics.Failure
import LineMetrics.Number.Numeral
import LineMetrics.Text.Case

/-!
# Styles of terminal text

A style is written as words: attributes such as `bold` or, in short, `b`; `not` with an attribute; a
colour of the text; `on` with a colour of the background; and `link` with an address.  Two styles
that mean the same have one normal form, in which attributes come first and in a fixed order.  What
is no style is compared as it stands, in lower case and without the blanks around it.

A colour is a name, `#` and six hexadecimal digits, `color(n)` with a number up to 255, or
`rgb(r,g,b)` with three of them.
-/

namespace LineMetrics

/-- The attributes of a style, in the order of the normal form. -/
inductive Attribute
  | bold
  | dim
  | italic
  | underline
  | blink
  | blink2
  | reverse
  | conceal
  | strike
  | underline2
  | frame
  | encircle
  | overline
  deriving Repr, DecidableEq

namespace Attribute

/-- All attributes, in the order of the normal form. -/
def all : List Attribute :=
  [bold, dim, italic, underline, blink, blink2, reverse, conceal, strike, underline2, frame,
   encircle, overline]

/-- The name of an attribute. -/
def name : Attribute → String
  | bold => "bold"
  | dim => "dim"
  | italic => "italic"
  | underline => "underline"
  | blink => "blink"
  | blink2 => "blink2"
  | reverse => "reverse"
  | conceal => "conceal"
  | strike => "strike"
  | underline2 => "underline2"
  | frame => "frame"
  | encircle => "encircle"
  | overline => "overline"

/-- The short name of an attribute that has one. -/
def short? : Attribute → Option String
  | bold => some "b"
  | dim => some "d"
  | italic => some "i"
  | underline => some "u"
  | reverse => some "r"
  | conceal => some "c"
  | strike => some "s"
  | underline2 => some "uu"
  | overline => some "o"
  | _ => none

/-- The attribute of a name, long or short. -/
def named? (word : String) : Option Attribute :=
  all.find? fun a => a.name = word || a.short? = some word

end Attribute

/-- The names of colours, in lines of words. -/
def colourNames : List String :=
  ["aquamarine1 aquamarine3 black blue blue1 blue3 blue_violet bright_black bright_blue",
   "bright_cyan bright_green bright_magenta bright_red bright_white bright_yellow cadet_blue",
   "chartreuse1 chartreuse2 chartreuse3 chartreuse4 cornflower_blue cornsilk1 cyan cyan1 cyan2",
   "cyan3 dark_blue dark_cyan dark_goldenrod dark_green dark_khaki dark_magenta",
   "dark_olive_green1 dark_olive_green2 dark_olive_green3 dark_orange dark_orange3 dark_red",
   "dark_sea_green dark_sea_green1 dark_sea_green2 dark_sea_green3 dark_sea_green4",
   "dark_slate_gray1 dark_slate_gray2 dark_slate_gray3 dark_turquoise dark_violet deep_pink1",
   "deep_pink2 deep_pink3 deep_pink4 deep_sky_blue1 deep_sky_blue2 deep_sky_blue3",
   "deep_sky_blue4 dodger_blue1 dodger_blue2 dodger_blue3 gold1 gold3 gray0 gray100 gray11",
   "gray15 gray19 gray23 gray27 gray3 gray30 gray35 gray37 gray39 gray42 gray46 gray50 gray53",
   "gray54 gray58 gray62 gray63 gray66 gray69 gray7 gray70 gray74 gray78 gray82 gray84 gray85",
   "gray89 gray93 green green1 green3 green4 green_yellow grey0 grey100 grey11 grey15 grey19",
   "grey23 grey27 grey3 grey30 grey35 grey37 grey39 grey42 grey46 grey50 grey53 grey54 grey58",
   "grey62 grey63 grey66 grey69 grey7 grey70 grey74 grey78 grey82 grey84 grey85 grey89 grey93",
   "honeydew2 hot_pink hot_pink2 hot_pink3 indian_red indian_red1 khaki1 khaki3 light_coral",
   "light_cyan1 light_cyan3 light_goldenrod1 light_goldenrod2 light_goldenrod3 light_green",
   "light_pink1 light_pink3 light_pink4 light_salmon1 light_salmon3 light_sea_green",
   "light_sky_blue1 light_sky_blue3 light_slate_blue light_slate_gray light_slate_grey",
   "light_steel_blue light_steel_blue1 light_steel_blue3 light_yellow3 magenta magenta1",
   "magenta2 magenta3 medium_orchid medium_orchid1 medium_orchid3 medium_purple medium_purple1",
   "medium_purple2 medium_purple3 medium_purple4 medium_spring_green medium_turquoise",
   "medium_violet_red misty_rose1 misty_rose3 navajo_white1 navajo_white3 navy_blue orange1",
   "orange3 orange4 orange_red1 orchid orchid1 orchid2 pale_green1 pale_green3 pale_turquoise1",
   "pale_turquoise4 pale_violet_red1 pink1 pink3 plum1 plum2 plum3 plum4 purple purple3",
   "purple4 red red1 red3 rosy_brown royal_blue1 salmon1 sandy_brown sea_green1 sea_green2",
   "sea_green3 sky_blue1 sky_blue2 sky_blue3 slate_blue1 slate_blue3 spring_green1",
   "spring_green2 spring_green3 spring_green4 steel_blue steel_blue1 steel_blue3 tan thistle1",
   "thistle3 turquoise2 turquoise4 violet wheat1 wheat4 white yellow yellow1 yellow2 yellow3",
   "yellow4 default"]

/-- Why words are no style. -/
inductive StyleFault
  | malformed
  /-- A component of a colour that is no number at all. -/
  | badNumber (message : String)
  deriving Repr, DecidableEq

namespace Colour

/-- What stands between two texts that a word starts and ends with. -/
def between? (opening : String) (word : List Char) : Option (List Char) :=
  if opening.toList.isPrefixOf word && word.getLast? = some ')' then
    some (word.drop opening.length).dropLast
  else none

/-- Whether a word is the name of a colour. -/
def isNamed (word : List Char) : Bool :=
  colourNames.any fun line => (Text.splitOn ' ' line.toList).contains word

/-- Whether a word is `#` and six hexadecimal digits in lower case. -/
def isHex : List Char → Bool
  | '#' :: digits =>
    digits.length = 6 && digits.all fun c => c.isDigit || ('a' ≤ c && c ≤ 'f')
  | _ => false

/-- The greatest number in a colour. -/
def maxNumber : Nat := 255

/-- Whether the text between the brackets of `color()` is a number up to 255. -/
def isNumber (digits : List Char) : Bool :=
  !digits.isEmpty && digits.length ≤ 3 && digits.all Char.isDigit
    && Numeral.ofDigits digits ≤ maxNumber

/-- The number of a component of a colour. -/
def component (digits : List Char) : Except StyleFault Int :=
  match Numeral.int digits with
  | .ok n => .ok n
  | .error fault => .error (.badNumber (Numeral.intReason (String.ofList digits) fault))

/-- Checks the text between the brackets of `rgb()`. -/
def checkComponents (text : List Char) : Except StyleFault Unit := do
  let isPart (c : Char) : Bool := c = ',' || (Text.digitValue? c).isSome
  if text.isEmpty || !text.all isPart then throw .malformed
  match Text.splitOn ',' text with
  | [red, green, blue] => do
    let numbers ← [red, green, blue].mapM component
    if numbers.any fun n => (maxNumber : Int) < n then throw .malformed
  | _ => throw .malformed

/-- Checks that a word, in lower case, is a colour. -/
def check (word : List Char) : Except StyleFault Unit :=
  if isNamed word || isHex word then .ok ()
  else match between? "color(" word, between? "rgb(" word with
    | some digits, _ => if isNumber digits then .ok () else .error .malformed
    | none, some text => checkComponents text
    | none, none => .error .malformed

end Colour

/-- A style: the attributes it turns on or off, its colours and its link. -/
structure Style where
  attributes : List (Attribute × Bool)
  colour : Option (List Char)
  background : Option (List Char)
  link : Option (List Char)
  deriving Repr, DecidableEq

namespace Style

/-- The style without any effect. -/
def plain : Style := ⟨[], none, none, none⟩

/-- The style with an attribute turned on or off. -/
def turn (s : Style) (a : Attribute) (on : Bool) : Style :=
  { s with attributes := (a, on) :: s.attributes }

/-- The style that words add to a style. -/
def extend (s : Style) : List (List Char) → Except StyleFault Style
  | [] => .ok s
  | word :: rest =>
    let small := Text.lowerCase word
    match String.ofList small, rest with
    | "on", [] | "not", [] | "link", [] => .error .malformed
    | "on", colour :: rest => do
      let colour := Text.lowerCase colour
      Colour.check colour
      extend { s with background := some colour } rest
    | "not", name :: rest =>
      match Attribute.named? (String.ofList name) with
      | some a => extend (s.turn a false) rest
      | none => .error .malformed
    | "link", address :: rest => extend { s with link := some address } rest
    | name, rest =>
      match Attribute.named? name with
      | some a => extend (s.turn a true) rest
      | none => do
        Colour.check small
        extend { s with colour := some small } rest

/-- The words of a text. -/
def words (s : List Char) : List (List Char) :=
  (s.splitBy fun a b => Text.isBlank a == Text.isBlank b).filter Text.isVisible

/-- The style that a text writes; `none` is the plain one. -/
def ofText (s : List Char) : Except StyleFault Style :=
  if Text.trim s = "none".toList then .ok plain else plain.extend (words s)

/-- An attribute of the style in words, if the style says anything about it. -/
def attributeText (s : Style) (a : Attribute) : List String :=
  match s.attributes.find? fun e => e.1 = a with
  | some (_, true) => [a.name]
  | some (_, false) => ["not " ++ a.name]
  | none => []

/-- The style in its normal form. -/
def toText (s : Style) : String :=
  let part (lead : String) (value : Option (List Char)) : List String :=
    value.toList.map fun v => lead ++ String.ofList v
  let parts := Attribute.all.flatMap s.attributeText ++ part "" s.colour
    ++ part "on " s.background ++ part "link " s.link
  if parts.isEmpty then "none" else " ".intercalate parts

/-- Checks words as a style; words that are none have no effect. -/
def check (words : String) : Except Fault Unit :=
  match ofText words.toList with
  | .error (.badNumber message) => .error (.badValue message)
  | _ => .ok ()

/-- The normal form of a text; a text that is no style is its own, in lower case. -/
def normalize (s : List Char) : Except Fault String :=
  match ofText s with
  | .ok style => .ok style.toText
  | .error .malformed => .ok (String.ofList (Text.lowerCase (Text.trim s)))
  | .error (.badNumber message) => .error (.badValue message)

end Style
end LineMetrics
