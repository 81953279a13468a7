import LineMetrics.Command.EmojiNames
import LineMetrics.Text.Blank
import LineMetrics.Text.Case
import LineMetrics.Text.Search

/-!
# Emoji codes

Text for the terminal may name an emoji between colons, as in `:bug:`.  Letters of either case name
it alike.  A name that ends in `-text` or `-emoji` asks for the emoji drawn as a letter or as a
picture, by a variation selector behind it.  A code with an unknown name stays as it is, both its
colons included, so that the second one starts no other code.
-/

namespace LineMetrics
namespace Emoji

/-- A line of a table, with the first name on it. -/
structure NamedLine where
  first : List Char
  line : String
  deriving Repr, DecidableEq

/-- The lines of a table with the first names on them. -/
def namedLines (table : List String) : List NamedLine :=
  table.map fun line => ⟨line.toList.takeWhile (· ≠ '='), line⟩

/-- The lines of symbols. -/
def symbolLines : List NamedLine := namedLines symbols.flatten

/-- The lines of people and parts of the body. -/
def peopleLines : List NamedLine := namedLines people

/-- The lines of countries. -/
def countryLines : List NamedLine := namedLines countries

/-- The emoji of a name on a line of a table. -/
def findOnLine? (name : List Char) (line : String) : Option (List Char) :=
  ((Text.splitOn ' ' line.toList).find? fun word => word.takeWhile (· ≠ '=') = name).map
    fun word => word.drop (name.length + 1)

/-- The emoji of a name in a table: it is on the last line that starts with no later name. -/
def find? (name : List Char) (table : List NamedLine) : Option (List Char) := do
  let last ← (table.takeWhile fun l => !decide (name < l.first)).getLast?
  findOnLine? name last.line

/-- The text in front of a suffix. -/
def beforeSuffix? (suffix s : List Char) : Option (List Char) :=
  if suffix.isSuffixOf s then some (s.take (s.length - suffix.length)) else none

/-- The skin tones, with the modifier that stands for each. -/
def tones : List (String × Char) :=
  [("_light_skin_tone", '🏻'), ("_medium-light_skin_tone", '🏼'), ("_medium_skin_tone", '🏽'),
   ("_medium-dark_skin_tone", '🏾'), ("_dark_skin_tone", '🏿')]

/-- Variation selector 16: the character before it is drawn as a picture. -/
def pictureSelector : Char := '\ufe0f'

/-- Variation selector 15: the character before it is drawn as a letter. -/
def letterSelector : Char := '\ufe0e'

/-- An emoji in a skin tone: the modifier stands behind the first character, in place of a selector
there. -/
def withTone (modifier : Char) : List Char → List Char
  | [] => []
  | c :: rest => c :: modifier :: (if rest.head? = some pictureSelector then rest.drop 1 else rest)

/-- The emoji of a person or a part of the body in a skin tone. -/
def toned? (name : List Char) : Option (List Char) :=
  tones.findSome? fun (suffix, modifier) => do
    let base ← beforeSuffix? suffix.toList name
    let emoji ← find? base peopleLines
    return withTone modifier emoji

/-- What the name of a country's flag starts with. -/
def flagLead : List Char := "flag_for_".toList

/-- The flag of a country. -/
def flag? (name : List Char) : Option (List Char) :=
  if flagLead.isPrefixOf name then find? (name.drop flagLead.length) countryLines else none

/-- The emoji of a name. -/
def named? (name : List Char) : Option (List Char) :=
  find? name symbolLines <|> find? name peopleLines <|> find? name countryLines
    <|> toned? name <|> flag? name

/-- The name in a code, and the selector that the code asks for. -/
def splitVariant (code : List Char) : List Char × List Char :=
  match beforeSuffix? "-text".toList code, beforeSuffix? "-emoji".toList code with
  | some name, _ => (name, [letterSelector])
  | none, some name => (name, [pictureSelector])
  | none, none => (code, [])

/-- What a code between colons shows. -/
def shown (code : List Char) : List Char :=
  let (name, selector) := splitVariant code
  match named? (Text.lowerCase name) with
  | some emoji => emoji ++ selector
  | none => ':' :: code ++ [':']

/-- The text with its codes shown as emoji. -/
def replaceCodes : List Char → List Char
  | [] => []
  | c :: rest =>
    if c = ':' then
      let code := rest.takeWhile fun d => d ≠ ':' && !Text.isBlank d
      match rest.drop code.length with
      | ':' :: _ => shown code ++ replaceCodes (rest.drop (code.length + 1))
      | _ => c :: replaceCodes rest
    else c :: replaceCodes rest
termination_by s => s.length
decreasing_by all_goals simp only [List.length_cons, List.length_drop]; omega

end Emoji
end LineMetrics
