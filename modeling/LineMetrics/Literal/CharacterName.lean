import LineMetrics.Literal.NamePrints
import LineMetrics.Text.Ranges

/-!
# Names of characters

Quoted text can give a character by its name.  Two kinds of names are made by a rule: an ideograph
is named by its code in hexadecimal, and a Korean syllable by the names of its letters.  All other
names are known by their prints, small letters counting as capitals.
-/

namespace LineMetrics
namespace Literal

/-! ### Names by a rule -/

/-- The value of a hexadecimal digit in capitals. -/
def capitalDigit? (c : Char) : Option Nat :=
  if c.isDigit then some (c.toNat - 48)
  else if 'A' ≤ c && c ≤ 'F' then some (c.toNat - 55) else none

/-- The codes of ideographs. -/
def ideographRanges : Text.Ranges :=
  [(0x3400, 0x4DBF), (0x4E00, 0x9FFF), (0x20000, 0x2A6DF), (0x2A700, 0x2B738), (0x2B740, 0x2B81D),
   (0x2B820, 0x2CEA1), (0x2CEB0, 0x2EBE0), (0x30000, 0x3134A)]

/-- Whether digits are the code of an ideograph. -/
def isIdeographCode (s : List Char) : Bool :=
  (s.length = 4 || s.length = 5) &&
    match s.mapM capitalDigit? with
    | some digits => ideographRanges.contains (digits.foldl (fun n d => 16 * n + d) 0)
    | none => false

/-- The names of the letters that start a Korean syllable; the silent one has none. -/
def leadingLetters : List String :=
  ["", "G", "GG", "N", "D", "DD", "R", "M", "B", "BB", "S", "SS", "J", "JJ", "C", "K", "T", "P",
   "H"]

/-- The names of the vowels of a Korean syllable. -/
def vowelLetters : List String :=
  ["A", "AE", "YA", "YAE", "EO", "E", "YEO", "YE", "O", "WA", "WAE", "OE", "YO", "U", "WEO", "WE",
   "WI", "YU", "EU", "YI", "I"]

/-- The names of the letters that end a Korean syllable; there may be none. -/
def trailingLetters : List String :=
  ["", "G", "GG", "GS", "N", "NJ", "NH", "D", "L", "LG", "LM", "LB", "LS", "LT", "LP", "LH", "M",
   "B", "BS", "S", "SS", "NG", "J", "C", "K", "T", "P", "H"]

/-- What follows the longest of some names at the beginning of a text. -/
def behindLongest? (names : List String) (s : List Char) : Option (List Char) :=
  let found := (names.map String.toList).filter fun name => name.isPrefixOf s
  match found with
  | [] => none
  | _ => some (s.drop (found.foldl (fun n name => max n name.length) 0))

/-- Whether a text spells a Korean syllable. -/
def isSyllable (s : List Char) : Bool :=
  ((behindLongest? leadingLetters s).bind fun s =>
    (behindLongest? vowelLetters s).bind (behindLongest? trailingLetters)) = some []

/-! ### Other names -/

/-- The prime below which prints are counted. -/
def printModulus : Nat := 1073741789

/-- The print of a name. -/
def printOf (name : List Char) : Nat :=
  name.foldl (fun h c => (h * 1000003 + c.toNat) % printModulus) 0

/-- The value of a digit to the base 64. -/
def digit64 (c : Char) : Nat :=
  if c.isDigit then c.toNat - 48
  else if c.isUpper then c.toNat - 55
  else if c.isLower then c.toNat - 61
  else if c = '+' then 62 else 63

/-- Whether the row that a text starts with, after some others, has an entry. -/
def rowHas (entry : Nat) : Nat → List Char → Bool
  | _, [] => false
  | skipped + 1, c :: rest => rowHas entry (if c = ' ' then skipped else skipped + 1) rest
  | 0, a :: b :: c :: rest =>
    if a = ' ' then false
    else digit64 a * 4096 + digit64 b * 64 + digit64 c = entry || rowHas entry 0 rest
  | 0, _ => false

/-- The prints that one row stands for. -/
def rowSize : Nat := 262144

/-- Whether a name in capitals has its print in the rows. -/
def isPrinted (name : List Char) : Bool :=
  let print := printOf name
  rowHas (print % rowSize) (print / rowSize) (printLines.flatMap String.toList)

/-- Whether a text is the name of a character. -/
def isCharacterName (s : List Char) : Bool :=
  let behind (lead : String) : Option (List Char) :=
    if lead.toList.isPrefixOf s then some (s.drop lead.length) else none
  match behind "CJK UNIFIED IDEOGRAPH-", behind "HANGUL SYLLABLE " with
  | some code, _ => isIdeographCode code
  | none, some syllable => isSyllable syllable
  | none, none => isPrinted (s.map Char.toUpper)

example : isCharacterName "CJK UNIFIED IDEOGRAPH-4E00".toList = true ∧
    isCharacterName "HANGUL SYLLABLE GAGG".toList = true ∧
    isCharacterName "HANGUL SYLLABLE GAX".toList = false := by decide +kernel

end Literal
end LineMetrics
