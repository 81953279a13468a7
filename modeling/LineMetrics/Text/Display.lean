import LineMetrics.Text.Search
import LineMetrics.Text.Wrap

/-!
# Text on a terminal

What a terminal shows of a text.  It leaves out the characters that only control it, and it moves on
to the next tab stop at a tab, for which it counts cells.

The room that a text asks for is found before its tabs are known, so a text with tabs gets less than
it takes.  Separators of any kind end a line there, though no line ends at them when it is shown.
-/

namespace LineMetrics
namespace Text

/-- The cells between two tab stops. -/
def tabWidth : Nat := 8

/-- The blanks that take the place of a tab which ends at a column: one, and more up to the next
stop. -/
def blanksTo (column : Nat) : Nat := 1 + (tabWidth - column % tabWidth) % tabWidth

/-- The fields of a line, which tabs part, with blanks in place of the tabs.  A tab is measured as
the blank that ends its field. -/
def expandFields (column : Nat) : List (List Char) → List Char
  | [] => []
  | [field] => field
  | field :: rest =>
    let ended := column + textCells (field ++ [' '])
    let blanks := blanksTo ended
    field ++ List.replicate blanks ' ' ++ expandFields (ended + blanks - 1) rest

/-- A line with blanks in place of its tabs. -/
def expandTabs (line : List Char) : List Char := expandFields 0 (splitOn '\t' line)

/-- Whether a character only controls the terminal: the bell, a backspace, a vertical tab, a form
feed or a carriage return. -/
def isControl (c : Char) : Bool :=
  c = '\x07' || c = '\x08' || c = '\x0b' || c = '\x0c' || c = '\r'

/-- What is left of a text without its control characters. -/
def withoutControls (s : List Char) : List Char := s.filter fun c => !isControl c

/-- The lines that a terminal shows of a text. -/
def shownLines (s : List Char) : List (List Char) :=
  (splitOn '\n' (withoutControls s)).map expandTabs

/-- Whether a line of a text ends at a character for its measure: a line feed, or a separator of
files, groups, records, lines or paragraphs. -/
def isSeparator (c : Char) : Bool :=
  c = '\n' || ('\x1c' ≤ c && c ≤ '\x1e') || c = '\x85' || c = '\u2028' || c = '\u2029'

/-- The pieces of a text between its separators, the first of which goes on from `piece`, held in
reverse. -/
def partsFrom (piece : List Char) : List Char → List (List Char)
  | [] => [piece.reverse]
  | c :: rest =>
    if isSeparator c then piece.reverse :: partsFrom [] rest else partsFrom (c :: piece) rest

/-- The cells that a text asks for, which are those of its widest line. -/
def askedCells (s : List Char) : Nat :=
  ((partsFrom [] (withoutControls s)).map textCells).foldl max 0

/-- The lines of a text in the middle of a place, with words too wide for it folded. -/
def centredLines (width : Nat) (s : List Char) : List (List Char) :=
  ((shownLines s).flatMap (wrap .folded width)).map fun line => shorten [] width (trimEnd line)

/-- The lines of a text in a cell of a table, with an ellipsis where one is cut off. -/
def cellLines (width : Nat) (s : List Char) : List (List Char) :=
  ((shownLines s).flatMap (wrap .kept width)).map fun line =>
    shorten ['…'] width (dropExcess width line)

example : shownLines "ab\tc\r\n漢\td".toList = ["ab      c".toList, "漢      d".toList] := by
  decide +kernel

example : askedCells "a\tb".toList = 2 ∧
    cellLines 2 "a\tb".toList = ["a ".toList, "b".toList] := by decide +kernel

end Text
end LineMetrics
