import LineMetrics.Text.Blank
import LineMetrics.Text.Cells

/-!
# Wrapping at a width

A line that is too wide for its place goes over several lines.  It is cut in front of words, where a
word has the blanks behind it, so blanks at an end of a line may be wider than the place.  A word
that is wider than any line is folded, that is cut where a line is full, or it is kept whole.

A character stays together with the characters behind it that take no cells of their own.

Wrapping only cuts, so the pieces together are the line.
-/

namespace LineMetrics
namespace Text

/-! ### Clusters -/

/-- Characters that stay together, and the cells that they take. -/
structure Cluster where
  text : List Char
  cells : Nat
  deriving Repr, DecidableEq

/-- The clusters of a text behind a cluster that may go on; `last` is the character that the next
emoji selector may widen. -/
def clustersFrom (last : Option Char) (current : Cluster) : List Char → List Cluster
  | [] => [current]
  | c :: rest =>
    let longer (added : Nat) : Cluster := ⟨current.text ++ [c], current.cells + added⟩
    if c = joiner && !current.text.isEmpty then
      match rest with
      | [] => [longer 0]
      | d :: more => clustersFrom last ⟨current.text ++ [c, d], current.cells⟩ more
    else if c = emojiSelector && 0 < widening last then
      clustersFrom none (longer (widening last)) rest
    else if cells c = 0 then clustersFrom last (longer 0) rest
    else if current.text.isEmpty then clustersFrom (some c) (longer (cells c)) rest
    else current :: clustersFrom (some c) ⟨[c], cells c⟩ rest

/-- The clusters of a text. -/
def clusters (s : List Char) : List Cluster := clustersFrom none ⟨[], 0⟩ s

/-- Lines that are full, except for the last, with the beginning of a line in front of clusters. -/
def chopFrom (width : Nat) (line : Cluster) : List Cluster → List (List Char)
  | [] => [line.text]
  | next :: rest =>
    if width < line.cells + next.cells then line.text :: chopFrom width next rest
    else chopFrom width ⟨line.text ++ next.text, line.cells + next.cells⟩ rest

/-- A text cut where a line is full. -/
def chop (width : Nat) (s : List Char) : List (List Char) := chopFrom width ⟨[], 0⟩ (clusters s)

/-- The clusters that fit into some cells; a blank stands for half a character. -/
def cropClusters : (width : Nat) → List Cluster → List Char
  | _, [] => []
  | 0, _ => []
  | width + 1, next :: rest =>
    if next.cells ≤ width + 1 then next.text ++ cropClusters (width + 1 - next.cells) rest
    else [' ']

/-- A text that fits into a width; if it is too wide, a mark stands at its end. -/
def shorten (mark : List Char) (width : Nat) (s : List Char) : List Char :=
  if width < textCells s then cropClusters (width - mark.length) (clusters s) ++ mark else s

/-! ### Words -/

/-- The words of a text behind the beginning of a word, held in reverse, which is at its end if
blanks follow it. -/
def wordsFrom (word : List Char) (isEnded : Bool) : List Char → List (List Char)
  | [] => [word.reverse]
  | c :: rest =>
    if isBlank c then wordsFrom (c :: word) true rest
    else if isEnded then word.reverse :: wordsFrom [c] false rest
    else wordsFrom (c :: word) false rest

/-- The words of a line with the blanks behind them; the first has those in front of it too. -/
def words (s : List Char) : List (List Char) :=
  wordsFrom (s.takeWhile isBlank).reverse false (s.dropWhile isBlank)

/-! ### Lines -/

/-- What becomes of a word that is wider than a line. -/
inductive Overlong
  | folded
  | kept
  deriving Repr, DecidableEq

/-- The pieces of a line behind a piece that takes some cells, given the words that follow. -/
def wrapWords (overlong : Overlong) (width : Nat) (piece : List Char) (used : Nat) :
    List (List Char) → List (List Char)
  | [] => [piece]
  | word :: rest =>
    let bare := textCells (trimEnd word)
    if used + bare ≤ width then
      wrapWords overlong width (piece ++ word) (used + textCells word) rest
    else
      let parts := if overlong = .folded && width < bare then chop width word else [word]
      let last := parts.getLastD []
      let ended := if piece.isEmpty then [] else [piece]
      ended ++ parts.dropLast ++ wrapWords overlong width last (textCells last) rest

/-- The pieces of a line that stand on lines of their own. -/
def wrap (overlong : Overlong) (width : Nat) (line : List Char) : List (List Char) :=
  wrapWords overlong width [] 0 (words line)

/-- A text without as many blanks at its end as it has characters over a number. -/
def dropExcess (width : Nat) (s : List Char) : List Char :=
  let blanks := s.length - (trimEnd s).length
  s.take (s.length - min blanks (s.length - width))

example : wrap .folded 5 "ab cd efghijk l".toList
    = ["ab cd ".toList, "efghi".toList, "jk l".toList] := by decide +kernel

example : wrap .kept 5 "ab efghijk l".toList = ["ab ".toList, "efghijk ".toList, "l".toList] := by
  decide +kernel

example : chop 3 "漢字e\u0301a".toList = ["漢".toList, "字e\u0301".toList, "a".toList] ∧
    shorten ['…'] 4 "漢字漢".toList = "漢 …".toList := by decide +kernel

end Text
end LineMetrics
