/-!
# Line breaks

CR LF, LF and CR each end a line, and CR LF is one break.  A text has one line more than it has
breaks, except that the empty text has no line.  A `Position` is a line, counted from 1, and a
column, counted from 0 in characters; reading a text from a position leads to the position behind
it.
-/

namespace LineMetrics
namespace Text

/-- The characters that line breaks are made of. -/
def isBreak (c : Char) : Bool := c = '\n' || c = '\r'

/-- The number of line breaks; a CR LF counts once. -/
def breakCount : List Char → Nat
  | [] => 0
  | '\r' :: '\n' :: rest => breakCount rest + 1
  | c :: rest => if isBreak c then breakCount rest + 1 else breakCount rest

/-- Physical lines: one more than the breaks, and none in the empty text. -/
def lineCount (s : List Char) : Nat := if s.isEmpty then 0 else breakCount s + 1

/-- The pieces between line breaks, the first of which goes on from `piece`, held in reverse. -/
def splitLinesFrom (piece : List Char) : List Char → List (List Char)
  | [] => [piece.reverse]
  | '\r' :: '\n' :: rest => piece.reverse :: splitLinesFrom [] rest
  | c :: rest =>
    if isBreak c then piece.reverse :: splitLinesFrom [] rest else splitLinesFrom (c :: piece) rest

/-- The pieces between line breaks, empty ones included. -/
def splitLines (s : List Char) : List (List Char) := splitLinesFrom [] s

/-- Every line break written as a single LF. -/
def unifyBreaks (s : List Char) : List Char := ['\n'].intercalate (splitLines s)

/-- A text is cut into one piece more than it has breaks. -/
theorem length_splitLinesFrom (piece s : List Char) :
    (splitLinesFrom piece s).length = breakCount s + 1 := by
  fun_induction splitLinesFrom piece s with
  | case1 => simp [breakCount]
  | case2 piece rest ih => simp [breakCount, ih]
  | case3 piece c rest h hb ih => rw [breakCount]; · simp [hb, ih]
                                  · simpa using h
  | case4 piece c rest h hb ih => rw [breakCount]; · simp [hb, ih]
                                  · simpa using h

theorem length_splitLines (s : List Char) : (splitLines s).length = breakCount s + 1 :=
  length_splitLinesFrom [] s

/-- The piece that goes on is what the first piece of the rest is put behind. -/
theorem splitLinesFrom_eq (piece s : List Char) :
    splitLinesFrom piece s = (splitLines s).modifyHead (piece.reverse ++ ·) := by
  unfold splitLines
  fun_induction breakCount s generalizing piece with
  | case1 => simp [splitLinesFrom]
  | case2 rest ih => simp [splitLinesFrom]
  | case3 c rest h hb ih =>
    have crlf : ∀ tail, c = '\r' → rest = '\n' :: tail → False := by simpa using h
    rw [splitLinesFrom, splitLinesFrom] <;> first | exact crlf | simp [hb]
  | case4 c rest h hb ih =>
    have crlf : ∀ tail, c = '\r' → rest = '\n' :: tail → False := by simpa using h
    rw [splitLinesFrom, splitLinesFrom]
    · rw [if_neg hb, if_neg hb, ih (c :: piece), ih [c]]
      cases splitLinesFrom [] rest <;> simp
    · exact crlf
    · exact crlf

end Text

/-- A place in a text: a line counted from 1 and a column counted from 0. -/
structure Position where
  line : Int
  column : Int
  deriving Repr, DecidableEq, Inhabited

namespace Position

/-- The beginning of a text. -/
def start : Position := ⟨1, 0⟩

/-- Order of reading: by line, then by column. -/
def before (p q : Position) : Bool := p.line < q.line || (p.line = q.line && p.column < q.column)

/-- Whether `p` stands before `q` or at the same place. -/
def notAfter (p q : Position) : Bool := p.line < q.line || (p.line = q.line && p.column ≤ q.column)

/-- The column behind a text that starts in the given column. -/
def columnAfter (column : Int) : List Char → Int
  | [] => column
  | '\r' :: '\n' :: rest => columnAfter 0 rest
  | c :: rest => if Text.isBreak c then columnAfter 0 rest else columnAfter (column + 1) rest

/-- The place behind a text that starts at `p`. -/
def advance (p : Position) (s : List Char) : Position :=
  ⟨p.line + Text.breakCount s, columnAfter p.column s⟩

end Position
end LineMetrics
