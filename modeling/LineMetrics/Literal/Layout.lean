import LineMetrics.Literal.Token
import LineMetrics.Text.LineBreak

/-!
# The layout of tokens

The tokens of a text lie in lines.  Outside of brackets a line break ends an expression, and blanks
at the beginning of a line are compared with those of the lines above; inside of brackets neither
matters, and a backslash joins two lines anywhere.  Comments and lines without a token count for
nothing.

Cutting stops at a character that no token holds, at a backslash that joins nothing, at blanks that
fit no line above and at the end of the text inside of brackets.  Of these only a stray character is
told also if reading never gets there.
-/

namespace LineMetrics
namespace Literal

/-- An opening bracket and the line it is on. -/
structure Bracket where
  opening : Char
  line : Nat
  deriving Repr, DecidableEq

/-- What is told of a bracket that is never closed. -/
def Bracket.unclosedReason (b : Bracket) : String :=
  let opening := b.opening
  s!"'{opening}' was never closed"

/-- A token in its place. -/
structure Placed where
  token : Token
  /-- The line on which it starts. -/
  line : Nat
  /-- The number of brackets that are open behind it. -/
  level : Nat
  /-- Whether the end of the text was seen when the token was cut. -/
  atEnd : Bool
  deriving Repr, DecidableEq

/-- Why cutting stopped. -/
structure Stop where
  message : String
  /-- Whether it is told also if reading never gets there. -/
  isStray : Bool
  /-- The innermost bracket that is open. -/
  bracket : Option Bracket
  deriving Repr, DecidableEq

/-- The tokens of a text. -/
structure Tokens where
  placed : Array Placed
  /-- Why there are no more of them before the end. -/
  stop : Option Stop

/-! ### Brackets -/

/-- The opening bracket of a closing one. -/
def openingOf? : Char → Option Char
  | ')' => some '('
  | ']' => some '['
  | '\x7d' => some '\x7b'
  | _ => none

/-- Whether a character is an opening bracket. -/
def isOpening (c : Char) : Bool := c = '(' || c = '[' || c = '\x7b'

/-- The most brackets that may be open. -/
def maxBrackets : Nat := 200

/-- The open brackets behind an operator or a bracket on a line. -/
def bracketsAfter (brackets : List Bracket) (line : Nat) (c : Char) :
    Except String (List Bracket) :=
  if isOpening c then
    if maxBrackets ≤ brackets.length then .error "too many nested parentheses"
    else .ok (⟨c, line⟩ :: brackets)
  else match openingOf? c, brackets with
    | none, _ => .ok brackets
    | some _, [] => .error s!"unmatched '{c}'"
    | some opening, b :: rest =>
      let start := b.line
      let found := b.opening
      if found = opening then .ok rest
      else if start = line then
        .error s!"closing parenthesis '{c}' does not match opening parenthesis '{found}'"
      else .error
        s!"closing parenthesis '{c}' does not match opening parenthesis '{found}' on line {start}"

/-! ### The beginning of a line -/

/-- The width of the blanks in front of a line, with tabs to the next multiple of eight, and their
number. -/
structure Indent where
  width : Nat
  count : Nat
  deriving Repr, DecidableEq

/-- The beginning of a line, which backslashes may join with lines below. -/
structure LineStart where
  /-- The number of its characters. -/
  length : Nat
  indent : Indent
  /-- The blanks in front of the first backslash, if there are any. -/
  joined : Option Indent
  /-- The number of lines below that belong to it. -/
  more : Nat

/-- What is told of a backslash that joins nothing. -/
def strayBackslash : String := "unexpected character after line continuation character"

/-- What is told of a text that ends too early. -/
def earlyEnd (brackets : List Bracket) : String :=
  match brackets with
  | b :: _ => b.unclosedReason
  | [] => "unexpected EOF while parsing"

/-- The beginning of a line, given the part before. -/
def lineStart (brackets : List Bracket) (before : LineStart) :
    List Char → Except String LineStart
  | ' ' :: rest =>
    let indent := ⟨before.indent.width + 1, before.indent.count + 1⟩
    lineStart brackets { before with length := before.length + 1, indent := indent } rest
  | '\t' :: rest =>
    let indent := ⟨(before.indent.width / 8 + 1) * 8, before.indent.count + 1⟩
    lineStart brackets { before with length := before.length + 1, indent := indent } rest
  | '\x0c' :: rest =>
    lineStart brackets { before with length := before.length + 1, indent := ⟨0, 0⟩ } rest
  | ['\\', '\n'] => .error (earlyEnd brackets)
  | '\\' :: '\n' :: rest =>
    let here := if before.indent.width = 0 then none else some before.indent
    lineStart brackets
      { before with length := before.length + 2, joined := before.joined.or here,
                    more := before.more + 1 } rest
  | '\\' :: _ => .error strayBackslash
  | _ => .ok before

/-- The most indents that may lie in each other. -/
def maxIndents : Nat := 99

/-- What is told of tabs and blanks that cannot be compared. -/
def mixedBlanks : String := "inconsistent use of tabs and spaces in indentation"

/-- Ends the indents that are wider than the one of a line. -/
def dedents (here : Indent) (ended : List Token) :
    List Indent → Except String (List Token × List Indent)
  | [] =>
    if here.width ≠ 0 then .error "unindent does not match any outer indentation level"
    else if here.count ≠ 0 then .error mixedBlanks
    else .ok (ended, [])
  | top :: rest =>
    if here.width < top.width then dedents here (.dedent :: ended) rest
    else if here.width ≠ top.width then
      .error "unindent does not match any outer indentation level"
    else if here.count ≠ top.count then .error mixedBlanks
    else .ok (ended, top :: rest)

/-- The tokens in front of a line and the indents behind them, given those of the lines above. -/
def indentTokens (indents : List Indent) (here : Indent) :
    Except String (List Token × List Indent) :=
  let top := indents.headD ⟨0, 0⟩
  if here.width ≤ top.width then dedents here [] indents
  else if maxIndents ≤ indents.length then .error "too many levels of indentation"
  else if here.count ≤ top.count then .error mixedBlanks
  else .ok ([.indent], here :: indents)

/-! ### The tokens of a text -/

/-- Whether a character may stand between tokens. -/
def isSpace (c : Char) : Bool := c = ' ' || c = '\t' || c = '\x0c'

/-- Where cutting is. -/
structure Cutter where
  line : Nat
  brackets : List Bracket
  indents : List Indent
  /-- The tokens so far. -/
  placed : Array Placed

namespace Cutter

/-- One more token, which starts on a line. -/
def add (cutter : Cutter) (line : Nat) (token : Token) (atEnd : Bool) : Cutter :=
  { cutter with placed := cutter.placed.push ⟨token, line, cutter.brackets.length, atEnd⟩ }

/-- The tokens, with why they are no more. -/
def stopped (cutter : Cutter) (message : String) (isStray : Bool) : Tokens :=
  ⟨cutter.placed, some ⟨message, isStray, cutter.brackets.head?⟩⟩

/-- The tokens at the end of the text. -/
def ended (cutter : Cutter) : Tokens :=
  match cutter.brackets with
  | [] => ⟨(cutter.add cutter.line .ending true).placed, none⟩
  | _ => cutter.stopped (earlyEnd cutter.brackets) false

/-- The cutter behind the blanks in front of a line. -/
def atLine (cutter : Cutter) (start : LineStart) : Except String Cutter := do
  let cutter := { cutter with line := cutter.line + start.more }
  match cutter.brackets with
  | [] =>
    let (tokens, indents) ← indentTokens cutter.indents (start.joined.getD start.indent)
    return tokens.foldl (fun cutter token => cutter.add cutter.line token false)
      { cutter with indents := indents }
  | _ => return cutter

end Cutter

/-- Whether the end of the text is seen when a token in front of it is cut, given its length: quoted
text, a line break and operators of three characters need no look at what follows. -/
def seesEnd (token : Token) (length : Nat) : Bool :=
  match token with
  | .text .. | .mark _ => length < 3
  | .newline => false
  | _ => true

/-- The tokens of what follows, which is the rest of a line or, if `isFresh`, a line. -/
def tokensFrom (check : FormatCheck) (cutter : Cutter) : (isFresh : Bool) → List Char → Tokens
  | true, s =>
    match lineStart cutter.brackets ⟨0, ⟨0, 0⟩, none, 0⟩ s with
    | .error message => cutter.stopped message false
    | .ok start =>
      let rest := s.drop start.length
      let next := rest.head?
      if next = some '#' || next = some '\n' then
        let comment := (rest.takeWhile (· ≠ '\n')).length
        let cutter := { cutter with line := cutter.line + start.more }
        if comment < rest.length then
          tokensFrom check { cutter with line := cutter.line + 1 } true
            (s.drop (start.length + comment + 1))
        else cutter.ended
      else match cutter.atLine start with
        | .error message => cutter.stopped message false
        | .ok cutter => tokensFrom check cutter false rest
  | false, [] => cutter.ended
  | false, c :: rest =>
    if c = '\n' then
      let next := { cutter with line := cutter.line + 1 }
      if cutter.brackets.isEmpty then
        tokensFrom check (next.add cutter.line .newline false) true rest
      else tokensFrom check next true rest
    else if isSpace c then tokensFrom check cutter false rest
    else if c = '#' then
      tokensFrom check cutter false (rest.drop (rest.takeWhile (· ≠ '\n')).length)
    else if c = '\\' then
      match rest with
      | ['\n'] => cutter.stopped (earlyEnd cutter.brackets) false
      | '\n' :: more => tokensFrom check { cutter with line := cutter.line + 1 } false more
      | _ => cutter.stopped strayBackslash false
    else
      match tokenOf check cutter.line (c :: rest) with
      | .error message => cutter.stopped message true
      | .ok (token, length) =>
        match (match token with
          | .mark _ => bracketsAfter cutter.brackets cutter.line c
          | _ => .ok cutter.brackets) with
        | .error message => cutter.stopped message true
        | .ok brackets =>
          let more := rest.drop (length - 1)
          let breaks := ((c :: rest).take length).count '\n'
          let next := { cutter with line := cutter.line + breaks, brackets := brackets }
          tokensFrom check (next.add cutter.line token (more.isEmpty && seesEnd token length))
            false more
termination_by isFresh s => 2 * s.length + isFresh.toNat
decreasing_by
  all_goals simp +zetaDelta only
    [List.length_cons, List.length_drop, Bool.toNat_true, Bool.toNat_false] at *
  all_goals omega

/-- The tokens of a text whose first line has a number. -/
def tokens (check : FormatCheck) (line : Nat) (s : List Char) : Tokens :=
  tokensFrom check ⟨line, [], [], #[]⟩ true (Text.unifyBreaks s)

end Literal
end LineMetrics
