import LineMetrics.Literal.Token

/-!
# Format texts

A format text holds fields in braces between pieces of plain text:

| part of a field | form |
| --- | --- |
| expression | up to a `!`, `:`, `=` or closing brace outside of brackets and quotes |
| echo | `=` |
| conversion | `!s`, `!r` or `!a` |
| layout | `:` and a format text, which may have fields, but not fields with fields |

Doubled braces stand for themselves outside of layouts.  An expression holds neither a backslash nor
a `#`.  What is wrong is told in the order of the text.
-/

namespace LineMetrics
namespace Literal
namespace Format

/-- What an expression on a line is wrong with, if anything. -/
abbrev Check := (line : Nat) → List Char → Option Mistake

/-- The result of reading a part. -/
abbrev Part (α : Type) := Except Flaw α

/-- A flaw of the format text itself. -/
def flaw {α : Type} (message : String) : Part α := .error (.here message)

/-- The flaw of a field that has no end. -/
def unended {α : Type} : Part α := flaw "f-string: expecting '\x7d'"

/-! ### Plain pieces -/

/-- Where a plain piece is looked at. -/
inductive Look
  | plain
  | behindBackslash
  /-- Behind the escape for a name. -/
  | behindN
  /-- In the braces of a name. -/
  | inName

/-- The length of the plain piece in front of a field, a brace that ends a layout or the end, behind
`n` characters, and whether a doubled brace ended it, whose first brace is part of the piece. -/
def pieceLength (isRaw isLayout : Bool) (n : Nat) : Look → List Char → Part (Nat × Bool)
  | _, [] => .ok (n, false)
  | look, c :: rest =>
    let next (look : Look) : Part (Nat × Bool) := pieceLength isRaw isLayout (n + 1) look rest
    let brace : Part (Nat × Bool) :=
      if c ≠ '\x7b' && c ≠ '\x7d' then next .plain
      else if !isLayout && rest.head? = some c then .ok (n + 1, true)
      else if !isLayout && c = '\x7d' then flaw "f-string: single '\x7d' is not allowed"
      else .ok (n, false)
    match look with
    | .inName => next (if c = '\x7d' then .plain else .inName)
    | .behindN => next (if c = '\x7b' then .inName else .plain)
    | .behindBackslash => if c = 'N' then next .behindN else brace
    | .plain => if !isRaw && c = '\\' && !rest.isEmpty then next .behindBackslash else brace

/-- Checks the escapes of a plain piece. -/
def checkPiece (isRaw : Bool) (piece : List Char) : Part Unit :=
  if isRaw then .ok ()
  else match textFault? piece with
    | some message => flaw message
    | none => .ok ()

/-! ### Expressions -/

/-- What is open in an expression. -/
structure Open where
  /-- The quote of a text, and whether it is tripled. -/
  quote : Option (Char × Bool)
  brackets : List Char

/-- The opening bracket of a closing one. -/
def openingOf? : Char → Option Char
  | ')' => some '('
  | ']' => some '['
  | '\x7d' => some '\x7b'
  | _ => none

/-- The most brackets that may be open. -/
def maxBrackets : Nat := 200

/-- Opens or closes a bracket; other characters change nothing. -/
def bracket (brackets : List Char) (c : Char) : Part (List Char) :=
  if c = '(' || c = '[' || c = '\x7b' then
    if maxBrackets ≤ brackets.length then flaw "f-string: too many nested parenthesis"
    else .ok (c :: brackets)
  else match openingOf? c, brackets with
    | none, _ => .ok brackets
    | some _, [] => flaw s!"f-string: unmatched '{c}'"
    | some opening, found :: rest =>
      if found = opening then .ok rest
      else flaw
        s!"f-string: closing parenthesis '{c}' does not match opening parenthesis '{found}'"

/-- Whether a character outside of brackets ends an expression, unless it starts a comparison. -/
def endsExpression (c : Char) : Bool := c = '!' || c = ':' || c = '\x7d' || c = '='

/-- What is wrong if nothing ends an expression. -/
def unendedExpression (opened : Open) : Part Nat :=
  match opened with
  | ⟨some _, _⟩ => flaw "f-string: unterminated string"
  | ⟨none, found :: _⟩ => flaw s!"f-string: unmatched '{found}'"
  | ⟨none, []⟩ => unended

/-- The length of an expression behind `n` characters of it. -/
def expressionLength (opened : Open) (n : Nat) : List Char → Part Nat
  | [] => unendedExpression opened
  | '\\' :: _ => flaw "f-string expression part cannot include a backslash"
  | c :: rest =>
    match opened.quote with
    | some (quote, isTripled) =>
      if c ≠ quote then expressionLength opened (n + 1) rest
      else if !isTripled then expressionLength { opened with quote := none } (n + 1) rest
      else match rest with
        | a :: b :: more =>
          if a = quote && b = quote then
            expressionLength { opened with quote := none } (n + 3) more
          else expressionLength opened (n + 1) (a :: b :: more)
        | rest => expressionLength opened (n + 1) rest
    | none =>
      if c = '"' || c = '\x27' then
        match rest with
        | a :: b :: more =>
          if a = c && b = c then
            expressionLength { opened with quote := some (c, true) } (n + 3) more
          else expressionLength { opened with quote := some (c, false) } (n + 1) (a :: b :: more)
        | rest => expressionLength { opened with quote := some (c, false) } (n + 1) rest
      else if c = '#' then flaw "f-string expression part cannot include '#'"
      else if opened.brackets.isEmpty && (endsExpression c || c = '<' || c = '>') then
        match rest with
        | a :: more =>
          if a = '=' && (c = '!' || c = '=' || c = '<' || c = '>') then
            expressionLength opened (n + 2) more
          else if endsExpression c then .ok n
          else expressionLength opened (n + 1) (a :: more)
        | [] => if endsExpression c then .ok n else expressionLength opened (n + 1) []
      else match bracket opened.brackets c with
        | .error flaw => .error flaw
        | .ok brackets => expressionLength { opened with brackets := brackets } (n + 1) rest

/-- Whether a character is blank around an expression. -/
def isBlank (c : Char) : Bool := c = ' ' || c = '\t' || c = '\n' || c = '\x0c'

/-- Checks an expression on a line, given what ends it.  It is read in brackets, so that line breaks
do not matter. -/
def checkExpression (check : Check) (line : Nat) (s : List Char) (ending : Option Char) :
    Part Unit :=
  if s.all isBlank then
    match ending with
    | some c =>
      if c = '\x7d' then flaw "f-string: empty expression not allowed"
      else flaw s!"f-string: expression required before '{c}'"
    | none => flaw "f-string: empty expression not allowed"
  else match check line ('(' :: s ++ [')', '\n']) with
    | some mistake => .error (.inside mistake)
    | none => .ok ()

/-! ### Fields -/

/-- What follows the echo of an expression. -/
def behindEcho (s : List Char) : Part (List Char) :=
  if s.head? ≠ some '=' then .ok s
  else
    let rest := (s.drop 1).dropWhile fun c => isBlank c || c = '\x0b' || c = '\r'
    if rest.isEmpty then unended else .ok rest

/-- What follows the conversion of an expression. -/
def behindConversion (s : List Char) : Part (List Char) :=
  match s with
  | ['!'] => unended
  | '!' :: c :: rest =>
    if c = 's' || c = 'r' || c = 'a' then .ok rest
    else flaw "f-string: invalid conversion character: expected 's', 'r', or 'a'"
  | _ => .ok s

/-- What follows the brace at the end of a field. -/
def behindBrace (s : List Char) : Part (List Char) :=
  match s with
  | '\x7d' :: rest => .ok rest
  | _ => unended

/-- The depth of layouts whose fields lie too deep. -/
def maxDepth : Nat := 2

/-- What follows the pieces and fields of a text or of a layout, which lies in others.  The last
line of the whole text is known, and so are the line breaks up to a character: they are all but
those behind it.  `fuel` bounds the number of pieces.  -/
def behindPieces (check : Check) (isRaw : Bool) (lastLine : Nat) :
    (fuel : Nat) → (depth : Nat) → List Char → Part (List Char)
  | 0, _, _ => unended
  | fuel + 1, depth, s => do
    let (n, isDoubled) ← pieceLength isRaw (decide (0 < depth)) 0 .plain s
    checkPiece isRaw (s.take n)
    let rest := s.drop n
    if isDoubled then behindPieces check isRaw lastLine fuel depth (rest.drop 1)
    else match rest with
      | [] => if depth = 0 then return [] else unended
      | '\x7b' :: body =>
        if maxDepth ≤ depth then flaw "f-string: expressions nested too deeply"
        else
          let n ← expressionLength ⟨none, []⟩ 0 body
          let behind := body.drop n
          checkExpression check (lastLine - body.count '\n') (body.take n) behind.head?
          let behind ← behindEcho behind
          let behind ← behindConversion behind
          let behind ← match behind with
            | [':'] => unended
            | ':' :: layout => behindPieces check isRaw lastLine fuel (depth + 1) layout
            | _ => pure behind
          let more ← behindBrace behind
          behindPieces check isRaw lastLine fuel depth more
      | rest => return rest

/-- What is wrong with a format text that starts on a line, given how its expressions are checked.
-/
def flaw? (check : Check) (isRaw : Bool) (line : Nat) (s : List Char) : Option Flaw :=
  match behindPieces check isRaw (line + s.count '\n') (2 * s.length + 2) 0 s with
  | .error flaw => some flaw
  | .ok _ => none

end Format
end Literal
end LineMetrics
