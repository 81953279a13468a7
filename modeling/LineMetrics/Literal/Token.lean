import LineMetrics.Literal.Escape
import LineMetrics.Literal.Number
import LineMetrics.Text.Identifier
import LineMetrics.Text.Printable

/-!
# Tokens of literals

Literals are written as expressions of names, numbers, quoted text, brackets and operators.  What
cannot be part of any expression is told by a message: a number that runs into a letter, text whose
closing quote is missing, a character of no use.  A number with too many digits, or quoted text with
a broken escape, is a token that holds what is wrong with it, because that matters only if reading
gets that far.
-/

namespace LineMetrics
namespace Literal

/-- Why a text is no expression. -/
inductive Mistake
  /-- A message tells it. -/
  | told (message : String)
  /-- The expression nests too deeply to be read. -/
  | tooDeep
  deriving Repr, DecidableEq

/-- What is wrong with quoted text. -/
inductive Flaw
  /-- A message about the text itself. -/
  | here (message : String)
  /-- A mistake in an expression inside of it. -/
  | inside (mistake : Mistake)
  deriving Repr, DecidableEq

/-- The kinds of quoted text. -/
inductive TextKind
  | plain
  | bytes
  /-- Text with expressions in braces. -/
  | format
  deriving Repr, DecidableEq

/-- A token. -/
inductive Token
  /-- A name. -/
  | name (word : String)
  /-- A word that is no name. -/
  | keyword (word : String)
  /-- A number, and what is wrong with it. -/
  | number (isImaginary : Bool) (fault : Option String)
  /-- Quoted text, and what is wrong with it. -/
  | text (kind : TextKind) (flaw : Option Flaw)
  /-- An operator or a bracket. -/
  | mark (sign : String)
  /-- A line break outside of brackets. -/
  | newline
  /-- A line that starts with more blanks than the one before. -/
  | indent
  /-- The end of such lines. -/
  | dedent
  /-- The end of the text. -/
  | ending
  deriving Repr, DecidableEq

/-! ### Words -/

/-- Words that are no names. -/
def keywords : List String :=
  ["False", "None", "True", "and", "as", "assert", "async", "await", "break", "class", "continue",
   "def", "del", "elif", "else", "except", "finally", "for", "from", "global", "if", "import", "in",
   "is", "lambda", "nonlocal", "not", "or", "pass", "raise", "return", "try", "while", "with",
   "yield"]

/-- Names that mean something: the empty set, and two statements that are written no more. -/
def knownNames : List String := ["set", "print", "exec"]

/-- A name, known ones in plain letters. -/
def plainName (word : List Char) : String :=
  let plain := String.ofList (word.map Text.plainLetter)
  if knownNames.contains plain then plain else String.ofList word

/-- A code in upper-case hexadecimal, of at least four digits. -/
def codePoint (c : Char) : String := (String.ofList (Text.hexCode 4 c.toNat)).toUpper

/-- A character that no token holds. -/
def strayReason (c : Char) : String :=
  if Text.isPrintable c then s!"invalid character '{c}' (U+{codePoint c})"
  else s!"invalid non-printable character U+{codePoint c}"

/-- The token of a word. -/
def wordToken (word : List Char) : Except String Token :=
  match if word.all isAscii then none else Text.strayInName? word with
  | some c => .error (strayReason c)
  | none =>
    let spelling := String.ofList word
    .ok (if keywords.contains spelling then .keyword spelling else .name (plainName word))

/-! ### Quoted text -/

/-- The letters that may stand before quoted text. -/
def quoteLeads : List String := ["", "r", "b", "u", "f", "br", "rb", "fr", "rf"]

/-- The number of letters before quoted text, if the text starts with it. -/
def quoteLead? (s : List Char) : Option Nat :=
  let lead := s.takeWhile Char.isAlpha
  let next := (s.drop lead.length).head?
  let isKnown := quoteLeads.contains (String.ofList (lead.map Char.toLower))
  if isKnown && (next = some '"' || next = some '\x27') then some lead.length else none

/-- The length of quoted text behind its opening quotes and `n` characters, without its closing
ones, and whether these were found.  Only text in three quotes goes over line breaks that have no
backslash before them.  -/
def quotedLength (quotes : List Char) (n : Nat) : List Char → Nat × Bool
  | [] => (n, false)
  | ['\\'] => (n + 1, false)
  | '\\' :: _ :: rest => quotedLength quotes (n + 2) rest
  | c :: rest =>
    if quotes.isPrefixOf (c :: rest) then (n, true)
    else if c = '\n' && quotes.length = 1 then (n, false)
    else quotedLength quotes (n + 1) rest

/-- The line on which a text is found to have no closing quotes, given how much of it was searched;
a line break at the very end starts no line. -/
def lastLine (line searched : Nat) (s : List Char) : Nat :=
  let part := s.take searched
  line + if searched = s.length then part.dropLast.count '\n' else part.count '\n'

/-- Finds what is wrong with the content of a format text, raw or not, that starts on a line. -/
abbrev FormatCheck := Bool → Nat → List Char → Option Flaw

/-- The quoted text that a text starts with, behind some letters, and its length. -/
def quotedToken (check : FormatCheck) (lead line : Nat) (s : List Char) :
    Except String (Token × Nat) :=
  let body := s.drop lead
  let quote := body.take 1
  let triple := quote ++ quote ++ quote
  let quotes := if triple.isPrefixOf body then triple else quote
  let has (letter : Char) : Bool := (s.take lead).any fun c => c.toLower = letter
  let content := body.drop quotes.length
  let (n, isClosed) := quotedLength quotes 0 content
  if isClosed then
    let content := content.take n
    let (kind, flaw) : TextKind × Option Flaw :=
      if has 'f' then (.format, check (has 'r') line content)
      else if has 'b' then (.bytes, (quotedFault? true (has 'r') content).map .here)
      else (.plain, (quotedFault? false (has 'r') content).map .here)
    .ok (.text kind flaw, lead + n + 2 * quotes.length)
  else
    let last := lastLine line n content
    if quotes.length = 1 then
      .error s!"unterminated string literal (detected at line {last})"
    else .error s!"unterminated triple-quoted string literal (detected at line {last})"

/-! ### Operators -/

/-- The operators of more than one character, the longest first. -/
def longMarks : List String :=
  ["...", "**=", "//=", ">>=", "<<=", "**", "//", ">>", "<<", "<=", ">=", "==", "!=", "<>", "->",
   ":=", "+=", "-=", "*=", "/=", "%=", "&=", "|=", "^=", "@="]

/-- The operator that a text starts with. -/
def markOf (s : List Char) : String :=
  match longMarks.find? fun m => m.toList.isPrefixOf s with
  | some m => m
  | none => String.ofList (s.take 1)

/-! ### One token -/

/-- The token on a line that a text starts with, and its length. -/
def tokenOf (check : FormatCheck) (line : Nat) (s : List Char) : Except String (Token × Nat) :=
  match quoteLead? s with
  | some lead => quotedToken check lead line s
  | none =>
    if startsNumber s then do
      let rest ← behindNumber s
      let length := s.length - rest.length
      let number := s.take length
      return (.number (isImaginary number) (numberFault? number), length)
    else if s.head?.any isNameChar then do
      let word := s.takeWhile isNameChar
      return (← wordToken word, word.length)
    else
      match s with
      | [] => .ok (.ending, 0)
      | c :: _ =>
        let mark := markOf s
        if Text.isPrintable c then .ok (.mark mark, mark.length) else .error (strayReason c)

end Literal
end LineMetrics
