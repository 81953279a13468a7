import LineMetrics.Text.Alphanumeric
import LineMetrics.Text.Digit
import LineMetrics.Text.LineBreak

/-!
# Lexemes of C and Objective-C source

A text of the C family is cut into lexemes from left to right (specification, section 2).  The first
character, and sometimes the next ones, decide the kind, and the lexeme is then as long as its kind
allows:

| starts with | lexeme | ends |
| --- | --- | --- |
| `//` | line comment | before a line break |
| `/*` | block comment | behind the first `*/` |
| `"`, `@"` | string literal | behind the next quote that no backslash escapes |
| `'` | character literal, not empty | behind the next quote that no backslash escapes |
| `#error`, `#warning` | message, free text | before a line break or a comment |
| `#` and a letter | directive | behind the word |
| `@` and a letter | keyword | behind the word |
| letter, `_`, `$` | identifier | behind the word, which may hold `$` |
| digit, `.` and a digit | number | behind words, dots and signed exponents |
| CR LF, LF, CR | newline | |
| blank | white space | behind the blanks of the line |

A backslash in a literal or a message takes the next character with it, a line break included.  A
comment or literal that does not end is *unclosed*: only its opener is taken, and it is for the
caller to refuse it or to go on behind it.  Any other character is punctuation of its own, so every
text is cut to its end and nothing is lost: `lexemes_flatten`.
-/

namespace LineMetrics

/-- The delimiters that need a partner. -/
inductive Opener
  | blockComment
  | string
  | character
  deriving Repr, DecidableEq

namespace Lexeme

/-- What a lexeme is. -/
inductive Kind
  | lineComment
  | blockComment
  | string
  | character
  | message
  | directive
  | keyword
  | identifier
  | number
  | newline
  | space
  | punctuation
  | unclosed (opener : Opener)
  deriving Repr, DecidableEq

/-- Letters that a word of source code starts with. -/
def isLetter (c : Char) : Bool := c.isAlpha || c = '_'

/-- Blanks within a line. -/
def isInlineSpace (c : Char) : Bool := c = ' ' || c = '\t' || c = '\x0c' || c = '\x0b'

/-- How many characters the longest run of units takes, on top of `count`.  `unit s` is the length
of the unit that `s` starts with, and 0 where the run ends. -/
def runFrom (unit : List Char → Nat) (count : Nat) : List Char → Nat
  | [] => count
  | c :: rest =>
    match unit (c :: rest) with
    | 0 => count
    | extra + 1 => runFrom unit (count + extra + 1) (rest.drop extra)
termination_by s => s.length
decreasing_by simp only [List.length_cons, List.length_drop]; omega

/-- The length of the longest run of units at the start of a text. -/
def run (unit : List Char → Nat) (s : List Char) : Nat := runFrom unit 0 s

theorem runFrom_eq (unit : List Char → Nat) : ∀ (count : Nat) (s : List Char),
    runFrom unit count s = count + run unit s
  | count, [] => by simp [run, runFrom]
  | count, c :: rest => by
    rw [run, runFrom, runFrom]
    split
    · rfl
    · rename_i extra _
      rw [runFrom_eq unit _ (rest.drop extra), runFrom_eq unit (0 + extra + 1) (rest.drop extra)]
      omega
termination_by _ s => s.length
decreasing_by all_goals simp only [List.length_cons, List.length_drop]; omega

theorem run_nil (unit : List Char → Nat) : run unit [] = 0 := by simp [run, runFrom]

/-- A run is its first unit and the run behind it. -/
theorem run_cons (unit : List Char → Nat) (c : Char) (rest : List Char) :
    run unit (c :: rest) =
      match unit (c :: rest) with
      | 0 => 0
      | extra + 1 => extra + 1 + run unit (rest.drop extra) := by
  rw [run, runFrom]
  split <;> simp [runFrom_eq]

/-- A unit inside quotes: a backslash with the character behind it, or a character that is neither a
quote nor a line break. -/
def quotedUnit (quote : Char) : List Char → Nat
  | [] => 0
  | c :: rest =>
    if c = '\\' then (if rest.isEmpty then 0 else 2)
    else if c = quote || Text.isBreak c then 0 else 1

/-- A unit of a message: a backslash with the character or CR LF behind it, or a character that
neither breaks the line nor starts a comment. -/
def messageUnit : List Char → Nat
  | [] => 0
  | c :: rest =>
    if c = '\\' then
      match rest with
      | '\r' :: '\n' :: _ => 3
      | _ :: _ => 2
      | [] => 0
    else if c = '/' then
      match rest with
      | d :: _ => if d = '/' || d = '*' then 0 else 1
      | [] => 1
    else if Text.isBreak c then 0 else 1

/-- A unit of a number: an exponent letter with its sign, a letter, a digit, an underscore or a
dot. -/
def numberUnit : List Char → Nat
  | [] => 0
  | c :: rest =>
    match rest with
    | d :: _ =>
      if (c = 'e' || c = 'E' || c = 'p' || c = 'P') && (d = '+' || d = '-') then 2
      else if Text.isWord c || c = '.' then 1 else 0
    | [] => if Text.isWord c || c = '.' then 1 else 0

/-- The number of characters up to and including the first `*/`. -/
def blockEndFrom (count : Nat) : List Char → Option Nat
  | [] => none
  | '*' :: '/' :: _ => some (count + 2)
  | _ :: rest => blockEndFrom (count + 1) rest

theorem blockEndFrom_add (before count : Nat) (s : List Char) :
    blockEndFrom (before + count) s = (blockEndFrom count s).map (before + ·) := by
  fun_induction blockEndFrom count s with
  | case1 => rfl
  | case2 => simp [blockEndFrom, Nat.add_assoc]
  | case3 count c rest h ih =>
    rw [blockEndFrom]
    · exact ih
    · exact h

/-- The number of characters at the start of a text that satisfy `p`. -/
def spanLength (p : Char → Bool) (s : List Char) : Nat := (s.takeWhile p).length

/-- Whether no word character follows: the text starts at the end of a word. -/
def atWordEnd : List Char → Bool
  | [] => true
  | c :: _ => !Text.isWord c

/-- The length of a closed literal whose body starts `s`, its closing quote included. -/
def quotedLength (quote : Char) (s : List Char) : Option Nat :=
  let body := run (quotedUnit quote) s
  if (s.drop body).head? = some quote then some (body + 1) else none

/-- The kind of a `/`, and how many characters of what follows it belong to the lexeme. -/
def cutSlash (s : List Char) : Kind × Nat :=
  match s with
  | '/' :: rest => (.lineComment, 1 + spanLength (fun c => !Text.isBreak c) rest)
  | '*' :: rest =>
    match blockEndFrom 1 rest with
    | some length => (.blockComment, length)
    | none => (.unclosed .blockComment, 1)
  | _ => (.punctuation, 0)

/-- The kind of an `@`, and how many characters of what follows it belong to the lexeme. -/
def cutAt (s : List Char) : Kind × Nat :=
  match s with
  | [] => (.punctuation, 0)
  | c :: rest =>
    if c = '"' then
      match quotedLength '"' rest with
      | some length => (.string, 1 + length)
      | none => (.unclosed .string, 1)
    else if isLetter c then (.keyword, 1 + spanLength Text.isWord rest)
    else (.punctuation, 0)

/-- The words whose line is free text. -/
def messageWords : List (List Char) := ["warning".toList, "error".toList]

/-- The length of the message word that the text starts with, if a word ends there. -/
def messageWordLength (s : List Char) : Option Nat :=
  let found := messageWords.find? fun word =>
    word.isPrefixOf s && atWordEnd (s.drop word.length)
  found.map List.length

/-- The kind of a `#`, and how many characters of what follows it belong to the lexeme. -/
def cutHash (s : List Char) : Kind × Nat :=
  let gap := spanLength (fun c => c = ' ' || c = '\t') s
  let rest := s.drop gap
  match messageWordLength rest with
  | some word => (.message, gap + word + run messageUnit (rest.drop word))
  | none =>
    match rest with
    | c :: tail => if isLetter c then (.directive, gap + 1 + spanLength Text.isWord tail)
                   else (.punctuation, 0)
    | [] => (.punctuation, 0)

/-- The kind of the lexeme that starts with `c`, and how many characters of `s`, the text behind
`c`, belong to it. -/
def cut (c : Char) (s : List Char) : Kind × Nat :=
  if c = '/' then cutSlash s
  else if c = '"' then
    match quotedLength '"' s with
    | some length => (.string, length)
    | none => (.unclosed .string, 0)
  else if c = '\x27' then
    match quotedLength '\x27' s with
    | some length => if length = 1 then (.unclosed .character, 0) else (.character, length)
    | none => (.unclosed .character, 0)
  else if c = '#' then cutHash s
  else if c = '@' then cutAt s
  else if isLetter c || c = '$' then
    (.identifier, spanLength (fun d => Text.isWord d || d = '$') s)
  else if Text.isDigit c then (.number, run numberUnit s)
  else if c = '.' then
    match s with
    | d :: rest => if Text.isDigit d then (.number, 1 + run numberUnit rest) else (.punctuation, 0)
    | [] => (.punctuation, 0)
  else if c = '\r' then (.newline, if s.head? = some '\n' then 1 else 0)
  else if c = '\n' then (.newline, 0)
  else if isInlineSpace c then (.space, spanLength isInlineSpace s)
  else (.punctuation, 0)

/-- Whether the lexeme separates others and stands for nothing itself. -/
def Kind.isGap : Kind → Bool
  | .newline | .space => true
  | _ => false

/-- Whether the lexeme is a comment. -/
def Kind.isComment : Kind → Bool
  | .lineComment | .blockComment => true
  | _ => false

end Lexeme

/-- A piece of source text and what it is. -/
structure Lexeme where
  kind : Lexeme.Kind
  text : List Char
  deriving Repr, DecidableEq

namespace Lexeme

/-- The lexemes of a text, behind those already found, which are held in reverse. -/
def lexemesFrom (found : List Lexeme) : List Char → List Lexeme
  | [] => found.reverse
  | c :: s =>
    let (kind, extra) := cut c s
    lexemesFrom (⟨kind, c :: s.take extra⟩ :: found) (s.drop extra)
termination_by s => s.length
decreasing_by simp only [List.length_cons, List.length_drop]; omega

/-- The lexemes of a text, in order. -/
def lexemes (s : List Char) : List Lexeme := lexemesFrom [] s

theorem lexemesFrom_eq : ∀ (found : List Lexeme) (s : List Char),
    lexemesFrom found s = found.reverse ++ lexemes s
  | found, [] => by simp [lexemes, lexemesFrom]
  | found, c :: s => by
    rw [lexemes, lexemesFrom, lexemesFrom]
    simp only
    rw [lexemesFrom_eq _ (s.drop (cut c s).2), lexemesFrom_eq [_] (s.drop (cut c s).2)]
    simp
termination_by _ s => s.length
decreasing_by all_goals simp only [List.length_cons, List.length_drop]; omega

theorem lexemes_nil : lexemes [] = [] := by simp [lexemes, lexemesFrom]

/-- The first lexeme is the one that `cut` gives, and the others are those of the text behind it. -/
theorem lexemes_cons (c : Char) (s : List Char) :
    lexemes (c :: s) = ⟨(cut c s).1, c :: s.take (cut c s).2⟩ :: lexemes (s.drop (cut c s).2) := by
  rw [lexemes, lexemesFrom]
  simp only [lexemesFrom_eq]
  simp

/-- Nothing is lost: **the lexemes of a text, one after the other, are the text.** -/
theorem lexemes_flatten : ∀ s : List Char, (lexemes s).flatMap Lexeme.text = s
  | [] => by rw [lexemes_nil, List.flatMap_nil]
  | c :: s => by
    rw [lexemes_cons, List.flatMap_cons, lexemes_flatten (s.drop (cut c s).2), List.cons_append,
      List.take_append_drop]
termination_by s => s.length
decreasing_by simp only [List.length_cons, List.length_drop]; omega

/-- The offset of the first line comment, which unclosed openers before it do not hide. -/
def lineCommentOffset (s : List Char) : Option Nat :=
  let before := (lexemes s).takeWhile fun l => l.kind ≠ .lineComment
  let offset := (before.flatMap Lexeme.text).length
  if offset < s.length then some offset else none

end Lexeme
end LineMetrics
