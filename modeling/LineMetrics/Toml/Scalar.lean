import LineMetrics.Number.Numeral
import LineMetrics.Value

/-!
# TOML keys, strings, numbers and dates

Reading of the parts of a TOML document that hold no other values.  Each reader takes the text from
its first character on and gives what it read with the rest of the text.
-/

namespace LineMetrics
namespace Toml

/-- Why a text is no TOML document. -/
inductive TomlFault
  | malformed
  /-- An integer with more digits than integers may have. -/
  | tooLong (digits : Nat)
  /-- Arrays and inline tables in one another beyond what is read. -/
  | tooDeep
  deriving Repr, DecidableEq

/-- Blanks within a line. -/
def isSpace (c : Char) : Bool := c = ' ' || c = '\t'

/-- The text without leading blanks. -/
def skipSpace (s : List Char) : List Char := s.dropWhile isSpace

/-- Control characters, which may stand nowhere in a document but for tabs and line feeds. -/
def isControl (c : Char) : Bool := c.toNat < 32 || c.toNat = 127

/-- Control characters that may not stand within a line. -/
def isIllegal (c : Char) : Bool := isControl c && c ≠ '\t'

/-- Characters of a key without quotes. -/
def isKeyChar (c : Char) : Bool := c.isAlphanum || c = '-' || c = '_'

/-- Whether a text starts with three quotes of a kind. -/
def startsTriple (quote : Char) (s : List Char) : Bool := [quote, quote, quote].isPrefixOf s

/-- The value of a hexadecimal digit. -/
def hexDigit? (c : Char) : Option Nat :=
  if c.isDigit then some (c.toNat - 48)
  else if 'a' ≤ c ∧ c ≤ 'f' then some (c.toNat - 87)
  else if 'A' ≤ c ∧ c ≤ 'F' then some (c.toNat - 55)
  else none

/-- The character of a code in hexadecimal digits, `count` of them. -/
def hexChar? (count : Nat) (digits : List Char) : Option Char :=
  if digits.length ≠ count then none
  else do
    let values ← digits.mapM hexDigit?
    let code := values.foldl (fun n d => n * 16 + d) 0
    if code.isValidChar then some (Char.ofNat code) else none

/-- The character that a letter behind a backslash stands for. -/
def escaped? (c : Char) : Option Char :=
  if c = 'b' then some '\x08'
  else if c = 't' then some '\t'
  else if c = 'n' then some '\n'
  else if c = 'f' then some '\x0c'
  else if c = 'r' then some '\r'
  else if c = '"' then some '"'
  else if c = '\\' then some '\\'
  else none

/-- The text behind the blanks and line breaks that follow a backslash at the end of a line; `none`
if other text follows the backslash on its line. -/
def skipLineEnd? (s : List Char) : Option (List Char) :=
  match skipSpace s with
  | [] => some []
  | c :: rest => if c = '\n' then some (rest.dropWhile fun d => isSpace d || d = '\n') else none

theorem length_dropWhile_le (p : Char → Bool) (s : List Char) :
    (s.dropWhile p).length ≤ s.length :=
  (List.dropWhile_sublist p).length_le

theorem length_skipLineEnd?_le {s t : List Char} (h : skipLineEnd? s = some t) :
    t.length ≤ s.length := by
  have hs := length_dropWhile_le isSpace s
  unfold skipLineEnd? skipSpace at h
  split at h
  · obtain rfl := Option.some.inj h
    simp
  · rename_i c rest e
    rw [e] at hs
    split at h
    · obtain rfl := Option.some.inj h
      have := length_dropWhile_le (fun d => isSpace d || d = '\n') rest
      simp only [List.length_cons] at hs
      omega
    · simp at h

/-- The contents of a string in double quotes up to its end, behind those already read, which are
held in reverse.  A string of several lines ends with three quotes and may hold line feeds. -/
def basicFrom (multiline : Bool) (found : List Char) (s : List Char) :
    Except TomlFault (List Char × List Char) :=
  match s with
  | [] => .error .malformed
  | c :: rest =>
    if c = '"' then
      if !multiline then .ok (found.reverse, rest)
      else if startsTriple '"' (c :: rest) then .ok (found.reverse, rest.drop 2)
      else basicFrom multiline (c :: found) rest
    else if c = '\\' then
      match rest with
      | [] => .error .malformed
      | d :: tail =>
        if multiline && (isSpace d || d = '\n') then
          match _h : skipLineEnd? (d :: tail) with
          | some after => basicFrom multiline found after
          | none => .error .malformed
        else if d = 'u' then
          match hexChar? 4 (tail.take 4) with
          | some x => basicFrom multiline (x :: found) (tail.drop 4)
          | none => .error .malformed
        else if d = 'U' then
          match hexChar? 8 (tail.take 8) with
          | some x => basicFrom multiline (x :: found) (tail.drop 8)
          | none => .error .malformed
        else
          match escaped? d with
          | some x => basicFrom multiline (x :: found) tail
          | none => .error .malformed
    else if isIllegal c && !(multiline && c = '\n') then .error .malformed
    else basicFrom multiline (c :: found) rest
termination_by s.length
decreasing_by
  all_goals simp only [List.length_cons, List.length_drop] at *
  all_goals first
    | omega
    | (have bound := length_skipLineEnd?_le ‹skipLineEnd? _ = some _›
       simp only [List.length_cons] at bound
       omega)

/-- The contents of a string in single quotes up to its end, which hold no escapes. -/
def literalFrom (multiline : Bool) (found : List Char) :
    List Char → Except TomlFault (List Char × List Char)
  | [] => .error .malformed
  | c :: rest =>
    if c = '\x27' then
      if !multiline then .ok (found.reverse, rest)
      else if startsTriple '\x27' (c :: rest) then .ok (found.reverse, rest.drop 2)
      else literalFrom multiline (c :: found) rest
    else if isIllegal c && !(multiline && c = '\n') then .error .malformed
    else literalFrom multiline (c :: found) rest

/-- Up to two more quotes belong to a string of several lines that ends with more than three. -/
def extraQuotes (quote : Char) (text : List Char) (rest : List Char) : List Char × List Char :=
  match rest with
  | a :: b :: tail =>
    if a = quote then
      if b = quote then (text ++ [quote, quote], tail) else (text ++ [quote], b :: tail)
    else (text, rest)
  | [a] => if a = quote then (text ++ [quote], []) else (text, rest)
  | [] => (text, [])

/-- The text without one line feed in front. -/
def skipLineFeed (s : List Char) : List Char := if s.head? = some '\n' then s.drop 1 else s

/-- A string in double or single quotes, of one line or several. -/
def string (s : List Char) : Except TomlFault (List Char × List Char) :=
  match s with
  | '"' :: rest =>
    if startsTriple '"' s then do
      let (text, rest) ← basicFrom true [] (skipLineFeed (rest.drop 2))
      return extraQuotes '"' text rest
    else basicFrom false [] rest
  | '\x27' :: rest =>
    if startsTriple '\x27' s then do
      let (text, rest) ← literalFrom true [] (skipLineFeed (rest.drop 2))
      return extraQuotes '\x27' text rest
    else literalFrom false [] rest
  | _ => .error .malformed

/-- One part of a key: bare, or a string of one line. -/
def keyPart (s : List Char) : Except TomlFault (String × List Char) :=
  match s with
  | [] => .error .malformed
  | c :: rest => do
    if isKeyChar c then
      return (String.ofList (s.takeWhile isKeyChar), s.dropWhile isKeyChar)
    else if c = '"' then
      let (text, rest) ← basicFrom false [] rest
      return (String.ofList text, rest)
    else if c = '\x27' then
      let (text, rest) ← literalFrom false [] rest
      return (String.ofList text, rest)
    else throw .malformed

/-- A key of at most `limit` further parts with dots between them, and the blanks behind it. -/
def keyFrom (limit : Nat) (s : List Char) : Except TomlFault (List String × List Char) := do
  let (part, rest) ← keyPart s
  match limit, skipSpace rest with
  | n + 1, '.' :: tail =>
    let (parts, rest) ← keyFrom n (skipSpace tail)
    return (part :: parts, rest)
  | _, rest => return ([part], rest)

/-- A key of parts with dots between them. -/
def key (s : List Char) : Except TomlFault (List String × List Char) := keyFrom s.length s

/-- A number of two decimal digits. -/
def twoDigits? (a b : Char) : Option Nat :=
  if a.isDigit && b.isDigit then some ((a.toNat - 48) * 10 + (b.toNat - 48)) else none

/-- Microseconds of the digits of a fraction of a second. -/
def microseconds (digits : List Char) : Nat :=
  let six := digits.take 6
  Numeral.ofDigits (six ++ List.replicate (6 - six.length) '0')

/-- A time of day, if the text starts with one. -/
def clockTime? (s : List Char) : Option (ClockTime × List Char) :=
  match s with
  | h₁ :: h₂ :: ':' :: m₁ :: m₂ :: ':' :: s₁ :: s₂ :: rest => do
    let hour ← twoDigits? h₁ h₂
    let minute ← twoDigits? m₁ m₂
    let second ← twoDigits? s₁ s₂
    if 23 < hour || 59 < minute || 59 < second then none
    else
      match rest with
      | '.' :: tail =>
        let digits := tail.takeWhile Char.isDigit
        if digits.isEmpty then some (⟨hour, minute, second, 0⟩, rest)
        else some (⟨hour, minute, second, microseconds digits⟩, tail.dropWhile Char.isDigit)
      | _ => some (⟨hour, minute, second, 0⟩, rest)
  | _ => none

/-- A date, if the text starts with digits and dashes in its form. -/
def calendarDate? (s : List Char) : Option (CalendarDate × List Char) :=
  match s with
  | y₁ :: y₂ :: y₃ :: y₄ :: '-' :: m₁ :: m₂ :: '-' :: d₁ :: d₂ :: rest => do
    let century ← twoDigits? y₁ y₂
    let year ← twoDigits? y₃ y₄
    let month ← twoDigits? m₁ m₂
    let day ← twoDigits? d₁ d₂
    if month < 1 || 12 < month || day < 1 || 31 < day then none
    else some (⟨century * 100 + year, month, day⟩, rest)
  | _ => none

/-- An offset from universal time in minutes, if the text starts with one. -/
def offset? (s : List Char) : Option (Int × List Char) :=
  match s with
  | 'Z' :: rest | 'z' :: rest => some (0, rest)
  | sign :: h₁ :: h₂ :: ':' :: m₁ :: m₂ :: rest => do
    let hour ← twoDigits? h₁ h₂
    let minute ← twoDigits? m₁ m₂
    if 23 < hour || 59 < minute then none
    else if sign = '+' then some (hour * 60 + minute, rest)
    else if sign = '-' then some (-(hour * 60 + minute : Int), rest)
    else none
  | _ => none

/-- The number of days of a month. -/
def daysIn (year month : Nat) : Nat :=
  if month = 2 then
    if year % 4 = 0 ∧ (year % 100 ≠ 0 ∨ year % 400 = 0) then 29 else 28
  else if month = 4 ∨ month = 6 ∨ month = 9 ∨ month = 11 then 30 else 31

/-- Whether the calendar has the day; it starts with the year 1. -/
def isOnCalendar (d : CalendarDate) : Bool := 0 < d.year && d.day ≤ daysIn d.year d.month

/-- A date, perhaps with a time and an offset, if the text starts with one.  The inner result is a
fault for a day that the calendar does not have. -/
def dateTime? (s : List Char) : Option (Except TomlFault (Value × List Char)) := do
  let (date, rest) ← calendarDate? s
  let moment : Moment × List Char :=
    match rest with
    | c :: tail =>
      if c = 'T' || c = 't' || c = ' ' then
        match clockTime? tail with
        | some (time, rest) =>
          match offset? rest with
          | some (offset, rest) => (.dateTime date time (some offset), rest)
          | none => (.dateTime date time none, rest)
        | none => (.date date, rest)
      else (.date date, rest)
    | [] => (.date date, [])
  return if isOnCalendar date then .ok (.moment moment.1, moment.2) else .error .malformed

/-- Digits with single underscores between them: the digits alone, and the rest.  Empty if the text
starts with no digit. -/
def digitRun (isDigit : Char → Bool) : List Char → List Char × List Char
  | [] => ([], [])
  | c :: '_' :: d :: tail =>
    if isDigit c then
      if isDigit d then
        let (more, rest) := digitRun isDigit (d :: tail)
        (c :: more, rest)
      else ([c], '_' :: d :: tail)
    else ([], c :: '_' :: d :: tail)
  | c :: rest =>
    if isDigit c then
      let (more, rest) := digitRun isDigit rest
      (c :: more, rest)
    else ([], c :: rest)

/-- The number that digits of a base denote. -/
def ofBase (base : Nat) (digits : List Char) : Nat :=
  digits.foldl (fun n c => n * base + (hexDigit? c).getD 0) 0

/-- An integer in base 16, 8 or 2, if the text starts with one. -/
def basedInteger? (s : List Char) : Option (Value × List Char) :=
  match s with
  | '0' :: letter :: rest =>
    let based : Option (Nat × (Char → Bool)) :=
      if letter = 'x' then some (16, fun c => (hexDigit? c).isSome)
      else if letter = 'o' then some (8, fun c => '0' ≤ c && c ≤ '7')
      else if letter = 'b' then some (2, fun c => c = '0' || c = '1')
      else none
    match based with
    | none => none
    | some (base, isDigit) =>
      let (digits, rest) := digitRun isDigit rest
      if digits.isEmpty then none else some (.int (ofBase base digits), rest)
  | _ => none

/-- The whole part of a decimal number: a single zero, or digits that start with another one. -/
def wholePart (s : List Char) : List Char × List Char :=
  match s with
  | '0' :: rest => (['0'], rest)
  | _ => digitRun Char.isDigit s

/-- The digits of a fraction, empty if there is none. -/
def fractionPart (s : List Char) : List Char × List Char :=
  match s with
  | '.' :: tail =>
    let (digits, rest) := digitRun Char.isDigit tail
    if digits.isEmpty then ([], s) else (digits, rest)
  | _ => ([], s)

/-- An exponent, if there is one. -/
def exponentPart (s : List Char) : Option Int × List Char :=
  match s with
  | e :: tail =>
    if e = 'e' || e = 'E' then
      let (negative, digits) := Numeral.splitSign tail
      let (digits, rest) := digitRun Char.isDigit digits
      if digits.isEmpty then (none, s)
      else
        let n : Int := Numeral.ofDigits digits
        (some (if negative then -n else n), rest)
    else (none, s)
  | [] => (none, [])

/-- A decimal number, if the text starts with one: an integer, or a real number if it has a fraction
or an exponent. -/
def decimal? (s : List Char) : Option (Except TomlFault (Value × List Char)) :=
  let (negative, body) := Numeral.splitSign s
  let (whole, rest) := wholePart body
  if whole.isEmpty then none
  else
    let (fraction, rest) := fractionPart rest
    let (exponent, rest) := exponentPart rest
    if fraction.isEmpty && exponent.isNone then
      if Numeral.maxDigits < whole.length then some (.error (.tooLong whole.length))
      else
        let n : Int := Numeral.ofDigits whole
        some (.ok (.int (if negative then -n else n), rest))
    else
      let digits := Numeral.ofDigits (whole ++ fraction)
      some (.ok (.real (.ofDecimal negative digits (exponent.getD 0 - fraction.length)), rest))

/-- The words that stand for values. -/
def words : List (String × Value) :=
  [("true", .bool true), ("false", .bool false),
   ("inf", .real (.infinite false)), ("nan", .real .nan),
   ("+inf", .real (.infinite false)), ("-inf", .real (.infinite true)),
   ("+nan", .real .nan), ("-nan", .real .nan)]

/-- A value that holds no others: a string, a word, a date or time, or a number. -/
def scalar (s : List Char) : Except TomlFault (Value × List Char) :=
  if s.head? = some '"' || s.head? = some '\x27' then do
    let (text, rest) ← string s
    return (.text (String.ofList text), rest)
  else
    match words.find? fun w => w.1.toList.isPrefixOf s with
    | some (word, value) => .ok (value, s.drop word.length)
    | none =>
      match dateTime? s with
      | some reading => reading
      | none =>
        match clockTime? s with
        | some (time, rest) => .ok (.moment (.time time), rest)
        | none =>
          match basedInteger? s with
          | some reading => .ok reading
          | none =>
            match decimal? s with
            | some reading => reading
            | none => .error .malformed

end Toml
end LineMetrics
