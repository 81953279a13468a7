import LineMetrics.Text.Printable

/-!
# Quoted text

Text in quotes as messages show it: in single quotes, or in double quotes if it holds a single quote
and no double one.  A backslash stands before the quote, itself, and the letters `n`, `r`, `t` for
the line feed, carriage return and tab; any other character that is not printable is written by its
code in two, four or eight hexadecimal digits.
-/

namespace LineMetrics
namespace Text

/-- A code in lower-case hexadecimal, at least `width` digits. -/
def hexCode (width n : Nat) : List Char :=
  let digits := Nat.toDigits 16 n
  List.replicate (width - digits.length) '0' ++ digits

/-- A character as it stands between quotes. -/
def quotedChar (quote c : Char) : List Char :=
  if c = quote || c = '\\' then ['\\', c]
  else if c = '\n' then ['\\', 'n']
  else if c = '\r' then ['\\', 'r']
  else if c = '\t' then ['\\', 't']
  else if isPrintable c then [c]
  else
    let n := c.toNat
    if n < 0x100 then '\\' :: 'x' :: hexCode 2 n
    else if n < 0x10000 then '\\' :: 'u' :: hexCode 4 n
    else '\\' :: 'U' :: hexCode 8 n

/-- The quote that a text is put in. -/
def quoteFor (s : List Char) : Char :=
  if s.contains '\x27' && !s.contains '"' then '"' else '\x27'

/-- The text in quotes. -/
def quoted (s : String) : String :=
  let chars := s.toList
  let quote := quoteFor chars
  String.ofList (quote :: (chars.flatMap (quotedChar quote) ++ [quote]))

end Text
end LineMetrics
