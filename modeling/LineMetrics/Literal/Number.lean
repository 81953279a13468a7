import LineMetrics.Number.Numeral

/-!
# Numbers as they are written

A number starts with a digit, or with a point in front of one.  Behind `0x`, `0o` and `0b` stand
digits of that base; all other numbers are decimal and may have a fraction and an exponent, and a
`j` makes them imaginary.  Single underscores may part digits.  What stands right behind a number
must not look like a part of it: no letter, digit, underscore or character outside of ASCII, unless
it starts one of a few keywords.

Each step gives what follows the part of the number that it reads.
-/

namespace LineMetrics
namespace Literal

/-- What can be part of a name, as far as the end of the name goes. -/
def isNameChar (c : Char) : Bool := c.isAlphanum || c = '_' || 0x80 ≤ c.toNat

/-- A number that is spelled wrongly. -/
def invalidNumber (kind : String) : String := s!"invalid {kind} literal"

/-- The keywords that may stand right behind a number. -/
def keywordsBehindNumber : List String := ["and", "else", "for", "or", "not"]

/-- The keywords that may stand right behind a number, whatever follows them. -/
def leadsBehindNumber : List String := ["if", "in", "is"]

/-- Checks what stands behind a number. -/
def checkNumberEnd (kind : String) (rest : List Char) : Except String (List Char) :=
  let starts (word : String) : Bool := word.toList.isPrefixOf rest
  let isKeyword := leadsBehindNumber.any starts || keywordsBehindNumber.any fun word =>
    starts word && !(rest.drop word.length).head?.any isNameChar
  if rest.head?.any isNameChar && !isKeyword then .error (invalidNumber kind) else .ok rest

/-- What follows more digits; `fault` tells what is wrong with the character in the place of a digit
behind an underscore. -/
def behindDigits (isDigit : Char → Bool) (fault : Option Char → String) :
    List Char → Except String (List Char)
  | [] => .ok []
  | ['_'] => .error (fault none)
  | '_' :: c :: rest =>
    if isDigit c then behindDigits isDigit fault rest else .error (fault (some c))
  | c :: rest => if isDigit c then behindDigits isDigit fault rest else .ok (c :: rest)

/-! ### Numbers to another base -/

/-- What is wrong with a character in the place of a digit. -/
def digitFault (kind : String) : Option Char → String
  | none => invalidNumber kind
  | some c => if c.isDigit then s!"invalid digit '{c}' in {kind} literal" else invalidNumber kind

/-- What follows the digits to a base. -/
def behindBase (kind : String) (isDigit : Char → Bool) (s : List Char) :
    Except String (List Char) := do
  let digits := if s.head? = some '_' then s.drop 1 else s
  if !digits.head?.any isDigit then throw (digitFault kind digits.head?)
  let rest ← behindDigits isDigit (digitFault kind) digits
  if rest.head?.any Char.isDigit then throw (digitFault kind rest.head?)
  checkNumberEnd kind rest

/-! ### Decimal numbers -/

/-- What follows more decimal digits. -/
def behindDecimals (s : List Char) : Except String (List Char) :=
  behindDigits Char.isDigit (fun _ => invalidNumber "decimal") s

/-- What follows zeros at the beginning of a number. -/
def behindZeros : List Char → Except String (List Char)
  | [] => .ok []
  | ['_'] => .error (invalidNumber "decimal")
  | '_' :: c :: rest =>
    if c = '0' then behindZeros rest
    else if c.isDigit then .ok (c :: rest)
    else .error (invalidNumber "decimal")
  | c :: rest => if c = '0' then behindZeros rest else .ok (c :: rest)

/-- What follows the mark of an imaginary number, if there is one. -/
def behindUnit (s : List Char) : Except String (List Char) :=
  if s.head? = some 'j' || s.head? = some 'J' then checkNumberEnd "imaginary" (s.drop 1)
  else checkNumberEnd "decimal" s

/-- What follows an exponent, if there is one.  Without digits a letter `e` is part of what follows
the number. -/
def behindExponent (s : List Char) : Except String (List Char) := do
  if s.head? ≠ some 'e' && s.head? ≠ some 'E' then return ← behindUnit s
  let exponent := s.drop 1
  let isSigned := exponent.head? = some '+' || exponent.head? = some '-'
  let digits := if isSigned then exponent.drop 1 else exponent
  if digits.head?.any Char.isDigit then behindUnit (← behindDecimals digits)
  else if isSigned then throw (invalidNumber "decimal")
  else checkNumberEnd "decimal" s

/-- What follows the decimals behind a point. -/
def behindPoint (s : List Char) : Except String (List Char) := do
  if s.head?.any Char.isDigit then behindExponent (← behindDecimals s) else behindExponent s

/-- What is wrong with a whole number that starts with a zero. -/
def paddedReason : String :=
  "leading zeros in decimal integer literals are not permitted; " ++
    "use an 0o prefix for octal integers"

/-- What follows a decimal number, behind its whole part. -/
def behindWhole (isPadded : Bool) (s : List Char) : Except String (List Char) :=
  match s.head? with
  | some '.' => behindPoint (s.drop 1)
  | some 'e' | some 'E' | some 'j' | some 'J' => behindExponent s
  | _ => if isPadded then .error paddedReason else checkNumberEnd "decimal" s

/-- What follows a decimal number that starts with a zero, behind it. -/
def behindZero (s : List Char) : Except String (List Char) := do
  let rest ← behindZeros s
  if rest.head?.any Char.isDigit then behindWhole true (← behindDecimals rest)
  else behindWhole false rest

/-! ### All numbers -/

/-- Whether a character is a hexadecimal digit. -/
def isHexDigit (c : Char) : Bool :=
  c.isDigit || ('a' ≤ c && c ≤ 'f') || ('A' ≤ c && c ≤ 'F')

/-- Whether a text starts with a number. -/
def startsNumber : List Char → Bool
  | '.' :: c :: _ => c.isDigit
  | c :: _ => c.isDigit
  | [] => false

/-- What follows the number that a text starts with. -/
def behindNumber (s : List Char) : Except String (List Char) :=
  match s with
  | '0' :: rest =>
    match rest.head?.map Char.toLower with
    | some 'x' => behindBase "hexadecimal" isHexDigit (rest.drop 1)
    | some 'o' => behindBase "octal" (fun c => '0' ≤ c && c ≤ '7') (rest.drop 1)
    | some 'b' => behindBase "binary" (fun c => c = '0' || c = '1') (rest.drop 1)
    | _ => behindZero rest
  | '.' :: rest => behindPoint rest
  | _ => do behindWhole false (← behindDecimals s)

/-- Whether a number is imaginary. -/
def isImaginary (s : List Char) : Bool := s.getLast? = some 'j' || s.getLast? = some 'J'

/-- What is wrong with a number as a value, if anything is: a decimal integer may have too many
digits. -/
def numberFault? (s : List Char) : Option String :=
  let digits := s.filter fun c => c ≠ '_'
  if digits.all Char.isDigit && digits.head? ≠ some '0' && Numeral.maxDigits < digits.length then
    some (Numeral.tooLongReason digits.length ++ " - Consider hexadecimal for huge integer " ++
      "literals to avoid decimal conversion limits.")
  else none

end Literal
end LineMetrics
