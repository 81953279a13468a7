import LineMetrics.Number.Binary64
import LineMetrics.Text.Blank
import LineMetrics.Text.Digit
import LineMetrics.Text.Quoted
import LineMetrics.Text.Search

/-!
# Numerals

Numbers written as text.  Blanks may surround a numeral, a sign may start it, one underscore may
stand between two digits, and decimal digits of any script count as digits.  An integer has at most
4300 digits; a real number has a fraction, an exponent, both or neither, or is `inf`, `infinity` or
`nan` in any case.
-/

namespace LineMetrics
namespace Numeral

/-- The blanks that may surround a numeral. -/
def isPadding (c : Char) : Bool :=
  c = ' ' || c = '\t' || c = '\n' || c = '\r' || c = '\x0b' || c = '\x0c'

/-- A character outside ASCII as the ASCII character it counts as: a digit, a blank, or none of
use. -/
def plainChar (c : Char) : Char :=
  if c.toNat < 127 then c
  else if Text.isBlank c then ' '
  else match Text.digitValue? c with
    | some d => Char.ofNat (48 + d)
    | none => '?'

/-- The numeral in ASCII, without the blanks around it. -/
def plain (s : List Char) : List Char :=
  let ascii := s.map plainChar
  (((ascii.dropWhile isPadding).reverse.dropWhile isPadding).reverse)

/-- The sign in front of a numeral, and the rest. -/
def splitSign : List Char → Bool × List Char
  | '-' :: rest => (true, rest)
  | '+' :: rest => (false, rest)
  | rest => (false, rest)

/-- The digits that a text starts with, and what follows them.  An underscore has to stand between
two digits. -/
def digitRun : List Char → Option (List Char × List Char)
  | [] => some ([], [])
  | '_' :: _ => none
  | c :: '_' :: rest =>
    if !c.isDigit then some ([], c :: '_' :: rest)
    else if rest.head?.any Char.isDigit then
      (digitRun rest).map fun (digits, rest) => (c :: digits, rest)
    else none
  | c :: rest =>
    if c.isDigit then (digitRun rest).map fun (digits, rest) => (c :: digits, rest)
    else some ([], c :: rest)

/-- The number that decimal digits denote. -/
def ofDigits (digits : List Char) : Nat :=
  digits.foldl (fun n c => 10 * n + (c.toNat - 48)) 0

/-- Why a text is no integer numeral. -/
inductive IntFault
  | malformed
  /-- More digits than an integer may have. -/
  | tooLong (digits : Nat)
  deriving Repr, DecidableEq

/-- The most digits of an integer numeral. -/
def maxDigits : Nat := 4300

/-- The integer that a text denotes.  The number of its digits is looked at before what follows
them. -/
def int (s : List Char) : Except IntFault Int :=
  let (negative, body) := splitSign (plain s)
  match digitRun body with
  | none | some ([], _) => .error .malformed
  | some (digits, rest) =>
    if maxDigits < digits.length then .error (.tooLong digits.length)
    else if !rest.isEmpty then .error .malformed
    else
      let n : Int := ofDigits digits
      .ok (if negative then -n else n)

/-- Whether an integer has few enough digits to be shown. -/
def isShowable (n : Int) : Bool := n.natAbs < Nat.pow 10 maxDigits

/-- What is wrong with an integer that has too many digits to be shown. -/
def unshowable : String :=
  s!"Exceeds the limit ({maxDigits} digits) for integer string conversion; use " ++
    "sys.set_int_max_str_digits() to increase the limit"

/-- What is wrong with a numeral that has too many digits. -/
def tooLongReason (digits : Nat) : String :=
  s!"Exceeds the limit ({maxDigits} digits) for integer string conversion: value has {digits} " ++
    "digits; use sys.set_int_max_str_digits() to increase the limit"

/-- The most characters of a quoted numeral that a message shows. -/
def maxQuoted : Nat := 200

/-- What is wrong with a text that is no integer numeral. -/
def intReason (s : String) : IntFault → String
  | .tooLong digits => tooLongReason digits
  | .malformed =>
    let shown := String.ofList ((Text.quoted s).toList.take maxQuoted)
    s!"invalid literal for int() with base 10: {shown}"

/-- Without underscores, each of which has to stand between two digits. -/
def dropUnderscores : List Char → Option (List Char)
  | [] => some []
  | '_' :: _ => none
  | [c] => some [c]
  | c :: '_' :: d :: rest =>
    if c.isDigit && d.isDigit then (dropUnderscores (d :: rest)).map (c :: ·) else none
  | c :: rest => (dropUnderscores rest).map (c :: ·)

/-- An exponent: nothing, or `e`, a sign and digits. -/
def exponent? : List Char → Option Int
  | [] => some 0
  | c :: rest =>
    if c = 'e' || c = 'E' then
      let (negative, digits) := splitSign rest
      if !digits.isEmpty && digits.all Char.isDigit then
        let n : Int := ofDigits digits
        some (if negative then -n else n)
      else none
    else none

/-- The real number that an unsigned numeral in ASCII denotes. -/
def unsigned? (negative : Bool) (s : List Char) : Option Binary64 :=
  let word := Text.lower s
  if word = "inf".toList || word = "infinity".toList then some (.infinite negative)
  else if word = "nan".toList then some .nan
  else
    let whole := s.takeWhile Char.isDigit
    let rest := s.dropWhile Char.isDigit
    let (fraction, rest) := match rest with
      | '.' :: tail => (tail.takeWhile Char.isDigit, tail.dropWhile Char.isDigit)
      | _ => ([], rest)
    if whole.isEmpty && fraction.isEmpty then none
    else (exponent? rest).map fun e =>
      .ofDecimal negative (ofDigits (whole ++ fraction)) (e - fraction.length)

/-- The real number that a text denotes. -/
def real? (s : List Char) : Option Binary64 := do
  let body ← dropUnderscores (plain s)
  let (negative, magnitude) := splitSign body
  unsigned? negative magnitude

example : (int "1_0 ".toList).toOption = some 10 ∧ (int "-0".toList).toOption = some 0 ∧
    (int "1__0".toList).toOption = none ∧ (int "_1".toList).toOption = none ∧
    (int "+ 1".toList).toOption = none := by decide +kernel

end Numeral
end LineMetrics
