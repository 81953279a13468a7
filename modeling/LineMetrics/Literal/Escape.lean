import LineMetrics.Literal.CharacterName
import LineMetrics.Literal.Number
import LineMetrics.Text.Quoted

/-!
# Escapes in quoted text

A backslash in quoted text starts an escape.  Most letters behind it need nothing more, and what is
no escape stands for itself; these need more than the letter:

| escape | needs |
| --- | --- |
| `\x` | two hexadecimal digits |
| `\u` | four hexadecimal digits |
| `\U` | eight hexadecimal digits, up to the greatest code |
| `\N` | the name of a character in braces |

Quoted bytes know the first of them only, and hold ASCII characters only.  The place of a fault is
counted in ASCII: a character outside of it counts as its code in an escape.
-/

namespace LineMetrics
namespace Literal

/-- Whether a character is ASCII. -/
def isAscii (c : Char) : Bool := c.toNat < 0x80

/-- A character in ASCII. -/
def asciiChar (c : Char) : List Char :=
  if isAscii c then [c] else '\\' :: 'U' :: Text.hexCode 8 c.toNat

/-- The escape that stands for a backslash. -/
def backslashCode : List Char := '\\' :: 'u' :: Text.hexCode 4 '\\'.toNat

/-- Quoted text in ASCII.  A backslash at the end, or in front of a character outside of it, stands
for itself. -/
def asciiForm : List Char → List Char
  | [] => []
  | ['\\'] => backslashCode
  | '\\' :: c :: rest =>
    (if isAscii c then ['\\'] else backslashCode) ++ asciiChar c ++ asciiForm rest
  | c :: rest => asciiChar c ++ asciiForm rest

/-- What is wrong with the escape from one place up to another. -/
def escapeReason (first last : Nat) (reason : String) : String :=
  s!"(unicode error) 'unicodeescape' codec can't decode bytes in position {first}-{last}: {reason}"

/-- The greatest code of a character. -/
def maxCode : Nat := 0x10FFFF

/-- The number that hexadecimal digits denote. -/
def ofHexDigits (digits : List Char) : Nat :=
  digits.foldl (fun n c => 16 * n + (if c.isDigit then c.toNat - 48 else c.toLower.toNat - 87)) 0

/-- What is wrong with an escape by code at a place, given how many digits it needs and what follows
its letter. -/
def codeFault? (place : Nat) (letter : Char) (length : Nat) (rest : List Char) : Option String :=
  let digits := (rest.take length).takeWhile isHexDigit
  let last := place + 1 + digits.length
  if digits.length < length then
    let form := String.ofList ('\\' :: letter :: List.replicate length 'X')
    some (escapeReason place last s!"truncated {form} escape")
  else if maxCode < ofHexDigits digits then
    some (escapeReason place last "illegal Unicode character")
  else none

/-- What is wrong with an escape by name at a place, given what follows its letter. -/
def nameFault? (place : Nat) (rest : List Char) : Option String :=
  let malformed (length : Nat) : Option String :=
    some (escapeReason place (place + 1 + length) "malformed \\N character escape")
  match rest with
  | '\x7b' :: rest =>
    let name := rest.takeWhile (· ≠ '\x7d')
    if name.isEmpty || name.length = rest.length then malformed (name.length + 1)
    else if isCharacterName name then none
    else some (escapeReason place (place + name.length + 3) "unknown Unicode character name")
  | _ => malformed 0

/-- What is wrong with an escape at a place, given what follows its backslash. -/
def escapeFault? (place : Nat) : List Char → Option String
  | 'x' :: rest => codeFault? place 'x' 2 rest
  | 'u' :: rest => codeFault? place 'u' 4 rest
  | 'U' :: rest => codeFault? place 'U' 8 rest
  | 'N' :: rest => nameFault? place rest
  | _ => none

/-- What is wrong with quoted text in ASCII from a place on, if anything is. -/
def textFaultFrom (place : Nat) : List Char → Option String
  | [] => none
  | '\\' :: c :: rest => (escapeFault? place (c :: rest)).or (textFaultFrom (place + 2) rest)
  | _ :: rest => textFaultFrom (place + 1) rest

/-- What is wrong with quoted text, if anything is. -/
def textFault? (s : List Char) : Option String := textFaultFrom 0 (asciiForm s)

/-- What is wrong with the escapes in quoted bytes from a place on, if anything is. -/
def bytesFaultFrom (place : Nat) : List Char → Option String
  | [] => none
  | '\\' :: c :: rest =>
    if c = 'x' && ((rest.take 2).takeWhile isHexDigit).length < 2 then
      some s!"(value error) invalid \\x escape at position {place}"
    else bytesFaultFrom (place + 2) rest
  | _ :: rest => bytesFaultFrom (place + 1) rest

/-- What is wrong with what stands between quotes, if anything is; in raw text and raw bytes a
backslash starts no escape. -/
def quotedFault? (isBytes isRaw : Bool) (s : List Char) : Option String :=
  if isBytes && !s.all isAscii then some "bytes can only contain ASCII literal characters"
  else if isRaw then none
  else if isBytes then bytesFaultFrom 0 s
  else textFault? s

example : textFault? "é\\x41\\x4".toList
    = some (escapeReason 14 16 "truncated \\xXX escape") := by decide +kernel

end Literal
end LineMetrics
