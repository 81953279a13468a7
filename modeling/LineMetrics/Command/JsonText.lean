import LineMetrics.Value

/-!
# JSON text

A document as JSON text.  Members and elements stand on lines of their own, two blanks deeper for
each level, and what is empty stays on its line.  Characters outside ASCII are written by their
UTF-16 units, and numbers that are not finite by names.
-/

namespace LineMetrics
namespace JsonText

/-- A UTF-16 unit as an escape. -/
def unitEscape (u : Nat) : List Char := '\\' :: 'u' :: Text.hexCode 4 u

/-- A character as it stands between quotes. -/
def escapedChar (c : Char) : List Char :=
  if c = '"' || c = '\\' then ['\\', c]
  else if c = '\n' then ['\\', 'n']
  else if c = '\r' then ['\\', 'r']
  else if c = '\t' then ['\\', 't']
  else if c = '\x0c' then ['\\', 'f']
  else if c = '\x08' then ['\\', 'b']
  else
    let n := c.toNat
    if 0x20 ≤ n ∧ n < 0x80 then [c]
    else if n < 0x10000 then unitEscape n
    else
      let offset := n - 0x10000
      unitEscape (0xD800 + offset / 0x400) ++ unitEscape (0xDC00 + offset % 0x400)

/-- A string in quotes. -/
def string (s : String) : String :=
  String.ofList ('"' :: (s.toList.flatMap escapedChar ++ ['"']))

/-- A real number. -/
def real : Binary64 → String
  | .nan => "NaN"
  | .infinite negative => if negative then "-Infinity" else "Infinity"
  | x => x.toText

/-- Parts on lines of their own between brackets that stand `depth` levels deep. -/
def block (opening closing : String) (depth : Nat) (parts : List String) : String :=
  let line (depth : Nat) : String := "\n" ++ String.ofList (List.replicate (2 * depth) ' ')
  match parts with
  | [] => opening ++ closing
  | _ => opening ++ line (depth + 1) ++ ("," ++ line (depth + 1)).intercalate parts
    ++ line depth ++ closing

mutual

/-- A value that stands `depth` levels deep. -/
def value (depth : Nat) : Value → String
  | .null => "null"
  | .bool b => if b then "true" else "false"
  | .int n => toString n
  | .real x => real x
  | .text s => string s
  | .moment m => string m.toText
  | .list items => block "[" "]" depth (elements (depth + 1) items)
  | .table entries => block "\x7b" "\x7d" depth (members (depth + 1) entries)

/-- The elements of a list. -/
def elements (depth : Nat) : List Value → List String
  | [] => []
  | v :: rest => value depth v :: elements depth rest

/-- The members of a table. -/
def members (depth : Nat) : List (String × Value) → List String
  | [] => []
  | (k, v) :: rest => (string k ++ ": " ++ value depth v) :: members depth rest

end

/-- A document. -/
def document (v : Value) : String := value 0 v

end JsonText
end LineMetrics
