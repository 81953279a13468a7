import LineMetrics.Encoding.Codec

/-!
# Hosts

What a run finds besides files and environment variables, and what differs from one host to the
next: the home directory of its account, the encodings that are installed beside those of
`Encoding`, and how many levels of a value or a tree there is room to go into.  Nothing is assumed
of them but that a text has a length that a text can have.
-/

namespace LineMetrics

/-- The most characters of a text, and the most bytes of a file: one less than the 63rd power of
two. -/
def maxTextLength : Nat := 9223372036854775807

/-- An encoding that the library does not define.  It gives the text of bytes, with something in the
place of what it cannot decode, or it refuses them as a whole. -/
structure Codec where
  decode : List UInt8 → Option (List Char)
  length_le : ∀ {bytes s}, decode bytes = some s → s.length ≤ maxTextLength

/-- The text of bytes, with every line break as LF. -/
def Codec.text (c : Codec) (bytes : List UInt8) : Except Fault (List Char) :=
  match c.decode bytes with
  | some s => .ok (Text.unifyBreaks s)
  | none => .error .undecodable

/-- What a run finds at its host. -/
structure Host where
  /-- The home directory that is on record for the account, if there is a record. -/
  accountHome : Option String
  /-- The encodings beside those of `Encoding`, by the names that ask for them. -/
  codec? : String → Option Codec
  /-- The room for arrays and inline tables of a settings file in one another. -/
  readRoom : Nat
  /-- The room for lists and tables in one another in a value that is shown. -/
  showRoom : Nat
  /-- The room for levels of a grammar's tree. -/
  treeRoom : Nat

namespace Host

/-- A host that adds nothing, with the room that a call from the outermost level finds. -/
def plain : Host where
  accountHome := none
  codec? _ := none
  readRoom := 986
  showRoom := 990
  treeRoom := 494

/-- What decodes text in the encoding of a name. -/
def decoder (h : Host) (name : String) : Except Fault (List UInt8 → Except Fault (List Char)) :=
  match Encoding.named name with
  | .ok encoding => .ok encoding.decode
  | .error fault =>
    match h.codec? name with
    | some codec => .ok codec.text
    | none => .error fault

end Host
end LineMetrics
