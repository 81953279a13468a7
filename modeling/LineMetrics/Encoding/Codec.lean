import LineMetrics.Encoding.Utf8
import LineMetrics.Encoding.Wide
import LineMetrics.Failure
import LineMetrics.Text.LineBreak

/-!
# Text encodings

The encodings that source files may be in, the names they go by, and decoding (specification,
section 6).  A name is compared in lower case with every run of other characters than ASCII letters,
digits and dots read as one underscore; in a name other than an encoding's own, a dot may stand for
an underscore too.  The name `locale`, in just this form, means the encoding of the system, UTF-8.
What an encoding cannot decode becomes the replacement character; text in UTF-16 or UTF-32 of no
stated byte order has to begin with a mark.
-/

namespace LineMetrics

/-- An encoding of text as bytes. -/
inductive Encoding
  | utf8
  /-- UTF-8 that may begin with a mark, which is no part of the text. -/
  | markedUtf8
  | ascii
  | latin1
  | cp1252
  /-- UTF-16 in an order, or in the order that its mark states. -/
  | utf16 (order : Option Encoding.ByteOrder)
  /-- UTF-32 in an order, or in the order that its mark states. -/
  | utf32 (order : Option Encoding.ByteOrder)
  deriving Repr, DecidableEq

namespace Encoding

/-- The name of an encoding as it is compared.  `pending` says that characters were left out. -/
def plainName (pending : Bool) : List Char → List Char
  | [] => []
  | c :: rest =>
    if c.isAlphanum || c = '.' then
      (if pending then ['_'] else []) ++ c.toLower :: plainName false rest
    else plainName true rest

/-- Each encoding with its own name and the other names it goes by. -/
def namesOf : List (Encoding × String × List String) :=
  [(.utf8, "utf_8", ["u8", "utf", "utf8", "utf8_ucs2", "utf8_ucs4", "cp65001"]),
   (.markedUtf8, "utf_8_sig", []),
   (.ascii, "ascii", ["646", "ansi_x3.4_1968", "ansi_x3_4_1968", "ansi_x3.4_1986", "cp367",
     "csascii", "ibm367", "iso646_us", "iso_646.irv_1991", "iso_ir_6", "us", "us_ascii"]),
   (.latin1, "latin_1", ["8859", "cp819", "csisolatin1", "ibm819", "iso8859", "iso8859_1",
     "iso_8859_1", "iso_8859_1_1987", "iso_ir_100", "l1", "latin", "latin1"]),
   (.cp1252, "cp1252", ["1252", "windows_1252"]),
   (.utf16 none, "utf_16", ["u16", "utf16"]),
   (.utf16 (some .little), "utf_16_le", ["unicodelittleunmarked", "utf_16le"]),
   (.utf16 (some .big), "utf_16_be", ["unicodebigunmarked", "utf_16be"]),
   (.utf32 none, "utf_32", ["u32", "utf32"]),
   (.utf32 (some .little), "utf_32_le", ["utf_32le"]),
   (.utf32 (some .big), "utf_32_be", ["utf_32be"])]

/-- The encoding of the system by name. -/
def systemName : String := "locale"

/-- The encoding of a name. -/
def named (name : String) : Except Fault Encoding :=
  let plain := (plainName false name.toList).dropWhile (· = '_')
  let exact := String.ofList plain
  let dotless := String.ofList (plain.map fun c => if c = '.' then '_' else c)
  if name = systemName then .ok .utf8
  else match namesOf.find? fun (_, own, others) =>
    own = exact || others.contains exact || others.contains dotless with
  | some (encoding, _) => .ok encoding
  | none => .error .unknownEncoding

/-- The characters of the bytes 80 to 9F in code page 1252; five of them have none. -/
def cp1252Upper : List (Option Char) :=
  [some '€', none, some '‚', some 'ƒ', some '„', some '…', some '†', some '‡',
   some 'ˆ', some '‰', some 'Š', some '‹', some 'Œ', none, some 'Ž', none,
   none, some '‘', some '’', some '“', some '”', some '•', some '–', some '—',
   some '˜', some '™', some 'š', some '›', some 'œ', none, some 'ž', some 'Ÿ']

/-- The character of a byte of ASCII. -/
def asciiChar (b : UInt8) : Option Char :=
  if b.toNat < 0x80 then some (Char.ofNat b.toNat) else none

/-- The character of a byte of Latin-1. -/
def latin1Char (b : UInt8) : Option Char := some (Char.ofNat b.toNat)

/-- The character of a byte of code page 1252. -/
def cp1252Char (b : UInt8) : Option Char :=
  if 0x80 ≤ b.toNat ∧ b.toNat < 0xA0 then (cp1252Upper[b.toNat - 0x80]?).join else latin1Char b

/-- The bytes behind the mark of UTF-8.  A text that is only a part of the mark is empty. -/
def withoutUtf8Mark (bytes : List UInt8) : List UInt8 :=
  if utf8Mark.isPrefixOf bytes then bytes.drop 3
  else if bytes.length < 3 && bytes.isPrefixOf utf8Mark then []
  else bytes

/-- The byte order that a mark states, for units of `width` bytes. -/
def markedOrder (width : Nat) (bytes : List UInt8) : Option ByteOrder :=
  let mark := bytes.take width
  if mark.length < width then none
  else if ByteOrder.little.unit mark = 0xFEFF then some .little
  else if ByteOrder.big.unit mark = 0xFEFF then some .big
  else none

/-- Decoding by a mark that has to be there, unless the bytes do not make up one unit. -/
def decodeMarked (width : Nat) (decode : ByteOrder → List UInt8 → List (Option Char))
    (bytes : List UInt8) : Except Fault (List (Option Char)) :=
  match markedOrder width bytes with
  | some order => .ok (decode order (bytes.drop width))
  | none => if bytes.length < width then .ok (decode .little bytes) else .error .undecodable

/-- The characters of bytes, `none` for each ill-formed part. -/
def decodeUnits (encoding : Encoding) (bytes : List UInt8) : Except Fault (List (Option Char)) :=
  match encoding with
  | utf8 => .ok (decodeUtf8 bytes)
  | markedUtf8 => .ok (decodeUtf8 (withoutUtf8Mark bytes))
  | ascii => .ok (bytes.map asciiChar)
  | latin1 => .ok (bytes.map latin1Char)
  | cp1252 => .ok (bytes.map cp1252Char)
  | utf16 (some order) => .ok (decodeUtf16 order bytes)
  | utf16 none => decodeMarked 2 decodeUtf16 bytes
  | utf32 (some order) => .ok (decodeUtf32 order bytes)
  | utf32 none => decodeMarked 4 decodeUtf32 bytes

/-- The replacement character stands for whatever cannot be decoded. -/
def orReplacement (c : Option Char) : Char := c.getD '\ufffd'

/-- The text of bytes, with every line break as LF. -/
def decode (encoding : Encoding) (bytes : List UInt8) : Except Fault (List Char) := do
  let units ← encoding.decodeUnits bytes
  return Text.unifyBreaks (units.map orReplacement)

end Encoding
end LineMetrics
