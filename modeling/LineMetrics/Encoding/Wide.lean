/-!
# UTF-16 and UTF-32

Decoding of bytes as units of two or four bytes in a byte order.  Surrogates have to come in pairs
in UTF-16 and not at all in UTF-32; what is ill-formed gives `none`, and so do the bytes of a unit
that is cut short by the end.
-/

namespace LineMetrics
namespace Encoding

/-- The order of the bytes of a unit. -/
inductive ByteOrder
  | little
  | big
  deriving Repr, DecidableEq

/-- The unit of bytes in an order. -/
def ByteOrder.unit (order : ByteOrder) (bytes : List UInt8) : Nat :=
  let weigh := fun n (b : UInt8) => n * 256 + b.toNat
  match order with
  | little => bytes.reverse.foldl weigh 0
  | big => bytes.foldl weigh 0

/-- Whether a unit is the first of a surrogate pair. -/
def isLeadSurrogate (u : Nat) : Bool := 0xD800 ≤ u && u < 0xDC00

/-- Whether a unit is the second of a surrogate pair. -/
def isTrailSurrogate (u : Nat) : Bool := 0xDC00 ≤ u && u < 0xE000

/-- The characters of UTF-16 bytes, behind those already read, which are held in reverse. -/
def decodeUtf16From (order : ByteOrder) (found : List (Option Char)) :
    List UInt8 → List (Option Char)
  | [] => found.reverse
  | [_] => (none :: found).reverse
  | a :: b :: rest =>
    let u := order.unit [a, b]
    if isLeadSurrogate u then
      match rest with
      | c :: d :: rest' =>
        let v := order.unit [c, d]
        if isTrailSurrogate v then
          let code := 0x10000 + (u - 0xD800) * 0x400 + (v - 0xDC00)
          decodeUtf16From order (some (Char.ofNat code) :: found) rest'
        else decodeUtf16From order (none :: found) (c :: d :: rest')
      | _ => (none :: found).reverse
    else if isTrailSurrogate u then decodeUtf16From order (none :: found) rest
    else decodeUtf16From order (some (Char.ofNat u) :: found) rest

/-- The characters of UTF-16 bytes, `none` for each ill-formed part. -/
def decodeUtf16 (order : ByteOrder) (bytes : List UInt8) : List (Option Char) :=
  decodeUtf16From order [] bytes

/-- The character of a UTF-32 unit, unless it is a surrogate or beyond Unicode. -/
def utf32Char (u : Nat) : Option Char := if u.isValidChar then some (Char.ofNat u) else none

/-- The characters of UTF-32 bytes, behind those already read, which are held in reverse. -/
def decodeUtf32From (order : ByteOrder) (found : List (Option Char)) :
    List UInt8 → List (Option Char)
  | [] => found.reverse
  | a :: b :: c :: d :: rest =>
    decodeUtf32From order (utf32Char (order.unit [a, b, c, d]) :: found) rest
  | _ => (none :: found).reverse

/-- The characters of UTF-32 bytes, `none` for each ill-formed part. -/
def decodeUtf32 (order : ByteOrder) (bytes : List UInt8) : List (Option Char) :=
  decodeUtf32From order [] bytes

end Encoding
end LineMetrics
