/-!
# UTF-8

Decoding of bytes as UTF-8.  A well-formed sequence gives its character.  Where the bytes are
ill-formed, each maximal part that could have started a character gives one `none`, and decoding
goes on behind it.
-/

namespace LineMetrics
namespace Encoding

/-- What a first byte announces: how many bytes follow, the bits it contributes, and the range
of the second byte.  Overlong forms, surrogates and codes beyond Unicode are ruled out by that
range. -/
structure Utf8Lead where
  following : Nat
  bits : Nat
  low : Nat
  high : Nat

/-- The announcement of a byte that starts a character of several bytes. -/
def utf8Lead (b : Nat) : Option Utf8Lead :=
  if 0xC2 ≤ b ∧ b ≤ 0xDF then some ⟨1, b - 0xC0, 0x80, 0xBF⟩
  else if b = 0xE0 then some ⟨2, 0, 0xA0, 0xBF⟩
  else if b = 0xED then some ⟨2, b - 0xE0, 0x80, 0x9F⟩
  else if 0xE1 ≤ b ∧ b ≤ 0xEF then some ⟨2, b - 0xE0, 0x80, 0xBF⟩
  else if b = 0xF0 then some ⟨3, 0, 0x90, 0xBF⟩
  else if 0xF1 ≤ b ∧ b ≤ 0xF3 then some ⟨3, b - 0xF0, 0x80, 0xBF⟩
  else if b = 0xF4 then some ⟨3, b - 0xF0, 0x80, 0x8F⟩
  else none

/-- Reads up to `following` continuation bytes, the first within `low` and `high`: the character if
all are there, and how many were read. -/
def utf8Tail (following bits low high read : Nat) (bytes : List UInt8) : Option Char × Nat :=
  match following, bytes with
  | 0, _ => (some (Char.ofNat bits), read)
  | _ + 1, [] => (none, read)
  | n + 1, b :: rest =>
    if low ≤ b.toNat ∧ b.toNat ≤ high then
      utf8Tail n (bits * 64 + (b.toNat - 0x80)) 0x80 0xBF (read + 1) rest
    else (none, read)

/-- The character that a byte and those behind it start with, and how many of those belong to it. -/
def utf8First (b : UInt8) (rest : List UInt8) : Option Char × Nat :=
  if b.toNat < 0x80 then (some (Char.ofNat b.toNat), 0)
  else match utf8Lead b.toNat with
    | some lead => utf8Tail lead.following lead.bits lead.low lead.high 0 rest
    | none => (none, 0)

/-- The characters of bytes, behind those already read, which are held in reverse. -/
def decodeUtf8From (found : List (Option Char)) : List UInt8 → List (Option Char)
  | [] => found.reverse
  | b :: rest =>
    let (c, extra) := utf8First b rest
    decodeUtf8From (c :: found) (rest.drop extra)
termination_by bytes => bytes.length
decreasing_by simp only [List.length_cons, List.length_drop]; omega

theorem decodeUtf8From_eq : ∀ (found : List (Option Char)) (bytes : List UInt8),
    decodeUtf8From found bytes = found.reverse ++ decodeUtf8From [] bytes
  | found, [] => by simp [decodeUtf8From]
  | found, b :: rest => by
    rw [decodeUtf8From, decodeUtf8From]
    simp only
    rw [decodeUtf8From_eq _ (rest.drop (utf8First b rest).2),
      decodeUtf8From_eq [_] (rest.drop (utf8First b rest).2)]
    simp
termination_by _ bytes => bytes.length
decreasing_by all_goals simp only [List.length_cons, List.length_drop]; omega

/-- The characters of bytes, `none` for each ill-formed part. -/
def decodeUtf8 (bytes : List UInt8) : List (Option Char) := decodeUtf8From [] bytes

/-- Bytes as characters if all of them are well-formed. -/
def strictUtf8? (bytes : List UInt8) : Option (List Char) := (decodeUtf8 bytes).mapM id

/-- The mark that may stand in front of UTF-8 text. -/
def utf8Mark : List UInt8 := [0xEF, 0xBB, 0xBF]

end Encoding
end LineMetrics
