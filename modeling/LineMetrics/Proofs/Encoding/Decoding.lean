import LineMetrics.Encoding.Codec
import LineMetrics.Proofs.Text.LineStart

/-!
# What decoding refuses

Decoding puts a replacement character where bytes are ill-formed, so an encoding refuses bytes for
one reason only: they make up a unit whose byte order nothing states (`Encoding.LacksMark`;
specification, section 6).  All other bytes are decoded, and their text is no longer than they are:
`Encoding.decode_cases`.
-/

namespace LineMetrics

namespace Text

/-- A text has no more line breaks than characters. -/
theorem breakCount_le_length (s : List Char) : breakCount s ≤ s.length := by
  fun_induction breakCount s with
  | case1 => exact Nat.le_refl 0
  | case2 rest ih => simp only [List.length_cons]; omega
  | case3 c rest _ _ ih => simp only [List.length_cons]; omega
  | case4 c rest _ _ ih => simp only [List.length_cons]; omega

/-- Joining the lines of a text takes no more characters than the text and the line in front have.
-/
theorem length_intercalate_splitLinesFrom (piece s : List Char) :
    (['\n'].intercalate (splitLinesFrom piece s)).length ≤ piece.length + s.length := by
  have hmore : ∀ s, splitLinesFrom [] s ≠ [] := fun s hnil => by
    have hlength := length_splitLinesFrom [] s
    rw [hnil] at hlength
    exact absurd hlength (Nat.succ_ne_zero _).symm
  fun_induction splitLinesFrom piece s with
  | case1 piece => simp
  | case2 piece rest ih =>
    rw [List.intercalate_cons_of_ne_nil (hmore rest)]
    simp only [List.length_append, List.length_reverse, List.length_cons, List.length_nil] at *
    omega
  | case3 piece c rest _ _ ih =>
    rw [List.intercalate_cons_of_ne_nil (hmore rest)]
    simp only [List.length_append, List.length_reverse, List.length_cons, List.length_nil] at *
    omega
  | case4 piece c rest _ _ ih =>
    simp only [List.length_cons] at *
    omega

/-- Writing every line break as LF makes no text longer. -/
theorem length_unifyBreaks_le (s : List Char) : (unifyBreaks s).length ≤ s.length := by
  have h := length_intercalate_splitLinesFrom [] s
  rwa [List.length_nil, Nat.zero_add] at h

end Text

namespace Encoding

/-! ### Characters and bytes -/

/-- UTF-8 gives at most one character for each byte. -/
theorem length_decodeUtf8From_le (found : List (Option Char)) (bytes : List UInt8) :
    (decodeUtf8From found bytes).length ≤ found.length + bytes.length := by
  fun_induction decodeUtf8From found bytes with
  | case1 found => simp
  | case2 found b rest c extra _ ih =>
    simp only [List.length_cons, List.length_drop] at *
    omega

/-- UTF-16 gives at most one character for each byte, in either order of bytes. -/
theorem length_decodeUtf16From_le (order : ByteOrder) (found : List (Option Char))
    (bytes : List UInt8) :
    (decodeUtf16From order found bytes).length ≤ found.length + bytes.length := by
  fun_induction decodeUtf16From order found bytes <;>
    simp only [List.length_reverse, List.length_cons, List.length_nil] at * <;> omega

/-- UTF-32 gives at most one character for each byte, in either order of bytes. -/
theorem length_decodeUtf32From_le (order : ByteOrder) (found : List (Option Char))
    (bytes : List UInt8) :
    (decodeUtf32From order found bytes).length ≤ found.length + bytes.length := by
  fun_induction decodeUtf32From order found bytes with
  | case1 found => simp
  | case2 found a b c d rest ih =>
    simp only [List.length_cons] at *
    omega
  | case3 bytes found hnil _ =>
    have hpos : 0 < bytes.length := List.length_pos_iff.2 hnil
    simp only [List.length_reverse, List.length_cons]
    omega

/-- What stands behind a mark is no longer than what it marks. -/
theorem length_withoutUtf8Mark_le (bytes : List UInt8) :
    (withoutUtf8Mark bytes).length ≤ bytes.length := by
  unfold withoutUtf8Mark
  split_ifs
  · rw [List.length_drop]
    exact Nat.sub_le _ _
  · exact Nat.zero_le _
  · exact Nat.le_refl _

/-- The list of an array of bytes is as long as the array. -/
theorem length_toList (bytes : ByteArray) : bytes.toList.length = bytes.size := by
  have hloop : ∀ (i : Nat) (read : List UInt8), i ≤ bytes.size →
      (ByteArray.toList.loop bytes i read).length = read.length + (bytes.size - i) := by
    intro i read
    fun_induction ByteArray.toList.loop bytes i read with
    | case1 i read hi ih =>
      intro _
      rw [ih hi, List.length_cons]
      omega
    | case2 i read hi =>
      intro _
      rw [List.length_reverse]
      omega
  rw [ByteArray.toList, hloop 0 [] (Nat.zero_le _), List.length_nil]
  omega

/-! ### Units of an order that is not stated -/

/-- How many bytes make up the mark that has to state the byte order, if there has to be one. -/
def markWidth? : Encoding → Option Nat
  | utf16 none => some 2
  | utf32 none => some 4
  | _ => none

/-- Bytes that make up a unit, and the first unit is not the mark that has to be there. -/
def LacksMark (encoding : Encoding) (bytes : List UInt8) : Prop :=
  ∃ width, encoding.markWidth? = some width ∧ width ≤ bytes.length ∧
    markedOrder width bytes = none

/-- **An encoding of units that leaves its byte order to a mark** refuses bytes that hold a unit and
no mark, and reads all others, unit by unit. -/
theorem decodeMarked_cases {width : Nat} {read : ByteOrder → List UInt8 → List (Option Char)}
    (hread : ∀ order bytes, (read order bytes).length ≤ bytes.length) (bytes : List UInt8) :
    (width ≤ bytes.length ∧ markedOrder width bytes = none ∧
      decodeMarked width read bytes = .error .undecodable) ∨
    (¬(width ≤ bytes.length ∧ markedOrder width bytes = none) ∧
      ∃ units, decodeMarked width read bytes = .ok units ∧ units.length ≤ bytes.length) := by
  rw [decodeMarked]
  -- With a mark the order is known; without one, fewer bytes than a unit decode to nothing whole.
  cases hmark : markedOrder width bytes with
  | some order =>
    refine .inr ⟨nofun, _, rfl, (hread order _).trans ?_⟩
    rw [List.length_drop]
    exact Nat.sub_le _ _
  | none =>
    by_cases hshort : bytes.length < width
    · exact .inr ⟨fun h => by omega, _, if_pos hshort, hread _ _⟩
    · exact .inl ⟨by omega, rfl, if_neg hshort⟩

/-- **What decoding comes to**, before line breaks are unified: a refusal of bytes that lack the
mark they need, or no more units than there are bytes. -/
theorem decodeUnits_cases (encoding : Encoding) (bytes : List UInt8) :
    (encoding.LacksMark bytes ∧ encoding.decodeUnits bytes = .error .undecodable) ∨
    (¬encoding.LacksMark bytes ∧
      ∃ units, encoding.decodeUnits bytes = .ok units ∧ units.length ≤ bytes.length) := by
  have hutf8 : ∀ bytes, (decodeUtf8 bytes).length ≤ bytes.length := fun bytes => by
    simpa [decodeUtf8] using length_decodeUtf8From_le [] bytes
  have hutf16 : ∀ order bytes, (decodeUtf16 order bytes).length ≤ bytes.length :=
    fun order bytes => by simpa [decodeUtf16] using length_decodeUtf16From_le order [] bytes
  have hutf32 : ∀ order bytes, (decodeUtf32 order bytes).length ≤ bytes.length :=
    fun order bytes => by simpa [decodeUtf32] using length_decodeUtf32From_le order [] bytes
  have hunmarked : encoding.markWidth? = none → ¬encoding.LacksMark bytes :=
    fun hnone ⟨width, hwidth, _⟩ => nomatch hnone.symm.trans hwidth
  have hmarked : ∀ {width}, encoding.markWidth? = some width →
      (encoding.LacksMark bytes ↔ width ≤ bytes.length ∧ markedOrder width bytes = none) :=
    fun hwidth => ⟨fun ⟨_, hwidth', h⟩ => Option.some.inj (hwidth.symm.trans hwidth') ▸ h,
      fun h => ⟨_, hwidth, h⟩⟩
  -- Only two encodings may lack a mark, those of wide units whose order is not stated.
  cases encoding with
  | utf8 => exact .inr ⟨hunmarked rfl, _, rfl, hutf8 bytes⟩
  | markedUtf8 =>
    exact .inr ⟨hunmarked rfl, _, rfl, (hutf8 _).trans (length_withoutUtf8Mark_le bytes)⟩
  | ascii | latin1 | cp1252 => exact .inr ⟨hunmarked rfl, _, rfl, (List.length_map _).le⟩
  | utf16 order =>
    cases order with
    | some order => exact .inr ⟨hunmarked rfl, _, rfl, hutf16 order bytes⟩
    | none =>
      rw [hmarked rfl, and_assoc]
      exact decodeMarked_cases hutf16 bytes
  | utf32 order =>
    cases order with
    | some order => exact .inr ⟨hunmarked rfl, _, rfl, hutf32 order bytes⟩
    | none =>
      rw [hmarked rfl, and_assoc]
      exact decodeMarked_cases hutf32 bytes

/-- **Decoding** refuses bytes that lack their mark, and reads all others as a text with no more
characters than there are bytes. -/
theorem decode_cases (encoding : Encoding) (bytes : List UInt8) :
    (encoding.LacksMark bytes ∧ encoding.decode bytes = .error .undecodable) ∨
    (¬encoding.LacksMark bytes ∧
      ∃ s, encoding.decode bytes = .ok s ∧ s.length ≤ bytes.length) := by
  rw [decode]
  rcases encoding.decodeUnits_cases bytes with ⟨hlacks, hunits⟩ | ⟨hmarked, units, hunits, hlength⟩
  · exact .inl ⟨hlacks, by rw [hunits]; rfl⟩
  · refine .inr ⟨hmarked, _, by rw [hunits]; rfl, ?_⟩
    exact ((Text.length_unifyBreaks_le _).trans_eq (List.length_map _)).trans hlength

end Encoding
end LineMetrics
