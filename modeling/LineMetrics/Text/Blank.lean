import LineMetrics.Text.Ranges

/-!
# Blanks and trimming

The white space that trimming removes: the ASCII blanks and separators, the Unicode space
separators, and the line and paragraph separators.  Zero-width characters and the byte order mark
are not blanks.
-/

namespace LineMetrics
namespace Text

/-- White space. -/
def blankRanges : Ranges :=
  [(0x9, 0xD), (0x1C, 0x20), (0x85, 0x85), (0xA0, 0xA0), (0x1680, 0x1680), (0x2000, 0x200A),
   (0x2028, 0x2029), (0x202F, 0x202F), (0x205F, 0x205F), (0x3000, 0x3000)]

/-- Whether trimming removes the character. -/
def isBlank (c : Char) : Bool := blankRanges.contains c.toNat

/-- The text without its leading blanks. -/
def trimStart (s : List Char) : List Char := s.dropWhile isBlank

/-- The text without its trailing blanks. -/
def trimEnd (s : List Char) : List Char := (s.reverse.dropWhile isBlank).reverse

/-- The text without leading and trailing blanks. -/
def trim (s : List Char) : List Char := trimEnd (trimStart s)

/-- Whether the text holds a character that trimming would keep. -/
def isVisible (s : List Char) : Bool := s.any fun c => !isBlank c

/-- Trimming leaves nothing exactly of a text of blanks. -/
theorem trimEnd_eq_nil_iff (s : List Char) : trimEnd s = [] ↔ isVisible s = false := by
  have key : ∀ t : List Char, t.dropWhile isBlank = [] ↔ ∀ c ∈ t, isBlank c = true := by
    intro t
    induction t with
    | nil => simp
    | cons c t ih => by_cases h : isBlank c = true <;> simp [h, ih]
  simp [trimEnd, isVisible, key]

/-- What `trimEnd` keeps is a beginning of the text, and blanks follow it. -/
theorem eq_trimEnd_append_blanks (s : List Char) :
    ∃ blanks, s = trimEnd s ++ blanks ∧ ∀ c ∈ blanks, isBlank c = true := by
  refine ⟨(s.reverse.takeWhile isBlank).reverse, ?_, ?_⟩
  · rw [trimEnd, ← List.reverse_append, List.takeWhile_append_dropWhile, List.reverse_reverse]
  · intro c hc
    exact List.all_eq_true.1 List.all_takeWhile c (List.mem_reverse.1 hc)

end Text
end LineMetrics
