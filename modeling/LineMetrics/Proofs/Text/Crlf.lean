import LineMetrics.Proofs.Text.LineStart
import LineMetrics.Text.Blank

/-!
# LF written as CR LF

`crlf` writes every LF of a text as CR LF.  Where the text has no CR of its own, breaks stay where
they were and one stays one: the pieces between them are the same (`splitLines_crlf`), and reading
the text leads to the same place (`Position.advance_crlf`).
-/

namespace LineMetrics
namespace Text

/-- The text with every LF written as CR LF. -/
def crlf (s : List Char) : List Char := s.flatMap fun c => if c = '\n' then ['\r', '\n'] else [c]

theorem crlf_nil : crlf [] = [] := rfl

theorem crlf_lf (rest : List Char) : crlf ('\n' :: rest) = '\r' :: '\n' :: crlf rest := rfl

theorem crlf_cons {c : Char} (hc : c ≠ '\n') (rest : List Char) :
    crlf (c :: rest) = c :: crlf rest := by
  rw [crlf, List.flatMap_cons, if_neg hc]
  rfl

theorem crlf_ne_nil {s : List Char} (h : s ≠ []) : crlf s ≠ [] := by
  obtain ⟨c, rest, rfl⟩ := List.exists_cons_of_ne_nil h
  by_cases hlf : c = '\n'
  · rw [hlf, crlf_lf]
    exact List.cons_ne_nil _ _
  · rw [crlf_cons hlf]
    exact List.cons_ne_nil _ _

theorem crlf_append (s t : List Char) : crlf (s ++ t) = crlf s ++ crlf t := List.flatMap_append

/-- A text without an LF is the same with CRLF breaks. -/
theorem crlf_of_no_lf {s : List Char} (h : '\n' ∉ s) : crlf s = s := by
  induction s with
  | nil => rfl
  | cons c rest ih =>
    obtain ⟨hc, hrest⟩ := not_or.1 (mt List.mem_cons.2 h)
    rw [crlf_cons (Ne.symm hc), ih hrest]

/-- Behind a character that is no break, a part of a text grows as the rest of it does. -/
theorem length_crlf_take_cons {c : Char} (hc : c ≠ '\n') (s : List Char) (n : Nat) :
    (crlf ((c :: s).take (1 + n))).length = 1 + (crlf (s.take n)).length := by
  rw [Nat.add_comm 1 n, List.take_succ_cons, crlf_cons hc, List.length_cons, Nat.add_comm]

/-- What is left of the text behind its first `n` characters. -/
theorem drop_crlf (s : List Char) (n : Nat) :
    (crlf s).drop (crlf (s.take n)).length = crlf (s.drop n) := by
  conv_lhs => rw [← List.take_append_drop n s, crlf_append]
  rw [List.take_append_drop, List.drop_left]

/-- A text without a CR has as many breaks when they are written CRLF. -/
theorem breakCount_crlf {s : List Char} (h : '\r' ∉ s) : breakCount (crlf s) = breakCount s := by
  induction s with
  | nil => rfl
  | cons c rest ih =>
    obtain ⟨hc, hrest⟩ := not_or.1 (mt List.mem_cons.2 h)
    have hseam : ∀ t, ¬SplitsBreak [c] t := fun t hs => hc (Option.some.inj hs.1).symm
    by_cases hlf : c = '\n'
    · subst hlf
      rw [crlf_lf, breakCount, ih hrest, breakCount_cons (hseam _)]
      rfl
    · rw [crlf_cons hlf, breakCount_cons (hseam _), breakCount_cons (hseam _), ih hrest]

/-- A text without a CR has as many lines when its breaks are written CRLF. -/
theorem lineCount_crlf {s : List Char} (h : '\r' ∉ s) : lineCount (crlf s) = lineCount s := by
  by_cases hempty : s = []
  · rw [hempty, crlf_nil]
  · rw [lineCount, lineCount, if_neg (by simpa using crlf_ne_nil hempty),
      if_neg (by simpa using hempty), breakCount_crlf h]

/-- **The pieces between the breaks** are the same. -/
theorem splitLines_crlf {s : List Char} (h : '\r' ∉ s) : splitLines (crlf s) = splitLines s := by
  induction s with
  | nil => rfl
  | cons c rest ih =>
    obtain ⟨hc, hrest⟩ := not_or.1 (mt List.mem_cons.2 h)
    have hseam : ∀ t, ¬SplitsBreak [c] t := fun t hs => hc (Option.some.inj hs.1).symm
    by_cases hlf : c = '\n'
    · subst hlf
      rw [crlf_lf, splitLines_cons (hseam rest), ← ih hrest]
      rfl
    · rw [crlf_cons hlf, splitLines_cons (hseam _), splitLines_cons (hseam _), ih hrest]

/-- A text of blanks stays one. -/
theorem isVisible_crlf (s : List Char) : isVisible (crlf s) = isVisible s := by
  induction s with
  | nil => rfl
  | cons c rest ih =>
    simp only [isVisible] at ih
    by_cases hlf : c = '\n'
    · have hcr : isBlank '\r' = true := by decide
      rw [hlf, crlf_lf, isVisible, isVisible, List.any_cons, List.any_cons, List.any_cons, ih, hcr]
      rfl
    · rw [crlf_cons hlf, isVisible, isVisible, List.any_cons, List.any_cons, ih]

end Text

namespace Position

/-- No column depends on how the breaks are written. -/
theorem columnAfter_crlf (column : Int) (s : List Char) :
    columnAfter column (Text.crlf s) = columnAfter column s := by
  induction s generalizing column with
  | nil => rfl
  | cons c rest ih =>
    by_cases hlf : c = '\n'
    · rw [hlf, Text.crlf_lf, columnAfter_cons, columnAfter_cons, columnAfter_cons _ '\n', ih]
      rfl
    · rw [Text.crlf_cons hlf, columnAfter_cons, columnAfter_cons column c rest, ih]

/-- **Reading the text** leads to the same place. -/
theorem advance_crlf (p : Position) {s : List Char} (h : '\r' ∉ s) :
    p.advance (Text.crlf s) = p.advance s := by
  rw [advance, advance, Text.breakCount_crlf h, columnAfter_crlf]

end Position
end LineMetrics
