import LineMetrics.Text.LineBreak
import Mathlib

/-!
# Counting lines piece by piece

Breaks can be counted in one piece of a text after the other, unless a piece ends between the CR and
the LF of one break: `breakCount_append`.  A column needs no such care, because CR, LF and CR LF all
lead back to column 0: it is the distance from the start of the line, `columnAfter_zero`.  Together
they say where reading a beginning of a text leads to, `Position.advance_start`, and that reading in
pieces leads to the same place, `Position.advance_append`.
-/

namespace LineMetrics
namespace Text

/-- Whether `s` ends between a CR and its LF, which starts `t`. -/
def SplitsBreak (s t : List Char) : Prop := s.getLast? = some '\r' ∧ t.head? = some '\n'

/-- The offset just behind the last break of the text, 0 if it has none. -/
def lineStart (s : List Char) : Nat := (s.reverse.dropWhile fun c => !isBreak c).length

/-- A split of a break is one behind any text. -/
theorem SplitsBreak.of_suffix {s t : List Char} (before : List Char) (h : SplitsBreak s t) :
    SplitsBreak (before ++ s) t := by
  refine ⟨?_, h.2⟩
  rw [List.getLast?_append, h.1]
  rfl

/-- A seam that splits no break splits none if less stands behind it. -/
theorem not_splitsBreak_of_longer {s t rest : List Char} (h : ¬SplitsBreak s (t ++ rest)) :
    ¬SplitsBreak s t := by
  rintro ⟨hcr, hlf⟩
  exact h ⟨hcr, by rw [List.head?_append, hlf]; rfl⟩

theorem not_splitsBreak_nil (t : List Char) : ¬SplitsBreak [] t := fun h => nomatch h.1

/-- Pieces that share no break with what follows them may be put together. -/
theorem not_splitsBreak_append {s t rest : List Char} (hs : ¬SplitsBreak s (t ++ rest))
    (ht : ¬SplitsBreak t rest) : ¬SplitsBreak (s ++ t) rest := by
  rintro ⟨hlast, hhead⟩
  by_cases hempty : t = []
  · rw [hempty, List.append_nil] at hlast
    exact hs ⟨hlast, by rwa [hempty]⟩
  · rw [List.getLast?_append_of_ne_nil _ hempty] at hlast
    exact ht ⟨hlast, hhead⟩

/-- Only a CR can be split from its LF. -/
theorem not_splitsBreak_concat {s rest : List Char} {c : Char} (hc : c ≠ '\r') :
    ¬SplitsBreak (s ++ [c]) rest := by
  rintro ⟨hlast, -⟩
  rw [List.getLast?_concat] at hlast
  exact hc (Option.some.inj hlast)

/-- A text without breaks has none to split. -/
theorem not_splitsBreak_of_no_break {s rest : List Char} (h : ∀ c ∈ s, isBreak c = false) :
    ¬SplitsBreak s rest := by
  rintro ⟨hlast, -⟩
  exact nomatch h '\r' (List.mem_of_getLast? hlast)

/-- A character that is not the CR of a CRLF is split from nothing. -/
theorem not_splitsBreak_cons {c : Char} {rest : List Char}
    (h : ∀ tail, c = '\r' → rest = '\n' :: tail → False) : ¬SplitsBreak [c] rest := by
  rintro ⟨hcr, hlf⟩
  obtain ⟨tail, rfl⟩ := List.head?_eq_some_iff.1 hlf
  exact h tail (Option.some.inj hcr) rfl

/-- What holds of a cut holds of it behind the first character, and that one starts no CR LF when
more text follows, if it starts none without. -/
theorem not_splitsBreak_tail {c : Char} {rest t : List Char} (h : ¬SplitsBreak (c :: rest) t)
    (hcrlf : ∀ tail, c = '\r' → rest = '\n' :: tail → False) :
    ¬SplitsBreak rest t ∧ ¬SplitsBreak [c] (rest ++ t) := by
  refine ⟨fun hs => h (hs.of_suffix [c]), ?_⟩
  rintro ⟨hcr, hlf⟩
  cases rest with
  | nil => exact h ⟨hcr, hlf⟩
  | cons d rest => exact hcrlf rest (Option.some.inj hcr) (by rw [Option.some.inj hlf])

/-- Behind a character that is not split from its LF, the breaks are counted as if it stood alone.
-/
theorem breakCount_cons {c : Char} {rest : List Char} (h : ¬SplitsBreak [c] rest) :
    breakCount (c :: rest) = breakCount rest + if isBreak c then 1 else 0 := by
  rw [breakCount]
  · split <;> rfl
  · rintro tail rfl rfl
    exact h ⟨rfl, rfl⟩

theorem breakCount_singleton (c : Char) : breakCount [c] = if isBreak c then 1 else 0 := by
  have hsplit : ¬SplitsBreak [c] [] := fun h => nomatch h.2
  rw [breakCount_cons hsplit, breakCount, Nat.zero_add]

/-- **Breaks add up** over a cut that does not fall inside a CR LF. -/
theorem breakCount_append {s t : List Char} (h : ¬SplitsBreak s t) :
    breakCount (s ++ t) = breakCount s + breakCount t := by
  fun_induction breakCount s with
  | case1 => simp
  | case2 rest ih =>
    have hrest := ih fun hs => h (hs.of_suffix ['\r', '\n'])
    rw [List.cons_append, List.cons_append, breakCount, hrest]
    omega
  | case3 c rest hcrlf hc ih =>
    obtain ⟨hrest, hseam⟩ := not_splitsBreak_tail h hcrlf
    rw [List.cons_append, breakCount_cons hseam, ih hrest, if_pos hc]
    omega
  | case4 c rest hcrlf hc ih =>
    obtain ⟨hrest, hseam⟩ := not_splitsBreak_tail h hcrlf
    rw [List.cons_append, breakCount_cons hseam, ih hrest, if_neg hc, Nat.add_zero]

/-- In front of a character that splits no break, the breaks are counted as if it stood alone. -/
theorem breakCount_concat {s rest : List Char} {c : Char} (h : ¬SplitsBreak s (c :: rest)) :
    breakCount (s ++ [c]) = breakCount s + if isBreak c then 1 else 0 := by
  have hfirst : ¬SplitsBreak s [c] := not_splitsBreak_of_longer (t := [c]) h
  rw [breakCount_append hfirst, breakCount_singleton]

/-- Reading on never takes a break back. -/
theorem breakCount_le_append (s t : List Char) : breakCount s ≤ breakCount (s ++ t) := by
  by_cases h : SplitsBreak s t
  · obtain ⟨before, rfl⟩ := List.getLast?_eq_some_iff.1 h.1
    obtain ⟨after, rfl⟩ := List.head?_eq_some_iff.1 h.2
    -- The CR counts with or without its LF.
    have hleft : ¬SplitsBreak before ['\r'] := fun hs => nomatch hs.2
    have hright : ¬SplitsBreak before ('\r' :: '\n' :: after) := fun hs => nomatch hs.2
    rw [List.append_assoc, breakCount_append hleft, List.singleton_append,
      breakCount_append hright, breakCount]
    have : breakCount ['\r'] = 1 := rfl
    omega
  · rw [breakCount_append h]
    omega

/-- A longer part of a text has no fewer breaks. -/
theorem breakCount_take_mono (s : List Char) {i j : Nat} (h : i ≤ j) :
    breakCount (s.take i) ≤ breakCount (s.take j) := by
  have htake : s.take j = s.take i ++ (s.take j).drop i := by
    conv_lhs => rw [← List.take_append_drop i (s.take j), List.take_take, Nat.min_eq_left h]
  rw [htake]
  exact breakCount_le_append _ _

/-- A part of a text has no more breaks than the text. -/
theorem breakCount_take_le (s : List Char) (i : Nat) : breakCount (s.take i) ≤ breakCount s := by
  have h := breakCount_le_append (s.take i) (s.drop i)
  rwa [List.take_append_drop] at h

/-- A text of characters that are no breaks has no breaks. -/
theorem breakCount_eq_zero {s : List Char} (h : ∀ c ∈ s, isBreak c = false) : breakCount s = 0 := by
  induction s with
  | nil => rfl
  | cons c rest ih =>
    obtain ⟨hc, hrest⟩ := List.forall_mem_cons.1 h
    have hsplit : ¬SplitsBreak [c] rest := by
      rintro ⟨hcr, -⟩
      obtain rfl := Option.some.inj hcr
      exact nomatch hc
    rw [breakCount_cons hsplit, ih hrest, if_neg (by simp [hc])]

/-- A text without breaks has only characters that are none. -/
theorem isBreak_of_breakCount_eq_zero {s : List Char} (h : breakCount s = 0) :
    ∀ c ∈ s, isBreak c = false := by
  intro c hc
  obtain ⟨before, after, rfl⟩ := List.append_of_mem hc
  by_contra hbreak
  have hone : 1 ≤ breakCount (before ++ [c]) := by
    by_cases hs : SplitsBreak before [c]
    · obtain ⟨first, rfl⟩ := List.getLast?_eq_some_iff.1 hs.1
      have hleft : ¬SplitsBreak first ['\r'] := fun hs => nomatch hs.2
      have hle := breakCount_le_append (first ++ ['\r']) [c]
      rw [breakCount_append hleft] at hle
      have : breakCount ['\r'] = 1 := rfl
      omega
    · rw [breakCount_append hs, breakCount_singleton, if_pos (by simpa using hbreak)]
      omega
  have hle := breakCount_le_append (before ++ [c]) after
  rw [List.append_assoc, List.singleton_append] at hle
  omega

/-- A character that starts no CR LF ends the first piece or starts it. -/
theorem splitLines_cons {c : Char} {rest : List Char} (h : ¬SplitsBreak [c] rest) :
    splitLines (c :: rest) =
      if isBreak c then [] :: splitLines rest else (splitLines rest).modifyHead (c :: ·) := by
  have hcrlf : ∀ tail, c = '\r' → rest = '\n' :: tail → False := by
    rintro tail rfl rfl
    exact h ⟨rfl, rfl⟩
  rw [splitLines, splitLinesFrom.eq_3 _ _ _ hcrlf, splitLinesFrom_eq [c]]
  rfl

/-- The last line starts behind a break, or where it started before. -/
theorem lineStart_concat (s : List Char) (c : Char) :
    lineStart (s ++ [c]) = if isBreak c then s.length + 1 else lineStart s := by
  rw [lineStart, List.reverse_append, List.reverse_singleton, List.singleton_append,
    List.dropWhile_cons]
  by_cases hc : isBreak c = true
  · simp [hc]
  · simp [hc, lineStart]

end Text

namespace Position

/-- The place of the character at an offset of a text. -/
def ofOffset (s : List Char) (o : Nat) : Position :=
  ⟨1 + Text.breakCount (s.take o), o - Text.lineStart (s.take o)⟩

/-- A CR, an LF and a CR LF alike lead to column 0. -/
theorem columnAfter_cons (column : Int) (c : Char) (rest : List Char) :
    columnAfter column (c :: rest) =
      columnAfter (if Text.isBreak c then 0 else column + 1) rest := by
  by_cases hcrlf : c = '\r' ∧ rest.head? = some '\n'
  · obtain ⟨rfl, hlf⟩ := hcrlf
    obtain ⟨tail, rfl⟩ := List.head?_eq_some_iff.1 hlf
    have hcr : Text.isBreak '\r' = true := rfl
    rw [columnAfter, if_pos hcr, columnAfter]
    · rfl
    · rintro _ hlf -
      exact nomatch hlf
  · rw [columnAfter]
    · split <;> rfl
    · rintro tail rfl rfl
      exact hcrlf ⟨rfl, rfl⟩

/-- Columns go on from those of the text in front. -/
theorem columnAfter_append (column : Int) (s t : List Char) :
    columnAfter column (s ++ t) = columnAfter (columnAfter column s) t := by
  induction s generalizing column with
  | nil => rw [List.nil_append, columnAfter]
  | cons c rest ih => rw [List.cons_append, columnAfter_cons, columnAfter_cons column c rest, ih]

/-- Along a line, columns count characters. -/
theorem columnAfter_of_no_break {s : List Char} (h : ∀ c ∈ s, Text.isBreak c = false)
    (column : Int) : columnAfter column s = column + s.length := by
  induction s generalizing column with
  | nil => simp [columnAfter]
  | cons c rest ih =>
    obtain ⟨hc, hrest⟩ := List.forall_mem_cons.1 h
    rw [columnAfter_cons, if_neg (by simp [hc]), ih hrest, List.length_cons]
    push_cast
    ring

/-- **The column is the distance from the start of the line.** -/
theorem columnAfter_zero (s : List Char) : columnAfter 0 s = s.length - Text.lineStart s := by
  induction s using List.reverseRecOn with
  | nil => rfl
  | append_singleton s c ih =>
    have hlast : columnAfter (columnAfter 0 s) [c] =
        if Text.isBreak c then 0 else columnAfter 0 s + 1 := by
      rw [columnAfter_cons, columnAfter]
    rw [columnAfter_append, hlast, ih, Text.lineStart_concat, List.length_append]
    split
    · simp
    · push_cast [List.length_singleton]
      ring

/-- **Reading a text from its beginning** leads to the line of the breaks passed and to the distance
from the last of them. -/
theorem advance_start (s : List Char) :
    start.advance s = ⟨1 + Text.breakCount s, s.length - Text.lineStart s⟩ := by
  rw [advance, start, columnAfter_zero]

/-- **The position reached over the first characters of a text is that of their offset.** -/
theorem advance_start_take {s : List Char} {o : Nat} (h : o ≤ s.length) :
    start.advance (s.take o) = ofOffset s o := by
  rw [advance_start, List.length_take, Nat.min_eq_left h, ofOffset]

/-- **Reading in two pieces** leads to the same place, unless they share a CR LF. -/
theorem advance_append (p : Position) {s t : List Char} (h : ¬Text.SplitsBreak s t) :
    (p.advance s).advance t = p.advance (s ++ t) := by
  rw [advance, advance, advance, Text.breakCount_append h, columnAfter_append]
  push_cast
  rw [Int.add_assoc]

theorem before_iff {p q : Position} :
    p.before q = true ↔ p.line < q.line ∨ p.line = q.line ∧ p.column < q.column := by
  simp [before]

theorem notAfter_iff {p q : Position} :
    p.notAfter q = true ↔ p.line < q.line ∨ p.line = q.line ∧ p.column ≤ q.column := by
  simp [notAfter]

theorem before_trans {p q r : Position} (hpq : p.before q = true) (hqr : q.before r = true) :
    p.before r = true := by
  rw [before_iff] at *
  omega

theorem notAfter_of_before {p q : Position} (h : p.before q = true) : p.notAfter q = true := by
  rw [before_iff] at h
  rw [notAfter_iff]
  omega

/-- Reading anything leads further on. -/
theorem before_advance (p : Position) {s : List Char} (h : s ≠ []) :
    p.before (p.advance s) = true := by
  rw [before_iff]
  rcases Nat.eq_zero_or_pos (Text.breakCount s) with hzero | hpos
  · have hcolumn := columnAfter_of_no_break (Text.isBreak_of_breakCount_eq_zero hzero) p.column
    have hlength := List.length_pos_of_ne_nil h
    right
    simp only [advance]
    omega
  · left
    simp only [advance]
    omega

end Position
end LineMetrics
