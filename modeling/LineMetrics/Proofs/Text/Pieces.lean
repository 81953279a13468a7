import LineMetrics.Proofs.Text.LineStart

/-!
# Pieces and the breaks between them

`breaks` lists the line breaks of a text as they stand in it (specification, section 4.2).  A text
is its pieces with its breaks between them (`weave_splitLines`), and no piece holds a CR or an LF,
so every CR and every LF stands in a break.

A cut through a text leaves its breaks alone, and parts one piece in two, unless it falls between
the CR and the LF of one break (`breaks_append`, `splitLines_append`).  Such a cut makes two breaks
of one, which is all that it does: `breaks_append_of_splitsBreak`,
`splitLines_append_of_splitsBreak`.
-/

namespace LineMetrics
namespace Text

/-- The line breaks of a text from left to right: a CR LF, or else an LF or a CR. -/
def breaks : List Char → List (List Char)
  | [] => []
  | '\r' :: '\n' :: rest => ['\r', '\n'] :: breaks rest
  | c :: rest => if isBreak c then [c] :: breaks rest else breaks rest

/-- Pieces with breaks between them. -/
def weave : List (List Char) → List (List Char) → List Char
  | piece :: pieces, brk :: brks => piece ++ (brk ++ weave pieces brks)
  | pieces, _ => pieces.flatten

/-- The pieces of two texts, the last of the first and the first of the second glued together. -/
def glue (pieces more : List (List Char)) : List (List Char) :=
  pieces.dropLast ++ (pieces.getLastD [] ++ more.headD []) :: more.tail

/-! ### Breaks -/

/-- A character that is not the CR of a CRLF is a break of its own or none. -/
theorem breaks_cons {c : Char} {rest : List Char} (h : ¬SplitsBreak [c] rest) :
    breaks (c :: rest) = if isBreak c then [c] :: breaks rest else breaks rest := by
  rw [breaks]
  rintro tail rfl rfl
  exact h ⟨rfl, rfl⟩

/-- The breaks that are counted are those that are listed. -/
theorem length_breaks (s : List Char) : (breaks s).length = breakCount s := by
  fun_induction breakCount s with
  | case1 => rfl
  | case2 rest ih => rw [breaks, List.length_cons, ih]
  | case3 c rest hcrlf hc ih =>
    rw [breaks_cons (not_splitsBreak_cons hcrlf), if_pos hc, List.length_cons, ih]
  | case4 c rest hcrlf hc ih =>
    rw [breaks_cons (not_splitsBreak_cons hcrlf), if_neg hc, ih]

/-- A break is an LF or a CR. -/
theorem eq_of_isBreak {c : Char} (h : isBreak c = true) : c = '\n' ∨ c = '\r' := by
  simpa [isBreak] using h

/-- The breaks of a text are CRLF, LF and CR. -/
theorem mem_breaks {s brk : List Char} (h : brk ∈ breaks s) :
    brk = ['\r', '\n'] ∨ brk = ['\n'] ∨ brk = ['\r'] := by
  fun_induction breaks s with
  | case1 => cases h
  | case2 rest ih =>
    rcases List.mem_cons.1 h with rfl | h
    · exact .inl rfl
    · exact ih h
  | case3 c rest hcrlf hc ih =>
    rcases List.mem_cons.1 h with rfl | h
    · exact .inr ((eq_of_isBreak hc).imp (congrArg ([·])) (congrArg ([·])))
    · exact ih h
  | case4 c rest hcrlf hc ih => exact ih h

/-! ### Pieces -/

/-- A CRLF in front makes an empty piece. -/
theorem splitLines_crlf_cons (rest : List Char) :
    splitLines ('\r' :: '\n' :: rest) = [] :: splitLines rest := rfl

/-- There is at least one piece. -/
theorem splitLines_ne_nil (s : List Char) : splitLines s ≠ [] := by
  rw [← List.length_pos_iff, length_splitLines]
  exact Nat.succ_pos _

/-- **No piece holds a CR or an LF.** -/
theorem not_isBreak_of_mem_splitLines {s piece : List Char} (h : piece ∈ splitLines s) :
    ∀ c ∈ piece, isBreak c = false := by
  fun_induction breaks s generalizing piece with
  | case1 =>
    obtain rfl := List.mem_singleton.1 h
    exact List.forall_mem_nil _
  | case2 rest ih =>
    rw [splitLines_crlf_cons] at h
    rcases List.mem_cons.1 h with rfl | h
    · exact List.forall_mem_nil _
    · exact ih h
  | case3 c rest hcrlf hc ih =>
    rw [splitLines_cons (not_splitsBreak_cons hcrlf), if_pos hc] at h
    rcases List.mem_cons.1 h with rfl | h
    · exact List.forall_mem_nil _
    · exact ih h
  | case4 c rest hcrlf hc ih =>
    rw [splitLines_cons (not_splitsBreak_cons hcrlf), if_neg hc] at h
    obtain ⟨first, others, hrest⟩ := List.exists_cons_of_ne_nil (splitLines_ne_nil rest)
    rw [hrest, List.modifyHead_cons] at h
    rcases List.mem_cons.1 h with rfl | h
    · have hfirst : ∀ d ∈ first, isBreak d = false := ih (hrest ▸ List.mem_cons_self)
      exact List.forall_mem_cons.2 ⟨Bool.eq_false_iff.2 hc, hfirst⟩
    · exact ih (hrest ▸ List.mem_cons_of_mem first h)

/-- A character in front goes to the first piece. -/
theorem weave_modifyHead (c : Char) {pieces : List (List Char)} (h : pieces ≠ [])
    (brks : List (List Char)) :
    weave (pieces.modifyHead (c :: ·)) brks = c :: weave pieces brks := by
  obtain ⟨piece, pieces, rfl⟩ := List.exists_cons_of_ne_nil h
  cases brks with
  | nil => simp [weave]
  | cons brk brks => simp [weave]

/-- **A text is its pieces with its breaks between them.** -/
theorem weave_splitLines (s : List Char) : weave (splitLines s) (breaks s) = s := by
  fun_induction breaks s with
  | case1 => rfl
  | case2 rest ih =>
    rw [splitLines_crlf_cons, weave, ih]
    rfl
  | case3 c rest hcrlf hc ih =>
    rw [splitLines_cons (not_splitsBreak_cons hcrlf), if_pos hc, weave, ih]
    rfl
  | case4 c rest hcrlf hc ih =>
    rw [splitLines_cons (not_splitsBreak_cons hcrlf), if_neg hc,
      weave_modifyHead c (splitLines_ne_nil rest), ih]

/-! ### A cut -/

/-- **Breaks stay what they are** over a cut that does not fall inside a CR LF. -/
theorem breaks_append {s t : List Char} (h : ¬SplitsBreak s t) :
    breaks (s ++ t) = breaks s ++ breaks t := by
  fun_induction breaks s with
  | case1 => rfl
  | case2 rest ih =>
    rw [List.cons_append, List.cons_append, breaks, ih fun hs => h (hs.of_suffix ['\r', '\n'])]
    rfl
  | case3 c rest hcrlf hc ih =>
    obtain ⟨hrest, hseam⟩ := not_splitsBreak_tail h hcrlf
    rw [List.cons_append, breaks_cons hseam, if_pos hc, ih hrest]
    rfl
  | case4 c rest hcrlf hc ih =>
    obtain ⟨hrest, hseam⟩ := not_splitsBreak_tail h hcrlf
    rw [List.cons_append, breaks_cons hseam, if_neg hc, ih hrest]

/-- Gluing leaves a first piece alone if more come after it. -/
theorem glue_cons (piece : List Char) {pieces : List (List Char)} (h : pieces ≠ [])
    (more : List (List Char)) : glue (piece :: pieces) more = piece :: glue pieces more := by
  obtain ⟨next, pieces, rfl⟩ := List.exists_cons_of_ne_nil h
  simp [glue]

/-- A character in front of the first piece is in front of the glued ones. -/
theorem glue_modifyHead (c : Char) {pieces : List (List Char)} (h : pieces ≠ [])
    (more : List (List Char)) :
    glue (pieces.modifyHead (c :: ·)) more = (glue pieces more).modifyHead (c :: ·) := by
  obtain ⟨piece, pieces, rfl⟩ := List.exists_cons_of_ne_nil h
  cases pieces with
  | nil => rfl
  | cons next pieces => rfl

/-- **A cut parts one piece in two,** unless it falls inside a CR LF. -/
theorem splitLines_append {s t : List Char} (h : ¬SplitsBreak s t) :
    splitLines (s ++ t) = glue (splitLines s) (splitLines t) := by
  fun_induction breaks s with
  | case1 =>
    obtain ⟨first, others, ht⟩ := List.exists_cons_of_ne_nil (splitLines_ne_nil t)
    rw [List.nil_append, ht]
    rfl
  | case2 rest ih =>
    rw [List.cons_append, List.cons_append, splitLines_crlf_cons, splitLines_crlf_cons,
      ih fun hs => h (hs.of_suffix ['\r', '\n']), glue_cons [] (splitLines_ne_nil rest)]
  | case3 c rest hcrlf hc ih =>
    obtain ⟨hrest, hseam⟩ := not_splitsBreak_tail h hcrlf
    rw [List.cons_append, splitLines_cons hseam, splitLines_cons (not_splitsBreak_cons hcrlf),
      if_pos hc, if_pos hc, ih hrest, glue_cons [] (splitLines_ne_nil rest)]
  | case4 c rest hcrlf hc ih =>
    obtain ⟨hrest, hseam⟩ := not_splitsBreak_tail h hcrlf
    rw [List.cons_append, splitLines_cons hseam, splitLines_cons (not_splitsBreak_cons hcrlf),
      if_neg hc, if_neg hc, ih hrest, glue_modifyHead c (splitLines_ne_nil rest)]

/-! ### A cut inside a CR LF -/

/-- Glued to an empty piece, the others follow as they are. -/
theorem glue_nil_cons {pieces : List (List Char)} (h : pieces ≠ []) (more : List (List Char)) :
    glue pieces ([] :: more) = pieces ++ more := by
  obtain ⟨first, last, rfl⟩ := (List.eq_nil_or_concat pieces).resolve_left h
  simp [glue]

/-- A CR ends a piece of its own text, whatever follows it. -/
theorem not_splitsBreak_cr (s t : List Char) : ¬SplitsBreak s ('\r' :: t) := fun h => nomatch h.2

/-- **A cut inside a CR LF** makes two breaks of the one that it falls into. -/
theorem breaks_append_of_splitsBreak {s t : List Char} (h : SplitsBreak s t) :
    breaks (s ++ t) = (breaks s).dropLast ++ ['\r', '\n'] :: (breaks t).tail := by
  obtain ⟨before, rfl⟩ := List.getLast?_eq_some_iff.1 h.1
  obtain ⟨after, rfl⟩ := List.head?_eq_some_iff.1 h.2
  have hs : breaks (before ++ ['\r']) = breaks before ++ [['\r']] :=
    breaks_append (not_splitsBreak_cr before [])
  have ht : breaks ('\n' :: after) = ['\n'] :: breaks after := rfl
  have hst : breaks (before ++ '\r' :: '\n' :: after) =
      breaks before ++ ['\r', '\n'] :: breaks after :=
    breaks_append (not_splitsBreak_cr before _)
  rw [hs, ht, List.dropLast_concat, List.tail_cons, List.append_assoc, List.singleton_append, hst]

/-- The pieces on either side of such a cut are empty, and are not there without it. -/
theorem splitLines_append_of_splitsBreak {s t : List Char} (h : SplitsBreak s t) :
    splitLines (s ++ t) = (splitLines s).dropLast ++ (splitLines t).tail := by
  obtain ⟨before, rfl⟩ := List.getLast?_eq_some_iff.1 h.1
  obtain ⟨after, rfl⟩ := List.head?_eq_some_iff.1 h.2
  have hne := splitLines_ne_nil before
  have hs : splitLines (before ++ ['\r']) = splitLines before ++ [[]] :=
    (splitLines_append (not_splitsBreak_cr before [])).trans (glue_nil_cons hne [[]])
  have ht : splitLines ('\n' :: after) = [] :: splitLines after := rfl
  have hst : splitLines (before ++ '\r' :: '\n' :: after) =
      splitLines before ++ splitLines after :=
    (splitLines_append (not_splitsBreak_cr before _)).trans (glue_nil_cons hne _)
  rw [hs, ht, List.dropLast_concat, List.tail_cons, List.append_assoc, List.singleton_append, hst]

/-- **Line breaks compose.**  A text has one piece more than it has breaks, so as many pieces as
lines unless it is empty; no piece holds a CR or an LF; and the pieces with the breaks between them
are the text.  Of two texts put together, the breaks are those of the one and then those of the
other, and the pieces are theirs with the two at the seam glued, unless the seam falls between a CR
and an LF: then the break before it and the break behind it are one, and the two empty pieces at the
seam are gone. -/
theorem splitLines_composes (s t : List Char) :
    (splitLines s).length = (breaks s).length + 1 ∧
    (s ≠ [] → (splitLines s).length = lineCount s) ∧
    (∀ piece ∈ splitLines s, '\r' ∉ piece ∧ '\n' ∉ piece) ∧
    (∀ brk ∈ breaks s, brk = ['\r', '\n'] ∨ brk = ['\n'] ∨ brk = ['\r']) ∧
    weave (splitLines s) (breaks s) = s ∧
    (¬SplitsBreak s t → breaks (s ++ t) = breaks s ++ breaks t ∧
      splitLines (s ++ t) = glue (splitLines s) (splitLines t)) ∧
    (SplitsBreak s t →
      breaks (s ++ t) = (breaks s).dropLast ++ ['\r', '\n'] :: (breaks t).tail ∧
      splitLines (s ++ t) = (splitLines s).dropLast ++ (splitLines t).tail) := by
  refine ⟨?_, fun hne => ?_, fun piece hpiece => ?_, fun brk => mem_breaks, weave_splitLines s,
    fun h => ⟨breaks_append h, splitLines_append h⟩,
    fun h => ⟨breaks_append_of_splitsBreak h, splitLines_append_of_splitsBreak h⟩⟩
  · rw [length_splitLines, length_breaks]
  · rw [length_splitLines, lineCount, if_neg (by simpa using hne)]
  · have hclear := not_isBreak_of_mem_splitLines hpiece
    exact ⟨fun hcr => absurd (hclear '\r' hcr) (by decide),
      fun hlf => absurd (hclear '\n' hlf) (by decide)⟩

/-- All three breaks, a seam behind a lone CR, and one inside a CR LF. -/
theorem splitLines_composes_seams :
    splitLines "a\r\nb\n\r".toList = ["a".toList, "b".toList, [], []] ∧
      ¬SplitsBreak "a\r\nb\n\r".toList "c\r".toList ∧
      breaks "a\r\nb\n\rc\r".toList =
        ["\r\n".toList, "\n".toList, "\r".toList] ++ ["\r".toList] ∧
      SplitsBreak "a\r\nb\n\r".toList "\nc".toList ∧
      breaks "a\r\nb\n\r\nc".toList = ["\r\n".toList, "\n".toList] ++ ["\r\n".toList] ∧
      weave (splitLines "a\r\nb\n\r".toList) (breaks "a\r\nb\n\r".toList) =
        "a\r\nb\n\r".toList := by
  have hwhole : ¬SplitsBreak "a\r\nb\n\r".toList "c\r".toList := fun h => by cases h.2
  have hsplit : SplitsBreak "a\r\nb\n\r".toList "\nc".toList := ⟨rfl, rfl⟩
  obtain ⟨-, -, -, -, hweave, hadds, -⟩ := splitLines_composes "a\r\nb\n\r".toList "c\r".toList
  obtain ⟨-, -, -, -, -, -, hjoins⟩ := splitLines_composes "a\r\nb\n\r".toList "\nc".toList
  exact ⟨by decide, hwhole, (hadds hwhole).1, hsplit, (hjoins hsplit).1, hweave⟩

end Text
end LineMetrics
