import LineMetrics.Proofs.Text.LineStart

/-!
# Writing over what does not break the line

Two texts have the same breaks if wherever one has a CR or an LF, the other has the same character.
Reading leads to the same place in both (`SameBreaks.advance_eq`), whatever else is written in them.
`blankOut` writes a space over everything but the breaks.
-/

namespace LineMetrics
namespace Text

/-- Whether two texts have the same breaks at the same places. -/
def SameBreaks : List Char → List Char → Prop :=
  List.Forall₂ fun c d => isBreak c = true ∨ isBreak d = true → c = d

/-- A space in place of what does not break the line. -/
def blankOut (c : Char) : Char := if isBreak c then c else ' '

/-- Blanking out changes no break and makes none. -/
theorem eq_of_isBreak_blankOut {c : Char} (h : isBreak c = true ∨ isBreak (blankOut c) = true) :
    c = blankOut c := by
  by_cases hc : isBreak c = true
  · exact (if_pos hc).symm
  · have hspace : blankOut c = ' ' := if_neg hc
    rw [hspace] at h
    exact absurd (h.resolve_left hc) (by decide)

/-- The CR and the LF of one break count with the LF. -/
theorem breakCount_cons_of_splitsBreak {c : Char} {rest : List Char} (h : SplitsBreak [c] rest) :
    breakCount (c :: rest) = breakCount rest := by
  obtain ⟨hcr, hlf⟩ := h
  obtain rfl := Option.some.inj hcr
  obtain ⟨tail, rfl⟩ := List.head?_eq_some_iff.1 hlf
  have hseam : ¬SplitsBreak ['\n'] tail := fun hs => nomatch hs.1
  rw [breakCount, breakCount_cons hseam]
  rfl

variable {s t : List Char}

namespace SameBreaks

/-- A text has the same breaks as itself. -/
theorem refl (s : List Char) : SameBreaks s s := List.forall₂_same.2 fun _ _ _ => rfl

/-- A text that is blanked out has the same breaks. -/
theorem map_blankOut (s : List Char) : SameBreaks s (s.map blankOut) :=
  List.forall₂_map_right_iff.2 (List.forall₂_same.2 fun _ _ h => eq_of_isBreak_blankOut h)

/-- Texts with the same breaks have them one after the other too. -/
theorem append {s' t' : List Char} (h : SameBreaks s t) (h' : SameBreaks s' t') :
    SameBreaks (s ++ s') (t ++ t') := List.rel_append h h'

/-- Texts with the same breaks start with the same ones. -/
theorem head?_eq_iff (h : SameBreaks s t) {b : Char} (hb : isBreak b = true) :
    t.head? = some b ↔ s.head? = some b := by
  cases h with
  | nil => rfl
  | @cons c d s t hcd =>
    rw [List.head?_cons, List.head?_cons, Option.some.injEq, Option.some.injEq]
    constructor
    · rintro rfl
      exact hcd (.inr hb)
    · rintro rfl
      exact (hcd (.inl hb)).symm

/-- Texts with the same breaks end with the same ones. -/
theorem getLast?_eq_iff (h : SameBreaks s t) {b : Char} (hb : isBreak b = true) :
    t.getLast? = some b ↔ s.getLast? = some b := by
  have hreverse : SameBreaks s.reverse t.reverse := List.rel_reverse h
  rw [List.getLast?_eq_head?_reverse, List.getLast?_eq_head?_reverse, hreverse.head?_eq_iff hb]

/-- Where texts have the same breaks, the same seams split them. -/
theorem splitsBreak_iff {s' t' : List Char} (h : SameBreaks s t) (h' : SameBreaks s' t') :
    SplitsBreak t t' ↔ SplitsBreak s s' := by
  rw [SplitsBreak, SplitsBreak, h.getLast?_eq_iff rfl, h'.head?_eq_iff rfl]

theorem isBreak_eq {c d : Char} (h : isBreak c = true ∨ isBreak d = true → c = d) :
    isBreak c = isBreak d := by
  by_cases hc : isBreak c = true
  · rw [h (.inl hc)]
  · by_cases hd : isBreak d = true
    · rw [h (.inr hd)]
    · rw [Bool.eq_false_iff.2 hc, Bool.eq_false_iff.2 hd]

/-- **As many breaks** are in both. -/
theorem breakCount_eq (h : SameBreaks s t) : breakCount t = breakCount s := by
  induction h with
  | nil => rfl
  | @cons c d s t hcd h ih =>
    have hfirst : SameBreaks [c] [d] := List.Forall₂.cons hcd List.Forall₂.nil
    have hseam := hfirst.splitsBreak_iff h
    by_cases hsplit : SplitsBreak [c] s
    · have hsplit' := hseam.2 hsplit
      rw [breakCount_cons_of_splitsBreak hsplit, breakCount_cons_of_splitsBreak hsplit', ih]
    · rw [breakCount_cons hsplit, breakCount_cons (mt hseam.1 hsplit), ih, isBreak_eq hcd]

/-- Texts with the same breaks have the same columns. -/
theorem columnAfter_eq (h : SameBreaks s t) (column : Int) :
    Position.columnAfter column t = Position.columnAfter column s := by
  induction h generalizing column with
  | nil => rfl
  | @cons c d s t hcd _ ih =>
    rw [Position.columnAfter_cons, Position.columnAfter_cons column c, ih, isBreak_eq hcd]

/-- **Reading leads to the same place.** -/
theorem advance_eq (h : SameBreaks s t) (p : Position) : p.advance t = p.advance s := by
  rw [Position.advance, Position.advance, h.breakCount_eq, h.columnAfter_eq]

/-- Texts with the same breaks have as many lines. -/
theorem lineCount_eq (h : SameBreaks s t) : lineCount t = lineCount s := by
  have hempty : t.isEmpty = s.isEmpty := by
    cases h <;> rfl
  rw [lineCount, lineCount, hempty, h.breakCount_eq]

end SameBreaks
end Text
end LineMetrics
