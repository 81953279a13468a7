import LineMetrics.Proofs.Measure.CodeLines
import LineMetrics.Proofs.Measure.CommentText
import LineMetrics.Proofs.Measure.Comments

/-!
# Lines of leaves, lexeme by lexeme

A list of lexemes says which lines its leaves span, counted in breaks from where it starts
(`Lexeme.LeafOn`); wherever the list is read, the nodes that are made of it span these lines
(`Syntax.spans_leavesFrom`).  A visible character is held by a leaf on its line, and a line comment
shows on the one line that it spans.  Where a backslash stands in front of every line break
(`Text.ContinuesLines`), every line but the last shows, so the lines that show are those that are
left when the text is trimmed at its end (`Text.ContinuesLines.le_breakCount_trimEnd_iff`).
-/

namespace LineMetrics

namespace Text

/-- Every LF stands directly behind a backslash. -/
def ContinuesLines (s : List Char) : Prop :=
  ∀ before after, s = before ++ '\n' :: after → before.getLast? = some '\\'

instance (s : List Char) : Decidable (ContinuesLines s) :=
  decidable_of_iff (∀ k < s.length, s[k]? = some '\n' → (s.take k).getLast? = some '\\') <| by
    constructor
    · rintro h before after rfl
      have hlast := h before.length (by simp) (by simp)
      rwa [List.take_left] at hlast
    · intro h k hk hlf
      obtain ⟨_, hget⟩ := List.getElem?_eq_some_iff.1 hlf
      refine h (s.take k) (s.drop (k + 1)) ?_
      rw [← hget, List.cons_getElem_drop_succ, List.take_append_drop]

/-- A text without a CR is never cut inside a CR LF. -/
theorem not_splitsBreak_of_no_cr {s : List Char} (h : '\r' ∉ s) (t : List Char) :
    ¬SplitsBreak s t := fun hsplit => h (List.mem_of_getLast? hsplit.1)

/-- What shows on a line of a text shows on one that there is. -/
theorem ShowsOn.le_breakCount {s : List Char} {k : Nat} (h : ShowsOn s k) : k ≤ breakCount s := by
  obtain ⟨before, c, after, rfl, -, rfl⟩ := h
  exact breakCount_le_append before _

/-- A text that shows on a line can be seen. -/
theorem ShowsOn.isVisible {s : List Char} {k : Nat} (h : ShowsOn s k) : isVisible s = true := by
  obtain ⟨before, c, after, rfl, hc, -⟩ := h
  exact List.any_eq_true.2 ⟨c, by simp, by rw [hc]; rfl⟩

/-- What breaks a line is blank. -/
theorem isBreak_of_not_isBlank {c : Char} (h : isBlank c = false) : isBreak c = false := by
  have hbreaks : isBlank '\n' = true ∧ isBlank '\r' = true := by decide +kernel
  simp only [isBreak, Bool.or_eq_false_iff, decide_eq_false_iff_not]
  refine ⟨?_, ?_⟩
  · rintro rfl
    exact Bool.false_ne_true (h.symm.trans hbreaks.1)
  · rintro rfl
    exact Bool.false_ne_true (h.symm.trans hbreaks.2)

/-- A visible text is trimmed behind its last visible character. -/
theorem exists_trimEnd {s : List Char} (h : isVisible s = true) :
    ∃ before c blanks, s = before ++ c :: blanks ∧ trimEnd s = before ++ [c] ∧
      isBlank c = false ∧ ∀ d ∈ blanks, isBlank d = true := by
  obtain ⟨blanks, hs, hblanks⟩ := eq_trimEnd_append_blanks s
  have hhead := List.head?_dropWhile_not isBlank s.reverse
  rw [trimEnd] at hs ⊢
  cases hdrop : s.reverse.dropWhile isBlank with
  | nil =>
    have hnil : trimEnd s = [] := by rw [trimEnd, hdrop, List.reverse_nil]
    rw [(trimEnd_eq_nil_iff s).1 hnil] at h
    cases h
  | cons c rest =>
    rw [hdrop] at hhead hs
    rw [List.reverse_cons, List.append_assoc] at hs
    exact ⟨rest.reverse, c, blanks, hs, List.reverse_cons, hhead, hblanks⟩

/-- **The lines that trimming leaves** go down to the last one that shows. -/
theorem le_breakCount_trimEnd_iff {s : List Char} (hcr : '\r' ∉ s) (hvisible : isVisible s = true)
    (k : Nat) : k ≤ breakCount (trimEnd s) ↔ ∃ j, k ≤ j ∧ ShowsOn s j := by
  obtain ⟨before, c, blanks, rfl, htrim, hc, hblanks⟩ := exists_trimEnd hvisible
  have hseam : ¬SplitsBreak before [c] :=
    not_splitsBreak_of_no_cr (fun h => hcr (List.mem_append_left _ h)) _
  have hcount : breakCount (trimEnd (before ++ c :: blanks)) = breakCount before := by
    rw [htrim, breakCount_append hseam, breakCount_singleton, isBreak_of_not_isBlank hc]
    rfl
  rw [hcount]
  constructor
  · exact fun hk => ⟨_, hk, before, c, blanks, rfl, hc, rfl⟩
  · rintro ⟨j, hk, front, d, after, hs, hd, rfl⟩
    refine hk.trans ?_
    rcases List.append_eq_append_iff.1 hs with ⟨more, rfl, hmore⟩ | ⟨more, rfl, -⟩
    · cases more with
      | nil => rw [List.append_nil]
      | cons e more =>
        -- What stands behind the last visible character is blank.
        obtain ⟨-, rfl⟩ := List.cons.inj hmore
        have hblank := hblanks d (List.mem_append_right _ List.mem_cons_self)
        exact absurd (hd.symm.trans hblank) Bool.false_ne_true
    · exact breakCount_le_append front more

/-- A break can be found by the number of those in front of it. -/
theorem exists_break : ∀ {s : List Char} {k : Nat}, '\r' ∉ s → k < breakCount s →
    ∃ before after, s = before ++ '\n' :: after ∧ breakCount before = k
  | c :: rest, k, hcr, hk => by
    obtain ⟨hc, hrest⟩ := not_or.1 (mt List.mem_cons.2 hcr)
    have hseam : ∀ t, ¬SplitsBreak [c] t :=
      not_splitsBreak_of_no_cr (fun h => hc (List.mem_singleton.1 h))
    rw [breakCount_cons (hseam rest)] at hk
    by_cases hlf : c = '\n'
    · subst hlf
      cases k with
      | zero => exact ⟨[], rest, rfl, rfl⟩
      | succ k =>
        obtain ⟨before, after, rfl, hcount⟩ := exists_break hrest (Nat.lt_of_succ_lt_succ hk)
        exact ⟨'\n' :: before, after, rfl, by rw [breakCount_cons (hseam before), hcount]; rfl⟩
    · have hquiet : isBreak c = false := by simp [isBreak, hlf, Ne.symm hc]
      rw [hquiet] at hk
      obtain ⟨before, after, rfl, hcount⟩ := exists_break hrest hk
      exact ⟨c :: before, after, rfl, by rw [breakCount_cons (hseam before), hcount, hquiet]; rfl⟩

/-- **A continued line shows:** it ends with a backslash. -/
theorem ContinuesLines.showsOn {s : List Char} (h : ContinuesLines s) (hcr : '\r' ∉ s) {k : Nat}
    (hk : k < breakCount s) : ShowsOn s k := by
  obtain ⟨before, after, rfl, hcount⟩ := exists_break hcr hk
  obtain ⟨front, rfl⟩ := List.getLast?_eq_some_iff.1 (h before after rfl)
  refine ⟨front, '\\', '\n' :: after, by rw [List.append_assoc]; rfl, by decide +kernel, ?_⟩
  have hfront : '\r' ∉ front := fun hmem =>
    hcr (List.mem_append_left _ (List.mem_append_left _ hmem))
  rw [← hcount, breakCount_append (not_splitsBreak_of_no_cr hfront _), breakCount_singleton]
  rfl

/-- A text of continued lines shows on the lines that trimming leaves. -/
theorem ContinuesLines.le_breakCount_trimEnd_iff {s : List Char} (h : ContinuesLines s)
    (hcr : '\r' ∉ s) (hvisible : isVisible s = true) (k : Nat) :
    k ≤ breakCount (trimEnd s) ↔ ShowsOn s k := by
  rw [Text.le_breakCount_trimEnd_iff hcr hvisible]
  constructor
  · rintro ⟨j, hk, hj⟩
    rcases hk.eq_or_lt with rfl | hlt
    · exact hj
    · exact h.showsOn hcr (hlt.trans_le hj.le_breakCount)
  · exact fun hk => ⟨k, Nat.le_refl k, hk⟩

/-- The front of a text that continues its lines does so too. -/
theorem ContinuesLines.left {s t : List Char} (h : ContinuesLines (s ++ t)) : ContinuesLines s := by
  rintro before after rfl
  exact h before (after ++ t) (by simp)

/-- The back of a text that continues its lines does so too, if it does not start with an LF. -/
theorem ContinuesLines.right {s t : List Char} (h : ContinuesLines (s ++ t))
    (ht : t.head? ≠ some '\n') : ContinuesLines t := by
  rintro before after rfl
  have hlast := h (s ++ before) after (by simp)
  cases before with
  | nil => exact absurd rfl ht
  | cons c before => rwa [List.getLast?_append_of_ne_nil _ (List.cons_ne_nil c before)] at hlast

end Text

namespace Lexeme

/-- A leaf among lexemes, a comment or not, spans the line that is `k` breaks down. -/
def LeafOn (isComment : Bool) : List Lexeme → Nat → Prop
  | [], _ => False
  | l :: rest, k =>
    (l.kind.isGap = false ∧ l.kind.isComment = isComment ∧ k ≤ Text.breakCount l.text) ∨
      ∃ j, LeafOn isComment rest j ∧ k = Text.breakCount l.text + j

/-- The text of lexemes. -/
def textOf (ls : List Lexeme) : List Char := ls.flatMap Lexeme.text

variable {isComment : Bool} {l : Lexeme} {ls ms : List Lexeme} {k : Nat}

/-- The text of lexemes is that of the first one and those behind it. -/
theorem textOf_cons (l : Lexeme) (ls : List Lexeme) : textOf (l :: ls) = l.text ++ textOf ls :=
  List.flatMap_cons

/-- The texts of two rows of lexemes follow each other. -/
theorem textOf_append (ls ms : List Lexeme) : textOf (ls ++ ms) = textOf ls ++ textOf ms :=
  List.flatMap_append

/-- The line breaks of two rows of lexemes add up. -/
theorem breakCount_textOf_append (hcr : '\r' ∉ textOf ls) :
    Text.breakCount (textOf (ls ++ ms)) = Text.breakCount (textOf ls) +
      Text.breakCount (textOf ms) := by
  rw [textOf_append, Text.breakCount_append (Text.not_splitsBreak_of_no_cr hcr _)]

/-- The line breaks of a lexeme and those behind it add up. -/
theorem breakCount_textOf_cons (hcr : '\r' ∉ l.text) :
    Text.breakCount (textOf (l :: ls)) = Text.breakCount l.text + Text.breakCount (textOf ls) := by
  rw [textOf_cons, Text.breakCount_append (Text.not_splitsBreak_of_no_cr hcr _)]

/-- Each leaf spans a line. -/
theorem exists_leafOn_iff : (∃ k, LeafOn isComment ls k) ↔
    ∃ l ∈ ls, l.kind.isGap = false ∧ l.kind.isComment = isComment := by
  constructor
  · rintro ⟨k, h⟩
    induction ls generalizing k with
    | nil => exact h.elim
    | cons l rest ih =>
      rcases h with ⟨hgap, hcomment, -⟩ | ⟨j, hj, -⟩
      · exact ⟨l, List.mem_cons_self, hgap, hcomment⟩
      · obtain ⟨m, hm, hleaf⟩ := ih j hj
        exact ⟨m, List.mem_cons_of_mem l hm, hleaf⟩
  · rintro ⟨l, hl, hgap, hcomment⟩
    induction ls with
    | nil => cases hl
    | cons m rest ih =>
      rcases List.mem_cons.1 hl with rfl | hl
      · exact ⟨0, .inl ⟨hgap, hcomment, Nat.zero_le _⟩⟩
      · obtain ⟨j, hj⟩ := ih hl
        exact ⟨_, .inr ⟨j, hj, rfl⟩⟩

/-- A leaf is on a line that there is. -/
theorem LeafOn.le_breakCount (h : LeafOn isComment ls k) (hcr : '\r' ∉ textOf ls) :
    k ≤ Text.breakCount (textOf ls) := by
  induction ls generalizing k with
  | nil => exact h.elim
  | cons l rest ih =>
    rw [textOf_cons, List.mem_append, not_or] at hcr
    rw [breakCount_textOf_cons hcr.1]
    rcases h with ⟨-, -, hk⟩ | ⟨j, hj, rfl⟩
    · omega
    · have := ih hj hcr.2
      omega

/-- A leaf of two rows of lexemes is one of the first row, or one of the second further down. -/
theorem leafOn_append (hcr : '\r' ∉ textOf ls) : LeafOn isComment (ls ++ ms) k ↔
    LeafOn isComment ls k ∨ ∃ j, LeafOn isComment ms j ∧ k = Text.breakCount (textOf ls) + j := by
  induction ls generalizing k with
  | nil => simp [LeafOn, textOf, Text.breakCount]
  | cons l rest ih =>
    rw [textOf_cons, List.mem_append, not_or] at hcr
    rw [breakCount_textOf_cons hcr.1]
    simp only [List.cons_append, LeafOn, ih hcr.2]
    constructor
    · rintro (hfirst | ⟨j, hj | ⟨i, hi, rfl⟩, rfl⟩)
      · exact .inl (.inl hfirst)
      · exact .inl (.inr ⟨j, hj, rfl⟩)
      · exact .inr ⟨i, hi, (Nat.add_assoc _ _ _).symm⟩
    · rintro ((hfirst | ⟨j, hj, rfl⟩) | ⟨i, hi, rfl⟩)
      · exact .inl hfirst
      · exact .inr ⟨j, .inl hj, rfl⟩
      · exact .inr ⟨_, .inr ⟨i, hi, rfl⟩, Nat.add_assoc _ _ _⟩

/-- **What shows is held by a leaf:** gaps are blank. -/
theorem leafOn_of_showsOn (hgaps : ∀ l ∈ ls, l.kind.isGap = true → ∀ c ∈ l.text, c ∈ gapChars)
    (hcr : '\r' ∉ textOf ls) (h : Text.ShowsOn (textOf ls) k) :
    ∃ isComment, LeafOn isComment ls k := by
  induction ls generalizing k with
  | nil =>
    obtain ⟨before, c, after, hs, -⟩ := h
    exact absurd hs (by simp [textOf])
  | cons l rest ih =>
    obtain ⟨hgap, hgaps⟩ := List.forall_mem_cons.1 hgaps
    rw [textOf_cons] at h hcr
    rw [List.mem_append, not_or] at hcr
    obtain ⟨before, c, after, hs, hc, rfl⟩ := h
    -- The visible character stands behind the first lexeme, or inside of it; then that is no gap.
    rcases List.append_eq_append_iff.1 hs with ⟨more, rfl, hrest⟩ | ⟨more, htext, hafter⟩
    · have hshows : Text.ShowsOn (textOf rest) (Text.breakCount more) :=
        ⟨more, c, after, hrest, hc, rfl⟩
      obtain ⟨isComment, hleaf⟩ := ih hgaps hcr.2 hshows
      refine ⟨isComment, .inr ⟨_, hleaf, ?_⟩⟩
      rw [Text.breakCount_append (Text.not_splitsBreak_of_no_cr hcr.1 _)]
    · cases more with
      | nil =>
        rw [List.append_nil] at htext
        have hshows : Text.ShowsOn (textOf rest) 0 := ⟨[], c, after, hafter.symm, hc, rfl⟩
        obtain ⟨isComment, hleaf⟩ := ih hgaps hcr.2 hshows
        exact ⟨isComment, .inr ⟨0, hleaf, by rw [htext, Nat.add_zero]⟩⟩
      | cons d more =>
        obtain ⟨rfl, -⟩ := List.cons.inj hafter
        refine ⟨l.kind.isComment, .inl ⟨?_, rfl, ?_⟩⟩
        · refine Bool.eq_false_iff.2 fun hgap' => ?_
          have hmem : c ∈ l.text := by rw [htext]; simp
          have hblank := isBlank_of_gapChar (hgap hgap' c hmem)
          exact Bool.false_ne_true (hc.symm.trans hblank)
        · rw [htext]
          exact Text.breakCount_le_append before _

/-- Line comments show on the lines that they span. -/
theorem LeafOn.showsOn (h : LeafOn true ls k)
    (hlines : ∀ l ∈ ls, l.kind.isComment = true →
      Text.breakCount l.text = 0 ∧ l.text.head? = some '/')
    (hcr : '\r' ∉ textOf ls) : Text.ShowsOn (textOf ls) k := by
  induction ls generalizing k with
  | nil => exact h.elim
  | cons l rest ih =>
    obtain ⟨hline, hlines⟩ := List.forall_mem_cons.1 hlines
    rw [textOf_cons] at hcr ⊢
    rw [List.mem_append, not_or] at hcr
    rcases h with ⟨-, hcomment, hk⟩ | ⟨j, hj, rfl⟩
    · obtain ⟨hone, hslash⟩ := hline hcomment
      obtain ⟨tail, htail⟩ := List.head?_eq_some_iff.1 hslash
      refine ⟨[], '/', tail ++ textOf rest, ?_, by decide +kernel, ?_⟩
      · rw [htail]
        rfl
      · rw [hone] at hk
        exact (Nat.le_zero.1 hk).symm
    · exact (ih hj hlines hcr.2).append_left (Text.not_splitsBreak_of_no_cr hcr.1 _)

/-- Whether nothing but gaps stands on the last line of lexemes, which is not the first. -/
def trailsOff (ls : List Lexeme) : Bool :=
  (ls.reverse.takeWhile fun l => l.kind.isGap).any fun l => l.kind = .newline

/-- Blanks do not break a line. -/
theorem breakCount_of_space {kind : Kind} {text rest : List Char} (h : Shape kind text rest)
    (hspace : kind = .space) : Text.breakCount text = 0 := by
  subst hspace
  cases h with
  | space hinline =>
    exact Text.breakCount_eq_zero fun c hc => isBreak_of_isInlineSpace (hinline c hc)
  | word hword => exact absurd hword (by simp [wordKinds])

/-- A row of lexemes trails off if it ends in a newline, and blanks at most behind it. -/
theorem trailsOff_concat (ls : List Lexeme) (l : Lexeme) : trailsOff (ls ++ [l]) =
    (l.kind.isGap && (decide (l.kind = .newline) || trailsOff ls)) := by
  rw [trailsOff, trailsOff, List.reverse_append, List.reverse_singleton, List.singleton_append,
    List.takeWhile_cons]
  cases l.kind.isGap <;> rfl

/-- A gap at the end is no leaf. -/
theorem leafOn_concat_of_gap (hcr : '\r' ∉ textOf ls) (hgap : l.kind.isGap = true) :
    LeafOn isComment (ls ++ [l]) k ↔ LeafOn isComment ls k := by
  rw [leafOn_append hcr]
  refine or_iff_left ?_
  rintro ⟨j, ⟨hleaf, -⟩ | ⟨_, hnil, -⟩, -⟩
  · exact Bool.false_ne_true (hleaf.symm.trans hgap)
  · exact hnil

/-- A gap that is no newline is made of blanks. -/
theorem Kind.eq_space {kind : Kind} (hgap : kind.isGap = true) (hnewline : kind ≠ .newline) :
    kind = .space := by
  cases kind with
  | newline => exact absurd rfl hnewline
  | space => rfl
  | _ => cases hgap

/-- **A leaf spans the last line** of lexemes that make leaves, unless gaps alone stand on it. -/
theorem leafOn_last_iff (hshape : ∀ l ∈ ls, ∃ rest, Shape l.kind l.text rest)
    (hcr : '\r' ∉ textOf ls) (hleaf : ∃ l ∈ ls, l.kind.isGap = false) :
    (∃ isComment, LeafOn isComment ls (Text.breakCount (textOf ls))) ↔ trailsOff ls = false := by
  induction ls using List.reverseRecOn with
  | nil =>
    obtain ⟨l, hl, -⟩ := hleaf
    cases hl
  | append_singleton ls l ih =>
    obtain ⟨hshapes, hlast⟩ := List.forall_mem_append.1 hshape
    obtain ⟨rest, hlast⟩ := List.forall_mem_singleton.1 hlast
    rw [textOf_append, List.mem_append, not_or] at hcr
    have hsingle : textOf [l] = l.text := List.flatMap_singleton _ _
    rw [breakCount_textOf_append hcr.1, hsingle, trailsOff_concat]
    cases hgap : l.kind.isGap with
    | false =>
      refine iff_of_true ⟨l.kind.isComment, (leafOn_append hcr.1).2 (.inr ⟨_, ?_, rfl⟩)⟩ rfl
      exact .inl ⟨hgap, rfl, Nat.le_refl _⟩
    | true =>
      simp only [leafOn_concat_of_gap hcr.1 hgap, Bool.true_and]
      by_cases hnewline : l.kind = .newline
      · refine iff_of_false ?_ (by simp [hnewline])
        rintro ⟨isComment, hon⟩
        have hle := hon.le_breakCount hcr.1
        rw [hlast.breakCount_newline hnewline] at hle
        omega
      · -- A space adds no line, so it is for the lexemes in front of it to say.
        have hbefore : ∃ m ∈ ls, m.kind.isGap = false := by
          obtain ⟨m, hm, hleaf⟩ := hleaf
          refine ⟨m, (List.mem_append.1 hm).resolve_right fun hm => ?_, hleaf⟩
          obtain rfl := List.mem_singleton.1 hm
          exact Bool.false_ne_true (hleaf.symm.trans hgap)
        rw [breakCount_of_space hlast (Kind.eq_space hgap hnewline), Nat.add_zero,
          decide_eq_false hnewline, Bool.false_or, ih hshapes hcr.1 hbefore]

end Lexeme

/-! ### Lines of nodes -/

/-- The lines that the code among nodes spans. -/
def codeLinesOf (ns : List Node) : Set Int :=
  {line | ∃ n ∈ ns, n.isComment = false ∧ line ∈ n.lines}

/-- The lines that the contents of the comments among nodes are assigned to. -/
def commentLinesOf (a : CommentAnalyzer) (ns : List Node) : Set Int :=
  {line | ∃ n ∈ ns, n.isComment = true ∧ ∃ lines, a.commentLines n = .ok lines ∧
    ∃ l ∈ lines, l.number = line}

/-- A comment that ends as many lines down as its text has breaks is assigned to the lines that it
spans. -/
theorem CommentAnalyzer.exists_number_iff_mem_lines {a : CommentAnalyzer}
    (hfamilies : a.families = CommentFamily.ofC) {n : Node} {lines : List CommentLine}
    (h : a.commentLines n = .ok lines)
    (hend : n.endLine = n.start.line + Text.breakCount (n.text.getD [])) (line : Int) :
    (∃ l ∈ lines, l.number = line) ↔ line ∈ n.lines := by
  rw [exists_number_iff hfamilies h, Node.mem_lines, hend]

namespace Syntax

/-- **The lines of leaves,** wherever their lexemes are read. -/
theorem spans_leavesFrom {p : Position} {ls : List Lexeme} {nodes : List Node}
    (h : leavesFrom [] p ls = .ok nodes) (isComment : Bool) (line : Int) :
    (∃ n ∈ nodes, n.isComment = isComment ∧ line ∈ n.lines) ↔
      ∃ k, Lexeme.LeafOn isComment ls k ∧ line = p.line + k := by
  induction ls generalizing p nodes with
  | nil =>
    obtain rfl := Except.ok.inj h
    simp [Lexeme.LeafOn]
  | cons l rest ih =>
    have hbelow : (∃ j, Lexeme.LeafOn isComment rest j ∧ line = (p.advance l.text).line + j) ↔
        ∃ k, (∃ j, Lexeme.LeafOn isComment rest j ∧ k = Text.breakCount l.text + j) ∧
          line = p.line + k := by
      simp only [Position.advance]
      constructor
      · rintro ⟨j, hj, rfl⟩
        exact ⟨_, ⟨j, hj, rfl⟩, by push_cast; ring⟩
      · rintro ⟨_, ⟨j, hj, rfl⟩, rfl⟩
        exact ⟨j, hj, by push_cast; ring⟩
    simp only [Lexeme.LeafOn, or_and_right, exists_or]
    rcases leavesFrom_cons_eq_ok h with ⟨hgap, hrest⟩ | ⟨hgap, more, hrest, rfl⟩
    · rw [ih hrest, hbelow]
      simp [hgap]
    · have hfirst : ((l.toNode p).isComment = isComment ∧ line ∈ (l.toNode p).lines) ↔
          ∃ k : Nat, (l.kind.isGap = false ∧ l.kind.isComment = isComment ∧
            k ≤ Text.breakCount l.text) ∧ line = p.line + k := by
        rw [Node.mem_lines]
        have hline : (l.toNode p).endLine = p.line + Text.breakCount l.text := rfl
        have hstart : (l.toNode p).start.line = p.line := rfl
        rw [hline, hstart]
        constructor
        · rintro ⟨hcomment, hle, hend⟩
          exact ⟨(line - p.line).toNat, ⟨hgap, hcomment, by omega⟩, by omega⟩
        · rintro ⟨k, ⟨-, hcomment, hk⟩, rfl⟩
          exact ⟨hcomment, by omega, by omega⟩
      simp only [List.exists_mem_cons_iff, hfirst]
      rw [ih hrest, hbelow]

variable {path language : String} {s : List Char} {tree : SyntaxTree}

/-- The code of a flat tree spans the lines of its leaves outside of comments. -/
theorem mem_codeLinesOf_flatTree (h : flatTree path language s = .ok tree) (line : Int) :
    line ∈ codeLinesOf tree.root.children ↔
      ∃ k, Lexeme.LeafOn false (Lexeme.lexemes s) k ∧ line = 1 + (k : Int) :=
  spans_leavesFrom (flatTree_eq_ok h).1 false line

/-- The contents of a flat tree's comments are assigned to the lines that the comments span. -/
theorem mem_commentLinesOf_flatTree (h : flatTree path language s = .ok tree) {a : CommentAnalyzer}
    (hfamilies : a.families = CommentFamily.ofC) (line : Int) :
    line ∈ commentLinesOf a tree.root.children ↔
      ∃ k, Lexeme.LeafOn true (Lexeme.lexemes s) k ∧ line = 1 + (k : Int) := by
  refine Iff.trans ?_ (spans_leavesFrom (flatTree_eq_ok h).1 true line)
  refine exists_congr fun n => and_congr_right fun hn => and_congr_right fun hcomment => ?_
  have hmem : n ∈ tree.comments := by
    rw [comments_of_flatTree h]
    exact List.mem_filter.2 ⟨hn, hcomment⟩
  obtain ⟨lines, hlines, -⟩ := exists_commentLines_of_flatTree h hfamilies hmem
  obtain ⟨l, -, q, rfl⟩ := exists_of_mem_leavesFrom (flatTree_eq_ok h).1 n hn
  rw [← CommentAnalyzer.exists_number_iff_mem_lines hfamilies hlines rfl line, hlines]
  exact ⟨fun ⟨_, heq, hl⟩ => Except.ok.inj heq ▸ hl, fun hl => ⟨_, rfl, hl⟩⟩

end Syntax
end LineMetrics
