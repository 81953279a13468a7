import LineMetrics.Proofs.Measure.CommentText

/-!
# Comment lines in the source

The comment visitor cuts the contents of each comment into pieces and numbers them from the line the
comment starts on (specification, section 4.3).  In the source these are the lines that comments
span, and a line has a worded piece if a letter or a number stands on it inside a comment: an offset
of a comment is an offset of the source (`Lexeme.hasOn_iff`), and no comment starts inside a CR LF,
so breaks count the same from the comment's start as from the beginning of the file.
`mem_allLines_iff` and `mem_wordedLines_iff` say so for a line, `run_comments_of_flatTree` for the
two measures.
-/

namespace LineMetrics
namespace Lexeme

/-- **A character of a lexeme** behind `k` of its breaks is a character of the text that the lexeme
holds, behind `k` more breaks than the lexeme. -/
theorem hasOn_iff {s : List Char} {o : Nat} {l : Lexeme} (h : (o, l) ∈ placed s)
    (p : Char → Bool) (k : Nat) : Text.HasOn p l.text k ↔ ∃ i, (l.spanAt o).Holds i ∧
      (∃ c, s[i]? = some c ∧ p c = true) ∧
      Text.breakCount (s.take i) = Text.breakCount (s.take o) + k := by
  have hseam := not_splitsBreak_of_mem_placed h
  dsimp only at hseam
  obtain ⟨before, after, rfl, rfl, -⟩ := exists_of_mem_placed h
  rw [List.take_left] at hseam ⊢
  -- No comment starts inside a CR LF, so breaks inside of it and those before it add up.
  constructor
  · rintro ⟨inner, c, outer, htext, hc, rfl⟩
    have hprefix : ¬Text.SplitsBreak before inner := by
      rw [htext] at hseam
      exact Text.not_splitsBreak_of_longer hseam
    have hsource : before ++ (l.text ++ after) = (before ++ inner) ++ c :: (outer ++ after) := by
      simp [htext]
    refine ⟨(before ++ inner).length, ?_, ⟨c, ?_, hc⟩, ?_⟩
    · simp only [Span.Holds, spanAt, htext, List.length_append, List.length_cons]
      omega
    · rw [hsource]
      simp
    · rw [hsource, List.take_left, Text.breakCount_append hprefix]
  · rintro ⟨i, hholds, ⟨c, hc, hpc⟩, hcount⟩
    simp only [Span.Holds, spanAt] at hholds
    obtain ⟨j, rfl⟩ := Nat.exists_eq_add_of_le hholds.1
    have hlt : j < l.text.length := by omega
    rw [List.getElem?_append_right (by omega), List.getElem?_append_left (by omega),
      Nat.add_sub_cancel_left] at hc
    have htext : l.text = l.text.take j ++ c :: l.text.drop (j + 1) := by
      obtain ⟨_, rfl⟩ := List.getElem?_eq_some_iff.1 hc
      simp
    have hprefix : ¬Text.SplitsBreak before (l.text.take j) := by
      rw [htext] at hseam
      exact Text.not_splitsBreak_of_longer hseam
    refine ⟨_, c, _, htext, hpc, ?_⟩
    have htake : (before ++ (l.text ++ after)).take (before.length + j) =
        before ++ l.text.take j := by
      rw [List.take_length_add_append, List.take_append_of_le_length (Nat.le_of_lt hlt)]
    rw [htake, Text.breakCount_append hprefix] at hcount
    omega

end Lexeme

namespace Syntax

open Lexeme (placedLeaves)

/-- A line of the source that a comment spans. -/
def IsCommentLine (tree : SyntaxTree) (line : Int) : Prop :=
  ∃ n ∈ tree.root.children, n.isComment = true ∧ n.start.line ≤ line ∧ line ≤ n.endLine

/-- A letter or a number of the text that a comment holds. -/
def ShowsWord (tree : SyntaxTree) (s : List Char) (i : Nat) : Prop :=
  (∃ c, s[i]? = some c ∧ Text.isAlphanumeric c = true) ∧
    ∃ n span, (n, span) ∈ tree.root.children.zip (spans s) ∧ n.isComment = true ∧ span.Holds i

/-- A line of the source on which a letter or a number stands inside a comment. -/
def IsWordedLine (tree : SyntaxTree) (s : List Char) (line : Int) : Prop :=
  ∃ i, ShowsWord tree s i ∧ line = 1 + Text.breakCount (s.take i)

section

variable {path language : String} {s : List Char} {tree : SyntaxTree} {c : CommentCount}

/-- The comments of a flat tree are the lexemes that are comments, each at its offset. -/
theorem mem_comments_of_flatTree (h : flatTree path language s = .ok tree) {n : Node} :
    n ∈ tree.comments ↔
      ∃ p ∈ placedLeaves s, p.2.kind.isComment = true ∧ n = p.2.toNodeAt s p.1 := by
  rw [comments_of_flatTree h, children_of_flatTree h, List.mem_filter, List.mem_map]
  constructor
  · rintro ⟨⟨p, hp, rfl⟩, hcomment⟩
    exact ⟨p, hp, hcomment, rfl⟩
  · rintro ⟨p, hp, hcomment, rfl⟩
    exact ⟨⟨p, hp, rfl⟩, hcomment⟩

/-- A comment of a flat tree ends as many lines down as it has breaks. -/
theorem endLine_of_mem_placed {p : Nat × Lexeme} (hp : p ∈ Lexeme.placed s) :
    (p.2.toNodeAt s p.1).endLine =
      (p.2.toNodeAt s p.1).start.line + Text.breakCount p.2.text := by
  have hseam := Lexeme.not_splitsBreak_of_mem_placed hp
  obtain ⟨o, l⟩ := p
  dsimp only at hseam ⊢
  have hstands := Lexeme.toNodeAt_standsAt hp
  rw [hstands.endLine, hstands.line]
  obtain ⟨before, after, rfl, rfl, -⟩ := Lexeme.exists_of_mem_placed hp
  have hstop : (before ++ (l.text ++ after)).take (l.spanAt before.length).stop =
      before ++ l.text := by
    rw [← List.append_assoc]
    exact List.take_left' (by simp [Lexeme.spanAt])
  rw [List.take_left] at hseam
  rw [hstop, Text.breakCount_append hseam, Lexeme.spanAt, List.take_left]
  push_cast
  ring

/-- A letter or a number of the text inside a comment, as one that the comment's lexeme holds. -/
theorem showsWord_iff (h : flatTree path language s = .ok tree) (i : Nat) :
    ShowsWord tree s i ↔ ∃ p ∈ placedLeaves s, p.2.kind.isComment = true ∧
      (p.2.spanAt p.1).Holds i ∧ ∃ c, s[i]? = some c ∧ Text.isAlphanumeric c = true := by
  rw [ShowsWord, zip_children_spans h]
  constructor
  · rintro ⟨hword, n, span, hn, hcomment, hholds⟩
    obtain ⟨p, hp, heq⟩ := List.mem_map.1 hn
    obtain ⟨rfl, rfl⟩ := Prod.mk.inj heq
    exact ⟨p, hp, hcomment, hholds, hword⟩
  · rintro ⟨p, hp, hcomment, hholds, hword⟩
    exact ⟨hword, _, _, List.mem_map.2 ⟨p, hp, rfl⟩, hcomment, hholds⟩

/-- What is added up over the comments, as something that one comment has. -/
theorem mem_numbers_iff (h : flatTree path language s = .ok tree)
    (hfamilies : c.analyzer.families = CommentFamily.ofC) (hheader : c.ignoresHeader = false)
    (q : CommentLine → Bool) (line : Int) :
    line ∈ CommentCount.numbers ((c.allLines tree).filter q) ↔
      ∃ p ∈ placedLeaves s, p.2.kind.isComment = true ∧
        ∃ lines, c.analyzer.commentLines (p.2.toNodeAt s p.1) = .ok lines ∧
          ∃ l ∈ lines, q l = true ∧ l.number = line := by
  rw [CommentCount.mem_numbers_filter, CommentCount.counted_of_not_ignoresHeader hheader]
  constructor
  · rintro ⟨n, hn, hline⟩
    obtain ⟨lines, hlines, -⟩ := exists_commentLines_of_flatTree h hfamilies hn
    rw [CommentAnalyzer.linesOf_eq hlines] at hline
    obtain ⟨p, hp, hcomment, rfl⟩ := (mem_comments_of_flatTree h).1 hn
    exact ⟨p, hp, hcomment, lines, hlines, hline⟩
  · rintro ⟨p, hp, hcomment, lines, hlines, hline⟩
    rw [← CommentAnalyzer.linesOf_eq hlines] at hline
    exact ⟨_, (mem_comments_of_flatTree h).2 ⟨p, hp, hcomment, rfl⟩, hline⟩

/-- **The lines of a comment** of a flat tree are those that it spans. -/
theorem exists_number_iff_of_flatTree (h : flatTree path language s = .ok tree)
    {a : CommentAnalyzer} (hfamilies : a.families = CommentFamily.ofC) {n : Node}
    (hn : n ∈ tree.comments) (line : Int) :
    (∃ l ∈ a.linesOf n, l.number = line) ↔ n.start.line ≤ line ∧ line ≤ n.endLine := by
  obtain ⟨lines, hlines, -⟩ := exists_commentLines_of_flatTree h hfamilies hn
  obtain ⟨p, hp, -, rfl⟩ := (mem_comments_of_flatTree h).1 hn
  rw [CommentAnalyzer.linesOf_eq hlines, endLine_of_mem_placed (List.mem_of_mem_filter hp)]
  exact CommentAnalyzer.exists_number_iff hfamilies hlines line

/-- **A line is counted** exactly if a counted comment spans it. -/
theorem mem_allLines_iff_counted (h : flatTree path language s = .ok tree)
    (hfamilies : c.analyzer.families = CommentFamily.ofC) (line : Int) :
    line ∈ CommentCount.numbers (c.allLines tree) ↔
      ∃ n ∈ c.counted tree, n.start.line ≤ line ∧ line ≤ n.endLine := by
  rw [CommentCount.mem_numbers_allLines]
  refine exists_congr fun n => and_congr_right fun hn => ?_
  exact exists_number_iff_of_flatTree h hfamilies (CommentCount.mem_comments_of_mem_counted hn) line

/-- The lines of a tree's comments are those on which a comment stands. -/
theorem mem_allLines_iff (h : flatTree path language s = .ok tree)
    (hfamilies : c.analyzer.families = CommentFamily.ofC) (hheader : c.ignoresHeader = false)
    (line : Int) : line ∈ CommentCount.numbers (c.allLines tree) ↔ IsCommentLine tree line := by
  rw [mem_allLines_iff_counted h hfamilies, CommentCount.counted_of_not_ignoresHeader hheader,
    comments_of_flatTree h, IsCommentLine]
  simp only [List.mem_filter, and_assoc]

/-- **A line is worded** exactly if a letter or a number stands on it inside a comment. -/
theorem mem_wordedLines_iff (h : flatTree path language s = .ok tree)
    (hfamilies : c.analyzer.families = CommentFamily.ofC) (hheader : c.ignoresHeader = false)
    (line : Int) : line ∈ CommentCount.numbers (c.wordedLines tree) ↔ IsWordedLine tree s line := by
  have hstart : ∀ p : Nat × Lexeme, (p.2.toNodeAt s p.1).start.line =
      1 + Text.breakCount (s.take p.1) := fun _ => rfl
  rw [CommentCount.wordedLines, mem_numbers_iff h hfamilies hheader]
  constructor
  · rintro ⟨p, hp, hcomment, lines, hlines, l, hl, hworded, rfl⟩
    obtain ⟨k, hk, hnumber⟩ := (CommentAnalyzer.exists_worded_iff hfamilies hlines l.number).1
      ⟨l, hl, by simpa using hworded, rfl⟩
    obtain ⟨i, hholds, hword, hcount⟩ := (Lexeme.hasOn_iff (List.mem_of_mem_filter hp) _ k).1 hk
    refine ⟨i, (showsWord_iff h i).2 ⟨p, hp, hcomment, hholds, hword⟩, ?_⟩
    rw [hnumber, hstart p, hcount]
    push_cast
    ring
  · rintro ⟨i, hi, rfl⟩
    obtain ⟨p, hp, hcomment, hholds, hword⟩ := (showsWord_iff h i).1 hi
    have hmem := (mem_comments_of_flatTree h).2 ⟨p, hp, hcomment, rfl⟩
    obtain ⟨lines, hlines, -⟩ := exists_commentLines_of_flatTree h hfamilies hmem
    obtain ⟨k, hk⟩ := Nat.exists_eq_add_of_le (Text.breakCount_take_mono s hholds.1)
    have hon := (Lexeme.hasOn_iff (List.mem_of_mem_filter hp) _ k).2 ⟨i, hholds, hword, hk⟩
    have hline : (1 : Int) + Text.breakCount (s.take i) =
        (p.2.toNodeAt s p.1).start.line + k := by
      rw [hk, hstart p, Lexeme.spanAt]
      push_cast
      ring
    obtain ⟨l, hl, hworded, hnumber⟩ :=
      (CommentAnalyzer.exists_worded_iff hfamilies hlines _).2 ⟨k, hon, hline⟩
    exact ⟨p, hp, hcomment, lines, hlines, l, hl, by simpa using hworded, hnumber⟩

/-- **Comment lines in the source.**  Of a text with a flat tree, the comment visitor that counts
header comments writes how many of the physical lines are spanned by a comment, and how many of
these have no letter and no number inside a comment.  It counts these lines and no others: a line
that comments share is counted once, and is blank only if it is blank in all of them. -/
theorem run_comments_of_flatTree (h : flatTree path language s = .ok tree)
    (hfamilies : c.analyzer.families = CommentFamily.ofC) (hheader : c.ignoresHeader = false)
    (hmarker : c.marker ≠ .unusable) {blank : Metric} (hblank : c.blankMetric = some blank)
    (sheet : Sheet) :
    ((Visitor.comments c).run tree sheet).map Sheet.measures = .ok
      ((sheet.measures.put c.commentMetric
        {line : Int | 1 ≤ line ∧ line ≤ Text.lineCount s ∧ IsCommentLine tree line}.ncard).put blank
        {line : Int | 1 ≤ line ∧ line ≤ Text.lineCount s ∧ IsCommentLine tree line ∧
          ¬IsWordedLine tree s line}.ncard) ∧
    (∀ line, line ∈ CommentCount.numbers (c.allLines tree) ↔ IsCommentLine tree line) ∧
    ∀ line, line ∈ CommentCount.numbers (c.wordedLines tree) ↔ IsWordedLine tree s line := by
  have hread := exists_commentLines_of_counted (c := c) h hfamilies
  have hwithin : ∀ line, IsCommentLine tree line → 1 ≤ line ∧ line ≤ Text.lineCount s := by
    rintro line ⟨n, hn, -, hstart, hend⟩
    rw [children_of_flatTree h] at hn
    obtain ⟨p, hp, rfl⟩ := List.mem_map.1 hn
    have hlast := endLine_le_lineCount (Lexeme.toNodeAt_standsAt (List.mem_of_mem_filter hp))
    have hfirst : (p.2.toNodeAt s p.1).start.line = 1 + Text.breakCount (s.take p.1) := rfl
    omega
  have hall := mem_allLines_iff (c := c) h hfamilies hheader
  have hworded := mem_wordedLines_iff (c := c) h hfamilies hheader
  have hcount : (Tally.ofTree c tree).commentLines =
      {line : Int | 1 ≤ line ∧ line ≤ Text.lineCount s ∧ IsCommentLine tree line}.ncard := by
    refine congrArg Nat.cast (LineSet.size_eq_ncard_of_iff fun line => ?_)
    rw [hall]
    exact ⟨fun hline => ⟨(hwithin line hline).1, (hwithin line hline).2, hline⟩,
      fun hline => hline.2.2⟩
  have hcountBlank : (Tally.ofTree c tree).commentBlankLines =
      {line : Int | 1 ≤ line ∧ line ≤ Text.lineCount s ∧ IsCommentLine tree line ∧
        ¬IsWordedLine tree s line}.ncard := by
    refine congrArg Nat.cast (LineSet.size_eq_ncard_of_iff fun line => ?_)
    rw [LineSet.mem_diff, hall, hworded]
    exact ⟨fun hline => ⟨(hwithin line hline.1).1, (hwithin line hline.1).2, hline⟩,
      fun hline => hline.2.2⟩
  refine ⟨?_, hall, hworded⟩
  rw [Visitor.run_comments hmarker hread hblank, hcount, hcountBlank]
  rfl

set_option maxRecDepth 4000 in
/-- A block comment over a CR LF whose last line it shares with the next one, which is worded, and a
line comment of delimiters only that a lone CR ends. -/
theorem run_comments_of_flatTree_shared_line :
    let s := "/**\r\n* */ /* b */ x\n///\r".toList
    let c : CommentCount := ⟨.commentLines, some .commentBlankLines, .cFamily, false, .off⟩
    ∃ tree, flatTree "a.m" "objc" s = .ok tree ∧ c.analyzer.families = CommentFamily.ofC ∧
      ((Visitor.comments c).run tree (.blank "a.m")).map Sheet.measures = .ok
        (((Sheet.blank "a.m").measures.put .commentLines
          {line : Int | 1 ≤ line ∧ line ≤ Text.lineCount s ∧ IsCommentLine tree line}.ncard).put
          .commentBlankLines {line : Int | 1 ≤ line ∧ line ≤ Text.lineCount s ∧
            IsCommentLine tree line ∧ ¬IsWordedLine tree s line}.ncard) :=
  have h : ∃ tree, flatTree "a.m" "objc" "/**\r\n* */ /* b */ x\n///\r".toList = .ok tree :=
    ⟨_, by cbv⟩
  have hfamilies : CommentAnalyzer.cFamily.families = CommentFamily.ofC :=
    CommentFamily.mergeSort_ofC
  h.imp fun _ htree => ⟨htree, hfamilies, (run_comments_of_flatTree htree hfamilies rfl
    (by simp) rfl (.blank "a.m")).1⟩

end
end Syntax
end LineMetrics
