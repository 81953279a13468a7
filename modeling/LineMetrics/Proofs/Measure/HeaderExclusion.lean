import LineMetrics.Proofs.Measure.CommentLines

/-!
# Leaving out the header comment

Two scans of one text, one of which leaves out the header comment, count the same lines and lines of
code (specification, section 4.2).  The comments behind the header start on its last line or further
down, because comments stand in order in the text (`comments_pairwise_lines`): the header has its
own lines up to the last one, and that one too if no other comment starts on it.
`measure_without_header` says so for the sheets that the visitors write.  Of the comment lines with
content none are added, because what is worded in fewer comments is worded in all of them.
-/

namespace LineMetrics

namespace SyntaxTree

variable {t : SyntaxTree}

/-- Where the first comment is the header, the others are below it. -/
theorem commentsBelowHeader_of_header {header : Node} {rest : List Node}
    (hcomments : t.comments = header :: rest) (hheader : t.headerFlags.head? = some true) :
    t.commentsBelowHeader = rest := by
  rw [headerFlags, hcomments] at hheader
  rw [commentsBelowHeader, hcomments]
  exact if_pos (Option.some.inj hheader)

/-- A tree without a header has all of its comments below it. -/
theorem commentsBelowHeader_of_no_header (hheader : true ∉ t.headerFlags) :
    t.commentsBelowHeader = t.comments := by
  rw [headerFlags] at hheader
  rw [commentsBelowHeader]
  cases hcomments : t.comments with
  | nil => rfl
  | cons first rest =>
    rw [hcomments, List.mem_cons, not_or] at hheader
    exact if_neg fun hopens => hheader.1 hopens.symm

end SyntaxTree

namespace CommentCount

variable {c : CommentCount} {t : SyntaxTree}

/-- The same way to count, with the header comment or without it. -/
def ignoring (c : CommentCount) (ignoresHeader : Bool) : CommentCount := { c with ignoresHeader }

/-- A count with the header counts every comment. -/
theorem counted_ignoring_false : (c.ignoring false).counted t = t.comments := rfl

/-- A count without the header counts the comments below it. -/
theorem counted_ignoring_true : (c.ignoring true).counted t = t.commentsBelowHeader := rfl

/-- A line with words in a comment is a line of the comment. -/
theorem mem_worded {line : Int} (h : line ∈ numbers (c.wordedLines t)) :
    line ∈ numbers (c.allLines t) := by
  obtain ⟨l, hl, hnumber⟩ := mem_numbers.1 h
  exact mem_numbers.2 ⟨l, List.mem_of_mem_filter hl, hnumber⟩

/-- As many comment lines have content as are not blank. -/
theorem sub_blank_eq (c : CommentCount) (t : SyntaxTree) :
    (Tally.ofTree c t).commentLines - (Tally.ofTree c t).commentBlankLines =
      (numbers (c.wordedLines t)).size := by
  have hadd : ((numbers (c.allLines t)).diff (numbers (c.wordedLines t))).size +
      (numbers (c.wordedLines t)).size = (numbers (c.allLines t)).size :=
    LineSet.size_diff_add fun _ => mem_worded
  simp only [Tally.ofTree]
  omega

/-- Without the header no line gets content that has none with it. -/
theorem size_worded_le (c : CommentCount) (t : SyntaxTree) :
    (numbers ((c.ignoring true).wordedLines t)).size ≤
      (numbers ((c.ignoring false).wordedLines t)).size := by
  refine LineSet.size_le_of_subset fun line hline => ?_
  obtain ⟨n, hn, hworded⟩ := mem_numbers_filter.1 hline
  exact mem_numbers_filter.2 ⟨n, mem_comments_of_mem_counted hn, hworded⟩

end CommentCount

namespace Syntax

open Lexeme (placedLeaves)

section

variable {path language : String} {s : List Char} {tree : SyntaxTree} {c : CommentCount}

/-- Each comment starts on the line where the one in front of it ends, or further down. -/
theorem comments_pairwise_lines (h : flatTree path language s = .ok tree) :
    tree.comments.Pairwise fun m n => m.endLine ≤ n.start.line := by
  have hlines : (placedLeaves s).Pairwise fun p q =>
      (p.2.toNodeAt s p.1).endLine ≤ (q.2.toNodeAt s q.1).start.line := by
    refine ((Lexeme.placedFrom_pairwise 0 (Lexeme.lexemes s)).filter _).imp fun hle => ?_
    exact Int.add_le_add_left (Int.ofNat_le.2 (Text.breakCount_take_mono s hle)) 1
  rw [comments_of_flatTree h, children_of_flatTree h]
  exact (List.pairwise_map.2 hlines).filter _

/-- A comment of a tree of lexemes does not end above its beginning. -/
theorem start_le_endLine (h : flatTree path language s = .ok tree) {n : Node}
    (hn : n ∈ tree.comments) : n.start.line ≤ n.endLine := by
  obtain ⟨p, hp, -, rfl⟩ := (mem_comments_of_flatTree h).1 hn
  rw [endLine_of_mem_placed (List.mem_of_mem_filter hp)]
  omega

/-- **The lines of the header** are counted with it and not without it, but for its last one if
another comment starts there. -/
theorem commentLines_sub_eq (h : flatTree path language s = .ok tree)
    (hfamilies : c.analyzer.families = CommentFamily.ofC) {header : Node} {rest : List Node}
    (hcomments : tree.comments = header :: rest) (hheader : tree.headerFlags.head? = some true) :
    (Tally.ofTree (c.ignoring false) tree).commentLines -
        (Tally.ofTree (c.ignoring true) tree).commentLines =
      (header.endLine - header.start.line + 1) -
        if ∃ n ∈ rest, n.start.line = header.endLine then 1 else 0 := by
  have hbelow := SyntaxTree.commentsBelowHeader_of_header hcomments hheader
  have hordered := comments_pairwise_lines h
  rw [hcomments] at hordered
  have hbehind : ∀ n ∈ rest, header.endLine ≤ n.start.line :=
    fun n hn => List.rel_of_pairwise_cons hordered hn
  have hspanned := fun ignoresHeader =>
    mem_allLines_iff_counted (c := c.ignoring ignoresHeader) h hfamilies
  have hon : ∀ line, line ∈ CommentCount.numbers ((c.ignoring true).allLines tree) ↔
      ∃ n ∈ rest, n.start.line ≤ line ∧ line ≤ n.endLine := by
    intro line
    rw [hspanned, CommentCount.counted_ignoring_true, hbelow]
  have hoff : ∀ line, line ∈ CommentCount.numbers ((c.ignoring false).allLines tree) ↔
      (header.start.line ≤ line ∧ line ≤ header.endLine) ∨
        line ∈ CommentCount.numbers ((c.ignoring true).allLines tree) := by
    intro line
    rw [hon, hspanned, CommentCount.counted_ignoring_false, hcomments, List.exists_mem_cons_iff]
  have hshared : header.endLine ∈ CommentCount.numbers ((c.ignoring true).allLines tree) ↔
      ∃ n ∈ rest, n.start.line = header.endLine := by
    rw [hon]
    refine exists_congr fun n => and_congr_right fun hn => ?_
    have hstart := hbehind n hn
    have hend := start_le_endLine h (hcomments ▸ List.mem_cons_of_mem _ hn)
    omega
  refine LineSet.size_sub_of_front (start_le_endLine h (hcomments ▸ List.mem_cons_self)) hoff
    (fun line hline => ?_) hshared
  obtain ⟨n, hn, hstart, -⟩ := (hon line).1 hline
  exact Int.le_trans (hbehind n hn) hstart

/-- **Header exclusion removes exactly the header's own lines.**  On a text that the lexer accepts,
the visitors go through with the header comment and without it, and write the same lines and lines
of code.  If the first comment is the header, the comment lines that are missing without it are
those that it spans, but for its last one if another comment starts there; if no comment is the
header, the sheets are the same.  The comment lines that are not blank do not increase. -/
theorem measure_without_header {catalog : Catalog} {language : Language}
    (h : Parser.parse ⟨.lexer, language⟩ catalog path s = .ok tree)
    (hmetric : c.commentMetric = .commentLines) (hblank : c.blankMetric = some .commentBlankLines)
    (hfamilies : c.analyzer.families = CommentFamily.ofC) (hmarker : c.marker ≠ .unusable)
    (key : String) :
    let visitors (ignoresHeader : Bool) : List Visitor :=
      [.lines .lines, .linesOfCode .linesOfCode, .comments (c.ignoring ignoresHeader)]
    ∃ off on : Sheet, measure (visitors false) tree key = .ok off ∧
      measure (visitors true) tree key = .ok on ∧
      (∀ header rest, tree.comments = header :: rest → tree.headerFlags.head? = some true →
        off.measures.total .commentLines - on.measures.total .commentLines =
          (header.endLine - header.start.line + 1) -
            if ∃ n ∈ rest, n.start.line = header.endLine then 1 else 0) ∧
      (true ∉ tree.headerFlags → on = off) ∧
      on.measures.total .commentLines - on.measures.total .commentBlankLines ≤
        off.measures.total .commentLines - off.measures.total .commentBlankLines ∧
      on.measures.total .lines = off.measures.total .lines ∧
      on.measures.total .linesOfCode = off.measures.total .linesOfCode := by
  intro visitors
  have hflat := flatTree_of_parse h
  have hmeasure := fun ignoresHeader => measure_of_flatTree (c := c.ignoring ignoresHeader) hflat
    hmarker hmetric hblank hfamilies key
  refine ⟨_, _, hmeasure false, hmeasure true, ?_⟩
  simp only [Tally.total_sheet]
  refine ⟨fun header rest => commentLines_sub_eq hflat hfamilies, fun hheader => ?_, ?_, rfl, rfl⟩
  · have hlines : (c.ignoring true).allLines tree = (c.ignoring false).allLines tree :=
      congrArg (List.flatMap c.analyzer.linesOf)
        (SyntaxTree.commentsBelowHeader_of_no_header hheader)
    have htally : Tally.ofTree (c.ignoring true) tree = Tally.ofTree (c.ignoring false) tree := by
      simp only [Tally.ofTree, CommentCount.wordedLines, CommentCount.markedLines, hlines]
      rfl
    exact congrArg (Tally.sheet key c.marker) htally
  · rw [CommentCount.sub_blank_eq, CommentCount.sub_blank_eq]
    exact Int.ofNat_le.2 (c.size_worded_le tree)

set_option maxRecDepth 4000 in
/-- A header over two lines, and another comment on the second of them: without the header one
comment line is left. -/
theorem measure_without_header_shared_line :
    let c : CommentCount := ⟨.commentLines, some .commentBlankLines, .cFamily, false, .off⟩
    let visitors (ignoresHeader : Bool) : List Visitor :=
      [.lines .lines, .linesOfCode .linesOfCode, .comments (c.ignoring ignoresHeader)]
    ∃ tree, Parser.parse ⟨.lexer, .objc⟩ .empty "a.m" "/* a\n*/ // b".toList = .ok tree ∧
      tree.headerFlags.head? = some true ∧
      ∃ off on : Sheet, measure (visitors false) tree "a.m" = .ok off ∧
        measure (visitors true) tree "a.m" = .ok on ∧
        off.measures.total .commentLines - on.measures.total .commentLines = 2 - 1 := by
  intro c visitors
  obtain ⟨tree, htree, hheader, header, second, hcomments, hstart, hend, hshared⟩ : ∃ tree,
      Parser.parse ⟨.lexer, .objc⟩ .empty "a.m" "/* a\n*/ // b".toList = .ok tree ∧
      tree.headerFlags.head? = some true ∧ ∃ header second, tree.comments = [header, second] ∧
        header.start.line = 1 ∧ header.endLine = 2 ∧ second.start.line = 2 :=
    ⟨_, by cbv, by cbv, _, _, by cbv, by cbv, by cbv, by cbv⟩
  have hfamilies : c.analyzer.families = CommentFamily.ofC := CommentFamily.mergeSort_ofC
  obtain ⟨off, on, hoff, hon, hremoved, -⟩ := measure_without_header htree (c := c) rfl rfl
    hfamilies (by decide) "a.m"
  have hsecond : ∃ n ∈ [second], n.start.line = header.endLine :=
    ⟨second, List.mem_cons_self, hshared.trans hend.symm⟩
  refine ⟨tree, htree, hheader, off, on, hoff, hon, ?_⟩
  rw [hremoved header [second] hcomments hheader, hstart, hend, if_pos (hend ▸ hsecond)]
  rfl

end

end Syntax
end LineMetrics
