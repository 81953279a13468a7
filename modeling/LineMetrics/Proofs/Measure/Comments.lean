import LineMetrics.Proofs.Measure.Tally
import LineMetrics.Proofs.Syntax.Concat

/-!
# Comments of the flat tree have contents

The lexer and the comment families agree on what a comment is: a lexeme that is a comment starts
with the opening delimiter of a C family and ends with the closing one, so it has contents
(`Lexeme.Shape.exists_contents`; specification, section 4.2).  The contents hold no more breaks than
the comment, and the lines of a comment are lines of the file that it spans:
`exists_commentLines_of_flatTree`.
-/

namespace LineMetrics

/-- The line of a comment `k` lines further down. -/
def CommentLine.down (k : Int) (l : CommentLine) : CommentLine := { l with number := l.number + k }

namespace CommentAnalyzer

variable {a : CommentAnalyzer}

/-- The contents of a comment are what stands between the delimiters of its family. -/
theorem contents_eq_ok {family : CommentFamily} {body comment : List Char}
    (hcomment : comment = family.opening ++ (body ++ family.closing))
    (hfamily : a.familyOf comment = .ok family) : a.contents comment = .ok body := by
  have hlength : comment.length = family.minLength + body.length := by
    rw [hcomment, CommentFamily.minLength, List.length_append, List.length_append]
    omega
  have hclosing : family.closing.isSuffixOf comment = true := by
    rw [List.isSuffixOf_iff_suffix, hcomment, ← List.append_assoc]
    exact List.suffix_append _ _
  have htake : comment.take (comment.length - family.closing.length) = family.opening ++ body := by
    have hbefore : comment.length - family.closing.length = (family.opening ++ body).length := by
      rw [hlength, CommentFamily.minLength, List.length_append]
      omega
    rw [hbefore, hcomment, ← List.append_assoc, List.take_left]
  have hlong : ¬comment.length < family.minLength := by omega
  refine bind_eq_ok_iff.2 ⟨family, hfamily, ?_⟩
  simp only [hlong, hclosing, htake, if_false, Bool.not_true, Bool.false_eq_true]
  rw [List.drop_left]
  rfl

/-- The contents of a line comment are what stands behind its slashes. -/
theorem contents_line (hfamilies : a.families = CommentFamily.ofC) (body : List Char) :
    a.contents ('/' :: '/' :: body) = .ok body := by
  have hfamily : a.familyOf ('/' :: '/' :: body) = .ok .line := by
    rw [familyOf, hfamilies]
    rfl
  refine contents_eq_ok ?_ hfamily
  rw [CommentFamily.line, List.append_nil]
  rfl

/-- The contents of a block comment are what stands between its delimiters. -/
theorem contents_block (hfamilies : a.families = CommentFamily.ofC) (body : List Char) :
    a.contents ('/' :: '*' :: (body ++ Lexeme.blockEnd)) = .ok body := by
  have hfamily : a.familyOf ('/' :: '*' :: (body ++ Lexeme.blockEnd)) = .ok .block := by
    rw [familyOf, hfamilies]
    rfl
  exact contents_eq_ok rfl hfamily

/-- Further down, the lines of a comment are the same. -/
theorem commentLines_down (a : CommentAnalyzer) (k : Int) (n : Node) :
    a.commentLines (n.down k) = (a.commentLines n).map (List.map (CommentLine.down k)) := by
  rw [commentLines, commentLines, Node.down]
  cases a.contents (n.text.getD []) with
  | error fault => rfl
  | ok contents =>
    refine congrArg Except.ok ?_
    rw [List.map_map]
    refine List.map_congr_left fun line _ => ?_
    simp only [Position.down, Function.comp_apply, CommentLine.down, CommentLine.mk.injEq, and_true]
    ring

/-- The lines of contents are numbered from the first line on, one more with each break. -/
theorem number_of_mem_commentLines {n : Node} {contents : List Char}
    (h : a.contents (n.text.getD []) = .ok contents) :
    ∃ lines, a.commentLines n = .ok lines ∧ ∀ l ∈ lines,
      n.start.line ≤ l.number ∧ l.number ≤ n.start.line + Text.breakCount contents := by
  rw [commentLines, h]
  refine ⟨_, rfl, fun l hl => ?_⟩
  obtain ⟨⟨line, offset⟩, hline, rfl⟩ := List.mem_map.1 hl
  have hlt := List.snd_lt_of_mem_zipIdx hline
  rw [Text.length_splitLines] at hlt
  dsimp only
  omega

end CommentAnalyzer

/-- A comment of the lexer has contents, with no more breaks than the comment. -/
theorem Lexeme.Shape.exists_contents {a : CommentAnalyzer}
    (hfamilies : a.families = CommentFamily.ofC) {kind : Kind} {text rest : List Char}
    (h : Shape kind text rest) (hcomment : kind.isComment = true) :
    ∃ contents, a.contents text = .ok contents ∧
      Text.breakCount contents ≤ Text.breakCount text := by
  obtain ⟨-, body, rfl, -⟩ | ⟨-, body, rfl⟩ := h.comment_cases hcomment
  · exact ⟨body, CommentAnalyzer.contents_line hfamilies body, Nat.le_refl _⟩
  · exact ⟨body, CommentAnalyzer.contents_block hfamilies body, Text.breakCount_le_append _ _⟩

namespace Syntax

/-- **Every comment of a flat tree is read,** and its lines are lines that it spans. -/
theorem exists_commentLines_of_flatTree {path language : String} {s : List Char} {tree : SyntaxTree}
    (h : flatTree path language s = .ok tree) {a : CommentAnalyzer}
    (hfamilies : a.families = CommentFamily.ofC) {n : Node} (hn : n ∈ tree.comments) :
    ∃ lines, a.commentLines n = .ok lines ∧ ∀ l ∈ lines,
      n.start.line ≤ l.number ∧ l.number ≤ n.endLine := by
  rw [comments_of_flatTree h, List.mem_filter] at hn
  obtain ⟨hmem, hcomment⟩ := hn
  obtain ⟨l, hl, p, rfl⟩ := exists_of_mem_leavesFrom (flatTree_eq_ok h).1 n hmem
  obtain ⟨rest, hshape⟩ := Lexeme.shape_of_mem_lexemes hl
  obtain ⟨contents, hcontents, hbreaks⟩ := hshape.exists_contents hfamilies hcomment
  obtain ⟨lines, hlines, hnumbers⟩ :=
    CommentAnalyzer.number_of_mem_commentLines (n := l.toNode p) hcontents
  refine ⟨lines, hlines, fun line hline => ?_⟩
  have hnumber := hnumbers line hline
  have hend : (l.toNode p).endLine = (l.toNode p).start.line + Text.breakCount l.text := rfl
  omega

/-- Every comment that is counted has lines. -/
theorem exists_commentLines_of_counted {path language : String} {s : List Char} {tree : SyntaxTree}
    (h : flatTree path language s = .ok tree) {c : CommentCount}
    (hfamilies : c.analyzer.families = CommentFamily.ofC) :
    ∀ n ∈ c.counted tree, ∃ lines, c.analyzer.commentLines n = .ok lines := by
  intro n hn
  have hcomment := CommentCount.mem_comments_of_mem_counted hn
  exact (exists_commentLines_of_flatTree h hfamilies hcomment).imp fun _ => And.left

/-- **What the visitors of a scan write** on the tree of a text is its tally, with or without the
header. -/
theorem measure_of_flatTree {path language : String} {s : List Char} {tree : SyntaxTree}
    (h : flatTree path language s = .ok tree) {c : CommentCount} (hmarker : c.marker ≠ .unusable)
    (hmetric : c.commentMetric = .commentLines) (hblank : c.blankMetric = some .commentBlankLines)
    (hfamilies : c.analyzer.families = CommentFamily.ofC) (key : String) :
    measure [.lines .lines, .linesOfCode .linesOfCode, .comments c] tree key =
      .ok ((Tally.ofTree c tree).sheet key c.marker) := by
  have hlines : 0 ≤ tree.lineCount := by
    rw [(flatTree_eq_ok h).2.2.2]
    exact Int.natCast_nonneg _
  exact measure_eq_tally hlines hmarker (exists_commentLines_of_counted h hfamilies) hmetric hblank
    key

end Syntax
end LineMetrics
