import LineMetrics.Proofs.Measure.Bounds
import LineMetrics.Proofs.Measure.Concat
import LineMetrics.Proofs.Syntax.Crlf

/-!
# Measures of a text with LF written as CR LF

Where the flat trees of `s` and `crlf s` agree leaf by leaf, tokens and comments agree too, and a
comment has the same lines in both: the pieces of its contents do not hold the breaks.  So every
default visitor observes the same, and the sheets are equal, whatever the settings: `parse_crlf`.
-/

namespace LineMetrics

open Text (crlf)

/-- A fold depends on what its step does with the items. -/
theorem foldlM_congr {m : Type → Type} [Monad m] {α β : Type} {f g : α → β → m α} {is : List β}
    (h : ∀ acc, ∀ i ∈ is, f acc i = g acc i) (acc : α) : is.foldlM f acc = is.foldlM g acc := by
  induction is generalizing acc with
  | nil => rfl
  | cons i is ih =>
    rw [List.foldlM_cons, List.foldlM_cons, h acc i List.mem_cons_self]
    refine congrArg _ (funext fun acc => ih (fun acc j hj => ?_) acc)
    exact h acc j (List.mem_cons_of_mem i hj)

/-- Sheets depend on what the visitors observe. -/
theorem measure_congr {visitors : List Visitor} {tree tree' : SyntaxTree}
    (h : ∀ v ∈ visitors, v.observe tree' = v.observe tree) (path : String) :
    measure visitors tree' path = measure visitors tree path := by
  refine foldlM_congr (fun s v hv => ?_) _
  rw [Visitor.run, Visitor.run, h v hv]

/-- Writing breaks as CR LF makes no code of a node and takes none away. -/
theorem Node.isToken_crlf (n : Node) : n.crlf.isToken = n.isToken := by
  obtain ⟨type, start, endLine, text, children, isComment⟩ := n
  cases text with
  | none => rfl
  | some text => simp only [isToken, Node.crlf, isLeaf, Option.map_some, Option.elim_some,
      Text.isVisible_crlf]

/-- A comment of the lexer has the same lines. -/
theorem Lexeme.Shape.commentLines_crlf {a : CommentAnalyzer}
    (hfamilies : a.families = CommentFamily.ofC) {l : Lexeme} {rest : List Char}
    (h : Shape l.kind l.text rest) (hcr : '\r' ∉ l.text) (hcomment : l.kind.isComment = true)
    (p : Position) : a.commentLines (l.toNode p).crlf = a.commentLines (l.toNode p) := by
  obtain ⟨kind, text⟩ := l
  have hpieces : ∀ {body}, a.contents text = .ok body →
      a.contents (Text.crlf text) = .ok (Text.crlf body) → '\r' ∉ body →
      a.commentLines (toNode p ⟨kind, text⟩).crlf = a.commentLines (toNode p ⟨kind, text⟩) := by
    intro body htext hcrlf hbody
    have hnode : (toNode p ⟨kind, text⟩).text.getD [] = text := rfl
    have hnodecrlf : (toNode p ⟨kind, text⟩).crlf.text.getD [] = Text.crlf text := rfl
    rw [CommentAnalyzer.commentLines, CommentAnalyzer.commentLines, hnode, hnodecrlf, htext, hcrlf]
    refine congrArg Except.ok ?_
    rw [Text.splitLines_crlf hbody]
    rfl
  dsimp only at h hcr hcomment
  obtain ⟨-, body, rfl, -⟩ | ⟨-, body, rfl⟩ := h.comment_cases hcomment
  · have hbody : '\r' ∉ body := fun hmem => hcr (by simp [hmem])
    exact hpieces (CommentAnalyzer.contents_line hfamilies body)
      (CommentAnalyzer.contents_line hfamilies (Text.crlf body)) hbody
  · have hbody : '\r' ∉ body := fun hmem => hcr (by simp [hmem])
    refine hpieces (CommentAnalyzer.contents_block hfamilies body) ?_ hbody
    rw [Text.crlf_cons (by decide), Text.crlf_cons (by decide), Text.crlf_append]
    exact CommentAnalyzer.contents_block hfamilies (Text.crlf body)

/-- Two trees whose tokens and comments agree up to the breaks within them. -/
structure AlikeInCrlf (a : CommentAnalyzer) (tree tree' : SyntaxTree) : Prop where
  lines : tree'.lineCount = tree.lineCount
  tokens : tree'.tokens = tree.tokens.map Node.crlf
  comments : tree'.comments = tree.comments.map Node.crlf
  commentLines : ∀ n ∈ tree.comments, a.commentLines n.crlf = a.commentLines n

namespace AlikeInCrlf

variable {tree tree' : SyntaxTree} {c : CommentCount}

/-- The lines of code are the same in both forms. -/
theorem codeLines_eq {a : CommentAnalyzer} (h : AlikeInCrlf a tree tree') :
    Visitor.codeLines tree' = Visitor.codeLines tree := by
  rw [Visitor.codeLines, h.tokens, List.flatMap_map]
  rfl

/-- The counted comments agree, with or without the header. -/
theorem counted_eq (h : AlikeInCrlf c.analyzer tree tree') :
    c.counted tree' = (c.counted tree).map Node.crlf := by
  have hopens : ∀ n : Node, SyntaxTree.opensFile (tree.tokens.map Node.crlf) n.crlf =
      SyntaxTree.opensFile tree.tokens n := by
    intro n
    cases tree.tokens <;> rfl
  rw [CommentCount.counted, CommentCount.counted]
  split
  · rw [SyntaxTree.commentsBelowHeader, SyntaxTree.commentsBelowHeader, h.comments, h.tokens]
    cases tree.comments with
    | nil => rfl
    | cons n rest =>
      simp only [List.map_cons, hopens]
      split <;> rfl
  · exact h.comments

/-- **What is written about comments** is the same in both forms. -/
theorem writes_eq (h : AlikeInCrlf c.analyzer tree tree') : c.writes tree' = c.writes tree := by
  have hsurvey : c.survey tree' = c.survey tree := by
    rw [CommentCount.survey, CommentCount.survey, h.counted_eq, List.foldlM_map]
    refine foldlM_congr (fun found n hn => ?_) _
    rw [h.commentLines n (CommentCount.mem_comments_of_mem_counted hn)]
  rw [CommentCount.writes, CommentCount.writes, hsurvey]

/-- **The default visitors write the same.** -/
theorem measure_eq (h : AlikeInCrlf c.analyzer tree tree') (path : String) :
    measure [.lines .lines, .linesOfCode .linesOfCode, .comments c] tree' path =
      measure [.lines .lines, .linesOfCode .linesOfCode, .comments c] tree path := by
  refine measure_congr (fun v hv => ?_) path
  simp only [List.mem_cons, List.not_mem_nil, or_false] at hv
  rcases hv with rfl | rfl | rfl
  · simp only [Visitor.lines, h.lines]
  · simp only [Visitor.linesOfCode, h.codeLines_eq]
  · simp only [Visitor.comments, h.writes_eq]

end AlikeInCrlf

namespace Syntax

open Lexeme (closedFront)

/-- **Trees of one text with LFs and with CR LFs** are alike, if the leaves of the one are those of
the other. -/
theorem alikeInCrlf_of_flatTree {path language : String} {s : List Char} (hcr : '\r' ∉ s)
    {tree tree' : SyntaxTree} (htree : flatTree path language s = .ok tree)
    (htree' : flatTree path language (crlf s) = .ok tree')
    (hchildren : tree'.root.children = tree.root.children.map Node.crlf)
    (hlines : tree'.lineCount = tree.lineCount) {a : CommentAnalyzer}
    (hfamilies : a.families = CommentFamily.ofC) : AlikeInCrlf a tree tree' where
  lines := hlines
  tokens := by
    rw [tokens_of_flatTree htree, tokens_of_flatTree htree', hchildren, List.filter_map]
    simp only [Function.comp_def, Node.isToken_crlf]
  comments := by
    rw [comments_of_flatTree htree, comments_of_flatTree htree', hchildren, List.filter_map]
    rfl
  commentLines n hn := by
    rw [comments_of_flatTree htree, List.mem_filter] at hn
    obtain ⟨hmem, hcomment⟩ := hn
    obtain ⟨l, hl, p, rfl⟩ := exists_of_mem_leavesFrom (flatTree_eq_ok htree).1 n hmem
    obtain ⟨rest, hshape⟩ := Lexeme.shape_of_mem_lexemes hl
    exact hshape.commentLines_crlf hfamilies (not_cr_mem_lexemes hcr l hl) hcomment p

/-- **CR LF counts as LF.**  Let a text have no CR.  If no literal in front of the first unclosed
opener goes over a line, the lexer accepts the text with LF exactly if it accepts it with CR LF,
or it refuses both for the same reason.  The leaves of the two trees agree in type, place and kind,
and in their texts up to the breaks, and whatever the settings, the default visitors write the same.
If a literal does go over a line, the lexer refuses the text with CR LF for a reason that it does
not refuse it for with LF. -/
theorem parse_crlf (catalog : Catalog) (language : Language) (path : String) {s : List Char}
    (hcr : '\r' ∉ s) :
    let parse := Parser.parse ⟨.lexer, language⟩ catalog path
    ((∀ l ∈ closedFront s, l.continued? = none) →
      ((∃ tree, parse (crlf s) = .ok tree) ↔ ∃ tree, parse s = .ok tree) ∧
      (∀ failure, parse (crlf s) = .error failure ↔ parse s = .error failure) ∧
      ∀ tree tree', parse s = .ok tree → parse (crlf s) = .ok tree' →
        tree'.root.children = tree.root.children.map Node.crlf ∧
        tree'.lineCount = tree.lineCount ∧
        ∀ settings visitors, defaultVisitors settings = .ok visitors →
          measure visitors tree' path = measure visitors tree path) ∧
    ((∃ l ∈ closedFront s, l.continued? ≠ none) →
      ∃ u : Unclosed, u.opener ≠ .blockComment ∧
        parse (crlf s) = .error (.parse path language.name u.reason) ∧
        parse s ≠ .error (.parse path language.name u.reason)) := by
  intro parse
  refine ⟨fun h => ?_, fun h => ?_⟩
  · obtain ⟨tree, tree', htree, htree', hchildren, hlines⟩ | ⟨u, hu, hu'⟩ :=
      flatTree_crlf path language.name hcr h
    · have hparse : parse s = .ok tree := parse_of_flatTree htree catalog
      have hparse' : parse (crlf s) = .ok tree' := parse_of_flatTree htree' catalog
      refine ⟨⟨fun _ => ⟨tree, hparse⟩, fun _ => ⟨tree', hparse'⟩⟩, fun failure => ?_, ?_⟩
      · rw [hparse, hparse']
        exact iff_of_false nofun nofun
      · rw [hparse, hparse']
        rintro _ _ ⟨⟩ ⟨⟩
        refine ⟨hchildren, hlines, fun settings visitors hvisitors => ?_⟩
        obtain ⟨c, -, -, hfamilies, -, -, rfl⟩ := defaultVisitors_eq_ok hvisitors
        exact (alikeInCrlf_of_flatTree hcr htree htree' hchildren hlines hfamilies).measure_eq path
    · have hparse := parse_of_fault hu catalog
      have hparse' := parse_of_fault hu' catalog
      simp only [parse, hparse, hparse', reduceCtorEq, exists_false, Except.error.injEq, true_and,
        implies_true, false_implies]
  · obtain ⟨u, hu, hliteral, hnot⟩ := flatTree_crlf_of_continued path language.name hcr h
    exact ⟨u, hliteral, parse_of_fault hu catalog, fun heq => hnot (fault_of_parse heq)⟩

set_option maxRecDepth 4000 in
/-- A message that a backslash continues, a comment over a line with a marker, and code below. -/
theorem parse_crlf_three_breaks :
    let parse (s : List Char) := Parser.parse ⟨.lexer, .objc⟩ .empty "a.m" s
    let s := "#error a\\\nb\n/* NOSONAR\n*/ x".toList
    ∃ visitors tree tree', '\r' ∉ s ∧ defaultVisitors .default = .ok visitors ∧
      parse s = .ok tree ∧ parse (crlf s) = .ok tree' ∧
      tree'.root.children = tree.root.children.map Node.crlf ∧
      tree'.lineCount = tree.lineCount ∧
      measure visitors tree' "a.m" = measure visitors tree "a.m" := by
  have hcr : '\r' ∉ "#error a\\\nb\n/* NOSONAR\n*/ x".toList := by decide
  have htree : ∃ tree, Parser.parse ⟨.lexer, .objc⟩ .empty "a.m"
      "#error a\\\nb\n/* NOSONAR\n*/ x".toList = .ok tree := ⟨_, by cbv⟩
  have hfront : (closedFront "#error a\\\nb\n/* NOSONAR\n*/ x".toList).map Lexeme.continued? =
      [none, none, none, none, none] := by cbv
  have hkeeps : ∀ l ∈ closedFront "#error a\\\nb\n/* NOSONAR\n*/ x".toList,
      l.continued? = none := by
    intro l hl
    have hmem := List.mem_map_of_mem (f := Lexeme.continued?) hl
    rw [hfront] at hmem
    simpa using hmem
  have hvisitors : ∃ visitors, defaultVisitors .default = .ok visitors := ⟨_, rfl⟩
  obtain ⟨haccept, -, hsame⟩ := (parse_crlf .empty .objc "a.m" hcr).1 hkeeps
  obtain ⟨tree, htree⟩ := htree
  obtain ⟨tree', htree'⟩ := haccept.2 ⟨tree, htree⟩
  obtain ⟨hchildren, hlines, hmeasure⟩ := hsame tree tree' htree htree'
  obtain ⟨visitors, hvisitors⟩ := hvisitors
  exact ⟨visitors, tree, tree', hcr, hvisitors, htree, htree', hchildren, hlines,
    hmeasure _ visitors hvisitors⟩

set_option maxRecDepth 4000 in
/-- A string that a backslash continues is accepted with LF and refused with CR LF. -/
theorem continued_string_is_refused_in_crlf :
    let parse (s : String) := Parser.parse ⟨.lexer, .objc⟩ .empty "a.m" s.toList
    crlf "\"a\\\nb\"".toList = "\"a\\\r\nb\"".toList ∧ (∃ tree, parse "\"a\\\nb\"" = .ok tree) ∧
      parse "\"a\\\r\nb\"" = .error (.parse "a.m" "objc" (Unclosed.reason ⟨.string, 1⟩)) :=
  have hfault : flatTree "a.m" "objc" "\"a\\\r\nb\"".toList = .error ⟨.string, 1⟩ := by cbv
  have htree : ∃ tree, flatTree "a.m" "objc" "\"a\\\nb\"".toList = .ok tree := ⟨_, by cbv⟩
  ⟨by decide, htree.imp fun _ (h : flatTree "a.m" Language.objc.name _ = _) =>
    parse_of_flatTree h .empty, @parse_of_fault .objc _ _ _ hfault .empty⟩

end Syntax
end LineMetrics
