import LineMetrics.Proofs.Measure.Comments

/-!
# Measures of a text put in front of another

A text that ends in an LF of its own shares no line with the text behind it, so what is counted in
the two together is what is counted in each (`Tally.ofTree_stack`).  Only the lines themselves
overlap: the LF starts a line in its own text too, and that line is the first one of the text behind
it.  With what the lexer makes of the two texts this is `parse_append_measure`.
-/

namespace LineMetrics

/-- The tally of a file put below another one, whose last line becomes its first. -/
def Tally.stack (top bottom : Tally) : Tally where
  lines := top.lines + bottom.lines - 1
  linesOfCode := top.linesOfCode + bottom.linesOfCode
  commentLines := top.commentLines + bottom.commentLines
  commentBlankLines := top.commentBlankLines + bottom.commentBlankLines
  suppressed := top.suppressed ++ bottom.suppressed.map (· + (top.lines - 1))

/-- The lines of a comment that is moved down are moved down. -/
theorem CommentAnalyzer.linesOf_down (a : CommentAnalyzer) (k : Int) (n : Node) :
    a.linesOf (n.down k) = (a.linesOf n).map (CommentLine.down k) := by
  rw [linesOf, linesOf, commentLines_down]
  cases a.commentLines n <;> rfl

namespace CommentCount

/-- Comment lines of both texts are gathered apart. -/
theorem numbers_append_down {k : Int} {top bottom : List CommentLine}
    (htop : ∀ l ∈ numbers top, l ≤ k) (hbottom : ∀ l ∈ numbers bottom, 1 ≤ l) :
    numbers (top ++ bottom.map (CommentLine.down k)) =
      LineSet.stack k (numbers top) (numbers bottom) htop hbottom := by
  have hmap : (bottom.map (CommentLine.down k)).map CommentLine.number =
      (bottom.map CommentLine.number).map (· + k) := by
    rw [List.map_map, List.map_map]
    rfl
  rw [numbers, List.map_append, hmap]
  exact LineSet.ofList_append_down htop hbottom

end CommentCount

/-- The leaves of one tree stand on top of those of another, moved down by `k`: the upper ones end
up to line `k`, and the lower ones start from line 1 on. -/
structure Stacked (k : Int) (top bottom tree : SyntaxTree) : Prop where
  tokens : tree.tokens = top.tokens ++ bottom.tokens.map (Node.down k)
  comments : tree.comments = top.comments ++ bottom.comments.map (Node.down k)
  endLine_le : ∀ n ∈ top.tokens ++ top.comments, n.endLine ≤ k
  one_le_line : ∀ n ∈ bottom.tokens ++ bottom.comments, 1 ≤ n.start.line

/-- The lines of the comments are lines that they span. -/
def CommentAnalyzer.KeepsLines (a : CommentAnalyzer) (t : SyntaxTree) : Prop :=
  ∀ n ∈ t.comments, ∀ l ∈ a.linesOf n, n.start.line ≤ l.number ∧ l.number ≤ n.endLine

namespace Stacked

variable {k : Int} {top bottom tree : SyntaxTree} {c : CommentCount}

/-- The code of the upper tree is not below its lines. -/
theorem codeLines_le (h : Stacked k top bottom tree) : ∀ l ∈ Visitor.codeLines top, l ≤ k := by
  intro l hl
  obtain ⟨n, hn, hl⟩ := List.mem_flatMap.1 (LineSet.mem_ofList.1 hl)
  have hend := h.endLine_le n (List.mem_append_left _ hn)
  rw [Node.mem_lines] at hl
  omega

/-- The code of the lower tree is not above its lines. -/
theorem one_le_codeLines (h : Stacked k top bottom tree) :
    ∀ l ∈ Visitor.codeLines bottom, 1 ≤ l := by
  intro l hl
  obtain ⟨n, hn, hl⟩ := List.mem_flatMap.1 (LineSet.mem_ofList.1 hl)
  have hstart := h.one_le_line n (List.mem_append_left _ hn)
  rw [Node.mem_lines] at hl
  omega

/-- **Lines of code** of both trees are those of each. -/
theorem codeLines_eq (h : Stacked k top bottom tree) :
    Visitor.codeLines tree = LineSet.stack k (Visitor.codeLines top) (Visitor.codeLines bottom)
      h.codeLines_le h.one_le_codeLines := by
  have hlines : tree.tokens.flatMap Node.lines =
      top.tokens.flatMap Node.lines ++ (bottom.tokens.flatMap Node.lines).map (· + k) := by
    rw [h.tokens, List.flatMap_append, List.flatMap_map, List.map_flatMap]
    simp only [Node.lines_down]
  rw [Visitor.codeLines, hlines]
  exact LineSet.ofList_append_down h.codeLines_le h.one_le_codeLines

/-- The comment lines of the whole are those of the upper tree, and those of the lower one further
down. -/
theorem allLines_eq (h : Stacked k top bottom tree) (hheader : c.ignoresHeader = false) :
    c.allLines tree = c.allLines top ++ (c.allLines bottom).map (CommentLine.down k) := by
  simp only [CommentCount.allLines, CommentCount.counted_of_not_ignoresHeader hheader]
  rw [h.comments, List.flatMap_append, List.flatMap_map, List.map_flatMap]
  simp only [CommentAnalyzer.linesOf_down]

/-- The comment lines of the upper tree are not below its lines. -/
theorem numbers_le (h : Stacked k top bottom tree) (hheader : c.ignoresHeader = false)
    (hkeeps : c.analyzer.KeepsLines top) : ∀ l ∈ CommentCount.numbers (c.allLines top), l ≤ k := by
  intro l hl
  obtain ⟨n, hn, line, hline, rfl⟩ := CommentCount.mem_numbers_allLines.1 hl
  rw [CommentCount.counted_of_not_ignoresHeader hheader] at hn
  have hend := h.endLine_le n (List.mem_append_right _ hn)
  have hwithin := hkeeps n hn line hline
  omega

/-- The comment lines of the lower tree are not above its lines. -/
theorem one_le_numbers (h : Stacked k top bottom tree) (hheader : c.ignoresHeader = false)
    (hkeeps : c.analyzer.KeepsLines bottom) :
    ∀ l ∈ CommentCount.numbers (c.allLines bottom), 1 ≤ l := by
  intro l hl
  obtain ⟨n, hn, line, hline, rfl⟩ := CommentCount.mem_numbers_allLines.1 hl
  rw [CommentCount.counted_of_not_ignoresHeader hheader] at hn
  have hstart := h.one_le_line n (List.mem_append_right _ hn)
  have hwithin := hkeeps n hn line hline
  omega

/-- **Comment lines** of both trees are those of each. -/
theorem numbers_eq (h : Stacked k top bottom tree) (hheader : c.ignoresHeader = false)
    (htop : c.analyzer.KeepsLines top) (hbottom : c.analyzer.KeepsLines bottom) :
    CommentCount.numbers (c.allLines tree) =
      LineSet.stack k (CommentCount.numbers (c.allLines top))
        (CommentCount.numbers (c.allLines bottom)) (h.numbers_le hheader htop)
        (h.one_le_numbers hheader hbottom) := by
  rw [h.allLines_eq hheader]
  exact CommentCount.numbers_append_down _ _

/-- Comment lines that are chosen by their text are chosen in both trees alike. -/
theorem numbers_filter_eq (h : Stacked k top bottom tree) (hheader : c.ignoresHeader = false)
    (htop : c.analyzer.KeepsLines top) (hbottom : c.analyzer.KeepsLines bottom)
    (p : List Char → Bool) :
    ∃ hle hge, CommentCount.numbers ((c.allLines tree).filter fun l => p l.text) =
      LineSet.stack k (CommentCount.numbers ((c.allLines top).filter fun l => p l.text))
        (CommentCount.numbers ((c.allLines bottom).filter fun l => p l.text)) hle hge := by
  have hchosen : ∀ {ls : List CommentLine} {line : Int},
      line ∈ CommentCount.numbers (ls.filter fun l => p l.text) →
        line ∈ CommentCount.numbers ls := by
    intro ls line hline
    obtain ⟨l, hl, hnumber⟩ := CommentCount.mem_numbers.1 hline
    exact CommentCount.mem_numbers.2 ⟨l, List.mem_of_mem_filter hl, hnumber⟩
  refine ⟨fun l hl => h.numbers_le hheader htop l (hchosen hl),
    fun l hl => h.one_le_numbers hheader hbottom l (hchosen hl), ?_⟩
  rw [h.allLines_eq hheader, List.filter_append, List.filter_map]
  exact CommentCount.numbers_append_down _ _

end Stacked

/-- **Tallies add up** where one tree stands on top of another. -/
theorem Tally.ofTree_stack {top bottom tree : SyntaxTree} {c : CommentCount}
    (h : Stacked (top.lineCount - 1) top bottom tree)
    (hlines : tree.lineCount = top.lineCount + bottom.lineCount - 1)
    (hheader : c.ignoresHeader = false) (htop : c.analyzer.KeepsLines top)
    (hbottom : c.analyzer.KeepsLines bottom) :
    ofTree c tree = (ofTree c top).stack (ofTree c bottom) := by
  obtain ⟨hwordedle, hwordedge, hworded⟩ :=
    h.numbers_filter_eq hheader htop hbottom fun text => !isBlankLine text
  obtain ⟨hmarkedle, hmarkedge, hmarked⟩ :=
    h.numbers_filter_eq hheader htop hbottom fun text => c.marker.finds text
  simp only [ofTree, stack, Tally.mk.injEq]
  refine ⟨hlines, ?_, ?_, ?_, ?_⟩
  · rw [h.codeLines_eq, LineSet.size_stack, Nat.cast_add]
  · rw [h.numbers_eq hheader htop hbottom, LineSet.size_stack, Nat.cast_add]
  · rw [h.numbers_eq hheader htop hbottom, CommentCount.wordedLines, hworded, LineSet.diff_stack,
      LineSet.size_stack, Nat.cast_add]
    rfl
  · rw [CommentCount.markedLines, hmarked, LineSet.toList_stack]
    rfl

namespace Syntax

/-- A tree of lexemes keeps the lines of its comments. -/
theorem keepsLines_of_flatTree {path language : String} {s : List Char} {tree : SyntaxTree}
    (h : flatTree path language s = .ok tree) {a : CommentAnalyzer}
    (hfamilies : a.families = CommentFamily.ofC) : a.KeepsLines tree := by
  intro n hn l hl
  obtain ⟨lines, hlines, hwithin⟩ := exists_commentLines_of_flatTree h hfamilies hn
  rw [CommentAnalyzer.linesOf_eq hlines] at hl
  exact hwithin l hl

/-- The leaves of a text stand on top of those of the text behind it. -/
theorem stacked_of_flatTree {path language : String} {a b s : List Char}
    {top bottom tree : SyntaxTree} (htop : flatTree path language a = .ok top)
    (hends : EndsLine a) (hbottom : flatTree path language b = .ok bottom)
    (htree : flatTree path language s = .ok tree)
    (hchildren : tree.root.children =
      top.root.children ++ bottom.root.children.map (Node.down (top.lineCount - 1))) :
    Stacked (top.lineCount - 1) top bottom tree := by
  constructor
  · rw [tokens_of_flatTree htree, tokens_of_flatTree htop, tokens_of_flatTree hbottom, hchildren,
      List.filter_append, List.filter_map]
    rfl
  · rw [comments_of_flatTree htree, comments_of_flatTree htop, comments_of_flatTree hbottom,
      hchildren, List.filter_append, List.filter_map]
    rfl
  · rw [tokens_of_flatTree htop, comments_of_flatTree htop]
    intro n hn
    rw [← hends.breakCount_eq htop]
    refine hends.endLine_le (flatTree_eq_ok htop).1 n ?_
    exact (List.mem_append.1 hn).elim List.mem_of_mem_filter List.mem_of_mem_filter
  · rw [tokens_of_flatTree hbottom, comments_of_flatTree hbottom]
    intro n hn
    refine one_le_line (flatTree_eq_ok hbottom).1 n ?_
    exact (List.mem_append.1 hn).elim List.mem_of_mem_filter List.mem_of_mem_filter

/-- **Measures add up at the end of a line.**  Let the lexer accept a text that ends in an LF.  If a
token holds the LF, it is a message in which a backslash takes it.  If no token does, then whatever
is put behind the text is accepted exactly if it is accepted alone, or it is refused for the same
reason, told for a line as much further down as the text has lines before its last one; and the
sheets that the visitors write show tallies of which one stands below the other. -/
theorem parse_append_measure (catalog : Catalog) (language : Language) (path : String)
    {settings : Settings} {visitors : List Visitor}
    (hvisitors : defaultVisitors settings = .ok visitors)
    (hheader : settings.isOn .ignoreHeader = false)
    (hmarker : Marker.ofValue (settings.get .marker) ≠ .unusable) {a b : List Char}
    {top : SyntaxTree} (ha : Parser.parse ⟨.lexer, language⟩ catalog path a = .ok top)
    (hlf : a.getLast? = some '\n') (hb : b ≠ []) :
    let parse := Parser.parse ⟨.lexer, language⟩ catalog path
    let sheet (t : Tally) := t.sheet path (.ofValue (settings.get .marker))
    (∀ n span, (n, span) ∈ top.root.children.zip (spans a) → span.Holds (a.length - 1) →
      n.type = "preproc_message" ∧ ∃ text, n.text = some text ∧
        (['\\', '\n'] <:+ text ∨ ['\\', '\r', '\n'] <:+ text)) ∧
    ((∀ span ∈ spans a, ¬span.Holds (a.length - 1)) →
      ∃ first : Tally, measure visitors top path = .ok (sheet first) ∧
        ((∃ tree, parse (a ++ b) = .ok tree) ↔ ∃ bottom, parse b = .ok bottom) ∧
        (∀ failure, parse b = .error failure → ∃ u : Unclosed,
          failure = .parse path language.name u.reason ∧
          parse (a ++ b) = .error
            (.parse path language.name (u.down (first.lines - 1)).reason)) ∧
        ∀ bottom tree, parse b = .ok bottom → parse (a ++ b) = .ok tree →
          ∃ second : Tally, measure visitors bottom path = .ok (sheet second) ∧
            measure visitors tree path = .ok (sheet (first.stack second))) := by
  intro parse sheet
  obtain ⟨c, hmetric, hblank, hfamilies, hignores, hcmarker, rfl⟩ := defaultVisitors_eq_ok hvisitors
  have hheader : c.ignoresHeader = false := hignores.trans hheader
  have hsheet : ∀ t, sheet t = t.sheet path c.marker := fun t => by rw [hcmarker]
  rw [← hcmarker] at hmarker
  have hmeasure : ∀ {s tree}, flatTree path language.name s = .ok tree →
      measure _ tree path = .ok (sheet (.ofTree c tree)) := fun h =>
    (measure_of_flatTree h hmarker hmetric hblank hfamilies path).trans (by rw [hsheet])
  have htop := flatTree_of_parse ha
  refine ⟨fun n span hn => message_of_holds_lf htop hlf hn, fun hfree => ?_⟩
  have hends : EndsLine a := ⟨hlf, hfree⟩
  refine ⟨.ofTree c top, hmeasure htop, ?_⟩
  -- What is behind the text is accepted in both places or refused in both.
  obtain ⟨bottom, tree, hbottom, htree, hchildren, hlines⟩ | ⟨u, hu, hdown⟩ :=
    flatTree_append htop hends hb
  · have hstacked := stacked_of_flatTree htop hends hbottom htree hchildren
    have htally := Tally.ofTree_stack hstacked hlines hheader
      (keepsLines_of_flatTree htop hfamilies) (keepsLines_of_flatTree hbottom hfamilies)
    have hparse := parse_of_flatTree hbottom catalog
    refine ⟨⟨fun _ => ⟨bottom, hparse⟩, fun _ => ⟨tree, parse_of_flatTree htree catalog⟩⟩, ?_, ?_⟩
    · intro failure hfailure
      exact nomatch hfailure.symm.trans hparse
    · intro bottom' tree' hbottom' htree'
      obtain rfl := Except.ok.inj (hbottom.symm.trans (flatTree_of_parse hbottom'))
      obtain rfl := Except.ok.inj (htree.symm.trans (flatTree_of_parse htree'))
      exact ⟨.ofTree c bottom, hmeasure hbottom, by rw [← htally]; exact hmeasure htree⟩
  · have hparse := parse_of_fault hu catalog
    have hparsedown := parse_of_fault hdown catalog
    refine ⟨⟨fun ⟨t, ht⟩ => (nomatch ht.symm.trans hparsedown),
      fun ⟨t, ht⟩ => (nomatch ht.symm.trans hparse)⟩, ?_, ?_⟩
    · intro failure hfailure
      exact ⟨u, Except.error.inj (hfailure.symm.trans hparse), hparsedown⟩
    · intro bottom' _ hbottom' _
      exact nomatch hbottom'.symm.trans hparse

/-- A literal and a suppressed comment, above a blank comment and code. -/
theorem parse_append_measure_two_parts :
    let parse (s : String) := Parser.parse ⟨.lexer, .objc⟩ .empty "a.m" s.toList
    let sheet (t : Tally) := t.sheet "a.m" (.text "NOSONAR".toList)
    ∃ visitors top bottom tree, defaultVisitors .default = .ok visitors ∧
      parse "'a' // NOSONAR\n" = .ok top ∧ parse "/* */ x" = .ok bottom ∧
      parse "'a' // NOSONAR\n/* */ x" = .ok tree ∧ ∃ first second : Tally,
        measure visitors top "a.m" = .ok (sheet first) ∧
        measure visitors bottom "a.m" = .ok (sheet second) ∧
        measure visitors tree "a.m" = .ok (sheet (first.stack second)) := by
  have hvisitors : ∃ visitors, defaultVisitors .default = .ok visitors := ⟨_, rfl⟩
  have htop : ∃ top, Parser.parse ⟨.lexer, .objc⟩ .empty "a.m" "'a' // NOSONAR\n".toList =
      .ok top := ⟨_, by cbv⟩
  have hbottom : ∃ bottom, Parser.parse ⟨.lexer, .objc⟩ .empty "a.m" "/* */ x".toList =
      .ok bottom := ⟨_, by cbv⟩
  have hspans : spans "'a' // NOSONAR\n".toList = [⟨0, 3⟩, ⟨4, 14⟩] := by cbv
  have hfree : ∀ span ∈ spans "'a' // NOSONAR\n".toList,
      ¬span.Holds ("'a' // NOSONAR\n".toList.length - 1) := by
    rw [hspans]
    decide
  obtain ⟨visitors, hvisitors⟩ := hvisitors
  obtain ⟨top, htop⟩ := htop
  obtain ⟨bottom, hbottom⟩ := hbottom
  obtain ⟨first, hfirst, haccept, -, hmeasure⟩ :=
    (parse_append_measure .empty .objc "a.m" hvisitors rfl (by decide) htop (by decide)
      (by decide : "/* */ x".toList ≠ [])).2 hfree
  obtain ⟨tree, htree⟩ := haccept.2 ⟨bottom, hbottom⟩
  obtain ⟨second, hsecond, hstack⟩ := hmeasure bottom tree hbottom htree
  exact ⟨visitors, top, bottom, tree, hvisitors, htop, hbottom, htree, first, second, hfirst,
    hsecond, hstack⟩

end Syntax
end LineMetrics
