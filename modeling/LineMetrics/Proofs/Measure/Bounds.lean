import LineMetrics.Proofs.Measure.CommentLines

/-!
# Bounds on the measures

Lines of code and comment lines are counted as sets of lines, so they are no more than the lines of
the file if each of them is one of these (specification, section 11).  That is so for a tree that
`Fits` its file, where tokens and comments stand on lines of the file and a comment has no more
breaks than lines to go down (`inBounds_of_measure`); and the tree that the lexer makes fits
(`Syntax.fits_of_flatTree`).
-/

namespace LineMetrics

/-- Lines of code and comment lines are no more than lines, and blank comment lines no more than
comment lines; a measure that is absent counts as 0. -/
structure Measures.InBounds (ms : Measures) : Prop where
  linesOfCode_le : ms.total .linesOfCode ≤ ms.total .lines
  commentBlankLines_le : ms.total .commentBlankLines ≤ ms.total .commentLines
  commentLines_le : ms.total .commentLines ≤ ms.total .lines

/-- A node stands on lines of a file with so many, and its text, counted from its first line, goes
no further than its last. -/
structure Node.StandsIn (lines : Int) (n : Node) : Prop where
  start_pos : 1 ≤ n.start.line
  text_le : n.start.line + Text.breakCount (n.text.getD []) ≤ n.endLine
  endLine_le : n.endLine ≤ lines

/-- Whatever has a text or is a comment, in the walk of a node, stands on lines of the file. -/
def Node.Fits (lines : Int) (n : Node) : Prop :=
  ∀ m ∈ n.walk, m.text.isSome = true ∨ m.isComment = true → m.StandsIn lines

namespace SyntaxTree

/-- The tree fits its file. -/
def Fits (t : SyntaxTree) : Prop := t.root.Fits t.lineCount

variable {t : SyntaxTree} {n : Node}

/-- What is listed in source order was walked. -/
theorem mem_walk_of_mem_listing {p : Node → Bool}
    (h : n ∈ (inSourceOrder (t.numbered.filter fun n => p n.1)).map Prod.fst) :
    n ∈ t.root.walk ∧ p n = true := by
  obtain ⟨e, he, rfl⟩ := List.mem_map.1 h
  rw [inSourceOrder, List.mem_mergeSort, List.mem_filter] at he
  exact ⟨List.fst_mem_of_mem_zipIdx he.1, he.2⟩

/-- Code of a tree that fits its lines stands in them. -/
theorem Fits.of_mem_tokens (ht : t.Fits) (h : n ∈ t.tokens) : n.StandsIn t.lineCount := by
  obtain ⟨hwalk, htoken⟩ := mem_walk_of_mem_listing h
  refine ht n hwalk (.inl ?_)
  cases htext : n.text with
  | none => simp [Node.isToken, htext] at htoken
  | some text => rfl

/-- Comments of a tree that fits its lines stand in them. -/
theorem Fits.of_mem_comments (ht : t.Fits) (h : n ∈ t.comments) : n.StandsIn t.lineCount := by
  obtain ⟨hwalk, hcomment⟩ := mem_walk_of_mem_listing h
  exact ht n hwalk (.inr hcomment)

end SyntaxTree

namespace CommentCount

variable {c : CommentCount} {t : SyntaxTree}

/-- What is added up are the lines of counted comments. -/
theorem exists_of_mem_survey {lines : List CommentLine} {found : List Int}
    (h : c.survey t = .ok (lines, found)) : ∀ l ∈ lines,
      ∃ n ∈ c.counted t, ∃ more, c.analyzer.commentLines n = .ok more ∧ l ∈ more := by
  refine foldlM_invariant (P := fun acc : List CommentLine × List Int => ∀ l ∈ acc.1,
    ∃ n ∈ c.counted t, ∃ more, c.analyzer.commentLines n = .ok more ∧ l ∈ more) ?_
    (List.forall_mem_nil _) h
  rintro n hn ⟨lines, found⟩ ⟨lines', found'⟩ hlines hstep l hl
  dsimp only at hstep
  cases hmore : c.analyzer.commentLines n with
  | error fault =>
    rw [hmore] at hstep
    exact nomatch hstep
  | ok more =>
    rw [hmore] at hstep
    obtain ⟨moreFound, -, hstep⟩ := bind_eq_ok_iff.1 hstep
    obtain ⟨rfl, -⟩ := Prod.mk.inj (Except.ok.inj hstep)
    rcases List.mem_append.1 hl with hl | hl
    · exact ⟨n, hn, more, hmore, List.mem_reverse.1 hl⟩
    · exact hlines l hl

/-- **Counted lines are lines of the file** if the tree fits it. -/
theorem within_of_mem_survey (ht : t.Fits) (hfamilies : c.analyzer.families = CommentFamily.ofC)
    {lines : List CommentLine} {found : List Int} (h : c.survey t = .ok (lines, found)) {a : Int}
    (ha : a ∈ numbers lines) : 1 ≤ a ∧ a ≤ t.lineCount := by
  rw [numbers, LineSet.mem_ofList] at ha
  obtain ⟨l, hl, rfl⟩ := List.mem_map.1 ha
  obtain ⟨n, hn, more, hmore, hmem⟩ := exists_of_mem_survey h l hl
  have hstands := ht.of_mem_comments (mem_comments_of_mem_counted hn)
  have hspan := (CommentAnalyzer.exists_number_iff hfamilies hmore _).1 ⟨l, hmem, rfl⟩
  have hstart := hstands.start_pos
  have htext := hstands.text_le
  have hend := hstands.endLine_le
  omega

end CommentCount

namespace Visitor

variable {t : SyntaxTree} {s s' : Sheet}

/-- A count of lines that was taken is not below 0. -/
theorem run_lines_eq_ok {m : Metric} (h : (Visitor.lines m).run t s = .ok s') :
    0 ≤ t.lineCount ∧ s'.measures = s.measures.put m t.lineCount := by
  by_cases hlines : 0 ≤ t.lineCount
  · rw [run_lines hlines] at h
    exact ⟨hlines, Except.ok.inj h ▸ rfl⟩
  · have hwrite := (run_eq_ok_iff.1 h).1
    rw [lines] at hwrite
    dsimp only at hwrite
    rw [Sheet.writeAll, List.foldlM_cons, Sheet.writeOwned, Write.metric?] at hwrite
    dsimp only at hwrite
    rw [if_pos List.mem_cons_self, Sheet.write, if_pos (by omega)] at hwrite
    cases hwrite

/-- **A comment visitor that goes through** has surveyed the comments and set both measures. -/
theorem run_comments_eq_ok {c : CommentCount} {blank : Metric} (hblank : c.blankMetric = some blank)
    (h : (Visitor.comments c).run t s = .ok s') :
    ∃ lines found, c.survey t = .ok (lines, found) ∧
      s'.measures = (s.measures.put c.commentMetric (CommentCount.numbers lines).size).put blank
        ((CommentCount.numbers lines).diff
          (CommentCount.numbers (lines.filter fun l => !isBlankLine l.text))).size := by
  obtain ⟨hwrites, hfault⟩ := run_eq_ok_iff.1 h
  have hobserve : (Visitor.comments c).observe t = .ofExcept (c.writes t) := rfl
  have howned : (Visitor.comments c).metrics = [c.commentMetric, blank] := by
    rw [comments, CommentCount.metrics, hblank]
    rfl
  rw [hobserve] at hwrites hfault
  cases hresult : c.writes t with
  | error fault =>
    rw [hresult] at hfault
    cases hfault
  | ok ws =>
    rw [hresult, howned] at hwrites
    rw [CommentCount.writes] at hresult
    obtain ⟨⟨lines, found⟩, hsurvey, hresult⟩ := bind_eq_ok_iff.1 hresult
    obtain rfl := Except.ok.inj hresult
    refine ⟨lines, found, hsurvey, ?_⟩
    rw [hblank] at hwrites
    dsimp only [Observation.ofExcept] at hwrites
    rw [List.cons_append, List.cons_append, List.nil_append,
      Sheet.writeAll_set List.mem_cons_self (Int.natCast_nonneg _),
      Sheet.writeAll_set (List.mem_cons_of_mem _ List.mem_cons_self) (Int.natCast_nonneg _)]
      at hwrites
    split at hwrites
    · exact Except.ok.inj hwrites ▸ rfl
    · rw [Sheet.writeAll_annotate] at hwrites
      exact Except.ok.inj hwrites ▸ rfl

end Visitor

/-- **The default visitors keep to the bounds** on every tree that fits its file, if they go
through. -/
theorem inBounds_of_measure {settings : Settings} {visitors : List Visitor} {t : SyntaxTree}
    {path : String} {sheet : Sheet} (hvisitors : defaultVisitors settings = .ok visitors)
    (ht : t.Fits) (h : measure visitors t path = .ok sheet) : sheet.measures.InBounds := by
  obtain ⟨c, hmetric, hblank, hfamilies, -, -, rfl⟩ := defaultVisitors_eq_ok hvisitors
  obtain ⟨s₁, hlines, h⟩ := bind_eq_ok_iff.1 h
  obtain ⟨s₂, hcode, h⟩ := bind_eq_ok_iff.1 h
  obtain ⟨s₃, hcomments, h⟩ := bind_eq_ok_iff.1 h
  obtain rfl := Except.ok.inj h
  obtain ⟨hpos, hlines⟩ := Visitor.run_lines_eq_ok hlines
  obtain rfl := Except.ok.inj ((Visitor.run_linesOfCode t .linesOfCode s₁).symm.trans hcode)
  obtain ⟨lines, found, hsurvey, hmeasures⟩ := Visitor.run_comments_eq_ok hblank hcomments
  have hcode : ((Visitor.codeLines t).size : Int) ≤ t.lineCount := by
    refine LineSet.size_le_of_within hpos fun a ha => ?_
    rw [Visitor.codeLines, LineSet.mem_ofList] at ha
    obtain ⟨n, hn, hline⟩ := List.mem_flatMap.1 ha
    have hstands := ht.of_mem_tokens hn
    have hstart := hstands.start_pos
    have hend := hstands.endLine_le
    rw [Node.mem_lines] at hline
    omega
  have hcomment : ((CommentCount.numbers lines).size : Int) ≤ t.lineCount :=
    LineSet.size_le_of_within hpos fun a => CommentCount.within_of_mem_survey ht hfamilies hsurvey
  have hless := LineSet.size_diff_le (CommentCount.numbers lines)
    (CommentCount.numbers (lines.filter fun l => !isBlankLine l.text))
  rw [hmeasures, hmetric, hlines]
  constructor <;> simp [Measures.total] <;> omega

namespace Scanner

/-- What is added when a sheet is finished is no measure. -/
theorem inBounds_of_finishedSheet {settings : Settings} {visitors : List Visitor}
    {tree : SyntaxTree} {key : String} {sheet : Sheet}
    (hvisitors : defaultVisitors settings = .ok visitors) (ht : tree.Fits)
    (h : finishedSheet visitors tree key = .ok sheet) : sheet.measures.InBounds := by
  obtain ⟨written, hwritten, hsheet⟩ := bind_eq_ok_iff.1 h
  have hbounds := inBounds_of_measure hvisitors ht hwritten
  exact Except.ok.inj hsheet ▸ hbounds

end Scanner

/-- **The tree of the lexer fits** every text: a leaf ends as many lines down as it has breaks, and
no leaf ends below the last line. -/
theorem Syntax.fits_of_flatTree {path language : String} {s : List Char} {tree : SyntaxTree}
    (h : flatTree path language s = .ok tree) : tree.Fits := by
  obtain ⟨-, hroot, htext, hlines⟩ := flatTree_eq_ok h
  intro n hn hmeasured
  rw [walk_of_flatTree h, List.mem_cons] at hn
  rcases hn with rfl | hn
  · simp [htext, hroot] at hmeasured
  · rw [children_of_flatTree h] at hn
    obtain ⟨p, hp, rfl⟩ := List.mem_map.1 hn
    have hplaced := List.mem_of_mem_filter hp
    refine ⟨?_, (endLine_of_mem_placed hplaced).ge, ?_⟩
    · have hline : (p.2.toNodeAt s p.1).start.line = 1 + Text.breakCount (s.take p.1) := rfl
      omega
    · rw [hlines]
      exact endLine_le_lineCount (Lexeme.toNodeAt_standsAt hplaced)

end LineMetrics
