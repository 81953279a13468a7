import LineMetrics.Proofs.Measure.Header
import LineMetrics.Proofs.Measure.HeaderExclusion
import LineMetrics.Proofs.Measure.Suppression

/-!
# Suppressed lines without the header comment

The comment visitor looks for the marker while it goes over the comments that it counts
(specification, section 4.2).  So leaving out the header leaves out more than its lines from the
counts: a marker that the header has is not found.  What is listed with the header and without it is
told by one lemma about the counted comments, `mem_marked_counted_iff`; the difference is the lines
on which no other comment has the marker (`suppressed_without_header`), and a file that is
suppressed by its header alone has one (`marker_in_header_is_lost`).
-/

namespace LineMetrics

namespace CommentCount

/-- The same way to count, looking for a marker, with the header comment or without it. -/
def lookingFor (c : CommentCount) (marker : List Char) (ignoresHeader : Bool) : CommentCount :=
  { c.ignoring ignoresHeader with marker := .text marker }

/-- The lines that are listed for a marker, with the header comment or without it. -/
def listed (c : CommentCount) (marker : List Char) (ignoresHeader : Bool) (t : SyntaxTree) :
    List Int :=
  (Tally.ofTree (c.lookingFor marker ignoresHeader) t).suppressed

variable {c : CommentCount} {marker : List Char} {t : SyntaxTree}

/-- The lines listed are in strict order. -/
theorem listed_pairwise (ignoresHeader : Bool) :
    (c.listed marker ignoresHeader t).Pairwise (· < ·) :=
  LineSet.increasing _

/-- The lists with and without the header are the same if they have the same lines. -/
theorem listed_congr (h : ∀ line, line ∈ c.listed marker true t ↔ line ∈ c.listed marker false t) :
    c.listed marker true t = c.listed marker false t :=
  congrArg LineSet.toList (LineSet.ext h)

/-- Without a header there is nothing to leave out. -/
theorem listed_of_no_header (hheader : true ∉ t.headerFlags) :
    c.listed marker true t = c.listed marker false t := by
  have hall : (c.lookingFor marker true).allLines t = (c.lookingFor marker false).allLines t :=
    congrArg (List.flatMap c.analyzer.linesOf)
      (SyntaxTree.commentsBelowHeader_of_no_header hheader)
  exact congrArg (fun ls : List CommentLine =>
    (numbers (ls.filter fun l => Text.occursIn marker l.text)).toList) hall

end CommentCount

namespace Syntax

/-- A comment spans a line and has the marker there between its delimiters. -/
def Suppresses (s marker : List Char) (line : Int) (c : Node × Span) : Prop :=
  c.1.start.line ≤ line ∧ line ≤ c.1.endLine ∧
    ∃ f ∈ CommentFamily.ofC, f.opening <+: c.2.text s ∧ marker <:+: (f.inner c.2).onLine s line

section

variable {path language : String} {s : List Char} {tree : SyntaxTree} {c : CommentCount}

/-- **A line is listed** exactly if one of the counted comments suppresses it. -/
theorem mem_marked_counted_iff (h : flatTree path language s = .ok tree)
    (hfamilies : c.analyzer.families = CommentFamily.ofC) {counted : List (Node × Span)}
    (hcomments : ∀ n ∈ counted, n ∈ commentSpans tree s)
    (hcounted : c.counted tree = counted.map Prod.fst) (marker : List Char) (line : Int) :
    line ∈ CommentCount.numbers
        ((c.allLines tree).filter fun l => Text.occursIn marker l.text) ↔
      ∃ n ∈ counted, Suppresses s marker line n := by
  rw [CommentCount.mem_numbers_filter, hcounted]
  simp only [List.mem_map, exists_exists_and_eq_and]
  refine exists_congr fun n => and_congr_right fun hn => ?_
  obtain ⟨p, hp, hcomment, rfl⟩ := (mem_commentSpans_of_flatTree h).1 (hcomments n hn)
  exact exists_marked_iff h hfamilies hp hcomment marker line

section

variable {marker : List Char}

/-- A visitor that looks for a marker comes to its end, and annotates the lines it has listed. -/
theorem exists_run_lookingFor (h : flatTree path language s = .ok tree)
    (hfamilies : c.analyzer.families = CommentFamily.ofC) (marker : List Char)
    (ignoresHeader : Bool) (sheet : Sheet) :
    ∃ written, (Visitor.comments (c.lookingFor marker ignoresHeader)).run tree sheet =
      .ok written ∧ written.annotations = sheet.annotations.put suppressedLinesKey
        (.list ((c.listed marker ignoresHeader tree).map Value.int)) := by
  have hread := exists_commentLines_of_counted (c := c.lookingFor marker ignoresHeader) h hfamilies
  exact ⟨_, Visitor.run_comments_eq (by simp [CommentCount.lookingFor]) hread sheet, rfl⟩

/-- With the header, all comments count. -/
theorem mem_listed_iff (h : flatTree path language s = .ok tree)
    (hfamilies : c.analyzer.families = CommentFamily.ofC) (line : Int) :
    line ∈ c.listed marker false tree ↔ IsSuppressedLine tree s marker line :=
  mem_marked_counted_iff (c := c.lookingFor marker false) h hfamilies (fun _ => id)
    (map_fst_commentSpans h).symm marker line

variable {header : Node × Span} {rest : List (Node × Span)}

/-- Without the header, the comments behind it count. -/
theorem mem_listed_below_iff (h : flatTree path language s = .ok tree)
    (hfamilies : c.analyzer.families = CommentFamily.ofC)
    (hspans : commentSpans tree s = header :: rest) (hheader : tree.headerFlags.head? = some true)
    (line : Int) :
    line ∈ c.listed marker true tree ↔ ∃ n ∈ rest, Suppresses s marker line n := by
  have hcomments : tree.comments = header.1 :: rest.map Prod.fst := by
    rw [← map_fst_commentSpans h, hspans, List.map_cons]
  refine mem_marked_counted_iff (c := c.lookingFor marker true) h hfamilies (fun n hn => ?_)
    (SyntaxTree.commentsBelowHeader_of_header hcomments hheader) marker line
  rw [hspans]
  exact List.mem_cons_of_mem header hn

/-- **Nothing is lost** exactly if the header suppresses no line alone. -/
theorem listed_eq_iff (h : flatTree path language s = .ok tree)
    (hfamilies : c.analyzer.families = CommentFamily.ofC)
    (hspans : commentSpans tree s = header :: rest)
    (hheader : tree.headerFlags.head? = some true) :
    c.listed marker true tree = c.listed marker false tree ↔
      ∀ line, Suppresses s marker line header → ∃ n ∈ rest, Suppresses s marker line n := by
  have hoff : ∀ line, line ∈ c.listed marker false tree ↔
      Suppresses s marker line header ∨ ∃ n ∈ rest, Suppresses s marker line n := by
    intro line
    refine (mem_listed_iff h hfamilies line).trans ?_
    rw [IsSuppressedLine, hspans]
    exact List.exists_mem_cons_iff ..
  have hon : ∀ line, line ∈ c.listed marker true tree ↔
      ∃ n ∈ rest, Suppresses s marker line n := mem_listed_below_iff h hfamilies hspans hheader
  constructor
  · intro hsame line hline
    rw [← hon, hsame, hoff]
    exact .inl hline
  · intro hcovered
    refine CommentCount.listed_congr fun line => ?_
    rw [hon, hoff]
    exact (or_iff_right_of_imp (hcovered line)).symm

end

/-- **Leaving out the header loses its suppressions.**  On a text that the lexer accepts, a comment
visitor that looks for a marker goes through with the header comment and without it, and lists lines
in increasing order and each once.  With the header they are the suppressed lines of the source.  If
no comment is the header the lists are the same.  Otherwise those without it are the lines that
another comment suppresses, so the lists are the same exactly if another comment suppresses each
line that the header does. -/
theorem suppressed_without_header {catalog : Catalog} {language : Language}
    (h : Parser.parse ⟨.lexer, language⟩ catalog path s = .ok tree)
    (hfamilies : c.analyzer.families = CommentFamily.ofC) {marker : String} (hmarker : marker ≠ "")
    (sheet : Sheet) :
    let visitor (ignoresHeader : Bool) : Visitor :=
      .comments { c.ignoring ignoresHeader with marker := .ofValue (.text marker) }
    ∃ (off on : Sheet) (offLines onLines : List Int),
      (visitor false).run tree sheet = .ok off ∧ (visitor true).run tree sheet = .ok on ∧
      off.annotations =
        sheet.annotations.put suppressedLinesKey (.list (offLines.map Value.int)) ∧
      on.annotations =
        sheet.annotations.put suppressedLinesKey (.list (onLines.map Value.int)) ∧
      offLines.Pairwise (· < ·) ∧ onLines.Pairwise (· < ·) ∧
      (∀ line, line ∈ offLines ↔ IsSuppressedLine tree s marker.toList line) ∧
      (true ∉ tree.headerFlags → onLines = offLines) ∧
      ∀ header rest, commentSpans tree s = header :: rest → tree.headerFlags.head? = some true →
        (∀ line, line ∈ onLines ↔ ∃ n ∈ rest, Suppresses s marker.toList line n) ∧
        (onLines = offLines ↔ ∀ line, Suppresses s marker.toList line header →
          ∃ n ∈ rest, Suppresses s marker.toList line n) := by
  intro visitor
  have hflat := flatTree_of_parse h
  have hlooksFor : Marker.ofValue (.text marker) = .text marker.toList := by
    rw [Marker.ofValue, if_neg (by simpa using hmarker)]
  have hvisitor : ∀ ignoresHeader,
      visitor ignoresHeader = .comments (c.lookingFor marker.toList ignoresHeader) := by
    intro ignoresHeader
    dsimp only [visitor]
    rw [hlooksFor]
    rfl
  rw [hvisitor, hvisitor]
  obtain ⟨off, hoff, hoffLines⟩ := exists_run_lookingFor hflat hfamilies marker.toList false sheet
  obtain ⟨on, hon, honLines⟩ := exists_run_lookingFor hflat hfamilies marker.toList true sheet
  exact ⟨off, on, _, _, hoff, hon, hoffLines, honLines, CommentCount.listed_pairwise false,
    CommentCount.listed_pairwise true, mem_listed_iff hflat hfamilies,
    CommentCount.listed_of_no_header, fun header rest hspans hheader =>
      ⟨mem_listed_below_iff hflat hfamilies hspans hheader,
        listed_eq_iff hflat hfamilies hspans hheader⟩⟩

/-- The lines that are listed can be told from the annotations. -/
theorem lines_of_put_eq {l : Annotations} {ms ns : List Int}
    (h : l.put suppressedLinesKey (.list (ms.map Value.int)) =
      l.put suppressedLinesKey (.list (ns.map Value.int))) : ms = ns := by
  have hinjective : Function.Injective (List.map Value.int) :=
    List.map_injective_iff.2 fun _ _ => Value.int.inj
  have hvalues := congrArg (Listing.get? · suppressedLinesKey) h
  simp only [Listing.get?_put, if_true, Option.some.injEq, Value.list.injEq] at hvalues
  exact hinjective hvalues

/-- A comment visitor that looks for a marker, with the header comment or without it. -/
def seeking (marker : String) (ignoresHeader : Bool) : CommentCount :=
  ⟨.commentLines, some .commentBlankLines, .cFamily, ignoresHeader, .ofValue (.text marker)⟩

set_option maxRecDepth 8000 in
/-- A header with the marker on two lines, and another comment with it on the second of them: the
second line is listed without the header too. -/
theorem suppressed_without_header_shared_line :
    let s := "/* X\nX */ // X".toList
    ∃ tree header rest, Parser.parse ⟨.lexer, .objc⟩ .empty "a.m" s = .ok tree ∧
      commentSpans tree s = header :: rest ∧ tree.headerFlags.head? = some true ∧
      ((Visitor.comments (seeking "X" false)).run tree (.blank "a.m")).map Sheet.annotations =
        .ok (Listing.empty.put suppressedLinesKey (.list [.int 1, .int 2])) ∧
      ((Visitor.comments (seeking "X" true)).run tree (.blank "a.m")).map Sheet.annotations =
        .ok (Listing.empty.put suppressedLinesKey (.list [.int 2])) ∧
      ¬∀ line, Suppresses s ['X'] line header → ∃ n ∈ rest, Suppresses s ['X'] line n := by
  intro s
  obtain ⟨tree, htree, hheader, hoff, hon⟩ : ∃ tree,
      Parser.parse ⟨.lexer, .objc⟩ .empty "a.m" "/* X\nX */ // X".toList = .ok tree ∧
      tree.headerFlags.head? = some true ∧
      ((Visitor.comments (seeking "X" false)).run tree (.blank "a.m")).map Sheet.annotations =
        .ok (Listing.empty.put suppressedLinesKey (.list [.int 1, .int 2])) ∧
      ((Visitor.comments (seeking "X" true)).run tree (.blank "a.m")).map Sheet.annotations =
        .ok (Listing.empty.put suppressedLinesKey (.list [.int 2])) :=
    ⟨_, by cbv, by cbv, by cbv, by cbv⟩
  obtain ⟨header, rest, hspans⟩ : ∃ header rest, commentSpans tree s = header :: rest := by
    refine List.exists_cons_of_ne_nil fun hnil => ?_
    have hnone : tree.comments = [] := by
      rw [← map_fst_commentSpans (flatTree_of_parse htree), hnil, List.map_nil]
    rw [SyntaxTree.headerFlags, hnone] at hheader
    cases hheader
  obtain ⟨sheetOff, sheetOn, offLines, onLines, hrunOff, hrunOn, hlistOff, hlistOn, -, -, -, -,
    hheaded⟩ := suppressed_without_header htree (c := seeking "X" false)
      CommentFamily.mergeSort_ofC (by decide : "X" ≠ "") (.blank "a.m")
  have hoffLines : [1, 2] = offLines := by
    have hwritten := hoff.symm.trans (congrArg (Except.map Sheet.annotations) hrunOff)
    exact lines_of_put_eq ((Except.ok.inj hwritten).trans hlistOff)
  have honLines : [2] = onLines := by
    have hwritten := hon.symm.trans (congrArg (Except.map Sheet.annotations) hrunOn)
    exact lines_of_put_eq ((Except.ok.inj hwritten).trans hlistOn)
  refine ⟨tree, header, rest, htree, hspans, hheader, hoff, hon, fun hcovered => ?_⟩
  have hsame := (hheaded header rest hspans hheader).2.2 hcovered
  rw [← hoffLines, ← honLines] at hsame
  cases hsame

set_option maxRecDepth 8000 in
/-- **A marker in the header is lost.**  The text has it in its header only. -/
theorem marker_in_header_is_lost :
    ∃ tree, Parser.parse ⟨.lexer, .objc⟩ .empty "a.m" "// NOSONAR\nint x;".toList = .ok tree ∧
      ((Visitor.comments (seeking "NOSONAR" false)).run tree (.blank "a.m")).map
        Sheet.annotations = .ok (Listing.empty.put suppressedLinesKey (.list [.int 1])) ∧
      ((Visitor.comments (seeking "NOSONAR" true)).run tree (.blank "a.m")).map
        Sheet.annotations = .ok (Listing.empty.put suppressedLinesKey (.list [])) :=
  ⟨_, by cbv, by cbv, by cbv⟩

end

end Syntax
end LineMetrics
