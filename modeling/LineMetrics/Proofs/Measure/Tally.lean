import LineMetrics.Proofs.LineSet
import LineMetrics.Proofs.Scan.Reading

/-!
# What the visitors of a scan write

The default visitors write four measures and one annotation, and each of them is a number or a list
that the tree alone decides: its `Tally` (specification, section 4.3).  If every counted comment has
contents and the marker is one that can be looked for, no write is refused and the sheet shows the
tally: `measure_eq_tally`.
-/

namespace LineMetrics

/-- Whether a line holds the marker; only a text can be found. -/
def Marker.finds (line : List Char) : Marker → Bool
  | .text marker => Text.occursIn marker line
  | _ => false

/-- A marker that can be looked for is found, or it is not. -/
theorem Marker.isIn_eq {marker : Marker} (h : marker ≠ .unusable) (line : List Char) :
    marker.isIn line = .ok (marker.finds line) := by
  cases marker with
  | off => rfl
  | text marker => rfl
  | unusable => exact absurd rfl h

/-- The lines of a comment, none if it has no contents. -/
def CommentAnalyzer.linesOf (a : CommentAnalyzer) (comment : Node) : List CommentLine :=
  (a.commentLines comment).toOption.getD []

/-- The lines of a comment that has some are these. -/
theorem CommentAnalyzer.linesOf_eq {a : CommentAnalyzer} {comment : Node}
    {lines : List CommentLine} (h : a.commentLines comment = .ok lines) :
    a.linesOf comment = lines := by
  rw [linesOf, h]
  rfl

/-- What the default visitors count in a file. -/
structure Tally where
  lines : Int
  linesOfCode : Int
  commentLines : Int
  commentBlankLines : Int
  /-- The lines with the marker, in order. -/
  suppressed : List Int
  deriving Repr, DecidableEq

/-- The sheet that shows a tally: its measures, and the suppressed lines if a marker is looked
for. -/
def Tally.sheet (path : String) (marker : Marker) (t : Tally) : Sheet where
  path := path
  measures := (((Listing.empty.put .lines t.lines).put .linesOfCode t.linesOfCode).put
    .commentLines t.commentLines).put .commentBlankLines t.commentBlankLines
  annotations := if marker = .off then .empty else
    Listing.empty.put suppressedLinesKey (.list (t.suppressed.map Value.int))

/-- The measures of the sheet are those of the tally. -/
theorem Tally.total_sheet (path : String) (marker : Marker) (t : Tally) :
    (t.sheet path marker).measures.total .lines = t.lines ∧
      (t.sheet path marker).measures.total .linesOfCode = t.linesOfCode ∧
      (t.sheet path marker).measures.total .commentLines = t.commentLines ∧
      (t.sheet path marker).measures.total .commentBlankLines = t.commentBlankLines := by
  simp [Measures.total, sheet]

namespace CommentCount

/-- The lines of all counted comments. -/
def allLines (c : CommentCount) (t : SyntaxTree) : List CommentLine :=
  (c.counted t).flatMap c.analyzer.linesOf

/-- The lines with a letter or a number. -/
def wordedLines (c : CommentCount) (t : SyntaxTree) : List CommentLine :=
  (c.allLines t).filter fun l => !isBlankLine l.text

/-- The lines with the marker. -/
def markedLines (c : CommentCount) (t : SyntaxTree) : List CommentLine :=
  (c.allLines t).filter fun l => c.marker.finds l.text

/-- The set of the numbers of comment lines. -/
def numbers (ls : List CommentLine) : LineSet := .ofList (ls.map CommentLine.number)

/-- A line is among the numbers if a comment line has it. -/
theorem mem_numbers {ls : List CommentLine} {line : Int} :
    line ∈ numbers ls ↔ ∃ l ∈ ls, l.number = line := by
  rw [numbers, LineSet.mem_ofList, List.mem_map]

/-- The numbers do not depend on the order of the comment lines. -/
theorem numbers_reverse (ls : List CommentLine) : numbers ls.reverse = numbers ls :=
  LineSet.ext fun _ => by simp [numbers]

section

variable {c : CommentCount} {t : SyntaxTree}

/-- Header or not, what is counted are comments. -/
theorem mem_comments_of_mem_counted {n : Node} (h : n ∈ c.counted t) : n ∈ t.comments := by
  rw [counted] at h
  split at h
  · rw [SyntaxTree.commentsBelowHeader] at h
    cases hcomments : t.comments with
    | nil => rw [hcomments] at h; exact h
    | cons first rest =>
      rw [hcomments] at h
      dsimp only at h
      split at h
      · exact List.mem_cons_of_mem first h
      · exact h
  · exact h

/-- A count that includes the header counts every comment. -/
theorem counted_of_not_ignoresHeader (hheader : c.ignoresHeader = false) (t : SyntaxTree) :
    c.counted t = t.comments := by
  rw [counted, if_neg (by simp [hheader])]

/-- What is added up over the comments, as something that one of them has. -/
theorem mem_numbers_filter {q : CommentLine → Bool} {line : Int} :
    line ∈ numbers ((c.allLines t).filter q) ↔
      ∃ n ∈ c.counted t, ∃ l ∈ c.analyzer.linesOf n, q l = true ∧ l.number = line := by
  rw [mem_numbers, allLines]
  constructor
  · rintro ⟨l, hl, rfl⟩
    obtain ⟨hall, hq⟩ := List.mem_filter.1 hl
    obtain ⟨n, hn, hmem⟩ := List.mem_flatMap.1 hall
    exact ⟨n, hn, l, hmem, hq, rfl⟩
  · rintro ⟨n, hn, l, hl, hq, rfl⟩
    exact ⟨l, List.mem_filter.2 ⟨List.mem_flatMap.2 ⟨n, hn, hl⟩, hq⟩, rfl⟩

/-- The comment lines are those of the comments that are counted. -/
theorem mem_numbers_allLines {line : Int} : line ∈ numbers (c.allLines t) ↔
    ∃ n ∈ c.counted t, ∃ l ∈ c.analyzer.linesOf n, l.number = line := by
  have hall : c.allLines t = (c.allLines t).filter fun _ => true := by simp
  rw [hall, mem_numbers_filter]
  simp

end

end CommentCount

/-- The tally of a tree. -/
def Tally.ofTree (c : CommentCount) (t : SyntaxTree) : Tally where
  lines := t.lineCount
  linesOfCode := (Visitor.codeLines t).size
  commentLines := (CommentCount.numbers (c.allLines t)).size
  commentBlankLines :=
    ((CommentCount.numbers (c.allLines t)).diff (CommentCount.numbers (c.wordedLines t))).size
  suppressed := (CommentCount.numbers (c.markedLines t)).toList

/-! ### Adding up the comments -/

/-- A fold that puts what each item gives in front of two lists. -/
theorem foldlM_reverse_append {ε ι α β : Type} (g : ι → List α) (h : ι → List β)
    {f : List α × List β → ι → Except ε (List α × List β)} {is : List ι}
    (hf : ∀ acc, ∀ i ∈ is, f acc i = .ok ((g i).reverse ++ acc.1, (h i).reverse ++ acc.2))
    (acc : List α × List β) :
    is.foldlM f acc =
      .ok ((is.flatMap g).reverse ++ acc.1, (is.flatMap h).reverse ++ acc.2) := by
  induction is generalizing acc with
  | nil => rfl
  | cons i is ih =>
    have hfirst := hf acc i List.mem_cons_self
    have hrest := ih (fun acc j hj => hf acc j (List.mem_cons_of_mem i hj))
    rw [List.foldlM_cons, hfirst]
    refine (hrest _).trans ?_
    simp only [List.flatMap_cons, List.reverse_append, List.append_assoc]

namespace CommentCount

/-- The marked lines are those in whose text the marker is found, the last one first. -/
theorem marked_eq {marker : Marker} (hmarker : marker ≠ .unusable) (ls : List CommentLine) :
    marked marker ls = .ok ((ls.filter fun l => marker.finds l.text).map
      CommentLine.number).reverse := by
  have hmore : ∀ found : List Int, ls.foldlM (m := Except Fault) (fun found l => do
      if ← marker.isIn l.text then return l.number :: found else return found) found =
        .ok (((ls.filter fun l => marker.finds l.text).map CommentLine.number).reverse ++
          found) := by
    induction ls with
    | nil => exact fun found => rfl
    | cons l ls ih =>
      intro found
      rw [List.foldlM_cons, Marker.isIn_eq hmarker]
      cases hfinds : marker.finds l.text with
      | false =>
        rw [List.filter_cons_of_neg (by simp [hfinds])]
        exact ih found
      | true =>
        rw [List.filter_cons_of_pos (by simpa using hfinds), List.map_cons, List.reverse_cons,
          List.append_assoc]
        exact ih (l.number :: found)
  rw [marked, hmore, List.append_nil]

/-- The survey finds the lines of all counted comments, last ones first. -/
theorem survey_eq {c : CommentCount} {t : SyntaxTree} (hmarker : c.marker ≠ .unusable)
    (hread : ∀ n ∈ c.counted t, ∃ lines, c.analyzer.commentLines n = .ok lines) :
    c.survey t =
      .ok ((c.allLines t).reverse, ((c.markedLines t).map CommentLine.number).reverse) := by
  rw [survey, allLines, markedLines, allLines, List.filter_flatMap, List.map_flatMap]
  rw [foldlM_reverse_append c.analyzer.linesOf (fun n => ((c.analyzer.linesOf n).filter
    fun l => c.marker.finds l.text).map CommentLine.number) (fun acc n hn => ?_), List.append_nil,
    List.append_nil]
  obtain ⟨more, hmore⟩ := hread n hn
  dsimp only
  rw [hmore, CommentAnalyzer.linesOf_eq hmore]
  dsimp only
  rw [marked_eq hmarker]
  rfl

/-- **What a comment visitor writes** where all counted comments have contents. -/
theorem writes_eq {c : CommentCount} {t : SyntaxTree} (hmarker : c.marker ≠ .unusable)
    (hread : ∀ n ∈ c.counted t, ∃ lines, c.analyzer.commentLines n = .ok lines) :
    c.writes t = .ok (
      .set c.commentMetric (Tally.ofTree c t).commentLines ::
      c.blankMetric.toList.map (Write.set · (Tally.ofTree c t).commentBlankLines) ++
      if c.marker = .off then [] else
        [.annotate suppressedLinesKey (.list ((Tally.ofTree c t).suppressed.map Value.int))]) := by
  have hall : LineSet.ofList ((c.allLines t).reverse.map CommentLine.number) =
      numbers (c.allLines t) := numbers_reverse _
  have hworded : LineSet.ofList (((c.allLines t).reverse.filter fun l =>
      !isBlankLine l.text).map CommentLine.number) = numbers (c.wordedLines t) := by
    rw [List.filter_reverse]
    exact numbers_reverse _
  have hmarked : LineSet.ofList ((c.markedLines t).map CommentLine.number).reverse =
      numbers (c.markedLines t) := by
    rw [← List.map_reverse]
    exact numbers_reverse _
  rw [writes, survey_eq hmarker hread]
  refine congrArg Except.ok ?_
  simp only [hall, hworded, hmarked]
  cases c.blankMetric <;> cases hm : c.marker <;> rfl

end CommentCount

/-! ### Writing the sheet -/

namespace Sheet

/-- Setting a metric that is owned to a value not below 0 is the first of the writes that follow. -/
theorem writeAll_set {owned : List Metric} {s : Sheet} {m : Metric} {value : Int} (hm : m ∈ owned)
    (hvalue : 0 ≤ value) (ws : List Write) :
    s.writeAll owned (.set m value :: ws) =
      { s with measures := s.measures.put m value }.writeAll owned ws := by
  rw [writeAll, List.foldlM_cons, writeOwned, Write.metric?]
  dsimp only
  rw [if_pos hm, write, if_neg (by omega)]
  rfl

/-- Annotating is never refused. -/
theorem writeAll_annotate {owned : List Metric} (s : Sheet) (key : String) (value : Value)
    (ws : List Write) :
    s.writeAll owned (.annotate key value :: ws) =
      { s with annotations := s.annotations.put key value }.writeAll owned ws := rfl

end Sheet

namespace Visitor

/-- The visitor of lines writes their number. -/
theorem run_lines {t : SyntaxTree} (hlines : 0 ≤ t.lineCount) (m : Metric) (s : Sheet) :
    (Visitor.lines m).run t s = .ok { s with measures := s.measures.put m t.lineCount } := by
  refine run_eq_ok_iff.2 ⟨?_, rfl⟩
  rw [lines]
  dsimp only
  rw [Sheet.writeAll_set List.mem_cons_self hlines]
  rfl

/-- The visitor of code writes the number of lines with code. -/
theorem run_linesOfCode (t : SyntaxTree) (m : Metric) (s : Sheet) :
    (Visitor.linesOfCode m).run t s =
      .ok { s with measures := s.measures.put m (codeLines t).size } := by
  refine run_eq_ok_iff.2 ⟨?_, rfl⟩
  rw [linesOfCode]
  dsimp only
  rw [Sheet.writeAll_set List.mem_cons_self (Int.natCast_nonneg _)]
  rfl

/-- **A comment visitor** writes what its tree has of comment lines, and the suppressed lines if a
marker is looked for. -/
theorem run_comments_eq {c : CommentCount} {t : SyntaxTree} (hmarker : c.marker ≠ .unusable)
    (hread : ∀ n ∈ c.counted t, ∃ lines, c.analyzer.commentLines n = .ok lines) (s : Sheet) :
    (Visitor.comments c).run t s = .ok {
      s with
      measures := c.blankMetric.toList.foldl
        (fun ms blank => ms.put blank (Tally.ofTree c t).commentBlankLines)
        (s.measures.put c.commentMetric (Tally.ofTree c t).commentLines)
      annotations := if c.marker = .off then s.annotations else
        s.annotations.put suppressedLinesKey
          (.list ((Tally.ofTree c t).suppressed.map Value.int)) } := by
  have hobserve : (Visitor.comments c).observe t = .ofExcept (c.writes t) := rfl
  rw [CommentCount.writes_eq hmarker hread] at hobserve
  have hcount : 0 ≤ (Tally.ofTree c t).commentLines := Int.natCast_nonneg _
  have hcountBlank : 0 ≤ (Tally.ofTree c t).commentBlankLines := Int.natCast_nonneg _
  have hannotate : ∀ {owned : List Metric} (s : Sheet), s.writeAll owned
      (if c.marker = .off then [] else
        [.annotate suppressedLinesKey (.list ((Tally.ofTree c t).suppressed.map Value.int))]) =
      .ok {
        s with
        annotations := if c.marker = .off then s.annotations else
          s.annotations.put suppressedLinesKey
            (.list ((Tally.ofTree c t).suppressed.map Value.int)) } := by
    intro owned s
    split <;> rfl
  refine run_eq_ok_iff.2 ⟨?_, by rw [hobserve]; rfl⟩
  rw [hobserve]
  dsimp only [Observation.ofExcept, comments, CommentCount.metrics]
  rw [List.cons_append, Sheet.writeAll_set List.mem_cons_self hcount]
  cases c.blankMetric with
  | none => exact hannotate _
  | some blank =>
    rw [Option.toList_some, List.map_singleton, List.singleton_append,
      Sheet.writeAll_set (List.mem_cons_of_mem _ List.mem_cons_self) hcountBlank]
    exact hannotate _

/-- A comment visitor that counts blank lines writes two measures, and the suppressed lines if a
marker is looked for. -/
theorem run_comments {c : CommentCount} {t : SyntaxTree} (hmarker : c.marker ≠ .unusable)
    (hread : ∀ n ∈ c.counted t, ∃ lines, c.analyzer.commentLines n = .ok lines) {blank : Metric}
    (hblank : c.blankMetric = some blank) (s : Sheet) :
    (Visitor.comments c).run t s = .ok {
      s with
      measures := (s.measures.put c.commentMetric (Tally.ofTree c t).commentLines).put blank
        (Tally.ofTree c t).commentBlankLines
      annotations := if c.marker = .off then s.annotations else
        s.annotations.put suppressedLinesKey
          (.list ((Tally.ofTree c t).suppressed.map Value.int)) } := by
  rw [run_comments_eq hmarker hread, hblank]
  rfl

end Visitor

/-- The families of every language are those of C. -/
theorem Language.families_of_mem {l : Language} (h : l ∈ all) : l.families = CommentFamily.ofC := by
  rcases List.mem_cons.1 h with rfl | h
  · rfl
  · obtain rfl := List.mem_singleton.1 h
    rfl

/-- A language that is found by its name is one of the languages. -/
theorem Language.mem_of_named {name : String} {l : Language} (h : named name = .ok l) :
    l ∈ all := by
  rw [named] at h
  split at h
  · rename_i language hfind
    obtain rfl := Except.ok.inj h
    exact List.mem_of_find?_eq_some hfind
  · exact nomatch h

/-- Only a text names a language. -/
theorem Language.mem_of_ofValue {v : Value} {l : Language} (h : ofValue v = .ok l) : l ∈ all := by
  unfold ofValue at h
  split at h
  · exact nomatch h
  · dsimp only at h
    split at h
    · rename_i hfound
      obtain rfl := Except.ok.inj h
      split at hfound
      · exact mem_of_named hfound
      · exact nomatch hfound
    · exact nomatch h
    · exact nomatch h

/-- The families of C are already in order of length. -/
theorem CommentFamily.mergeSort_ofC : ofC.mergeSort opensNoShorter = ofC :=
  List.mergeSort_of_pairwise (by simp [ofC, opensNoShorter, line, block])

/-- **The visitors of a scan:** lines, lines of code, and comments of the C family. -/
theorem defaultVisitors_eq_ok {settings : Settings} {visitors : List Visitor}
    (h : defaultVisitors settings = .ok visitors) :
    ∃ c : CommentCount, c.commentMetric = .commentLines ∧
      c.blankMetric = some .commentBlankLines ∧ c.analyzer.families = CommentFamily.ofC ∧
      c.ignoresHeader = settings.isOn .ignoreHeader ∧
      c.marker = .ofValue (settings.get .marker) ∧
      visitors = [.lines .lines, .linesOfCode .linesOfCode, .comments c] := by
  rw [defaultVisitors] at h
  obtain ⟨language, hlanguage, hvisitors⟩ := bind_eq_ok_iff.1 h
  have hmem : language ∈ Language.all := by
    rw [Parser.languageOf] at hlanguage
    split at hlanguage
    · exact Language.mem_of_ofValue hlanguage
    · obtain rfl := Except.ok.inj hlanguage
      exact List.mem_cons_self
  have hfamilies : language.analyzer.families = CommentFamily.ofC := by
    have hsorted : language.analyzer.families =
        language.families.mergeSort CommentFamily.opensNoShorter := rfl
    rw [hsorted, Language.families_of_mem hmem, CommentFamily.mergeSort_ofC]
  exact ⟨_, rfl, rfl, hfamilies, rfl, rfl, (Except.ok.inj hvisitors).symm⟩

/-- **The sheet of a tree shows its tally.** -/
theorem measure_eq_tally {c : CommentCount} {t : SyntaxTree} (hlines : 0 ≤ t.lineCount)
    (hmarker : c.marker ≠ .unusable)
    (hread : ∀ n ∈ c.counted t, ∃ lines, c.analyzer.commentLines n = .ok lines)
    (hmetric : c.commentMetric = .commentLines) (hblank : c.blankMetric = some .commentBlankLines)
    (path : String) :
    measure [.lines .lines, .linesOfCode .linesOfCode, .comments c] t path =
      .ok ((Tally.ofTree c t).sheet path c.marker) := by
  refine bind_eq_ok_iff.2 ⟨_, Visitor.run_lines hlines .lines _, ?_⟩
  refine bind_eq_ok_iff.2 ⟨_, Visitor.run_linesOfCode t .linesOfCode _, ?_⟩
  refine bind_eq_ok_iff.2 ⟨_, Visitor.run_comments hmarker hread hblank _, ?_⟩
  rw [hmetric]
  rfl

end LineMetrics
