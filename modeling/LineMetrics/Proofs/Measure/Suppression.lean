import LineMetrics.Proofs.Measure.CommentLines

/-!
# Suppressed lines in the source

The comment visitor looks for the marker in the pieces of a comment's contents, which it numbers
from the line the comment starts on (specification, section 4.2).  In the source such a piece is
what the comment has on a physical line, its delimiters taken away: `Text.filter_standsOn` reads the
lines of a text off the text that it stands in, and `Lexeme.inner_onLine` applies this to the
contents, whose lines are those of the file because the opening delimiter holds no break and no
comment starts inside a CR LF.  A marker that goes over a break or into a delimiter is in no such
piece.  So the lines that are listed are `IsSuppressedLine`, and `run_comments_suppressed` says so
for the visitor, together with the measures, which do not depend on the marker.
-/

namespace LineMetrics
namespace Text

/-- Whether a character, at its offset of `s`, stands behind `k` breaks and is none. -/
def standsOn (s : List Char) (k : Nat) (e : Char × Nat) : Bool :=
  !isBreak e.1 && decide (breakCount (s.take e.2) = k)

/-- The piece for line `k`, if the pieces are for lines from `first` on; empty for other lines. -/
def pieceFor (first : Nat) : List (List Char) → Nat → List Char
  | [], _ => []
  | piece :: pieces, k => if k = first then piece else pieceFor (first + 1) pieces k

/-- No piece is for a line above the first. -/
theorem pieceFor_of_lt {first k : Nat} (h : k < first) (pieces : List (List Char)) :
    pieceFor first pieces k = [] := by
  induction pieces generalizing first with
  | nil => rfl
  | cons piece pieces ih => rw [pieceFor, if_neg (by omega), ih (by omega)]

/-- The pieces are for the lines from the first one on. -/
theorem pieceFor_add (first : Nat) (pieces : List (List Char)) (j : Nat) :
    pieceFor first pieces (first + j) = pieces[j]?.getD [] := by
  induction pieces generalizing first j with
  | nil => rfl
  | cons piece pieces ih =>
    rw [pieceFor]
    cases j with
    | zero => simp
    | succ j =>
      have hnext : first + (j + 1) = first + 1 + j := by omega
      rw [if_neg (by omega), hnext, ih]
      simp

/-- A break starts a line and stands on none. -/
theorem pieceFor_nil_cons (first : Nat) (pieces : List (List Char)) (k : Nat) :
    pieceFor first ([] :: pieces) k = pieceFor (first + 1) pieces k := by
  rw [pieceFor]
  split
  · rename_i hk
    rw [pieceFor_of_lt (by omega)]
  · rfl

/-- Any other character stands on the first line. -/
theorem pieceFor_modifyHead (c : Char) (first : Nat) {pieces : List (List Char)}
    (hpieces : pieces ≠ []) (k : Nat) : pieceFor first (pieces.modifyHead (c :: ·)) k =
      (if k = first then [c] else []) ++ pieceFor first pieces k := by
  obtain ⟨piece, pieces, rfl⟩ := List.exists_cons_of_ne_nil hpieces
  rw [List.modifyHead_cons, pieceFor, pieceFor]
  split <;> rfl

/-- **A line of a text** that stands in `s` behind `before`: the characters behind so many breaks of
`s` make the piece of the text behind so many more breaks than `before` has. -/
theorem filter_standsOn {s before t : List Char} (rest : List Char) (hs : s = before ++ (t ++ rest))
    (hseam : ¬SplitsBreak before t) (k : Nat) :
    ((t.zipIdx before.length).filter (standsOn s k)).map Prod.fst =
      pieceFor (breakCount before) (splitLines t) k := by
  -- What is read goes from `t` to `before`, a CR LF in one step.
  fun_induction breakCount t generalizing before with
  | case1 =>
    have hpieces : splitLines [] = [[]] := rfl
    rw [hpieces, pieceFor_nil_cons]
    rfl
  | case2 t ih =>
    have hpieces : splitLines ('\r' :: '\n' :: t) = [] :: splitLines t := rfl
    have hfirst : ¬SplitsBreak before ['\r', '\n'] :=
      not_splitsBreak_of_longer (t := ['\r', '\n']) hseam
    have hcount : breakCount (before ++ ['\r', '\n']) = breakCount before + 1 :=
      breakCount_append hfirst
    have hrest : ¬SplitsBreak ['\r', '\n'] t := not_splitsBreak_concat (s := ['\r']) (by decide)
    have hlength : (before ++ ['\r', '\n']).length = before.length + 1 + 1 := by simp
    have ih := @ih (before ++ ['\r', '\n']) (by simpa using hs)
      (not_splitsBreak_append (t := ['\r', '\n']) hseam hrest)
    rw [hlength, hcount] at ih
    rw [hpieces, pieceFor_nil_cons, List.zipIdx_cons, List.zipIdx_cons]
    exact ih
  | case3 c t hcrlf hc ih =>
    have hsplit := not_splitsBreak_cons hcrlf
    have ih := @ih (before ++ [c]) (by simpa using hs)
      (not_splitsBreak_append (t := [c]) hseam hsplit)
    rw [breakCount_concat hseam, if_pos hc, List.length_append, List.length_singleton] at ih
    rw [splitLines_cons hsplit, if_pos hc, pieceFor_nil_cons, List.zipIdx_cons,
      List.filter_cons_of_neg (by simp [standsOn, hc])]
    exact ih
  | case4 c t hcrlf hc ih =>
    have hsplit := not_splitsBreak_cons hcrlf
    have ih := @ih (before ++ [c]) (by simpa using hs)
      (not_splitsBreak_append (t := [c]) hseam hsplit)
    rw [breakCount_concat hseam, if_neg hc, Nat.add_zero, List.length_append,
      List.length_singleton] at ih
    have hstands : standsOn s k (c, before.length) = decide (k = breakCount before) := by
      simp [standsOn, hc, hs, eq_comm]
    have hpieces : splitLines t ≠ [] := List.ne_nil_of_length_pos (by simp [length_splitLines])
    rw [splitLines_cons hsplit, if_neg hc, pieceFor_modifyHead c _ hpieces, ← ih, List.zipIdx_cons,
      List.filter_cons, hstands]
    by_cases hk : k = breakCount before
    · simp [hk]
    · simp [hk]

/-- A word occurs in a text if the text has it somewhere inside. -/
theorem occursIn_iff_infix (word s : List Char) : occursIn word s = true ↔ word <:+: s := by
  rw [occursIn_iff]
  exact exists₂_congr fun _ _ => eq_comm

end Text

/-- The characters of a piece of `s` that stand on a physical line of `s`, without its break. -/
def Span.onLine (span : Span) (s : List Char) (line : Int) : List Char :=
  (((span.text s).zipIdx span.start).filter fun e =>
    !Text.isBreak e.1 && decide (1 + (Text.breakCount (s.take e.2) : Int) = line)).map Prod.fst

/-- What a span has on a line are its characters that stand on the line. -/
theorem Span.onLine_eq (span : Span) (s : List Char) (k : Nat) : span.onLine s (1 + k) =
    (((span.text s).zipIdx span.start).filter (Text.standsOn s k)).map Prod.fst := by
  have hline : ∀ n : Nat, 1 + (n : Int) = 1 + k ↔ n = k := by omega
  simp only [onLine, hline]
  rfl

/-- What a piece has on a line, a longer piece has there too. -/
theorem Span.onLine_infix {inner outer : Span} (hstart : outer.start ≤ inner.start)
    (hstop : inner.stop ≤ outer.stop) (s : List Char) (line : Int) :
    inner.onLine s line <:+: outer.onLine s line := by
  obtain ⟨d, hd⟩ := Nat.exists_eq_add_of_le hstart
  let reached := (outer.text s).take (inner.stop - outer.start)
  have hinner : inner.text s = reached.drop d := by
    have hwithin : inner.stop - outer.start ≤ outer.stop - outer.start := by omega
    simp only [reached, text, List.drop_take, List.take_take, List.drop_drop,
      Nat.min_eq_left hwithin, hd, Nat.sub_sub]
  have houter : outer.text s = reached.take d ++ (inner.text s ++
      (outer.text s).drop (inner.stop - outer.start)) := by
    rw [hinner, ← List.append_assoc, List.take_append_drop, List.take_append_drop]
  rcases Nat.le_total d reached.length with hle | hge
  · have hlength : outer.start + (reached.take d).length = inner.start := by
      rw [List.length_take, Nat.min_eq_left hle, hd]
    rw [onLine, onLine, houter, List.zipIdx_append, List.zipIdx_append, hlength,
      List.filter_append, List.filter_append, List.map_append, List.map_append]
    exact ⟨_, _, List.append_assoc ..⟩
  · rw [onLine, hinner, List.drop_eq_nil_of_le hge]
    exact List.nil_infix

/-- The piece between the delimiters of a comment. -/
def CommentFamily.inner (f : CommentFamily) (span : Span) : Span :=
  ⟨span.start + f.opening.length, span.stop - f.closing.length⟩

/-- No comment is opened by two of the C families. -/
theorem CommentFamily.eq_of_opening {f g : CommentFamily} (hf : f ∈ ofC) (hg : g ∈ ofC)
    {comment : List Char} (hfopens : f.opening <+: comment) (hgopens : g.opening <+: comment) :
    f = g := by
  have hlength : ∀ f ∈ ofC, f.opening.length = 2 := by decide
  have hapart : ∀ f ∈ ofC, ∀ g ∈ ofC, f.opening = g.opening → f = g := by decide +kernel
  have hsame : f.opening.length = g.opening.length := (hlength f hf).trans (hlength g hg).symm
  have hstarts := List.prefix_of_prefix_length_le hfopens hgopens hsame.le
  exact hapart f hf g hg (hstarts.eq_of_length hsame)

namespace Lexeme

variable {s : List Char} {o : Nat} {l : Lexeme} {f : CommentFamily} {body : List Char}

/-- The inner text of a delimited comment is its body. -/
theorem inner_text (h : (o, l) ∈ placed s) (htext : l.text = f.opening ++ (body ++ f.closing)) :
    (f.inner (l.spanAt o)).text s = body := by
  obtain ⟨before, after, rfl, rfl, -⟩ := exists_of_mem_placed h
  have hsource : before ++ (l.text ++ after) =
      (before ++ f.opening) ++ body ++ (f.closing ++ after) := by
    simp [htext]
  have hstop : (f.inner (l.spanAt before.length)).stop =
      ((before ++ f.opening) ++ body).length := by
    simp only [CommentFamily.inner, spanAt, htext, List.length_append]
    omega
  have hstart : (f.inner (l.spanAt before.length)).start = (before ++ f.opening).length :=
    List.length_append.symm
  rw [Span.text, hstop, hstart, hsource, List.take_left, List.drop_left]

/-- **A line of the contents** is what stands on it between the delimiters. -/
theorem inner_onLine (h : (o, l) ∈ placed s) (hf : f ∈ CommentFamily.ofC)
    (htext : l.text = f.opening ++ (body ++ f.closing)) (k : Nat) :
    (f.inner (l.spanAt o)).onLine s (1 + Text.breakCount (s.take o) + k) =
      (Text.splitLines body)[k]?.getD [] := by
  have hbody := inner_text h htext
  have hseam := not_splitsBreak_of_mem_placed h
  obtain ⟨before, after, rfl, rfl, -⟩ := exists_of_mem_placed h
  have hquiet : ∀ c ∈ f.opening, Text.isBreak c = false := fun c hc =>
    (CommentFamily.quiet_of_mem_ofC hf c (List.mem_append_left _ hc)).1
  dsimp only at hseam
  rw [List.take_left, htext] at hseam
  have hcount : Text.breakCount (before ++ f.opening) = Text.breakCount before := by
    rw [Text.breakCount_append (Text.not_splitsBreak_of_longer hseam),
      Text.breakCount_eq_zero hquiet, Nat.add_zero]
  have hcontents : ¬Text.SplitsBreak (before ++ f.opening) body :=
    Text.not_splitsBreak_of_longer
      (Text.not_splitsBreak_append hseam (Text.not_splitsBreak_of_no_break hquiet))
  have hsource : before ++ (l.text ++ after) =
      (before ++ f.opening) ++ (body ++ (f.closing ++ after)) := by
    simp [htext]
  have hline : (1 + Text.breakCount before + k : Int) =
      1 + ((Text.breakCount (before ++ f.opening) + k : Nat) : Int) := by
    rw [hcount]
    push_cast
    ring
  have hstart : (f.inner (l.spanAt before.length)).start = (before ++ f.opening).length :=
    List.length_append.symm
  rw [List.take_left, hline, Span.onLine_eq, hbody, hstart,
    Text.filter_standsOn (f.closing ++ after) hsource hcontents, Text.pieceFor_add]

end Lexeme

namespace Syntax

open Lexeme (placedLeaves)

/-- A line of the source that a comment spans and on which the marker stands between the comment's
delimiters. -/
def IsSuppressedLine (tree : SyntaxTree) (s marker : List Char) (line : Int) : Prop :=
  ∃ c ∈ commentSpans tree s, c.1.start.line ≤ line ∧ line ≤ c.1.endLine ∧
    ∃ f ∈ CommentFamily.ofC, f.opening <+: c.2.text s ∧ marker <:+: (f.inner c.2).onLine s line

section

variable {path language : String} {s : List Char} {tree : SyntaxTree} {c : CommentCount}

/-- **The lines of one comment with the marker** are the lines of the file that the comment spans
and on which the marker stands between its delimiters. -/
theorem exists_marked_iff (h : flatTree path language s = .ok tree) {a : CommentAnalyzer}
    (hfamilies : a.families = CommentFamily.ofC) {p : Nat × Lexeme} (hp : p ∈ placedLeaves s)
    (hcomment : p.2.kind.isComment = true) (marker : List Char) (line : Int) :
    (∃ l ∈ a.linesOf (p.2.toNodeAt s p.1), Text.occursIn marker l.text = true ∧ l.number = line) ↔
      (p.2.toNodeAt s p.1).start.line ≤ line ∧ line ≤ (p.2.toNodeAt s p.1).endLine ∧
        ∃ f ∈ CommentFamily.ofC, f.opening <+: (p.2.spanAt p.1).text s ∧
          marker <:+: (f.inner (p.2.spanAt p.1)).onLine s line := by
  have hn := (mem_comments_of_flatTree h).2 ⟨p, hp, hcomment, rfl⟩
  have hplaced := List.mem_of_mem_filter hp
  have hspan := exists_number_iff_of_flatTree h hfamilies hn line
  obtain ⟨lines, hlines, -⟩ := exists_commentLines_of_flatTree h hfamilies hn
  obtain ⟨body, hbody, hmem⟩ := CommentAnalyzer.mem_commentLines hlines
  obtain ⟨f, hf, htext⟩ := CommentAnalyzer.eq_of_contents hbody
  rw [hfamilies] at hf
  have hopening : f.opening <+: (p.2.spanAt p.1).text s := by
    rw [Lexeme.text_spanAt hplaced]
    exact ⟨_, htext.symm⟩
  have honLine : ∀ l ∈ lines, (f.inner (p.2.spanAt p.1)).onLine s l.number = l.text := by
    intro l hl
    obtain ⟨k, hpiece, hnumber⟩ := (hmem l).1 hl
    rw [hnumber]
    exact (Lexeme.inner_onLine hplaced hf htext k).trans (by rw [hpiece]; rfl)
  rw [CommentAnalyzer.linesOf_eq hlines] at hspan ⊢
  constructor
  · rintro ⟨l, hl, hmarked, rfl⟩
    obtain ⟨hstart, hend⟩ := hspan.1 ⟨l, hl, rfl⟩
    refine ⟨hstart, hend, f, hf, hopening, ?_⟩
    rw [honLine l hl]
    exact (Text.occursIn_iff_infix _ _).1 hmarked
  · rintro ⟨hstart, hend, g, hg, hgopening, hmarked⟩
    obtain rfl := CommentFamily.eq_of_opening hf hg hopening hgopening
    obtain ⟨l, hl, rfl⟩ := hspan.2 ⟨hstart, hend⟩
    rw [honLine l hl] at hmarked
    exact ⟨l, hl, (Text.occursIn_iff_infix _ _).2 hmarked, rfl⟩

/-- **A line is listed** exactly if it is suppressed in the source. -/
theorem mem_marked_iff (h : flatTree path language s = .ok tree)
    (hfamilies : c.analyzer.families = CommentFamily.ofC) (hheader : c.ignoresHeader = false)
    (marker : List Char) (line : Int) :
    line ∈ CommentCount.numbers
        ((c.allLines tree).filter fun l => Text.occursIn marker l.text) ↔
      IsSuppressedLine tree s marker line := by
  rw [CommentCount.mem_numbers_filter, CommentCount.counted_of_not_ignoresHeader hheader]
  constructor
  · rintro ⟨n, hn, hline⟩
    obtain ⟨p, hp, hcomment, rfl⟩ := (mem_comments_of_flatTree h).1 hn
    exact ⟨_, (mem_commentSpans_of_flatTree h).2 ⟨p, hp, hcomment, rfl⟩,
      (exists_marked_iff h hfamilies hp hcomment marker line).1 hline⟩
  · rintro ⟨_, hn, hline⟩
    obtain ⟨p, hp, hcomment, rfl⟩ := (mem_commentSpans_of_flatTree h).1 hn
    exact ⟨_, (mem_comments_of_flatTree h).2 ⟨p, hp, hcomment, rfl⟩,
      (exists_marked_iff h hfamilies hp hcomment marker line).2 hline⟩

/-- **Suppression lines are exact and never touch the counts.**  On a text that the lexer accepts,
a comment visitor that counts header comments and looks for a marker lists, in increasing order and
each once, the physical lines that a comment spans and on which the marker stands between the
comment's delimiters.  A line on which no comment has the marker is not listed, whatever else
stands there.  The measures are the same for every marker, and for none. -/
theorem run_comments_suppressed {catalog : Catalog} {language : Language}
    (h : Parser.parse ⟨.lexer, language⟩ catalog path s = .ok tree)
    (hfamilies : c.analyzer.families = CommentFamily.ofC) (hheader : c.ignoresHeader = false)
    {marker : String} (hmarker : marker ≠ "") (sheet : Sheet) :
    let visitor (m : Marker) : Visitor := .comments { c with marker := m }
    ∃ (written : Sheet) (lines : List Int),
      (visitor (.ofValue (.text marker))).run tree sheet = .ok written ∧
      written.annotations =
        sheet.annotations.put suppressedLinesKey (.list (lines.map Value.int)) ∧
      lines.Pairwise (· < ·) ∧
      (∀ line, line ∈ lines ↔ IsSuppressedLine tree s marker.toList line) ∧
      (∀ line, (∀ n ∈ commentSpans tree s, ¬marker.toList <:+: n.2.onLine s line) →
        line ∉ lines) ∧
      ∀ m : Marker, m ≠ .unusable →
        ((visitor m).run tree sheet).map Sheet.measures = .ok written.measures := by
  intro visitor
  have hflat := flatTree_of_parse h
  have hlooksFor : Marker.ofValue (.text marker) = .text marker.toList := by
    rw [Marker.ofValue, if_neg (by simpa using hmarker)]
  have hrun : ∀ m : Marker, m ≠ .unusable → (visitor m).run tree sheet = .ok {
      sheet with
      measures := c.blankMetric.toList.foldl
        (fun ms blank => ms.put blank (Tally.ofTree c tree).commentBlankLines)
        (sheet.measures.put c.commentMetric (Tally.ofTree c tree).commentLines)
      annotations := if m = .off then sheet.annotations else
        sheet.annotations.put suppressedLinesKey
          (.list ((Tally.ofTree { c with marker := m } tree).suppressed.map Value.int)) } := by
    intro m hm
    have hread := exists_commentLines_of_counted (c := { c with marker := m }) hflat hfamilies
    exact Visitor.run_comments_eq hm hread sheet
  have hlisted := mem_marked_iff hflat hfamilies hheader marker.toList
  refine ⟨_, _, hrun _ (by simp [hlooksFor]), ?_, LineSet.increasing _, hlisted, ?_, ?_⟩
  · rw [hlooksFor]
    rfl
  · rintro line hnone hline
    obtain ⟨n, hn, -, -, f, -, -, hinner⟩ := (hlisted line).1 hline
    have hwithin : (f.inner n.2).onLine s line <:+: n.2.onLine s line :=
      Span.onLine_infix (Nat.le_add_right _ _) (Nat.sub_le _ _) s line
    exact hnone n hn (hinner.trans hwithin)
  · intro m hm
    rw [hrun m hm]
    rfl

set_option maxRecDepth 4000 in
/-- The marker in comments and in strings beside them.  A comment spans the second line, but only a
string has the marker there; the fourth line starts behind a CR LF of a comment. -/
theorem run_comments_suppressed_beside_strings :
    let s := "@\"X\" /* X\n*/ @\"X\"\n/*\r\n X*/".toList
    let c : CommentCount := ⟨.commentLines, none, .cFamily, false, .ofValue (.text "X")⟩
    ∃ tree, Parser.parse ⟨.lexer, .objc⟩ .empty "a.m" s = .ok tree ∧
      ((Visitor.comments c).run tree (.blank "a.m")).map Sheet.annotations =
        .ok (Listing.empty.put suppressedLinesKey (.list [.int 1, .int 4])) ∧
      ∀ line, line ∈ [(1 : Int), 4] ↔ IsSuppressedLine tree s ['X'] line := by
  intro s c
  obtain ⟨tree, htree, hlisted⟩ : ∃ tree,
      Parser.parse ⟨.lexer, .objc⟩ .empty "a.m" "@\"X\" /* X\n*/ @\"X\"\n/*\r\n X*/".toList =
        .ok tree ∧
      ((Visitor.comments ⟨.commentLines, none, .cFamily, false, .ofValue (.text "X")⟩).run tree
        (.blank "a.m")).map Sheet.annotations =
          .ok (Listing.empty.put suppressedLinesKey (.list [.int 1, .int 4])) :=
    ⟨_, by cbv, by cbv⟩
  obtain ⟨written, lines, hrun, hannotations, -, hsuppressed, -⟩ := run_comments_suppressed htree
    (c := c) CommentFamily.mergeSort_ofC rfl (by decide : "X" ≠ "") (.blank "a.m")
  have hput : Listing.empty.put suppressedLinesKey (Value.list [.int 1, .int 4]) =
      Listing.empty.put suppressedLinesKey (Value.list (lines.map Value.int)) := by
    have hwritten := hlisted.symm.trans (congrArg (Except.map Sheet.annotations) hrun)
    exact (Except.ok.inj hwritten).trans hannotations
  have hlines : lines = [1, 4] := by
    have hinjective : Function.Injective (List.map Value.int) :=
      List.map_injective_iff.2 fun _ _ => Value.int.inj
    have hvalues := congrArg (Listing.get? · suppressedLinesKey) hput
    simp only [Listing.get?_put, if_true, Option.some.injEq, Value.list.injEq] at hvalues
    exact hinjective hvalues.symm
  exact ⟨tree, htree, hlisted, fun line => hlines ▸ hsuppressed line⟩

end

end Syntax
end LineMetrics
