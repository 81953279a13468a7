import LineMetrics.Measure.Visitor
import LineMetrics.Proofs.Lexeme.Boundary
import LineMetrics.Proofs.Syntax.Placement
import LineMetrics.Proofs.Text.SameBreaks

/-!
# Code without its comments

Comments written over with blanks leave a text with the same code: every leaf that is no comment is
still there, at the same place, and no other (`parse_blankComments`; specification, section 4.3).  A
blank stands where the comment started, which is why nothing is put together that the comment kept
apart: code is settled in front of a gap (`Lexeme.settled_cut_code`).  Only what starts with a `#`
goes on over blanks, so texts with a `#` are left out.

The text is written over lexeme by lexeme in the proof (`erased`), and character by character in the
statement (`blankComments`); these are the same.
-/

namespace LineMetrics

open Text (SameBreaks SplitsBreak blankOut)

namespace Lexeme

/-- The text of a lexeme, written over if it is a comment. -/
def blanked (l : Lexeme) : List Char := if l.kind.isComment then l.text.map blankOut else l.text

/-- A text with its comments written over. -/
def erased (s : List Char) : List Char := (lexemes s).flatMap blanked

variable {s t : List Char} {l : Lexeme}

/-- A comment is blanked character by character. -/
theorem blanked_eq_map (l : Lexeme) :
    l.blanked = l.text.map fun c => if l.kind.isComment then blankOut c else c := by
  cases h : l.kind.isComment <;> simp [blanked, h]

/-- Blanking a lexeme keeps its line breaks. -/
theorem sameBreaks_blanked (l : Lexeme) : SameBreaks l.text l.blanked := by
  unfold blanked
  split
  · exact .map_blankOut l.text
  · exact .refl l.text

/-- Erasing comments keeps the line breaks of the text. -/
theorem sameBreaks_erased (s : List Char) : SameBreaks s (erased s) := by
  have hall : ∀ ls : List Lexeme, SameBreaks (ls.flatMap text) (ls.flatMap blanked) := by
    intro ls
    induction ls with
    | nil => exact .refl []
    | cons l ls ih => exact (sameBreaks_blanked l).append ih
  have h := hall (lexemes s)
  rwa [lexemes_flatten] at h

/-- A text is erased lexeme by lexeme. -/
theorem erased_cons (c : Char) (s : List Char) :
    erased (c :: s) =
      blanked ⟨(cut c s).1, c :: s.take (cut c s).2⟩ ++ erased (s.drop (cut c s).2) := by
  rw [erased, lexemes_cons, List.flatMap_cons]
  rfl

/-- What a character is blanked to is one of a gap. -/
theorem blankOut_mem_gapChars (c : Char) : blankOut c ∈ gapChars := by
  by_cases hbreak : Text.isBreak c = true
  · rw [blankOut, if_pos hbreak]
    simp only [Text.isBreak, Bool.or_eq_true, decide_eq_true_eq] at hbreak
    rcases hbreak with rfl | rfl <;> decide
  · rw [blankOut, if_neg hbreak]
    decide

/-- A blank may stand where a comment did. -/
theorem replaces_erased (s : List Char) : Replaces s (erased s) := by
  cases s with
  | nil => exact .inl (by rw [erased, lexemes_nil]; rfl)
  | cons c s =>
    rw [erased_cons, blanked]
    split
    · exact .inr fun d hd => Option.some.inj hd ▸ blankOut_mem_gapChars c
    · exact .inl rfl

/-- What is no code is written over with a gap. -/
theorem blanked_gapChars {c : Char} (h : ((cut c s).1.isGap || (cut c s).1.isComment) = true) :
    ∀ d ∈ blanked ⟨(cut c s).1, c :: s.take (cut c s).2⟩, d ∈ gapChars := by
  rw [blanked]
  split
  · intro d hd
    obtain ⟨e, -, rfl⟩ := List.mem_map.1 hd
    exact blankOut_mem_gapChars e
  · rename_i hcomment
    exact gapChar_of_cut ((Bool.or_eq_true_iff.1 h).resolve_right hcomment)

end Lexeme

namespace Syntax

open Lexeme (lexemes erased gapChars placed placedFrom placedLeaves)

variable {s t : List Char}

/-! ### Gaps in front of a text -/

/-- A blank leads one column on, whether or not the text behind it starts with more of them. -/
theorem leavesFrom_inlineSpace {c : Char} (hc : Lexeme.isInlineSpace c = true) (t : List Char)
    (p : Position) :
    leavesFrom [] p (lexemes (c :: t)) = leavesFrom [] (p.advance [c]) (lexemes t) := by
  rw [Lexeme.lexemes_cons, Lexeme.cut_of_isInlineSpace hc, leavesFrom_cons_of_isGap rfl]
  dsimp only
  cases t with
  | nil => rfl
  | cons d t =>
    by_cases hd : Lexeme.isInlineSpace d = true
    · -- The blanks of the text are part of the same gap.
      have hspan : Lexeme.spanLength Lexeme.isInlineSpace (d :: t) =
          Lexeme.spanLength Lexeme.isInlineSpace t + 1 := by
        rw [Lexeme.spanLength, List.takeWhile_cons_of_pos hd, List.length_cons]
        rfl
      have hseam : ∀ u, ¬SplitsBreak [c] u := fun u => Text.not_splitsBreak_of_no_break
        (List.forall_mem_singleton.2 (Lexeme.isBreak_of_isInlineSpace hc))
      rw [Lexeme.lexemes_cons d t, Lexeme.cut_of_isInlineSpace hd, leavesFrom_cons_of_isGap rfl,
        hspan, List.take_succ_cons, List.drop_succ_cons, Position.advance_append p (hseam _)]
      rfl
    · have hspan : Lexeme.spanLength Lexeme.isInlineSpace (d :: t) = 0 := by
        rw [Lexeme.spanLength, List.takeWhile_cons_of_neg hd, List.length_nil]
      rw [hspan]
      rfl

/-- A character of a gap has no leaf, and only moves on what follows. -/
theorem leavesFrom_gap_cons {c : Char} (hc : c ∈ gapChars) (hseam : ¬SplitsBreak [c] t)
    (p : Position) :
    leavesFrom [] p (lexemes (c :: t)) = leavesFrom [] (p.advance [c]) (lexemes t) := by
  by_cases hspace : Lexeme.isInlineSpace c = true
  · exact leavesFrom_inlineSpace hspace t p
  · have hcut : Lexeme.cut c t = (.newline, 0) := by
      have hbreak : c = '\r' ∨ c = '\n' := by
        simp only [gapChars, List.mem_cons, List.not_mem_nil, or_false] at hc
        rcases hc with rfl | rfl | rfl | rfl | hc
        · exact absurd rfl hspace
        · exact absurd rfl hspace
        · exact absurd rfl hspace
        · exact absurd rfl hspace
        · exact hc
      rcases hbreak with rfl | rfl
      · exact Lexeme.cut_cr fun hlf => hseam ⟨rfl, hlf⟩
      · exact Lexeme.cut_lf t
    rw [Lexeme.lexemes_cons, hcut, leavesFrom_cons_of_isGap rfl]
    rfl

/-- The CR of a CR LF leads nowhere that the LF does not. -/
theorem leavesFrom_crlf (t : List Char) (p : Position) :
    leavesFrom [] p (lexemes ('\r' :: '\n' :: t)) = leavesFrom [] p (lexemes ('\n' :: t)) := by
  rw [Lexeme.lexemes_cons, Lexeme.cut_crlf, leavesFrom_cons_of_isGap rfl, Lexeme.lexemes_cons,
    Lexeme.cut_lf, leavesFrom_cons_of_isGap rfl]
  rfl

/-- A CR in front of an LF moves nothing on. -/
theorem advance_crlf_cons (p : Position) (s : List Char) :
    p.advance ('\r' :: '\n' :: s) = p.advance ('\n' :: s) := by
  have hsplit : SplitsBreak ['\r'] ('\n' :: s) := ⟨rfl, rfl⟩
  rw [Position.advance, Position.advance, Text.breakCount_cons_of_splitsBreak hsplit,
    Position.columnAfter_cons, Position.columnAfter_cons, Position.columnAfter_cons _ '\n']
  rfl

/-- **A gap in front of a text** leads to where the text starts and changes nothing else, although
the first lexeme may hold the gap and the beginning of the text. -/
theorem leavesFrom_gap_append {g : List Char} (hg : ∀ c ∈ g, c ∈ gapChars)
    (hseam : ¬SplitsBreak g t) (p : Position) :
    leavesFrom [] p (lexemes (g ++ t)) = leavesFrom [] (p.advance g) (lexemes t) := by
  induction g generalizing p with
  | nil =>
    have hstay : p.advance [] = p := by
      simp [Position.advance, Text.breakCount, Position.columnAfter]
    rw [hstay, List.nil_append]
  | cons c g ih =>
    obtain ⟨hc, hg'⟩ := List.forall_mem_cons.1 hg
    have hbehind : ¬SplitsBreak g t := fun h => hseam (h.of_suffix [c])
    rw [List.cons_append]
    by_cases hsplit : SplitsBreak [c] (g ++ t)
    · -- The gap goes on with the LF of the same break.
      obtain ⟨hcr, hlf⟩ := hsplit
      obtain rfl := Option.some.inj hcr
      cases g with
      | nil => exact absurd ⟨rfl, hlf⟩ hseam
      | cons d g =>
        obtain rfl : d = '\n' := Option.some.inj hlf
        rw [List.cons_append, leavesFrom_crlf, ← List.cons_append, ih hg' hbehind,
          advance_crlf_cons]
    · rw [leavesFrom_gap_cons hc hsplit, ih hg' hbehind,
        Position.advance_append p (Text.not_splitsBreak_of_longer hsplit)]
      rfl

/-! ### Leaves of the erased text -/

/-- **Erasing comments** takes their leaves out and leaves the others where they are. -/
theorem leavesFrom_erased {p : Position} {nodes : List Node} (hhash : '#' ∉ s)
    (h : leavesFrom [] p (lexemes s) = .ok nodes) :
    leavesFrom [] p (lexemes (erased s)) = .ok (nodes.filter fun n => !n.isComment) := by
  induction s using Lexeme.cut_induction generalizing p nodes with
  | nil =>
    rw [Lexeme.lexemes_nil] at h
    obtain rfl := Except.ok.inj h
    rw [erased, Lexeme.lexemes_nil]
    rw [List.flatMap_nil, Lexeme.lexemes_nil]
    rfl
  | cons c s ih =>
    obtain ⟨hc, hs⟩ := not_or.1 (mt List.mem_cons.2 hhash)
    have hrest : '#' ∉ s.drop (Lexeme.cut c s).2 := fun h => hs (List.mem_of_mem_drop h)
    have hclosed := closed_of_leavesFrom h _ (Lexeme.lexemes_cons c s ▸ List.mem_cons_self)
    have hshape := Lexeme.shape_cut c s
    rw [Lexeme.lexemes_cons] at h
    rw [Lexeme.erased_cons]
    -- A gap or a comment becomes a gap, which has no leaf; code stays, and gaps may follow it.
    by_cases hquiet : ((Lexeme.cut c s).1.isGap || (Lexeme.cut c s).1.isComment) = true
    · have hbreaks := Lexeme.sameBreaks_blanked ⟨(Lexeme.cut c s).1, c :: s.take (Lexeme.cut c s).2⟩
      have hseam := mt (hbreaks.splitsBreak_iff (Lexeme.sameBreaks_erased _)).1
        hshape.not_splitsBreak
      rw [leavesFrom_gap_append (Lexeme.blanked_gapChars hquiet) hseam, hbreaks.advance_eq]
      rcases leavesFrom_cons_eq_ok h with ⟨-, hmore⟩ | ⟨hgap, more, hmore, rfl⟩
      · exact ih hrest hmore
      · have hcomment : (Lexeme.cut c s).1.isComment = true := by simpa [hgap] using hquiet
        rw [ih hrest hmore, List.filter_cons_of_neg]
        simpa [Lexeme.toNode, Node.leaf] using hcomment
    · obtain ⟨hgap, hcomment⟩ : (Lexeme.cut c s).1.isGap = false ∧
          (Lexeme.cut c s).1.isComment = false := by simpa using hquiet
      have hsettled := Lexeme.settled_cut_code (Ne.symm hc) hgap hcomment hclosed
      have hblanked : Lexeme.blanked ⟨(Lexeme.cut c s).1, c :: s.take (Lexeme.cut c s).2⟩ =
          c :: s.take (Lexeme.cut c s).2 := if_neg (by simp [hcomment])
      rw [hblanked, Lexeme.lexemes_of_settled hsettled (Lexeme.replaces_erased _)]
      rcases leavesFrom_cons_eq_ok h with ⟨hgap', -⟩ | ⟨-, more, hmore, rfl⟩
      · exact absurd (hgap.symm.trans hgap') Bool.false_ne_true
      · rw [leavesFrom_cons hclosed, ih hrest hmore, if_neg (by simp [hgap]),
          List.filter_cons_of_pos (by simp [Lexeme.toNode, Node.leaf, hcomment])]
        rfl

/-! ### Character by character -/

/-- The text of a tree with a blank for every character of its comments that does not break the
line. -/
def blankComments (tree : SyntaxTree) (s : List Char) : List Char :=
  s.mapIdx fun i c =>
    if (tree.root.children.zip (spans s)).any fun p => p.1.isComment && decide (p.2.Holds i) then
      blankOut c
    else c

/-- What is done to every character of a lexeme alike is done to the lexeme. -/
theorem mapIdx_flatMap_text {f : Nat → Char → Char} {ls : List Lexeme} {o : Nat}
    (h : ∀ q ∈ placedFrom o ls, ∀ i, (q.2.spanAt q.1).Holds i →
      ∀ c, f i c = if q.2.kind.isComment then blankOut c else c) :
    (ls.flatMap Lexeme.text).mapIdx (fun i => f (o + i)) = ls.flatMap Lexeme.blanked := by
  induction ls generalizing o with
  | nil => rfl
  | cons l ls ih =>
    rw [placedFrom] at h
    obtain ⟨hl, hls⟩ := List.forall_mem_cons.1 h
    have hfirst : l.text.mapIdx (fun i => f (o + i)) = l.blanked := by
      rw [Lexeme.blanked_eq_map]
      refine List.ext_getElem (by rw [List.length_mapIdx, List.length_map]) fun i hi _ => ?_
      rw [List.length_mapIdx] at hi
      have hholds : (l.spanAt o).Holds (o + i) := ⟨Nat.le_add_right o i, Nat.add_lt_add_left hi o⟩
      rw [List.getElem_mapIdx, List.getElem_map, hl (o + i) hholds]
    have hnext : (fun i => f (o + (i + l.text.length))) = fun i => f (o + l.text.length + i) := by
      funext i
      rw [Nat.add_comm i, Nat.add_assoc]
    rw [List.flatMap_cons, List.mapIdx_append, hfirst, hnext, ih hls, List.flatMap_cons]

/-- **Writing over the comments of a tree** is erasing the comments of its text. -/
theorem blankComments_eq_erased {path language : String} {tree : SyntaxTree}
    (h : flatTree path language s = .ok tree) : blankComments tree s = erased s := by
  have hchar : ∀ q ∈ placed s, ∀ i, (q.2.spanAt q.1).Holds i → ∀ c : Char,
      (if (tree.root.children.zip (spans s)).any fun p =>
        p.1.isComment && decide (p.2.Holds i) then blankOut c else c) =
      if q.2.kind.isComment then blankOut c else c := by
    intro q hq i hi c
    have hany : ((tree.root.children.zip (spans s)).any fun p =>
        p.1.isComment && decide (p.2.Holds i)) = q.2.kind.isComment := by
      rw [zip_children_spans h, List.any_map, Bool.eq_iff_iff, List.any_eq_true]
      constructor
      · rintro ⟨r, hr, hri⟩
        simp only [Function.comp_apply, Bool.and_eq_true, decide_eq_true_eq] at hri
        obtain rfl := Lexeme.eq_of_holds (List.mem_of_mem_filter hr) hq hri.2 hi
        exact hri.1
      · intro hcomment
        have hgap := Lexeme.Kind.isGap_of_isComment hcomment
        refine ⟨q, List.mem_filter.2 ⟨hq, by simp [hgap]⟩, ?_⟩
        simp [Lexeme.toNodeAt, Node.leaf, hcomment, hi]
    rw [hany]
  have hmap := mapIdx_flatMap_text hchar
  rw [Lexeme.lexemes_flatten] at hmap
  simp only [Nat.zero_add] at hmap
  exact hmap

/-- **Comments never influence code.**  If the lexer accepts a text without `#`, it accepts the text
with its comments written over, in which there are none.  The leaves are those of the text that are
no comments, each at its place, and lines and lines of code are counted alike. -/
theorem parse_blankComments (catalog : Catalog) {language : Language} {path : String}
    {tree : SyntaxTree} (hhash : '#' ∉ s)
    (h : Parser.parse ⟨.lexer, language⟩ catalog path s = .ok tree) :
    ∃ code, Parser.parse ⟨.lexer, language⟩ catalog path (blankComments tree s) = .ok code ∧
      code.comments = [] ∧
      code.root.children = tree.root.children.filter (fun n => !n.isComment) ∧
      (∀ m sheet, (Visitor.lines m).run code sheet = (Visitor.lines m).run tree sheet) ∧
      ∀ m sheet, (Visitor.linesOfCode m).run code sheet =
        (Visitor.linesOfCode m).run tree sheet := by
  have hflat := flatTree_of_parse h
  obtain ⟨hleaves, -, -, hlines⟩ := flatTree_eq_ok hflat
  have hcode : leaves (erased s) = .ok (tree.root.children.filter fun n => !n.isComment) :=
    leavesFrom_erased hhash hleaves
  obtain ⟨code, hparse, hchildren, hcount⟩ : ∃ code,
      flatTree path language.name (erased s) = .ok code ∧
      code.root.children = tree.root.children.filter (fun n => !n.isComment) ∧
      code.lineCount = tree.lineCount := by
    refine ⟨_, by rw [flatTree, hcode]; rfl, rfl, ?_⟩
    rw [hlines]
    exact congrArg Nat.cast (Lexeme.sameBreaks_erased s).lineCount_eq
  have htokens : code.tokens = tree.tokens := by
    rw [tokens_of_flatTree hparse, tokens_of_flatTree hflat, hchildren, List.filter_filter]
    refine List.filter_congr fun n _ => ?_
    cases hcomment : n.isComment <;> simp [Node.isToken, hcomment]
  refine ⟨code, ?_, ?_, hchildren, fun m sheet => ?_, fun m sheet => ?_⟩
  · rw [blankComments_eq_erased hflat]
    exact parse_of_flatTree hparse catalog
  · rw [comments_of_flatTree hparse, hchildren, List.filter_filter]
    exact List.filter_eq_nil_iff.2 fun n _ => by simp
  · simp only [Visitor.run, Visitor.lines, hcount]
  · simp only [Visitor.run, Visitor.linesOfCode, Visitor.codeLines, htokens]

set_option maxRecDepth 4000 in
/-- A comment over a CR LF, one between an `@` and a quote, one up to an LF, and one between an
exponent letter and a sign. -/
theorem parse_blankComments_between :
    let s := "/*\r\n*/@/**/\"x\"//\n1e/**/+5".toList
    '#' ∉ s ∧ ∃ tree, Parser.parse ⟨.lexer, .objc⟩ .empty "a.m" s = .ok tree ∧
      ∃ code, Parser.parse ⟨.lexer, .objc⟩ .empty "a.m" (blankComments tree s) = .ok code ∧
        code.comments = [] ∧
        code.root.children = tree.root.children.filter (fun n => !n.isComment) ∧
        (∀ m sheet, (Visitor.lines m).run code sheet = (Visitor.lines m).run tree sheet) ∧
        ∀ m sheet, (Visitor.linesOfCode m).run code sheet =
          (Visitor.linesOfCode m).run tree sheet :=
  have hhash : '#' ∉ "/*\r\n*/@/**/\"x\"//\n1e/**/+5".toList := by simp
  have h : ∃ tree, flatTree "a.m" "objc" "/*\r\n*/@/**/\"x\"//\n1e/**/+5".toList = .ok tree :=
    ⟨_, by cbv⟩
  ⟨hhash, h.imp fun _ htree =>
    have hparse : Parser.parse ⟨.lexer, .objc⟩ .empty "a.m" _ = .ok _ :=
      parse_of_flatTree htree .empty
    ⟨hparse, parse_blankComments .empty hhash hparse⟩⟩

end Syntax
end LineMetrics
