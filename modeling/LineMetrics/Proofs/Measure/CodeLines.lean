import LineMetrics.Proofs.Measure.Tally
import LineMetrics.Proofs.Syntax.Placement

/-!
# Lines of code in the source

The visitor counts the lines that code tokens span (specification, section 4.3).  In the source
these are the lines with a visible character outside of comments, and the lines of messages: a
visible character is held by a token on its line, and conversely a token shows on each line that it
spans (`Lexeme.Shape.showsOnLines`).  Only literals go over several lines, and of those each line
has a backslash or the closing quote.  `mem_codeLines_iff` says so for a line, and
`run_linesOfCode_of_flatTree` for the count.
-/

namespace LineMetrics
namespace Text

/-- The text shows a visible character behind `k` breaks. -/
def ShowsOn (s : List Char) (k : Nat) : Prop :=
  ∃ before c after, s = before ++ c :: after ∧ isBlank c = false ∧ breakCount before = k

/-- The text shows a visible character on each of its lines. -/
def ShowsOnLines (s : List Char) : Prop := ∀ k ≤ breakCount s, ShowsOn s k

/-- What shows on a line still does if a text follows. -/
theorem ShowsOn.append_right {s : List Char} {k : Nat} (h : ShowsOn s k) (t : List Char) :
    ShowsOn (s ++ t) k := by
  obtain ⟨before, c, after, rfl, hc, hk⟩ := h
  exact ⟨before, c, after ++ t, by simp, hc, hk⟩

/-- What shows on a line of a text shows further down if a text is in front, unless a CR LF is cut
through. -/
theorem ShowsOn.append_left {t : List Char} {k : Nat} (h : ShowsOn t k) {s : List Char}
    (hseam : ¬SplitsBreak s t) : ShowsOn (s ++ t) (breakCount s + k) := by
  obtain ⟨before, c, after, rfl, hc, hk⟩ := h
  refine ⟨s ++ before, c, after, by simp, hc, ?_⟩
  rw [breakCount_append (not_splitsBreak_of_longer hseam), hk]

/-- In front of a text that shows on its lines, only the lines that end need to show. -/
theorem ShowsOnLines.append {s t : List Char} (hs : ∀ k < breakCount s, ShowsOn s k)
    (ht : ShowsOnLines t) (hseam : ¬SplitsBreak s t) : ShowsOnLines (s ++ t) := by
  intro k hk
  rw [breakCount_append hseam] at hk
  rcases Nat.lt_or_ge k (breakCount s) with hlt | hge
  · exact (hs k hlt).append_right t
  · obtain ⟨j, rfl⟩ := Nat.exists_eq_add_of_le hge
    exact (ht j (by omega)).append_left hseam

/-- A text of one line shows on it if it is visible. -/
theorem showsOnLines_of_no_break {s : List Char} (h : ∀ c ∈ s, isBreak c = false)
    (hvisible : isVisible s = true) : ShowsOnLines s := by
  intro k hk
  rw [breakCount_eq_zero h] at hk
  obtain ⟨c, hc, hblank⟩ := List.any_eq_true.1 hvisible
  obtain ⟨before, after, rfl⟩ := List.append_of_mem hc
  refine ⟨before, c, after, rfl, by simpa using hblank, ?_⟩
  rw [breakCount_eq_zero fun d hd => h d (List.mem_append_left _ hd)]
  omega

end Text

namespace Lexeme

open Text (ShowsOn ShowsOnLines)

/-- The body of a literal with its closing quote shows on each line: a line in it ends behind a
backslash. -/
theorem Quoted.showsOnLines {quote : Char} (hvisible : Text.isBlank quote = false)
    (hbreak : Text.isBreak quote = false) {body : List Char} (h : Quoted quote body) :
    ShowsOnLines (body ++ [quote]) := by
  -- What follows an escaped CR is no LF, so the CR is a break of its own.
  have hhead : ∀ {body : List Char}, Quoted quote body → (body ++ [quote]).head? ≠ some '\n' := by
    intro body hbody hlf
    cases hbody with
    | nil =>
      obtain rfl := Option.some.inj hlf
      cases hbreak
    | escape => cases hlf
    | plain _ _ hplain =>
      obtain rfl := Option.some.inj hlf
      cases hplain
  induction h with
  | nil =>
    refine Text.showsOnLines_of_no_break ?_ ?_
    · simpa using hbreak
    · simpa [Text.isVisible] using hvisible
  | @escape c body hbody ih =>
    refine ShowsOnLines.append (s := ['\\', c]) (fun k hk => ?_) ih fun h => hhead hbody h.2
    have hcount : Text.breakCount ['\\', c] = if Text.isBreak c then 1 else 0 := by
      have hescape : ¬Text.SplitsBreak ['\\'] [c] := fun h => absurd h.1 (by decide)
      rw [Text.breakCount_cons hescape, Text.breakCount_singleton]
      rfl
    have hfirst : k = 0 := by
      rw [hcount] at hk
      split at hk <;> omega
    exact ⟨[], '\\', [c], rfl, by decide +kernel, hfirst.symm⟩
  | @plain c body _ _ hplain hbody ih =>
    refine ShowsOnLines.append (s := [c]) (fun k hk => ?_) ih fun h => hhead hbody h.2
    rw [Text.breakCount_eq_zero (by simpa using hplain)] at hk
    omega

/-- **A token shows on each line that it spans,** unless it is a message. -/
theorem Shape.showsOnLines {kind : Kind} {text rest : List Char} (h : Shape kind text rest)
    (hclosed : ∀ opener, kind ≠ .unclosed opener) (hgap : kind.isGap = false)
    (hcomment : kind.isComment = false) (hmessage : kind ≠ .message)
    (hvisible : Text.isVisible text = true) : ShowsOnLines text := by
  have hopening : ∀ {opening body : List Char}, (∀ c ∈ opening, Text.isBreak c = false) →
      ShowsOnLines body → ShowsOnLines (opening ++ body) := by
    intro opening body hquiet hbody
    refine hbody.append (fun k hk => ?_) (Text.not_splitsBreak_of_no_break hquiet)
    rw [Text.breakCount_eq_zero hquiet] at hk
    omega
  cases h with
  | lineComment => exact nomatch hcomment
  | blockComment => exact nomatch hcomment
  | @string sigil body _ hsigil hbody =>
    have hquote := hbody.showsOnLines (by decide +kernel) rfl
    rw [← List.singleton_append, ← List.append_assoc]
    refine hopening ?_ hquote
    obtain rfl | rfl := hsigil <;> simp [Text.isBreak]
  | @character body _ _ hbody =>
    have hquote := hbody.showsOnLines (by decide +kernel) rfl
    rw [← List.singleton_append]
    exact hopening (by simp [Text.isBreak]) hquote
  | message => exact absurd rfl hmessage
  | word _ hplain =>
    exact Text.showsOnLines_of_no_break (fun c hc => isBreak_of_isPlain (hplain c hc)) hvisible
  | newline => exact nomatch hgap
  | space => exact nomatch hgap
  | @punctuation c _ hc =>
    refine Text.showsOnLines_of_no_break (List.forall_mem_singleton.2 ?_) hvisible
    obtain hplain | ⟨rfl, -⟩ := hc
    · exact isBreak_of_isPlain hplain
    · rfl
  | _ => exact absurd rfl (hclosed _)

/-- A message starts with a `#`. -/
theorem Shape.isVisible_message {text rest : List Char} (h : Shape .message text rest) :
    Text.isVisible text = true := by
  cases h with
  | word hword => exact absurd hword (by simp [wordKinds])
  | message =>
    have hhash : Text.isBlank '#' = false := by decide +kernel
    simp [Text.isVisible, hhash]

/-- The characters of gaps are blank. -/
theorem isBlank_of_gapChar {c : Char} (h : c ∈ gapChars) : Text.isBlank c = true := by
  have hall : gapChars.all Text.isBlank = true := by decide +kernel
  exact List.all_eq_true.1 hall c h

end Lexeme

namespace Syntax

open Lexeme (placed placedLeaves)

/-- A character of the text that trimming would keep and that no comment holds. -/
def ShowsCode (tree : SyntaxTree) (s : List Char) (i : Nat) : Prop :=
  (∃ c, s[i]? = some c ∧ Text.isBlank c = false) ∧
    ∀ n span, (n, span) ∈ tree.root.children.zip (spans s) → n.isComment = true → ¬span.Holds i

/-- A line of the source with code: it has a visible character outside of comments, or a message
spans it. -/
def IsCodeLine (tree : SyntaxTree) (s : List Char) (line : Int) : Prop :=
  (∃ i, ShowsCode tree s i ∧ line = 1 + Text.breakCount (s.take i)) ∨
    ∃ n ∈ tree.root.children, n.type = "preproc_message" ∧ n.start.line ≤ line ∧ line ≤ n.endLine

section

variable {path language : String} {s : List Char} {tree : SyntaxTree}

/-- A lexeme of a text with a tree is closed and has the shape of its kind. -/
theorem closed_of_mem_placed (h : flatTree path language s = .ok tree) {p : Nat × Lexeme}
    (hp : p ∈ placed s) : (∀ opener, p.2.kind ≠ .unclosed opener) ∧
      ∃ rest, Lexeme.Shape p.2.kind p.2.text rest := by
  have hmem : p.2 ∈ Lexeme.lexemes s := by
    obtain ⟨before, after, hls, -⟩ := Lexeme.mem_placedFrom hp
    exact hls ▸ List.mem_append_right _ List.mem_cons_self
  exact ⟨closed_of_leavesFrom (flatTree_eq_ok h).1 _ hmem, Lexeme.shape_of_mem_lexemes hmem⟩

/-- The tokens of a flat tree are the visible lexemes outside of comments, each at its offset. -/
theorem mem_tokens_of_flatTree (h : flatTree path language s = .ok tree) {n : Node} :
    n ∈ tree.tokens ↔ ∃ p ∈ placedLeaves s, p.2.kind.isComment = false ∧
      Text.isVisible p.2.text = true ∧ n = p.2.toNodeAt s p.1 := by
  have htoken : ∀ p : Nat × Lexeme, (p.2.toNodeAt s p.1).isToken = true ↔
      p.2.kind.isComment = false ∧ Text.isVisible p.2.text = true := by
    simp [Node.isToken, Lexeme.toNodeAt, Node.leaf, Node.isLeaf]
  rw [tokens_of_flatTree h, children_of_flatTree h, List.mem_filter, List.mem_map]
  constructor
  · rintro ⟨⟨p, hp, rfl⟩, hmember⟩
    exact ⟨p, hp, ((htoken p).1 hmember).1, ((htoken p).1 hmember).2, rfl⟩
  · rintro ⟨p, hp, hcomment, hvisible, rfl⟩
    exact ⟨⟨p, hp, rfl⟩, (htoken p).2 ⟨hcomment, hvisible⟩⟩

/-- What is counted are the lines between the ends of lexemes that make tokens. -/
theorem mem_codeLines (h : flatTree path language s = .ok tree) {line : Int} :
    line ∈ Visitor.codeLines tree ↔ ∃ p ∈ placedLeaves s, p.2.kind.isComment = false ∧
      Text.isVisible p.2.text = true ∧ 1 + (Text.breakCount (s.take p.1) : Int) ≤ line ∧
      line ≤ 1 + Text.breakCount (s.take (p.1 + p.2.text.length)) := by
  rw [Visitor.codeLines, LineSet.mem_ofList, List.mem_flatMap]
  constructor
  · rintro ⟨n, hn, hline⟩
    obtain ⟨p, hp, hcomment, hvisible, rfl⟩ := (mem_tokens_of_flatTree h).1 hn
    have hspan := Node.mem_lines.1 hline
    exact ⟨p, hp, hcomment, hvisible, hspan.1, hspan.2⟩
  · rintro ⟨p, hp, hcomment, hvisible, hstart, hend⟩
    exact ⟨p.2.toNodeAt s p.1, (mem_tokens_of_flatTree h).2 ⟨p, hp, hcomment, hvisible, rfl⟩,
      Node.mem_lines.2 ⟨hstart, hend⟩⟩

/-- A token shows code on each line that it spans, unless it is a message. -/
theorem exists_showsCode (h : flatTree path language s = .ok tree) {p : Nat × Lexeme}
    (hp : p ∈ placedLeaves s) (hcomment : p.2.kind.isComment = false)
    (hmessage : p.2.kind ≠ .message) (hvisible : Text.isVisible p.2.text = true) {line : Int}
    (hstart : 1 + (Text.breakCount (s.take p.1) : Int) ≤ line)
    (hend : line ≤ 1 + Text.breakCount (s.take (p.1 + p.2.text.length))) :
    ∃ i, ShowsCode tree s i ∧ line = 1 + Text.breakCount (s.take i) := by
  obtain ⟨hplaced, hgap⟩ := List.mem_filter.1 hp
  obtain ⟨hclosed, rest, hshape⟩ := closed_of_mem_placed h hplaced
  have hshows := hshape.showsOnLines hclosed (by simpa using hgap) hcomment hmessage hvisible
  have hseam := Lexeme.not_splitsBreak_of_mem_placed hplaced
  obtain ⟨o, l⟩ := p
  dsimp only at *
  obtain ⟨before, after, rfl, rfl, -⟩ := Lexeme.exists_of_mem_placed hplaced
  rw [List.take_left] at hseam hstart
  rw [← List.append_assoc, List.take_left' (by simp), Text.breakCount_append hseam] at hend
  obtain ⟨k, hk⟩ : ∃ k : Nat, line = 1 + Text.breakCount before + k :=
    ⟨(line - (1 + Text.breakCount before)).toNat, by omega⟩
  obtain ⟨inner, c, outer, htext, hblank, hcount⟩ := hshows k (by omega)
  have hsource : before ++ (l.text ++ after) = before ++ inner ++ c :: (outer ++ after) := by
    simp [htext]
  refine ⟨(before ++ inner).length, ⟨⟨c, ?_, hblank⟩, fun n span hn hcomment' hholds => ?_⟩, ?_⟩
  · rw [hsource]
    simp
  · -- The piece that holds the character is the token's, and that is no comment.
    rw [zip_children_spans h] at hn
    obtain ⟨q, hq, heq⟩ := List.mem_map.1 hn
    obtain ⟨rfl, rfl⟩ := Prod.mk.inj heq
    have htoken : (l.spanAt before.length).Holds (before ++ inner).length := by
      simp only [Span.Holds, Lexeme.spanAt, htext, List.length_append, List.length_cons]
      omega
    obtain rfl := Lexeme.eq_of_holds (List.mem_of_mem_filter hq) hplaced hholds htoken
    cases hcomment.symm.trans hcomment'
  · have hprefix : ¬Text.SplitsBreak before inner := by
      rw [htext] at hseam
      exact Text.not_splitsBreak_of_longer hseam
    rw [hsource, List.take_left, Text.breakCount_append hprefix, hcount, hk]
    push_cast
    ring

/-- A character that shows code is held by a token. -/
theorem exists_token_of_showsCode (h : flatTree path language s = .ok tree) {i : Nat}
    (hi : ShowsCode tree s i) : ∃ p ∈ placedLeaves s, p.2.kind.isComment = false ∧
      Text.isVisible p.2.text = true ∧ (p.2.spanAt p.1).Holds i := by
  obtain ⟨⟨c, hc, hblank⟩, houtside⟩ := hi
  have hlt : i < s.length := (List.getElem?_eq_some_iff.1 hc).1
  obtain ⟨⟨o, l⟩, hp, hholds⟩ := Lexeme.exists_placed_holds hlt
  dsimp only at hholds
  have hmem : c ∈ l.text := by
    obtain ⟨before, after, htext, rfl, -⟩ := Lexeme.exists_of_mem_placed hp
    simp only [Span.Holds, Lexeme.spanAt] at hholds
    rw [htext, List.getElem?_append_right hholds.1, List.getElem?_append_left (by omega)] at hc
    exact List.mem_of_getElem? hc
  have hgap : l.kind.isGap = false := by
    by_contra hgap
    obtain ⟨before, after, hls, -⟩ := Lexeme.mem_placedFrom hp
    have hl := Lexeme.mem_lexemes (hls ▸ List.mem_append_right before List.mem_cons_self)
    have hblank' := Lexeme.isBlank_of_gapChar (hl.2 (by simpa using hgap) c hmem)
    cases hblank.symm.trans hblank'
  have hleaf : (o, l) ∈ placedLeaves s := List.mem_filter.2 ⟨hp, by simp [hgap]⟩
  refine ⟨(o, l), hleaf, ?_, List.any_eq_true.2 ⟨c, hmem, by simp [hblank]⟩, hholds⟩
  by_contra hcomment
  have hcomment : l.kind.isComment = true := by simpa using hcomment
  refine houtside (l.toNodeAt s o) (l.spanAt o) ?_ hcomment hholds
  rw [zip_children_spans h]
  exact List.mem_map.2 ⟨(o, l), hleaf, rfl⟩

/-- The lines of a message are lines between the ends of a lexeme that makes a token. -/
theorem exists_token_of_message (h : flatTree path language s = .ok tree) {n : Node}
    (hn : n ∈ tree.root.children) (htype : n.type = "preproc_message") :
    ∃ p ∈ placedLeaves s, n = p.2.toNodeAt s p.1 ∧ p.2.kind.isComment = false ∧
      Text.isVisible p.2.text = true := by
  rw [children_of_flatTree h] at hn
  obtain ⟨p, hp, rfl⟩ := List.mem_map.1 hn
  have hmessage : p.2.kind = .message := by
    have hnodeType : p.2.kind.nodeType = "preproc_message" := htype
    revert hnodeType
    cases p.2.kind <;> simp [Lexeme.Kind.nodeType]
  obtain ⟨-, rest, hshape⟩ := closed_of_mem_placed h (List.mem_of_mem_filter hp)
  exact ⟨p, hp, rfl, by rw [hmessage]; rfl, (hmessage ▸ hshape).isVisible_message⟩

/-- **A line is counted** exactly if it is a line of code. -/
theorem mem_codeLines_iff (h : flatTree path language s = .ok tree) {line : Int} :
    line ∈ Visitor.codeLines tree ↔ IsCodeLine tree s line := by
  rw [mem_codeLines h]
  constructor
  · rintro ⟨p, hp, hcomment, hvisible, hstart, hend⟩
    by_cases hmessage : p.2.kind = .message
    · refine .inr ⟨p.2.toNodeAt s p.1, ?_, ?_, hstart, hend⟩
      · rw [children_of_flatTree h]
        exact List.mem_map.2 ⟨p, hp, rfl⟩
      · rw [Lexeme.toNodeAt, hmessage]
        rfl
    · exact .inl (exists_showsCode h hp hcomment hmessage hvisible hstart hend)
  · rintro (⟨i, hi, rfl⟩ | ⟨n, hn, htype, hstart, hend⟩)
    · obtain ⟨p, hp, hcomment, hvisible, hholds⟩ := exists_token_of_showsCode h hi
      have hbefore := Text.breakCount_take_mono s hholds.1
      have hbehind := Text.breakCount_take_mono s (Nat.le_of_lt hholds.2)
      simp only [Lexeme.spanAt] at hbefore hbehind
      exact ⟨p, hp, hcomment, hvisible, by omega, by omega⟩
    · obtain ⟨p, hp, rfl, hcomment, hvisible⟩ := exists_token_of_message h hn htype
      exact ⟨p, hp, hcomment, hvisible, hstart, hend⟩

/-- **Lines of code in the source.**  Of a text with a flat tree, the visitor of lines of code
writes how many of the physical lines are lines of code: those with a visible character outside of
all comments, and those that a message spans.  It counts these lines and no others. -/
theorem run_linesOfCode_of_flatTree (h : flatTree path language s = .ok tree) (m : Metric)
    (sheet : Sheet) :
    (Visitor.linesOfCode m).run tree sheet = .ok { sheet with
      measures := sheet.measures.put m
        {line : Int | 1 ≤ line ∧ line ≤ Text.lineCount s ∧ IsCodeLine tree s line}.ncard } ∧
    ∀ line, line ∈ Visitor.codeLines tree ↔ IsCodeLine tree s line := by
  have hwithin : ∀ line ∈ Visitor.codeLines tree, 1 ≤ line ∧ line ≤ Text.lineCount s := by
    intro line hline
    obtain ⟨p, hp, -, -, hstart, hend⟩ := (mem_codeLines h).1 hline
    have hstands := Lexeme.toNodeAt_standsAt (List.mem_of_mem_filter hp)
    have hlast := endLine_le_lineCount hstands
    rw [hstands.endLine] at hlast
    simp only [Lexeme.spanAt] at hlast
    omega
  have hset : {line : Int | 1 ≤ line ∧ line ≤ Text.lineCount s ∧ IsCodeLine tree s line} =
      {line | line ∈ Visitor.codeLines tree} := by
    ext line
    rw [Set.mem_ofPred_eq, Set.mem_ofPred_eq, ← mem_codeLines_iff h]
    constructor
    · exact fun hline => hline.2.2
    · exact fun hline => ⟨(hwithin line hline).1, (hwithin line hline).2, hline⟩
  refine ⟨?_, fun line => mem_codeLines_iff h⟩
  rw [Visitor.run_linesOfCode, LineSet.size_eq_ncard, hset]

set_option maxRecDepth 4000 in
/-- A string over two lines, a comment from its second line to one of its own, and a message over
two lines of which the second is blank. -/
theorem run_linesOfCode_of_flatTree_every_kind :
    ∃ tree, flatTree "a.m" "objc" "\"\\\n\" /*\n*/\n#error\\\n ".toList = .ok tree ∧
      (Visitor.linesOfCode .linesOfCode).run tree (.blank "a.m") = .ok { Sheet.blank "a.m" with
        measures := Listing.empty.put .linesOfCode {line : Int | 1 ≤ line ∧
          line ≤ Text.lineCount "\"\\\n\" /*\n*/\n#error\\\n ".toList ∧
          IsCodeLine tree "\"\\\n\" /*\n*/\n#error\\\n ".toList line}.ncard } :=
  have h : ∃ tree, flatTree "a.m" "objc"
      "\"\\\n\" /*\n*/\n#error\\\n ".toList = .ok tree := ⟨_, by cbv⟩
  h.imp fun _ htree => ⟨htree, (run_linesOfCode_of_flatTree htree .linesOfCode _).1⟩

end

end Syntax
end LineMetrics
