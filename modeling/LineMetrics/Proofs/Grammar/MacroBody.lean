import LineMetrics.Proofs.Grammar.Rows
import LineMetrics.Proofs.Measure.LeafLines

/-!
# Macro bodies in both trees

With a grammar, a macro's body is one leaf, and splitting it takes out the first line comment with
all that is behind it (specification, section 2).  The lexer ends that comment at the next break,
even where a backslash stands in front of the break, and goes on with code.

The split spans the lines that show: its code those in front of the comment, its comment those from
there on (`mem_codeLinesOf_split`, `mem_commentLinesOf_split`).  Lexemes span these too, and a leaf
on the last line is there even if it is blank (`Lexeme.IsContinuedCode.shows_iff`).  So the trees
count a body alike if and only if no code stands behind the comment and the last lines agree, which
`keepsLines` decides (`split_countsAlike_iff`).  A body of one line is always counted alike.
-/

namespace LineMetrics

namespace Text

/-- Where there is no CR, the line breaks are the LFs. -/
theorem breakCount_eq_count {s : List Char} (h : '\r' ∉ s) : breakCount s = s.count '\n' := by
  induction s with
  | nil => rfl
  | cons c rest ih =>
    obtain ⟨hc, hrest⟩ := not_or.1 (mt List.mem_cons.2 h)
    have hseam : ¬SplitsBreak [c] rest :=
      not_splitsBreak_of_no_cr (fun h => hc (List.mem_singleton.1 h)) rest
    rw [breakCount_cons hseam, ih hrest, List.count_cons]
    simp [isBreak, Ne.symm hc]

/-- A character that is not blank stays when blanks are trimmed behind it. -/
theorem trimEnd_cons {c : Char} (hc : isBlank c = false) (s : List Char) :
    trimEnd (c :: s) = c :: trimEnd s := by
  rw [trimEnd, List.reverse_cons, List.dropWhile_append]
  split
  · rename_i hnil
    rw [List.isEmpty_iff] at hnil
    simp [trimEnd, hnil, hc]
  · simp [trimEnd]

end Text

namespace Lexeme

/-- Lexemes of code without comments, in lines that end in LF, each continued by a backslash. -/
structure IsContinuedCode (ls : List Lexeme) : Prop where
  shape : ∀ l ∈ ls, ∃ rest, Shape l.kind l.text rest
  gap : ∀ l ∈ ls, l.kind.isGap = true → ∀ c ∈ l.text, c ∈ gapChars
  isComment : ∀ l ∈ ls, l.kind.isComment = false
  noCr : '\r' ∉ textOf ls
  continues : Text.ContinuesLines (textOf ls)

namespace IsContinuedCode

variable {ls : List Lexeme} {k : Nat}

/-- A line on which the code of a body shows has a leaf. -/
theorem leafOn_of_showsOn (h : IsContinuedCode ls) (hk : Text.ShowsOn (textOf ls) k) :
    LeafOn false ls k := by
  obtain ⟨isComment, hleaf⟩ := Lexeme.leafOn_of_showsOn h.gap h.noCr hk
  obtain ⟨l, hl, -, hcomment⟩ := exists_leafOn_iff.1 ⟨k, hleaf⟩
  rwa [← hcomment, h.isComment l hl] at hleaf

/-- Code spans each of its lines but the last. -/
theorem leafOn_of_lt (h : IsContinuedCode ls) (hk : k < Text.breakCount (textOf ls)) :
    LeafOn false ls k :=
  h.leafOn_of_showsOn (h.continues.showsOn h.noCr hk)

/-- The last line of a body has a leaf unless the body trails off in a continued line break. -/
theorem leafOn_last_iff (h : IsContinuedCode ls) (hvisible : Text.isVisible (textOf ls) = true) :
    LeafOn false ls (Text.breakCount (textOf ls)) ↔ trailsOff ls = false := by
  have hshows : ∃ j, 0 ≤ j ∧ Text.ShowsOn (textOf ls) j :=
    (Text.le_breakCount_trimEnd_iff h.noCr hvisible 0).1 (Nat.zero_le _)
  obtain ⟨j, -, hj⟩ := hshows
  obtain ⟨l, hl, hgap, -⟩ := exists_leafOn_iff.1 ⟨j, h.leafOn_of_showsOn hj⟩
  rw [← Lexeme.leafOn_last_iff h.shape h.noCr ⟨l, hl, hgap⟩]
  constructor
  · exact fun hleaf => ⟨false, hleaf⟩
  · rintro ⟨isComment, hleaf⟩
    obtain ⟨m, hm, -, hcomment⟩ := exists_leafOn_iff.1 ⟨_, hleaf⟩
    rwa [← hcomment, h.isComment m hm] at hleaf

/-- **Code spans all its lines** unless it trails off. -/
theorem spans_iff (h : IsContinuedCode ls) (hvisible : Text.isVisible (textOf ls) = true) :
    (∀ k, k ≤ Text.breakCount (textOf ls) ↔ LeafOn false ls k) ↔ trailsOff ls = false := by
  rw [← h.leafOn_last_iff hvisible]
  constructor
  · exact fun hall => (hall _).1 (Nat.le_refl _)
  · refine fun hlast k => ⟨fun hk => ?_, fun hleaf => hleaf.le_breakCount h.noCr⟩
    rcases hk.eq_or_lt with rfl | hlt
    · exact hlast
    · exact h.leafOn_of_lt hlt

/-- **Code spans the lines that it shows on** unless leaves stand on a last line that is blank. -/
theorem shows_iff (h : IsContinuedCode ls) (hvisible : Text.isVisible (textOf ls) = true) :
    (∀ k, Text.ShowsOn (textOf ls) k ↔ LeafOn false ls k) ↔ trailsOff ls = true ∨
      Text.breakCount (Text.trimEnd (textOf ls)) = Text.breakCount (textOf ls) := by
  have htrim := h.continues.le_breakCount_trimEnd_iff h.noCr hvisible
  have hlast := h.leafOn_last_iff hvisible
  have hle := Text.breakCount_trimEnd_le (textOf ls)
  constructor
  · intro hall
    cases htrails : trailsOff ls with
    | true => exact .inl rfl
    | false => exact .inr (hle.antisymm ((htrim _).2 ((hall _).2 (hlast.2 htrails))))
  · refine fun hor k => ⟨h.leafOn_of_showsOn, fun hleaf => ?_⟩
    rcases (hleaf.le_breakCount h.noCr).eq_or_lt with rfl | hlt
    · have htrails := hlast.1 hleaf
      refine (htrim _).1 (hor.elim (fun h => ?_) (fun h => h.ge))
      exact absurd (htrails.symm.trans h) Bool.false_ne_true
    · exact h.continues.showsOn h.noCr hlt

end IsContinuedCode

end Lexeme

/-- A leaf spans the lines from its first one down. -/
theorem Node.mem_lines_leaf {type : String} {start : Position} {breaks : Nat} {text : List Char}
    {isComment : Bool} {line : Int} :
    line ∈ (leaf type start (start.line + breaks) text isComment).lines ↔
      ∃ k ≤ breaks, line = start.line + (k : Int) := by
  rw [mem_lines]
  simp only [leaf]
  constructor
  · rintro ⟨hstart, hend⟩
    exact ⟨(line - start.line).toNat, by omega, by omega⟩
  · rintro ⟨k, hk, rfl⟩
    omega

namespace MacroBody

open Lexeme (LeafOn textOf trailsOff)

/-- The lexemes in front of the first line comment. -/
def front (s : List Char) : List Lexeme :=
  (Lexeme.lexemes s).takeWhile fun l => l.kind ≠ .lineComment

/-- The lexemes from the first line comment on. -/
def back (s : List Char) : List Lexeme :=
  (Lexeme.lexemes s).dropWhile fun l => l.kind ≠ .lineComment

/-- The leaf that a grammar makes of a macro's body. -/
def body (start : Position) (s : List Char) : Node :=
  .leaf nodeType start (start.line + (s.count '\n' : Nat)) s false

/-- What a macro's body looks like, if there is no block comment in it: it starts with something
visible, and it goes on behind an LF because a backslash stands in front of it. -/
structure IsBody (s : List Char) : Prop where
  startsVisible : ∃ c rest, s = c :: rest ∧ Text.isBlank c = false
  noCr : '\r' ∉ s
  noBlock : ¬['/', '*'] <:+: s
  continues : Text.ContinuesLines s

variable {s : List Char} {start : Position} {a : CommentAnalyzer} {line : Int}

/-- The code in front of the first line comment and what follows it make up the body, lexeme by
lexeme. -/
theorem front_append_back (s : List Char) : front s ++ back s = Lexeme.lexemes s :=
  List.takeWhile_append_dropWhile

/-- The texts of the two parts make up the body. -/
theorem textOf_front_append_back (s : List Char) :
    textOf (front s) ++ textOf (back s) = s := by
  rw [← Lexeme.textOf_append, front_append_back]
  exact Lexeme.lexemes_flatten s

/-- A line comment stands first in the back. -/
theorem exists_back_eq_cons (h : back s ≠ []) : ∃ comment rest,
    back s = ⟨.lineComment, '/' :: '/' :: comment⟩ :: rest ∧
      (∀ c ∈ comment, Text.isBreak c = false) ∧
      ∀ c ∈ (textOf rest).head?, Text.isBreak c = true := by
  obtain ⟨⟨kind, text⟩, rest, hback⟩ := List.exists_cons_of_ne_nil h
  have hkind := List.head?_dropWhile_not (fun l : Lexeme => l.kind ≠ .lineComment)
    (Lexeme.lexemes s)
  rw [← back, hback] at hkind
  obtain rfl : kind = .lineComment := by simpa using hkind
  have hlexemes := front_append_back s
  rw [hback] at hlexemes
  have hshape := Lexeme.shape_of_lexemes_eq_append hlexemes.symm
  obtain ⟨-, comment, htext, hquiet, hrest⟩ | ⟨hblock, -⟩ := hshape.comment_cases rfl
  · exact ⟨comment, rest, by rw [hback, ← htext], hquiet, hrest⟩
  · cases hblock

namespace IsBody

/-- The front of a body holds no CR. -/
theorem noCr_front (h : IsBody s) : '\r' ∉ textOf (front s) := fun hmem =>
  h.noCr (textOf_front_append_back s ▸ List.mem_append_left _ hmem)

/-- The back of a body holds no CR. -/
theorem noCr_back (h : IsBody s) : '\r' ∉ textOf (back s) := fun hmem =>
  h.noCr (textOf_front_append_back s ▸ List.mem_append_right _ hmem)

/-- Every line break in the back of a body is continued. -/
theorem continues_back (h : IsBody s) : Text.ContinuesLines (textOf (back s)) := by
  have hcontinues := h.continues
  rw [← textOf_front_append_back s] at hcontinues
  refine hcontinues.right ?_
  by_cases hnil : back s = []
  · rw [hnil]
    exact nofun
  · obtain ⟨comment, rest, hback, -⟩ := exists_back_eq_cons hnil
    rw [hback]
    exact fun hhead => absurd (Option.some.inj hhead) (by decide)

/-- The comments of a body are line comments. -/
theorem exists_lineComment (h : IsBody s) {l : Lexeme} (hl : l ∈ Lexeme.lexemes s)
    (hcomment : l.kind.isComment = true) : l.kind = .lineComment ∧
      ∃ comment, l.text = '/' :: '/' :: comment ∧ ∀ c ∈ comment, Text.isBreak c = false := by
  obtain ⟨before, after, hls⟩ := List.append_of_mem hl
  have hshape := Lexeme.shape_of_lexemes_eq_append hls
  obtain ⟨hkind, comment, htext, hquiet, -⟩ | ⟨-, comment, htext⟩ := hshape.comment_cases hcomment
  · exact ⟨hkind, comment, htext, hquiet⟩
  · have hopener : ['/', '*'] <:+: l.text := by
      rw [htext]
      exact (List.prefix_append ['/', '*'] _).isInfix
    have hs := Lexeme.lexemes_flatten s
    rw [hls, List.flatMap_append, List.flatMap_cons] at hs
    exact absurd (hs ▸ hopener.trans (List.infix_append' ..)) h.noBlock

/-- The front is code, and all that is known of it. -/
theorem isContinuedCode_front (h : IsBody s) : Lexeme.IsContinuedCode (front s) := by
  have hmem : ∀ l ∈ front s, l ∈ Lexeme.lexemes s := fun l hl =>
    (List.takeWhile_sublist _).subset hl
  refine ⟨fun l hl => Lexeme.shape_of_mem_lexemes (hmem l hl), fun l hl =>
    (Lexeme.mem_lexemes (hmem l hl)).2, fun l hl => ?_, h.noCr_front, ?_⟩
  · have hline : l.kind ≠ .lineComment := by simpa using List.mem_takeWhile_imp hl
    exact Bool.eq_false_iff.2 fun hcomment =>
      hline (h.exists_lineComment (hmem l hl) hcomment).1
  · have hcontinues := h.continues
    rw [← textOf_front_append_back s] at hcontinues
    exact hcontinues.left

end IsBody

/-! ### The split -/

/-- The first line comment stands behind the front. -/
theorem lineCommentOffset_eq (s : List Char) : Lexeme.lineCommentOffset s =
    if back s = [] then none else some (textOf (front s)).length := by
  have hlength := congrArg List.length (textOf_front_append_back s)
  rw [List.length_append] at hlength
  rw [Lexeme.lineCommentOffset]
  by_cases h : back s = []
  · rw [h] at hlength
    rw [if_pos h]
    exact if_neg hlength.not_lt
  · rw [if_neg h]
    obtain ⟨comment, rest, hback, -⟩ := exists_back_eq_cons h
    have hpos : 0 < (textOf (back s)).length := by
      rw [hback]
      exact Nat.succ_pos _
    exact if_pos ((Nat.lt_add_of_pos_right hpos).trans_eq hlength)

/-- A body without a line comment is not split. -/
theorem split_body_of_back_eq_nil (h : back s = []) : split (body start s) = [body start s] := by
  have hoffset := lineCommentOffset_eq s
  rw [if_pos h] at hoffset
  simp [split, body, Node.leaf, hoffset]

/-- Splitting cuts between the front and the back. -/
theorem split_body_of_back_ne_nil (h : back s ≠ []) : split (body start s) =
    (if Text.isVisible (textOf (front s)) then
      [codePart (body start s) (Text.trimEnd (textOf (front s)))] else []) ++
      [commentPart (body start s) (textOf (front s)) (textOf (back s))] := by
  have hoffset := lineCommentOffset_eq s
  rw [if_neg h] at hoffset
  obtain ⟨htake, hdrop⟩ := Lexeme.take_drop_of_append (textOf_front_append_back s).symm rfl
  have hcode := Text.trimEnd_eq_nil_iff (textOf (front s))
  cases hvisible : Text.isVisible (textOf (front s)) with
  | false =>
    simp [split, body, Node.leaf, hoffset, htake, hdrop, hcode.2 hvisible]
  | true =>
    have hne : Text.trimEnd (textOf (front s)) ≠ [] := by simp [hcode, hvisible]
    simp [split, body, Node.leaf, hoffset, htake, hdrop, hne]

/-- **The code of a split** spans the lines that show in front of the comment. -/
theorem mem_codeLinesOf_split (hbody : IsBody s) (h : back s ≠ []) :
    line ∈ codeLinesOf (split (body start s)) ↔
      ∃ k, Text.ShowsOn (textOf (front s)) k ∧ line = start.line + (k : Int) := by
  rw [split_body_of_back_ne_nil h]
  cases hvisible : Text.isVisible (textOf (front s)) with
  | false =>
    refine iff_of_false ?_ ?_
    · simp [codeLinesOf, commentPart, Node.leaf]
    · rintro ⟨k, hk, -⟩
      exact Bool.false_ne_true (hvisible.symm.trans hk.isVisible)
  | true =>
    have hcode := hbody.isContinuedCode_front
    have hlines : line ∈ (codePart (body start s) (Text.trimEnd (textOf (front s)))).lines ↔
        ∃ k ≤ Text.breakCount (Text.trimEnd (textOf (front s))), line = start.line + (k : Int) :=
      Node.mem_lines_leaf
    simp only [hcode.continues.le_breakCount_trimEnd_iff hcode.noCr hvisible] at hlines
    rw [← hlines]
    simp [codeLinesOf, codePart, commentPart, Node.leaf, body]

/-- A single comment behind code is assigned to its own lines. -/
theorem mem_commentLinesOf_concat {code : List Node} (hcode : ∀ m ∈ code, m.isComment = false)
    {n : Node} (hn : n.isComment = true) {lines : List CommentLine}
    (hlines : a.commentLines n = .ok lines) :
    line ∈ commentLinesOf a (code ++ [n]) ↔ ∃ l ∈ lines, l.number = line := by
  constructor
  · rintro ⟨m, hm, hcomment, more, hmore, hl⟩
    rcases List.mem_append.1 hm with hm | hm
    · exact absurd ((hcode m hm).symm.trans hcomment) Bool.false_ne_true
    · obtain rfl := List.mem_singleton.1 hm
      obtain rfl := Except.ok.inj (hmore.symm.trans hlines)
      exact hl
  · exact fun hl => ⟨n, List.mem_append_right _ (List.mem_singleton_self n), hn, lines, hlines, hl⟩

/-- **The comment of a split** is assigned to the lines that show from its beginning on. -/
theorem mem_commentLinesOf_split (hbody : IsBody s) (hfamilies : a.families = CommentFamily.ofC) :
    line ∈ commentLinesOf a (split (body start s)) ↔
      ∃ k, Text.ShowsOn (textOf (back s)) k ∧
        line = start.line + ((Text.breakCount (textOf (front s)) + k : Nat) : Int) := by
  by_cases h : back s = []
  · rw [split_body_of_back_eq_nil h, h]
    refine iff_of_false ?_ ?_
    · simp [commentLinesOf, body, Node.leaf]
    · rintro ⟨k, hk, -⟩
      exact Bool.false_ne_true hk.isVisible
  · obtain ⟨comment, rest, hback, -⟩ := exists_back_eq_cons h
    have hslash : Text.isBlank '/' = false := by decide +kernel
    -- Trimming leaves the comment its slashes, so it is read.
    have hopener : Text.trimEnd (textOf (back s)) =
        '/' :: '/' :: Text.trimEnd (comment ++ textOf rest) := by
      rw [hback, Lexeme.textOf_cons, List.cons_append, List.cons_append, Text.trimEnd_cons hslash,
        Text.trimEnd_cons hslash]
    have hvisible : Text.isVisible (textOf (back s)) = true := by
      have hnil := Text.trimEnd_eq_nil_iff (textOf (back s))
      simpa [hopener] using hnil
    let part := commentPart (body start s) (textOf (front s)) (textOf (back s))
    have hcontents : a.contents (part.text.getD []) =
        .ok (Text.trimEnd (comment ++ textOf rest)) := by
      rw [← CommentAnalyzer.contents_line hfamilies, ← hopener]
      rfl
    obtain ⟨lines, hlines, -⟩ := CommentAnalyzer.number_of_mem_commentLines hcontents
    have hread : line ∈ commentLinesOf a (split (body start s)) ↔ ∃ l ∈ lines, l.number = line := by
      rw [split_body_of_back_ne_nil h]
      refine mem_commentLinesOf_concat ?_ rfl hlines
      split <;> simp [codePart, Node.leaf]
    have hspan : line ∈ part.lines ↔ ∃ k ≤ Text.breakCount (Text.trimEnd (textOf (back s))),
        line = part.start.line + (k : Int) := Node.mem_lines_leaf
    have hstart : part.start.line =
        start.line + (Text.breakCount (textOf (front s)) : Int) := rfl
    rw [hread, CommentAnalyzer.exists_number_iff_mem_lines hfamilies hlines rfl, hspan, hstart]
    simp only [hbody.continues_back.le_breakCount_trimEnd_iff hbody.noCr_back hvisible,
      Nat.cast_add, Int.add_assoc]

/-! ### The lexemes -/

/-- Code behind the first line comment stands on a line further down. -/
theorem pos_of_leafOn_back {k : Nat} (h : LeafOn false (back s) k) : 0 < k := by
  by_cases hnil : back s = []
  · rw [hnil] at h
    exact h.elim
  obtain ⟨comment, rest, hback, -, hbreak⟩ := exists_back_eq_cons hnil
  have hlexemes := front_append_back s
  rw [hback] at h hlexemes
  rcases h with ⟨-, hcomment, -⟩ | ⟨j, hj, rfl⟩
  · cases hcomment
  cases rest with
  | nil => exact hj.elim
  | cons l rest =>
    rw [List.append_cons] at hlexemes
    have hshape := Lexeme.shape_of_lexemes_eq_append hlexemes.symm
    have hl : l ∈ Lexeme.lexemes s := hlexemes ▸ by simp
    -- The comment ends at a break, so what stands behind it is a newline.
    have hnewline : l.kind = .newline := by
      obtain ⟨c, tail, htext⟩ := List.exists_cons_of_ne_nil (Lexeme.mem_lexemes hl).1
      have hhead : (textOf (l :: rest)).head? = some c := by
        rw [Lexeme.textOf_cons, htext]
        rfl
      exact hshape.eq_newline (by rw [htext]; rfl) (hbreak c hhead)
    rcases hj with ⟨hgap, -⟩ | ⟨i, -, rfl⟩
    · rw [hnewline] at hgap
      cases hgap
    · rw [hshape.breakCount_newline hnewline]
      omega

/-- **The comments from the first one on** span the lines that show, if there is no code. -/
theorem leafOn_back_iff (hbody : IsBody s) (hcode : ∀ k, ¬LeafOn false (back s) k) (k : Nat) :
    LeafOn true (back s) k ↔ Text.ShowsOn (textOf (back s)) k := by
  have hmem : ∀ l ∈ back s, l ∈ Lexeme.lexemes s := fun l hl =>
    (List.dropWhile_sublist _).subset hl
  constructor
  · refine fun h => h.showsOn (fun l hl hcomment => ?_) hbody.noCr_back
    obtain ⟨-, comment, htext, hquiet⟩ := hbody.exists_lineComment (hmem l hl) hcomment
    rw [htext]
    refine ⟨Text.breakCount_eq_zero (List.forall_mem_cons.2 ⟨rfl, ?_⟩), rfl⟩
    exact List.forall_mem_cons.2 ⟨rfl, hquiet⟩
  · intro h
    have hgaps : ∀ l ∈ back s, l.kind.isGap = true → ∀ c ∈ l.text, c ∈ Lexeme.gapChars :=
      fun l hl => (Lexeme.mem_lexemes (hmem l hl)).2
    obtain ⟨isComment, hleaf⟩ := Lexeme.leafOn_of_showsOn hgaps hbody.noCr_back h
    cases isComment with
    | false => exact absurd hleaf (hcode k)
    | true => exact hleaf

/-- No comment is in front of the first line comment. -/
theorem not_leafOn_front (hbody : IsBody s) (k : Nat) : ¬LeafOn true (front s) k := by
  intro h
  obtain ⟨l, hl, -, hcomment⟩ := Lexeme.exists_leafOn_iff.1 ⟨k, h⟩
  exact Bool.false_ne_true ((hbody.isContinuedCode_front.isComment l hl).symm.trans hcomment)

/-- A leaf of the whole body is one of the front, or one of the back on a line that is counted from
where the front ends. -/
theorem leafOn_lexemes_iff (hbody : IsBody s) {isComment : Bool} {k : Nat} :
    LeafOn isComment (Lexeme.lexemes s) k ↔ LeafOn isComment (front s) k ∨
      ∃ j, LeafOn isComment (back s) j ∧
        k = Text.breakCount (textOf (front s)) + j := by
  rw [← front_append_back, Lexeme.leafOn_append hbody.noCr_front]

/-! ### Both trees -/

/-- Whether the lexer keeps to the lines of the split.  Without a comment, a leaf has to stand on
the last line, since the grammar's leaf goes down to it.  With a comment, no code may stand behind
it, and a leaf may stand on the last line in front of it only if that line shows. -/
def keepsLines (s : List Char) : Bool :=
  if (back s).isEmpty then !trailsOff (front s)
  else
    (back s).all (fun l => l.kind.isGap || l.kind.isComment) &&
      (trailsOff (front s) ||
        Text.breakCount (Text.trimEnd (textOf (front s))) = Text.breakCount (textOf (front s)))

/-- The split body at `start` has the comment lines and the code lines of a tree, moved down to
where the body starts. -/
structure CountsAlike (a : CommentAnalyzer) (start : Position) (s : List Char) (tree : SyntaxTree) :
    Prop where
  comment : commentLinesOf a (split (body start s)) =
    (fun line => line + (start.line - 1)) '' commentLinesOf a tree.root.children
  code : codeLinesOf (split (body start s)) =
    (fun line => line + (start.line - 1)) '' codeLinesOf tree.root.children

/-- Two sets of lines are the same, one moved down, if they hold the same offsets. -/
theorem eq_image_add_iff {A B : Set Int} {P Q : Nat → Prop} {first : Int}
    (hA : ∀ line, line ∈ A ↔ ∃ k, P k ∧ line = first + (k : Int))
    (hB : ∀ line, line ∈ B ↔ ∃ k, Q k ∧ line = 1 + (k : Int)) :
    A = (fun line => line + (first - 1)) '' B ↔ ∀ k, P k ↔ Q k := by
  have hP : ∀ k : Nat, first + (k : Int) ∈ A ↔ P k := fun k =>
    (hA _).trans ⟨fun ⟨j, hj, heq⟩ => (show j = k by omega) ▸ hj, fun hk => ⟨k, hk, rfl⟩⟩
  have hQ : ∀ k : Nat, 1 + (k : Int) ∈ B ↔ Q k := fun k =>
    (hB _).trans ⟨fun ⟨j, hj, heq⟩ => (show j = k by omega) ▸ hj, fun hk => ⟨k, hk, rfl⟩⟩
  constructor
  · rintro rfl k
    rw [← hP, ← hQ]
    constructor
    · rintro ⟨line, hline, heq⟩
      rwa [show 1 + (k : Int) = line by dsimp only at heq; omega]
    · exact fun hk => ⟨_, hk, by dsimp only; omega⟩
  · intro h
    ext line
    constructor
    · intro hline
      obtain ⟨k, hk, rfl⟩ := (hA line).1 hline
      exact ⟨_, (hQ k).2 ((h k).1 hk), by dsimp only; omega⟩
    · rintro ⟨_, hline, rfl⟩
      obtain ⟨k, hk, rfl⟩ := (hB _).1 hline
      exact (hA _).2 ⟨k, (h k).2 hk, by dsimp only; omega⟩

section

variable {path language : String} {tree : SyntaxTree}

/-- The front of a body without a line comment is all of it. -/
theorem textOf_front_of_back_eq_nil (h : back s = []) : textOf (front s) = s := by
  have htext := textOf_front_append_back s
  rw [h] at htext
  exact (List.append_nil _).symm.trans htext

/-- The front of a body without a line comment has lexemes. -/
theorem front_ne_nil_of_back_eq_nil (hbody : IsBody s) (h : back s = []) : front s ≠ [] := by
  intro hnil
  obtain ⟨c, rest, rfl, -⟩ := hbody.startsVisible
  have htext := textOf_front_of_back_eq_nil h
  rw [hnil] at htext
  cases htext

/-- The front of a body can be seen if there is any. -/
theorem isVisible_front (hbody : IsBody s) (h : front s ≠ []) :
    Text.isVisible (textOf (front s)) = true := by
  obtain ⟨c, rest, hs, hc⟩ := hbody.startsVisible
  obtain ⟨l, ls, hfront⟩ := List.exists_cons_of_ne_nil h
  have hl : l ∈ Lexeme.lexemes s := by
    rw [← front_append_back, hfront]
    exact List.mem_cons_self
  obtain ⟨d, tail, htext⟩ := List.exists_cons_of_ne_nil (Lexeme.mem_lexemes hl).1
  have hfirst := textOf_front_append_back s
  rw [hfront, Lexeme.textOf_cons, htext, hs] at hfirst
  obtain ⟨rfl, -⟩ := List.cons.inj hfirst
  rw [hfront, Lexeme.textOf_cons, htext]
  exact List.any_eq_true.2 ⟨d, List.mem_cons_self, by rw [hc]; rfl⟩

/-- The code in front of a comment spans the lines that it shows on. -/
theorem front_shows_iff (hbody : IsBody s) :
    (∀ k, Text.ShowsOn (textOf (front s)) k ↔ LeafOn false (front s) k) ↔
      trailsOff (front s) = true ∨
        Text.breakCount (Text.trimEnd (textOf (front s))) =
          Text.breakCount (textOf (front s)) := by
  by_cases h : front s = []
  · rw [h]
    refine iff_of_true (fun k => iff_of_false (fun hk => ?_) id) (.inr rfl)
    exact Bool.false_ne_true hk.isVisible
  · exact hbody.isContinuedCode_front.shows_iff (isVisible_front hbody h)

/-- The back of a body has no code if all of its lexemes are gaps and comments. -/
theorem forall_not_leafOn_back_iff : (∀ k, ¬LeafOn false (back s) k) ↔
    (back s).all (fun l => l.kind.isGap || l.kind.isComment) = true := by
  rw [← not_exists, Lexeme.exists_leafOn_iff, List.all_eq_true]
  push Not
  refine forall₂_congr fun l _ => ?_
  cases l.kind.isGap <;> simp

/-- Where no code stands behind the first line comment, the comments are the same. -/
theorem commentLinesOf_split_eq (hbody : IsBody s) (hfamilies : a.families = CommentFamily.ofC)
    (h : Syntax.flatTree path language s = .ok tree)
    (hcode : ∀ k, ¬LeafOn false (back s) k) :
    commentLinesOf a (split (body start s)) =
      (fun line => line + (start.line - 1)) '' commentLinesOf a tree.root.children := by
  have hsplit : ∀ line, line ∈ commentLinesOf a (split (body start s)) ↔
      ∃ k, (∃ j, Text.ShowsOn (textOf (back s)) j ∧
        k = Text.breakCount (textOf (front s)) + j) ∧ line = start.line + (k : Int) := by
    intro line
    rw [mem_commentLinesOf_split hbody hfamilies]
    exact ⟨fun ⟨j, hj, hline⟩ => ⟨_, ⟨j, hj, rfl⟩, hline⟩,
      fun ⟨_, ⟨j, hj, hk⟩, hline⟩ => ⟨j, hj, hk ▸ hline⟩⟩
  refine (eq_image_add_iff hsplit (Syntax.mem_commentLinesOf_flatTree h hfamilies)).2 fun k => ?_
  rw [leafOn_lexemes_iff hbody]
  simp only [leafOn_back_iff hbody hcode, not_leafOn_front hbody, false_or]

variable (start)

/-- Without a comment the body is the grammar's, and spans all its lines. -/
theorem codeLinesOf_split_eq_iff_of_back_eq_nil (hbody : IsBody s) (hback : back s = [])
    (h : Syntax.flatTree path language s = .ok tree) :
    codeLinesOf (split (body start s)) =
        (fun line => line + (start.line - 1)) '' codeLinesOf tree.root.children ↔
      trailsOff (front s) = false := by
  have hfront := front_ne_nil_of_back_eq_nil hbody hback
  have hsplit : ∀ line, line ∈ codeLinesOf (split (body start s)) ↔
      ∃ k, k ≤ Text.breakCount (textOf (front s)) ∧ line = start.line + (k : Int) := by
    intro line
    rw [split_body_of_back_eq_nil hback, textOf_front_of_back_eq_nil hback,
      Text.breakCount_eq_count hbody.noCr]
    rw [show codeLinesOf [body start s] = {line | line ∈ (body start s).lines} by
      simp [codeLinesOf, body, Node.leaf]]
    exact Node.mem_lines_leaf
  have hlexemes : Lexeme.lexemes s = front s := by rw [← front_append_back, hback, List.append_nil]
  rw [eq_image_add_iff hsplit (Syntax.mem_codeLinesOf_flatTree h), hlexemes]
  exact hbody.isContinuedCode_front.spans_iff (isVisible_front hbody hfront)

/-- With a comment, no code may stand behind it, and the code in front of it has to span what
shows. -/
theorem codeLinesOf_split_eq_iff (hbody : IsBody s) (hback : back s ≠ [])
    (h : Syntax.flatTree path language s = .ok tree) :
    codeLinesOf (split (body start s)) =
        (fun line => line + (start.line - 1)) '' codeLinesOf tree.root.children ↔
      (∀ k, ¬LeafOn false (back s) k) ∧
        ∀ k, Text.ShowsOn (textOf (front s)) k ↔ LeafOn false (front s) k := by
  rw [eq_image_add_iff (fun _ => mem_codeLinesOf_split hbody hback)
    (Syntax.mem_codeLinesOf_flatTree h)]
  simp only [leafOn_lexemes_iff hbody]
  constructor
  · intro hall
    -- Code behind the comment is too far down for the front to show it.
    have hnone : ∀ k, ¬LeafOn false (back s) k := by
      intro k hk
      have hshows := (hall _).2 (.inr ⟨k, hk, rfl⟩)
      have hle := hshows.le_breakCount
      have hpos := pos_of_leafOn_back hk
      omega
    simp only [hnone, false_and, exists_false, or_false] at hall
    exact ⟨hnone, hall⟩
  · rintro ⟨hnone, hall⟩
    simpa only [hnone, false_and, exists_false, or_false] using hall

/-- The trees give a body the same lines if and only if the lexer keeps to those of the split. -/
theorem countsAlike_iff (hbody : IsBody s) (hfamilies : a.families = CommentFamily.ofC)
    (h : Syntax.flatTree path language s = .ok tree) :
    CountsAlike a start s tree ↔ keepsLines s = true := by
  by_cases hback : back s = []
  · have hnone : ∀ k, ¬LeafOn false (back s) k := by
      rw [hback]
      exact fun k => id
    rw [keepsLines, hback, List.isEmpty_nil, if_pos rfl, Bool.not_eq_true',
      ← codeLinesOf_split_eq_iff_of_back_eq_nil start hbody hback h]
    exact ⟨CountsAlike.code, fun hcode => ⟨commentLinesOf_split_eq hbody hfamilies h hnone, hcode⟩⟩
  · rw [keepsLines, if_neg (by simp [hback]), Bool.and_eq_true, Bool.or_eq_true, decide_eq_true_iff,
      ← forall_not_leafOn_back_iff, ← front_shows_iff hbody,
      ← codeLinesOf_split_eq_iff start hbody hback h]
    refine ⟨CountsAlike.code, fun hcode => ⟨?_, hcode⟩⟩
    have hnone := ((codeLinesOf_split_eq_iff start hbody hback h).1 hcode).1
    exact commentLinesOf_split_eq hbody hfamilies h hnone

/-- A body of one line keeps it. -/
theorem keepsLines_of_no_lf (hbody : IsBody s) (hlf : '\n' ∉ s) : keepsLines s = true := by
  have hbreaks : Text.breakCount (textOf (front s)) +
      Text.breakCount (textOf (back s)) = 0 := by
    rw [← Text.breakCount_append (Text.not_splitsBreak_of_no_cr hbody.noCr_front _),
      textOf_front_append_back, Text.breakCount_eq_count hbody.noCr]
    exact List.count_eq_zero.2 hlf
  obtain ⟨hfront, hback⟩ := Nat.add_eq_zero_iff.1 hbreaks
  have hcode := hbody.isContinuedCode_front
  rw [keepsLines]
  split
  · rename_i hnil
    rw [List.isEmpty_iff] at hnil
    have hvisible := isVisible_front hbody (front_ne_nil_of_back_eq_nil hbody hnil)
    have hshows := (hcode.continues.le_breakCount_trimEnd_iff hcode.noCr hvisible 0).1
      (Nat.zero_le _)
    have hlast := hcode.leafOn_of_showsOn hshows
    rw [← hfront, hcode.leafOn_last_iff hvisible] at hlast
    rw [hlast]
    rfl
  · have hnone : ∀ k, ¬LeafOn false (back s) k := fun k hk =>
      (pos_of_leafOn_back hk).not_ge (hback ▸ hk.le_breakCount hbody.noCr_back)
    have htrim := Text.breakCount_trimEnd_le (textOf (front s))
    rw [forall_not_leafOn_back_iff.1 hnone, decide_eq_true (by omega), Bool.or_true]
    rfl

/-- **Both trees count a macro's body alike** if and only if the lexer keeps to the lines of the
split, and so they do if the body is one line. -/
theorem split_countsAlike_iff {a : CommentAnalyzer} (hfamilies : a.families = CommentFamily.ofC)
    {s : List Char} (hbody : IsBody s) {catalog : Catalog} {language : Language} {path : String}
    {tree : SyntaxTree} (h : Parser.parse ⟨.lexer, language⟩ catalog path s = .ok tree)
    (start : Position) :
    (CountsAlike a start s tree ↔ keepsLines s = true) ∧
      ('\n' ∉ s → CountsAlike a start s tree) := by
  have hiff := countsAlike_iff start hbody hfamilies (Syntax.flatTree_of_parse h)
  exact ⟨hiff, fun hlf => hiff.2 (keepsLines_of_no_lf hbody hlf)⟩

end

set_option maxRecDepth 4000 in
/-- A body over two lines with a string in front of its comment, and one of one line. -/
theorem split_countsAlike_two_lines :
    let parse (s : List Char) := Parser.parse ⟨.lexer, .c⟩ .empty "a.h" s
    let s := "f(x) \\\n g(\"//\") // c".toList
    (∃ tree, parse s = .ok tree ∧ CountsAlike .cFamily ⟨3, 12⟩ s tree) ∧
      ∃ tree, parse "1 // note".toList = .ok tree ∧
        CountsAlike .cFamily ⟨3, 12⟩ "1 // note".toList tree := by
  have htwo : IsBody "f(x) \\\n g(\"//\") // c".toList :=
    ⟨⟨_, _, rfl, by decide +kernel⟩, by decide, by decide, by decide⟩
  have hone : IsBody "1 // note".toList :=
    ⟨⟨_, _, rfl, by decide +kernel⟩, by decide, by decide, by decide⟩
  have hkeeps : keepsLines "f(x) \\\n g(\"//\") // c".toList = true := by cbv
  have htree : ∃ tree, Parser.parse ⟨.lexer, .c⟩ .empty "a.h"
      "f(x) \\\n g(\"//\") // c".toList = .ok tree := ⟨_, by cbv⟩
  have htree' : ∃ tree, Parser.parse ⟨.lexer, .c⟩ .empty "a.h" "1 // note".toList = .ok tree :=
    ⟨_, by cbv⟩
  have hfamilies : CommentAnalyzer.cFamily.families = CommentFamily.ofC :=
    CommentFamily.mergeSort_ofC
  exact ⟨htree.imp fun _ h => ⟨h, (split_countsAlike_iff hfamilies htwo h _).1.2 hkeeps⟩,
    htree'.imp fun _ h => ⟨h, (split_countsAlike_iff hfamilies hone h _).2 (by decide)⟩⟩

set_option maxRecDepth 4000 in
/-- A comment that a backslash continues: the grammar's tree has one comment over two lines, the
lexer's has a comment and a line of code. -/
theorem continued_comment_is_counted_apart :
    let s := "a // b \\\n c".toList
    IsBody s ∧ ∃ tree, Parser.parse ⟨.lexer, .c⟩ .empty "a.h" s = .ok tree ∧
      ¬CountsAlike .cFamily ⟨1, 2⟩ s tree := by
  have hbody : IsBody "a // b \\\n c".toList :=
    ⟨⟨_, _, rfl, by decide +kernel⟩, by decide, by decide, by decide⟩
  have hapart : keepsLines "a // b \\\n c".toList = false := by cbv
  have htree : ∃ tree, Parser.parse ⟨.lexer, .c⟩ .empty "a.h" "a // b \\\n c".toList = .ok tree :=
    ⟨_, by cbv⟩
  refine ⟨hbody, htree.imp fun tree h => ⟨h, fun halike => ?_⟩⟩
  have hkeeps := (countsAlike_iff _ hbody CommentFamily.mergeSort_ofC
    (Syntax.flatTree_of_parse h)).1 halike
  exact Bool.false_ne_true (hapart.symm.trans hkeeps)

end MacroBody
end LineMetrics
