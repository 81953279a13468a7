import LineMetrics.Proofs.Grammar.MacroBody
import LineMetrics.Proofs.Lexeme.Prefix

/-!
# What splitting a macro body keeps

A macro body with a line comment becomes its code, if there is any, and its comment (specification,
section 2).  Both have their text of the body, trimmed at the end, and both stand where it stood:
the comment is found by counting the breaks in front of it and the characters behind the last of
them (`Position.columnAfter_eq`).  Splitting is done then.  A comment is not split, and code is not
split again, because trimming what is in front of the first line comment brings no other one about
(`lineCommentOffset_trimEnd`).  All of it is `MacroBody.split_lossless`.
-/

namespace LineMetrics

namespace Text

/-- Trimming leaves nothing, or something visible at the end. -/
theorem isBlank_getLast_trimEnd (s : List Char) :
    ∀ c ∈ (trimEnd s).getLast?, isBlank c = false := by
  intro c hc
  cases hvisible : isVisible s with
  | false =>
    rw [(trimEnd_eq_nil_iff s).2 hvisible] at hc
    cases hc
  | true =>
    obtain ⟨before, d, -, -, htrim, hd, -⟩ := exists_trimEnd hvisible
    rw [htrim, List.getLast?_concat] at hc
    exact Option.some.inj hc ▸ hd

end Text

namespace Position

/-- A break leads to column 0, wherever the text in front of it started. -/
theorem columnAfter_of_break {s : List Char} (h : ∃ c ∈ s, Text.isBreak c = true) (column : Int) :
    columnAfter column s = columnAfter 0 s := by
  obtain ⟨c, hc, hbreak⟩ := h
  obtain ⟨before, after, rfl⟩ := List.append_of_mem hc
  rw [columnAfter_append, columnAfter_append 0, columnAfter_cons, columnAfter_cons _ c,
    if_pos hbreak, if_pos hbreak]

/-- **The column behind a text** is counted from its last break, or goes on if it has none. -/
theorem columnAfter_eq (column : Int) (s : List Char) : columnAfter column s =
    if Text.breakCount s = 0 then column + s.length else s.length - Text.lineStart s := by
  split
  · rename_i hzero
    exact columnAfter_of_no_break (Text.isBreak_of_breakCount_eq_zero hzero) column
  · rename_i hpos
    have hbreak : ∃ c ∈ s, Text.isBreak c = true := by
      by_contra hnone
      push Not at hnone
      exact hpos (Text.breakCount_eq_zero fun c hc => Bool.eq_false_of_not_eq_true (hnone c hc))
    rw [columnAfter_of_break hbreak, columnAfter_zero]

end Position

namespace MacroBody

open Lexeme (lineCommentOffset textOf)

variable {n : Node} {s : List Char} {o : Nat}

/-- The cut at a line comment is the one between the front and the back. -/
theorem front_back_of_lineCommentOffset (h : lineCommentOffset s = some o) :
    s.take o = textOf (front s) ∧ s.drop o = textOf (back s) ∧ back s ≠ [] ∧
      (s.take o).length = o := by
  rw [lineCommentOffset_eq] at h
  by_cases hback : back s = []
  · rw [if_pos hback] at h
    cases h
  · rw [if_neg hback] at h
    have ho := Option.some.inj h
    obtain ⟨htake, hdrop⟩ := Lexeme.take_drop_of_append (textOf_front_append_back s).symm ho.symm
    exact ⟨htake, hdrop, hback, by rw [htake, ho]⟩

/-- **Trimmed code is split no further.** -/
theorem lineCommentOffset_trimEnd (h : lineCommentOffset s = some o) :
    lineCommentOffset (Text.trimEnd (s.take o)) = none := by
  obtain ⟨htake, -⟩ := front_back_of_lineCommentOffset h
  obtain ⟨blanks, hblanks, hblank⟩ := Text.eq_trimEnd_append_blanks (s.take o)
  have hfront : ∀ l ∈ front s, l.kind ≠ .lineComment := by
    intro l hl
    simpa using List.mem_takeWhile_imp hl
  have hcode := Lexeme.not_lineComment_of_trimmed (front_append_back s).symm hfront
    (htake.symm.trans hblanks) hblank (Text.isBlank_getLast_trimEnd _)
  rw [lineCommentOffset_eq, if_pos]
  exact List.dropWhile_eq_nil_iff.2 fun l hl => by simpa using hcode l hl

/-- The line comment keeps its opener. -/
theorem opener_of_lineCommentOffset (h : lineCommentOffset s = some o) :
    ['/', '/'] <+: Text.trimEnd (s.drop o) := by
  obtain ⟨-, hdrop, hback, -⟩ := front_back_of_lineCommentOffset h
  obtain ⟨comment, rest, hcons, -⟩ := exists_back_eq_cons hback
  have hslash : Text.isBlank '/' = false := by decide +kernel
  rw [hdrop, hcons, Lexeme.textOf_cons, List.cons_append, List.cons_append,
    Text.trimEnd_cons hslash, Text.trimEnd_cons hslash]
  exact ⟨_, rfl⟩

/-! ### The two parts -/

/-- The comment of a body that is cut at `o`: all of the text from there on, trimmed, at its place
in the file. -/
structure IsCommentOf (n : Node) (s : List Char) (o : Nat) (comment : Node) : Prop where
  type : comment.type = "comment"
  isComment : comment.isComment = true
  children : comment.children = []
  text : comment.text = some (Text.trimEnd (s.drop o))
  opener : ['/', '/'] <+: Text.trimEnd (s.drop o)
  line : comment.start.line = n.start.line + Text.breakCount (s.take o)
  column : comment.start.column = if Text.breakCount (s.take o) = 0 then n.start.column + o
    else o - Text.lineStart (s.take o)
  endLine : comment.endLine - comment.start.line = Text.breakCount (Text.trimEnd (s.drop o))

/-- The code of a body that is cut at `o`: all of the text up to there, trimmed, where the body
starts. -/
structure IsCodeOf (n : Node) (s : List Char) (o : Nat) (code : Node) : Prop where
  type : code.type = nodeType
  isComment : code.isComment = false
  children : code.children = []
  text : code.text = some (Text.trimEnd (s.take o))
  start : code.start = n.start
  endLine : code.endLine - code.start.line = Text.breakCount (Text.trimEnd (s.take o))

/-- The part behind the start of a line comment is the comment of the body. -/
theorem isCommentOf_commentPart (h : lineCommentOffset s = some o) :
    IsCommentOf n s o (commentPart n (s.take o) (s.drop o)) := by
  obtain ⟨-, -, -, hlength⟩ := front_back_of_lineCommentOffset h
  refine ⟨rfl, rfl, rfl, rfl, opener_of_lineCommentOffset h, rfl, ?_, ?_⟩
  · have hcolumn := Position.columnAfter_eq n.start.column (s.take o)
    rwa [hlength] at hcolumn
  · simp only [commentPart, Node.leaf]
    omega

/-- The part in front of a line comment is the code of the body. -/
theorem isCodeOf_codePart (htype : n.type = nodeType) (s : List Char) (o : Nat) :
    IsCodeOf n s o (codePart n (Text.trimEnd (s.take o))) := by
  refine ⟨htype, rfl, rfl, rfl, rfl, ?_⟩
  simp only [codePart, Node.leaf]
  omega

/-- The comment stands behind the code. -/
theorem before_commentPart (hvisible : Text.isVisible (s.take o) = true) :
    n.start.before (commentPart n (s.take o) (s.drop o)).start = true := by
  refine Position.before_advance n.start fun hnil => ?_
  rw [hnil] at hvisible
  cases hvisible

/-- **A body with a line comment** is split into its code, if any of it can be seen, and its
comment. -/
theorem split_of_lineCommentOffset (htype : n.type = nodeType) (htext : n.text = some s)
    (h : lineCommentOffset s = some o) : split n =
      (if Text.isVisible (s.take o) then [codePart n (Text.trimEnd (s.take o))] else []) ++
        [commentPart n (s.take o) (s.drop o)] := by
  have hcode := Text.trimEnd_eq_nil_iff (s.take o)
  rw [split, if_neg (not_not_intro htype), htext]
  simp only [h, List.isEmpty_iff, hcode]
  cases Text.isVisible (s.take o) <;> rfl

/-- A body without a line comment stays as it is. -/
theorem split_eq_self (htext : n.text = some s) (h : lineCommentOffset s = none) :
    split n = [n] := by
  rw [split, htext]
  simp only [h, ite_self]

/-- A node that is no body is not split. -/
theorem split_of_type_ne (htype : n.type ≠ nodeType) : split n = [n] := by
  rw [split, if_pos htype]

/-- **Splitting a macro body loses nothing, and is done once.**  A body whose first line comment
starts at `o` becomes its comment, behind its code if any of that is visible.  Both hold their part
of the text, trimmed, and stand at their places, the comment behind the code; and splitting either
of them again leaves it as it is. -/
theorem split_lossless (htype : n.type = nodeType) (htext : n.text = some s)
    (h : lineCommentOffset s = some o) :
    ∃ comment, IsCommentOf n s o comment ∧ split comment = [comment] ∧
      (Text.isVisible (s.take o) = false ∧ split n = [comment] ∨
        Text.isVisible (s.take o) = true ∧ ∃ code, IsCodeOf n s o code ∧
          split n = [code, comment] ∧ code.start.before comment.start = true ∧
          split code = [code]) := by
  have hsplit := split_of_lineCommentOffset htype htext h
  have hcomment : "comment" ≠ nodeType := by decide
  refine ⟨_, isCommentOf_commentPart h, split_of_type_ne hcomment, ?_⟩
  cases hvisible : Text.isVisible (s.take o) with
  | false =>
    rw [hvisible] at hsplit
    exact .inl ⟨rfl, hsplit⟩
  | true =>
    rw [hvisible] at hsplit
    exact .inr ⟨rfl, _, isCodeOf_codePart htype s o, hsplit, before_commentPart hvisible,
      split_eq_self rfl (lineCommentOffset_trimEnd h)⟩

set_option maxRecDepth 4000 in
/-- Code with an unclosed string, a CR LF and blanks in front of its comment. -/
theorem split_lossless_two_lines :
    let s := "a \" \\\r\n b  // c ".toList
    let n := Node.leaf nodeType ⟨3, 8⟩ 4 s false
    n.type = nodeType ∧ n.text = some s ∧ lineCommentOffset s = some 11 ∧
      ∃ comment, IsCommentOf n s 11 comment ∧ split comment = [comment] ∧
        (Text.isVisible (s.take 11) = false ∧ split n = [comment] ∨
          Text.isVisible (s.take 11) = true ∧ ∃ code, IsCodeOf n s 11 code ∧
            split n = [code, comment] ∧ code.start.before comment.start = true ∧
            split code = [code]) := by
  have hoffset : lineCommentOffset "a \" \\\r\n b  // c ".toList = some 11 := by cbv
  exact ⟨rfl, rfl, hoffset, split_lossless rfl rfl hoffset⟩

end MacroBody
end LineMetrics
