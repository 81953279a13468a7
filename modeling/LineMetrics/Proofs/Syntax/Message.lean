import LineMetrics.Proofs.Lexeme.Message
import LineMetrics.Proofs.Syntax.Concat

/-!
# Comments behind messages

The message of an `#error` or a `#warning` is free text to the end of its line, but a comment on
that line is a comment (specification, section 2).  `parse_message` says so of every message in a
tree of the lexer: if the message does not go on to the end of its line, the next leaf is a comment,
right behind it.  The openers that are left in a message are those whose slash is escaped, and there
are such (`escaped_comment_is_in_message`).
-/

namespace LineMetrics

open Lexeme (placedFrom placedLeaves opensComment endsEscaped)

namespace Lexeme

/-- A lexeme among others at their offsets. -/
theorem placedFrom_eq_append {p : Nat × Lexeme} {xs ys : List (Nat × Lexeme)} :
    ∀ {first : Nat} {ls : List Lexeme}, placedFrom first ls = xs ++ p :: ys →
      ∃ before after, ls = before ++ p.2 :: after ∧
        p.1 = first + (before.flatMap Lexeme.text).length ∧
        ys = placedFrom (p.1 + p.2.text.length) after := by
  induction xs with
  | nil =>
    intro first ls h
    cases ls with
    | nil => cases h
    | cons l ls =>
      obtain ⟨rfl, rfl⟩ := List.cons.inj h
      exact ⟨[], ls, rfl, rfl, rfl⟩
  | cons x xs ih =>
    intro first ls h
    cases ls with
    | nil => cases h
    | cons l ls =>
      obtain ⟨before, after, rfl, ho, hys⟩ := ih (List.cons.inj h).2
      refine ⟨l :: before, after, rfl, ?_, hys⟩
      rw [ho, List.flatMap_cons, List.length_append, Nat.add_assoc]

/-- Only a message has the type of one. -/
theorem Kind.eq_message {kind : Kind} (h : kind.nodeType = "preproc_message") :
    kind = .message := by
  cases kind <;> first | rfl | simp [nodeType] at h

end Lexeme

namespace Syntax

/-- A leaf among the others is a lexeme among the others, and the leaves behind it are those of the
lexemes behind it. -/
theorem exists_lexeme_of_flatTree {path language : String} {s : List Char} {tree : SyntaxTree}
    (h : flatTree path language s = .ok tree) {before after : List Node} {n : Node}
    (hn : tree.root.children = before ++ n :: after) :
    ∃ front l behind, Lexeme.lexemes s = front ++ l :: behind ∧
      n = l.toNodeAt s (front.flatMap Lexeme.text).length ∧
      after = ((placedFrom ((front.flatMap Lexeme.text).length + l.text.length) behind).filter
        fun p => !p.2.kind.isGap).map fun p => p.2.toNodeAt s p.1 := by
  rw [children_of_flatTree h] at hn
  obtain ⟨leaves, rest, hleaves, -, hrest⟩ := List.map_eq_append_iff.1 hn
  obtain ⟨p, others, rfl, rfl, rfl⟩ := List.map_eq_cons_iff.1 hrest
  obtain ⟨xs, zs, hplaced, -, hzs⟩ := List.filter_eq_append_iff.1 hleaves
  obtain ⟨gaps, ys, rfl, -, -, rfl⟩ := List.filter_eq_cons_iff.1 hzs
  rw [← List.append_assoc] at hplaced
  obtain ⟨front, behind, hls, ho, rfl⟩ := Lexeme.placedFrom_eq_append hplaced
  rw [Nat.zero_add] at ho
  exact ⟨front, p.2, behind, hls, by rw [← ho], by rw [← ho]⟩

/-- **A comment that opens behind a leaf** is the next leaf. -/
theorem exists_comment_leaf {s : List Char} {o : Nat} {behind : List Lexeme}
    (hlexemes : Lexeme.lexemes (behind.flatMap Lexeme.text) = behind)
    (hclosed : ∀ l ∈ behind, ∀ opener, l.kind ≠ .unclosed opener)
    (hopens : opensComment (behind.flatMap Lexeme.text) = true) :
    ∃ comment more text, ((placedFrom o behind).filter fun p => !p.2.kind.isGap).map
        (fun p => p.2.toNodeAt s p.1) = comment :: more ∧ comment.isComment = true ∧
      comment.start = .ofOffset s o ∧ comment.text = some text ∧
      text <+: behind.flatMap Lexeme.text := by
  rw [← hlexemes] at hclosed
  obtain ⟨comment, after, hbehind, hcomment⟩ := Lexeme.exists_comment_of_opensComment hopens hclosed
  rw [hlexemes] at hbehind
  subst hbehind
  have hgap : comment.kind.isGap = false := Lexeme.Kind.isGap_of_isComment hcomment
  rw [placedFrom, List.filter_cons_of_pos (by simp [hgap]), List.map_cons]
  exact ⟨_, _, comment.text, rfl, hcomment, rfl, rfl, ⟨_, List.flatMap_cons.symm⟩⟩

/-- **A message stops at a comment.**  In a tree of the lexer, wherever `//` or `/*` starts inside a
message, its slash is escaped.  Behind the message the text ends, but for a lone backslash, or the
line ends, or a comment opens; and this is then a comment node, the next one. -/
theorem parse_message {catalog : Catalog} {language : Language} {path : String} {s : List Char}
    {tree : SyntaxTree} (h : Parser.parse ⟨.lexer, language⟩ catalog path s = .ok tree)
    {before after : List Node} {n : Node} (hn : tree.root.children = before ++ n :: after)
    (hmessage : n.type = "preproc_message") :
    ∃ front m rest, s = front ++ (m ++ rest) ∧ n.start = .ofOffset s front.length ∧
      n.text = some m ∧
      (∀ a b, m ++ rest = a ++ b → a.length < m.length → opensComment b = true →
        endsEscaped a = true) ∧
      (rest = [] ∨ rest = ['\\'] ∨ (∃ c ∈ rest.head?, Text.isBreak c = true) ∨
        opensComment rest = true ∧ ∃ comment more text, after = comment :: more ∧
          comment.isComment = true ∧ comment.start = .ofOffset s (front.length + m.length) ∧
          comment.text = some text ∧ text <+: rest) := by
  have hflat := flatTree_of_parse h
  obtain ⟨front, l, behind, hls, rfl, hafter⟩ := exists_lexeme_of_flatTree hflat hn
  have hstops := Lexeme.stopsAtComment_of_lexemes hls (Lexeme.Kind.eq_message hmessage)
  refine ⟨front.flatMap Lexeme.text, l.text, behind.flatMap Lexeme.text, ?_, rfl, rfl,
    hstops.escaped, hstops.ends.imp_right (.imp_right (.imp_right fun hopens => ⟨hopens, ?_⟩))⟩
  · rw [← List.flatMap_cons, ← List.flatMap_append, ← hls, Lexeme.lexemes_flatten]
  · have hsuffix : behind <:+ Lexeme.lexemes s := ⟨front ++ [l], by rw [hls, ← List.append_cons]⟩
    have hclosed := closed_of_leavesFrom (flatTree_eq_ok hflat).1
    rw [hafter]
    exact exists_comment_leaf (Lexeme.lexemes_flatMap_of_suffix hsuffix)
      (fun l hl => hclosed l (hsuffix.subset hl)) hopens

set_option maxRecDepth 4000 in
/-- An escaped slash in a message, a comment behind it, and code behind that. -/
theorem parse_message_between_comments :
    ∃ tree n after, Parser.parse ⟨.lexer, .objc⟩ .empty "a.m"
        "#error a\\// b /* c */ d".toList = .ok tree ∧
      tree.root.children = [] ++ n :: after ∧ n.type = "preproc_message" ∧
      ∃ front m rest, "#error a\\// b /* c */ d".toList = front ++ (m ++ rest) ∧
        n.start = .ofOffset "#error a\\// b /* c */ d".toList front.length ∧ n.text = some m ∧
        (∀ a b, m ++ rest = a ++ b → a.length < m.length → opensComment b = true →
          endsEscaped a = true) ∧
        (rest = [] ∨ rest = ['\\'] ∨ (∃ c ∈ rest.head?, Text.isBreak c = true) ∨
          opensComment rest = true ∧ ∃ comment more text, after = comment :: more ∧
            comment.isComment = true ∧
            comment.start = .ofOffset "#error a\\// b /* c */ d".toList (front.length + m.length) ∧
            comment.text = some text ∧ text <+: rest) := by
  have htree : ∃ tree n after, Parser.parse ⟨.lexer, .objc⟩ .empty "a.m"
      "#error a\\// b /* c */ d".toList = .ok tree ∧ tree.root.children = [] ++ n :: after ∧
        n.type = "preproc_message" := ⟨_, _, _, by cbv, rfl, rfl⟩
  obtain ⟨tree, n, after, h, hn, hmessage⟩ := htree
  exact ⟨tree, n, after, h, hn, hmessage, parse_message h hn hmessage⟩

set_option maxRecDepth 4000 in
/-- With its first slash escaped, a `//` is part of the message, and there is no comment. -/
theorem escaped_comment_is_in_message :
    ∃ tree n, Parser.parse ⟨.lexer, .objc⟩ .empty "a.m" "#warning \\// x".toList = .ok tree ∧
      tree.root.children = [n] ∧ n.type = "preproc_message" ∧
      n.text = some "#warning \\// x".toList ∧ ['/', '/'] <:+: "#warning \\// x".toList ∧
      tree.comments = [] := by
  refine ⟨_, _, by cbv, rfl, rfl, rfl, by decide, by cbv⟩

end Syntax
end LineMetrics
