import LineMetrics.Proofs.Lexeme.Boundary
import LineMetrics.Proofs.Syntax.Crlf

/-!
# Leaves printed and read again

A leaf stands for its text, whatever stood next to it: printed with an LF behind each, the leaves of
a text without CR are read again as they were, only at other places, and so is each of them alone
(`parse_printed`).  At an LF every closed lexeme is settled (`Lexeme.lexemes_text_append`), so the
lexemes of the printed text are those of the leaves with a newline behind each.
-/

namespace LineMetrics

/-- What a leaf is, wherever it stands: its type, its text, and whether it is a comment. -/
def Node.content (n : Node) : String × Option (List Char) × Bool := (n.type, n.text, n.isComment)

/-- The texts of the leaves, each with an LF behind it. -/
def SyntaxTree.printed (t : SyntaxTree) : List Char :=
  t.root.children.flatMap fun n => n.text.getD [] ++ ['\n']

namespace Lexeme

/-- What the leaf of a lexeme is, wherever it stands. -/
def content (l : Lexeme) : String × Option (List Char) × Bool :=
  (l.kind.nodeType, some l.text, l.kind.isComment)

/-- The newline that an LF is. -/
def lineFeed : Lexeme := ⟨.newline, ['\n']⟩

/-- An LF is cut as a newline of its own. -/
theorem lexemes_lf_cons (b : List Char) : lexemes ('\n' :: b) = lineFeed :: lexemes b := by
  rw [lexemes_cons, cut_lf]
  rfl

/-- The lexemes of a text that make leaves. -/
def ofLeaves (s : List Char) : List Lexeme := (lexemes s).filter fun l => !l.kind.isGap

/-- Lexemes that are read at the end of a line as they are, with an LF behind each, are read as they
are with a newline behind each. -/
theorem lexemes_flatMap_lf {ls : List Lexeme}
    (h : ∀ l ∈ ls, ∀ b, AtLineEnd b → lexemes (l.text ++ b) = l :: lexemes b) :
    lexemes (ls.flatMap fun l => l.text ++ ['\n']) = ls.flatMap fun l => [l, lineFeed] := by
  induction ls with
  | nil => exact lexemes_nil
  | cons l ls ih =>
    obtain ⟨hl, hls⟩ := List.forall_mem_cons.1 h
    have hlf : AtLineEnd ('\n' :: ls.flatMap fun l => l.text ++ ['\n']) := by
      rintro c ⟨⟩
      rfl
    rw [List.flatMap_cons, List.append_assoc, List.singleton_append, hl _ hlf, lexemes_lf_cons,
      ih hls]
    rfl

/-- Line feeds between lexemes are gaps, and nothing else is lost with them. -/
theorem filter_flatMap_lineFeed {ls : List Lexeme} (h : ∀ l ∈ ls, l.kind.isGap = false) :
    (ls.flatMap fun l => [l, lineFeed]).filter (fun l => !l.kind.isGap) = ls := by
  induction ls with
  | nil => rfl
  | cons l ls ih =>
    obtain ⟨hl, hls⟩ := List.forall_mem_cons.1 h
    rw [List.flatMap_cons, List.filter_append, ih hls, List.filter_cons_of_pos (by simp [hl])]
    rfl

end Lexeme

namespace Syntax

open Lexeme (lexemes ofLeaves AtLineEnd)

variable {s : List Char}

/-- **Closed lexemes make leaves,** one for each that is no gap. -/
theorem exists_leavesFrom {ls : List Lexeme} (h : ∀ l ∈ ls, ∀ opener, l.kind ≠ .unclosed opener)
    (p : Position) :
    ∃ nodes, leavesFrom [] p ls = .ok nodes ∧
      nodes.map Node.content = (ls.filter fun l => !l.kind.isGap).map Lexeme.content := by
  induction ls generalizing p with
  | nil => exact ⟨[], rfl, rfl⟩
  | cons l ls ih =>
    obtain ⟨hl, hls⟩ := List.forall_mem_cons.1 h
    obtain ⟨more, hmore, hcontent⟩ := ih hls (p.advance l.text)
    rw [leavesFrom_cons hl, hmore]
    refine ⟨_, rfl, ?_⟩
    cases hgap : l.kind.isGap with
    | true =>
      rw [List.filter_cons_of_neg (by simp [hgap])]
      exact hcontent
    | false =>
      rw [List.filter_cons_of_pos (by simp [hgap]), List.map_cons, ← hcontent]
      rfl

/-- The leaves of a text are what its lexemes are. -/
theorem content_of_leaves {nodes : List Node} (h : leaves s = .ok nodes) :
    nodes.map Node.content = (ofLeaves s).map Lexeme.content := by
  obtain ⟨nodes', hnodes, hcontent⟩ := exists_leavesFrom (closed_of_leavesFrom h) .start
  obtain rfl := Except.ok.inj (hnodes.symm.trans h)
  exact hcontent

/-- A text of closed lexemes is accepted. -/
theorem exists_parse (catalog : Catalog) (language : Language) (path : String)
    (h : ∀ l ∈ lexemes s, ∀ opener, l.kind ≠ .unclosed opener) :
    ∃ tree, Parser.parse ⟨.lexer, language⟩ catalog path s = .ok tree ∧
      tree.root.children.map Node.content = (ofLeaves s).map Lexeme.content := by
  obtain ⟨nodes, hnodes, hcontent⟩ := exists_leavesFrom h .start
  have hleaves : leaves s = .ok nodes := hnodes
  exact ⟨_, parse_of_flatTree (by rw [flatTree, hleaves]; rfl) catalog, hcontent⟩

/-- A text is printed from the contents of the children alone. -/
theorem printed_eq {t : SyntaxTree} {ls : List Lexeme}
    (h : t.root.children.map Node.content = ls.map Lexeme.content) :
    t.printed = ls.flatMap fun l => l.text ++ ['\n'] := by
  have hprint := congrArg (List.flatMap fun x => x.2.1.getD [] ++ ['\n']) h
  rwa [List.flatMap_map, List.flatMap_map] at hprint

/-- **Printing the leaves and reading them again is the identity.**  If the lexer accepts a text
without CR, it accepts the texts of its leaves with an LF behind each, and the leaves are of the
same types, texts and comment marks in the same order.  The text of a leaf alone is read as that one
leaf. -/
theorem parse_printed (catalog : Catalog) {language : Language} {path : String} {tree : SyntaxTree}
    (hcr : '\r' ∉ s) (h : Parser.parse ⟨.lexer, language⟩ catalog path s = .ok tree) :
    (∃ again, Parser.parse ⟨.lexer, language⟩ catalog path tree.printed = .ok again ∧
      again.root.children.map Node.content = tree.root.children.map Node.content) ∧
    ∀ n ∈ tree.root.children, ∃ text alone m, n.text = some text ∧
      Parser.parse ⟨.lexer, language⟩ catalog path text = .ok alone ∧
      alone.root.children = [m] ∧ m.content = n.content := by
  have hleaves := (flatTree_eq_ok (flatTree_of_parse h)).1
  have hcontent := content_of_leaves hleaves
  have hclosed := closed_of_leavesFrom hleaves
  -- Every leaf is settled at the end of a line.
  have hsettled : ∀ l ∈ ofLeaves s, l.kind.isGap = false ∧ (∀ opener, l.kind ≠ .unclosed opener) ∧
      ∀ b, AtLineEnd b → lexemes (l.text ++ b) = l :: lexemes b := by
    intro l hl
    obtain ⟨hmem, hgap⟩ := List.mem_filter.1 hl
    have hgap : l.kind.isGap = false := by simpa using hgap
    exact ⟨hgap, hclosed l hmem, fun b hb => Lexeme.lexemes_text_append hmem hgap (hclosed l hmem)
      (not_cr_mem_lexemes hcr l hmem) hb⟩
  constructor
  · have hlexemes : lexemes tree.printed = (ofLeaves s).flatMap fun l => [l, .lineFeed] := by
      rw [printed_eq hcontent]
      exact Lexeme.lexemes_flatMap_lf fun l hl => (hsettled l hl).2.2
    have hprinted : ∀ l ∈ lexemes tree.printed, ∀ opener, l.kind ≠ .unclosed opener := by
      rw [hlexemes]
      intro l hl
      obtain ⟨m, hm, hl⟩ := List.mem_flatMap.1 hl
      rcases List.mem_cons.1 hl with rfl | hl
      · exact (hsettled l hm).2.1
      · obtain rfl := List.mem_singleton.1 hl
        exact nofun
    obtain ⟨again, hagain, hcontents⟩ := exists_parse catalog language path hprinted
    refine ⟨again, hagain, ?_⟩
    rw [hcontents, hcontent, ofLeaves, hlexemes,
      Lexeme.filter_flatMap_lineFeed fun l hl => (hsettled l hl).1]
  · intro n hn
    have hn' : n.content ∈ (ofLeaves s).map Lexeme.content := hcontent ▸ List.mem_map_of_mem hn
    obtain ⟨l, hl, hln⟩ := List.mem_map.1 hn'
    obtain ⟨hgap, hopen, hread⟩ := hsettled l hl
    have hlexemes : lexemes l.text = [l] := by
      have hend := hread [] nofun
      rwa [List.append_nil, Lexeme.lexemes_nil] at hend
    obtain ⟨alone, halone, hcontents⟩ := exists_parse (s := l.text) catalog language path (by
      rw [hlexemes]
      exact List.forall_mem_singleton.2 hopen)
    rw [ofLeaves, hlexemes, List.filter_cons_of_pos (by simp [hgap]), List.filter_nil,
      List.map_singleton] at hcontents
    obtain ⟨m, hm, hcontent⟩ := List.map_eq_singleton_iff.1 hcontents
    have htext : n.text = some l.text := congrArg (fun x => x.2.1) hln.symm
    exact ⟨l.text, alone, m, htext, halone, hm, hcontent.trans hln⟩

set_option maxRecDepth 4000 in
/-- A message over two lines that a comment ends, a number that a comment cuts short of its
exponent, an `@` that a comment keeps from a string, and a lone backslash. -/
theorem parse_printed_before_comments :
    let s := "#error a\\\nb/*c*/1e/**/+5 @//\n\"d\"\\".toList
    '\r' ∉ s ∧ ∃ tree, Parser.parse ⟨.lexer, .objc⟩ .empty "a.m" s = .ok tree ∧
      (∃ again, Parser.parse ⟨.lexer, .objc⟩ .empty "a.m" tree.printed = .ok again ∧
        again.root.children.map Node.content = tree.root.children.map Node.content) ∧
      ∀ n ∈ tree.root.children, ∃ text alone m, n.text = some text ∧
        Parser.parse ⟨.lexer, .objc⟩ .empty "a.m" text = .ok alone ∧
        alone.root.children = [m] ∧ m.content = n.content :=
  have hcr : '\r' ∉ "#error a\\\nb/*c*/1e/**/+5 @//\n\"d\"\\".toList := by simp
  have h : ∃ tree, flatTree "a.m" "objc"
      "#error a\\\nb/*c*/1e/**/+5 @//\n\"d\"\\".toList = .ok tree := ⟨_, by cbv⟩
  ⟨hcr, h.imp fun _ htree =>
    have hparse : Parser.parse ⟨.lexer, .objc⟩ .empty "a.m" _ = .ok _ :=
      parse_of_flatTree htree .empty
    ⟨hparse, parse_printed .empty hcr hparse⟩⟩

end Syntax
end LineMetrics
