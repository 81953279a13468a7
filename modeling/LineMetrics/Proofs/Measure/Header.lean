import LineMetrics.Proofs.Measure.CodeLines

/-!
# The header comment in the source

Whether a comment is the header is decided by the sorted listings: it has to be the first of the
comments, and to start before the first of the tokens (specification, section 3).  In the source it
is the first comment with nothing but blanks in front of it.  The two agree because a visible
character in front of the first comment is outside of all comments, so that a token holds it and
starts before the comment; a Unicode blank makes a lexeme of punctuation, but no token.
`headerFlags_iff` says so for every comment of a file.
-/

namespace LineMetrics
namespace Syntax

open Lexeme (placed placedLeaves)

/-- The piece starts where the header of a text may start: no comment is in front of it, and nothing
else but what trimming removes. -/
def OpensText (tree : SyntaxTree) (s : List Char) (span : Span) : Prop :=
  (∀ p ∈ commentSpans tree s, span.start ≤ p.2.start) ∧
    ∀ c ∈ s.take span.start, Text.isBlank c = true

/-- A node opens the file if it starts before each token, not only before the first. -/
theorem opensFile_iff {tokens : List Node}
    (h : tokens.Pairwise fun m n => m.start.before n.start = true) (n : Node) :
    SyntaxTree.opensFile tokens n = true ↔ ∀ t ∈ tokens, n.start.before t.start = true := by
  cases tokens with
  | nil => simp [SyntaxTree.opensFile]
  | cons t rest =>
    rw [SyntaxTree.opensFile, List.forall_mem_cons]
    refine ⟨fun hn => ⟨hn, fun u hu => ?_⟩, And.left⟩
    exact Position.before_trans hn (List.rel_of_pairwise_cons h hu)

section

variable {path language : String} {s : List Char} {tree : SyntaxTree}

/-- Each comment ends where the next one starts, or before. -/
theorem commentSpans_pairwise (h : flatTree path language s = .ok tree) :
    (commentSpans tree s).Pairwise fun p q => p.2.stop ≤ q.2.start := by
  rw [commentSpans_of_flatTree h, List.pairwise_map]
  exact ((Lexeme.placedFrom_pairwise 0 (Lexeme.lexemes s)).filter _).filter _

/-- A leaf starts before another in reading order exactly if its lexeme is in front of the other's
in the text. -/
theorem start_before_iff (h : flatTree path language s = .ok tree) {p q : Nat × Lexeme}
    (hp : p ∈ placedLeaves s) (hq : q ∈ placedLeaves s) :
    (p.2.toNodeAt s p.1).start.before (q.2.toNodeAt s q.1).start = true ↔ p.1 < q.1 := by
  have hplaces : (placedLeaves s).Pairwise fun p q =>
      (p.2.toNodeAt s p.1).start.before (q.2.toNodeAt s q.1).start = true :=
    List.pairwise_map.1 (children_of_flatTree h ▸ children_pairwise h)
  have happart : (placedLeaves s).Pairwise fun p q => (p.2.spanAt p.1).stop ≤ q.1 :=
    (Lexeme.placedFrom_pairwise 0 (Lexeme.lexemes s)).filter _
  -- One of the two is in front of the other, in the text and in reading order alike.
  have hordered : (placedLeaves s).Pairwise fun p q =>
      (p.1 < q.1 ∧ (p.2.toNodeAt s p.1).start.before (q.2.toNodeAt s q.1).start = true) ∨
        (q.1 < p.1 ∧ (q.2.toNodeAt s q.1).start.before (p.2.toNodeAt s p.1).start = true) := by
    refine (happart.and hplaces).imp_of_mem fun hp _ hpq => .inl ⟨?_, hpq.2⟩
    have hstands := Lexeme.toNodeAt_standsAt (List.mem_of_mem_filter hp)
    exact Nat.lt_of_lt_of_le hstands.nonempty hpq.1
  have : Std.Symm fun p q : Nat × Lexeme =>
      (p.1 < q.1 ∧ (p.2.toNodeAt s p.1).start.before (q.2.toNodeAt s q.1).start = true) ∨
        (q.1 < p.1 ∧ (q.2.toNodeAt s q.1).start.before (p.2.toNodeAt s p.1).start = true) :=
    ⟨fun _ _ => Or.symm⟩
  rw [Position.before_iff]
  by_cases heq : p = q
  · subst heq
    omega
  · have hpq := hordered.forall hp hq heq
    rw [Position.before_iff, Position.before_iff] at hpq
    omega

/-- A visible character in front of all comments is held by a token that starts there. -/
theorem exists_token_in_front (h : flatTree path language s = .ok tree) {o : Nat}
    (hfirst : ∀ q ∈ commentSpans tree s, o ≤ q.2.start) {c : Char} (hc : c ∈ s.take o)
    (hblank : Text.isBlank c = false) : ∃ q ∈ placedLeaves s, q.2.kind.isComment = false ∧
      Text.isVisible q.2.text = true ∧ q.1 < o := by
  obtain ⟨i, hi, hget⟩ := List.mem_take_iff_getElem.1 hc
  have hio : i < o := by omega
  have houtside : ∀ n span, (n, span) ∈ tree.root.children.zip (spans s) →
      n.isComment = true → ¬span.Holds i := by
    intro n span hn hcomment hholds
    have hbehind := hfirst (n, span) (List.mem_filter.2 ⟨hn, hcomment⟩)
    exact absurd hio (Nat.not_lt.2 (Nat.le_trans hbehind hholds.1))
  have hseen : ∃ c, s[i]? = some c ∧ Text.isBlank c = false :=
    ⟨c, by rw [← hget]; exact List.getElem?_eq_getElem _, hblank⟩
  obtain ⟨q, hq, hcode, hvisible, hholds⟩ := exists_token_of_showsCode h ⟨hseen, houtside⟩
  exact ⟨q, hq, hcode, hvisible, Nat.lt_of_le_of_lt hholds.1 hio⟩

/-- A token in front of a comment has a visible character there. -/
theorem exists_visible_in_front {p q : Nat × Lexeme} (hp : p ∈ placed s) (hq : q ∈ placed s)
    (hcomment : p.2.kind.isComment = true) (hcode : q.2.kind.isComment = false)
    (hvisible : Text.isVisible q.2.text = true) (hfront : q.1 ≤ p.1) :
    ∃ c ∈ s.take p.1, Text.isBlank c = false := by
  have hne : q ≠ p := by
    rintro rfl
    cases hcomment.symm.trans hcode
  rcases Lexeme.apart_of_ne hq hp hne with hends | hbehind
  · obtain ⟨c, hc, hseen⟩ := List.any_eq_true.1 hvisible
    rw [← Lexeme.text_spanAt hq] at hc
    exact ⟨c, List.take_subset_take_left s hends (List.mem_of_mem_drop hc), by simpa using hseen⟩
  · have hnonempty := (Lexeme.toNodeAt_standsAt hp).nonempty
    exact absurd (Nat.lt_of_lt_of_le hnonempty hbehind) (Nat.not_lt.2 hfront)

/-- **The first comment opens the file** exactly if the text in front of it is blank. -/
theorem opensFile_iff_blank (h : flatTree path language s = .ok tree) {p : Nat × Lexeme}
    (hp : p ∈ placedLeaves s) (hcomment : p.2.kind.isComment = true)
    (hfirst : ∀ q ∈ commentSpans tree s, p.1 ≤ q.2.start) :
    SyntaxTree.opensFile tree.tokens (p.2.toNodeAt s p.1) = true ↔
      ∀ c ∈ s.take p.1, Text.isBlank c = true := by
  have hsorted : tree.tokens.Pairwise fun m n => m.start.before n.start = true := by
    rw [tokens_of_flatTree h]
    exact (children_pairwise h).filter _
  rw [opensFile_iff hsorted]
  constructor
  · intro hbefore c hc
    by_contra hblank
    obtain ⟨q, hq, hcode, hvisible, hlt⟩ :=
      exists_token_in_front h hfirst hc (by simpa using hblank)
    have htoken := (mem_tokens_of_flatTree h).2 ⟨q, hq, hcode, hvisible, rfl⟩
    exact absurd ((start_before_iff h hp hq).1 (hbefore _ htoken)) (Nat.not_lt.2 hlt.le)
  · intro hblank t ht
    obtain ⟨q, hq, hcode, hvisible, rfl⟩ := (mem_tokens_of_flatTree h).1 ht
    rw [start_before_iff h hp hq]
    by_contra hfront
    obtain ⟨c, hc, hseen⟩ := exists_visible_in_front (List.mem_of_mem_filter hp)
      (List.mem_of_mem_filter hq) hcomment hcode hvisible (Nat.not_lt.1 hfront)
    cases hseen.symm.trans (hblank c hc)

/-- **The header comment is what the source says it is.**  A comment of a text that the lexer
accepts is its header exactly if no comment starts in front of it and every character in front of it
is white space, Unicode blanks included. -/
theorem headerFlags_iff {catalog : Catalog} {language : Language}
    (h : Parser.parse ⟨.lexer, language⟩ catalog path s = .ok tree) :
    tree.comments = (commentSpans tree s).map Prod.fst ∧
      List.Forall₂ (fun (flag : Bool) c => flag = true ↔ OpensText tree s c.2)
        tree.headerFlags (commentSpans tree s) := by
  have hflat := flatTree_of_parse h
  have hcomments := (map_fst_commentSpans hflat).symm
  have hapart := commentSpans_pairwise hflat
  refine ⟨hcomments, ?_⟩
  rw [SyntaxTree.headerFlags, hcomments]
  cases hspans : commentSpans tree s with
  | nil => exact .nil
  | cons first rest =>
    have hmem : first ∈ commentSpans tree s := hspans ▸ List.mem_cons_self
    obtain ⟨p, hp, hcomment, rfl⟩ := (mem_commentSpans_of_flatTree hflat).1 hmem
    have hstands := Lexeme.toNodeAt_standsAt (List.mem_of_mem_filter hp)
    rw [hspans] at hapart
    have hbehind : ∀ c ∈ rest, p.1 < c.2.start := fun c hc =>
      Nat.lt_of_lt_of_le hstands.nonempty (List.rel_of_pairwise_cons hapart hc)
    have hfirst : ∀ c ∈ commentSpans tree s, p.1 ≤ c.2.start := by
      rw [hspans]
      exact List.forall_mem_cons.2 ⟨Nat.le_refl _, fun c hc => Nat.le_of_lt (hbehind c hc)⟩
    refine .cons ?_ ?_
    · rw [opensFile_iff_blank hflat hp hcomment hfirst]
      exact ⟨fun hblank => ⟨hfirst, hblank⟩, And.right⟩
    · rw [List.forall₂_map_left_iff, List.forall₂_map_left_iff, List.forall₂_same]
      intro c hc
      simp only [Bool.false_eq_true, false_iff]
      exact fun hopens => absurd (hopens.1 _ hmem) (Nat.not_le_of_lt (hbehind c hc))

set_option maxRecDepth 4000 in
/-- A header behind a no-break space, which makes punctuation, and a comment behind it. -/
theorem headerFlags_iff_unicode_blank :
    let s := "\u00a0\n/* a */ // b".toList
    ∃ tree, Parser.parse ⟨.lexer, .objc⟩ .empty "a.m" s = .ok tree ∧
      tree.headerFlags = [true, false] ∧
      tree.comments = (commentSpans tree s).map Prod.fst ∧
      List.Forall₂ (fun (flag : Bool) c => flag = true ↔ OpensText tree s c.2)
        tree.headerFlags (commentSpans tree s) :=
  have h : ∃ tree, Parser.parse ⟨.lexer, .objc⟩ .empty "a.m"
      "\u00a0\n/* a */ // b".toList = .ok tree ∧ tree.headerFlags = [true, false] :=
    ⟨_, by cbv, by cbv⟩
  h.imp fun _ htree => ⟨htree.1, htree.2, headerFlags_iff htree.1⟩

end

end Syntax
end LineMetrics
