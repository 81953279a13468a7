import LineMetrics.Syntax.Flat
import Mathlib

/-!
# Leaves tile the source

Lexemes concatenate to the text (`Lexeme.lexemes_flatten`), and the flat tree drops only those that
are gaps.  A gap holds blanks of the line and line breaks and nothing else (`gapChar_of_cut`): only
the last rows of the table of lexemes make one.  So the source is the texts of the leaves with gaps
between them: `flatTree_tiles`.
-/

namespace LineMetrics
namespace Lexeme

/-- The characters that gaps are made of. -/
def gapChars : List Char := [' ', '\t', '\x0c', '\x0b', '\r', '\n']

/-- A blank inside a line is one of the gaps' characters. -/
theorem gapChar_of_inlineSpace {c : Char} (h : isInlineSpace c = true) : c ∈ gapChars := by
  simp only [isInlineSpace, Bool.or_eq_true, decide_eq_true_eq] at h
  rcases h with ((rfl | rfl) | rfl) | rfl <;> decide

/-- What starts with a slash is no gap. -/
theorem cutSlash_isGap (s : List Char) : (cutSlash s).1.isGap = false := by
  unfold cutSlash
  split
  · rfl
  · split <;> rfl
  · rfl

/-- What starts with an `@` is no gap. -/
theorem cutAt_isGap (s : List Char) : (cutAt s).1.isGap = false := by
  unfold cutAt
  split
  · rfl
  · split_ifs
    · split <;> rfl
    · rfl
    · rfl

/-- What starts with a `#` is no gap. -/
theorem cutHash_isGap (s : List Char) : (cutHash s).1.isGap = false := by
  unfold cutHash
  dsimp only
  split
  · rfl
  · split
    · split_ifs <;> rfl
    · rfl

theorem take_spanLength (p : Char → Bool) (s : List Char) :
    s.take (spanLength p s) = s.takeWhile p :=
  (List.prefix_iff_eq_take.1 (List.takeWhile_prefix p)).symm

/-- A branch that makes no gap was not taken where there is a gap. -/
theorem ite_of_isGap {p : Prop} [Decidable p] {a b r : Kind × Nat} (h : (if p then a else b) = r)
    (hr : r.1.isGap = true) (ha : a.1.isGap = false) : ¬p ∧ b = r := by
  by_cases hp : p
  · rw [if_pos hp] at h
    exact absurd hr (by rw [← h, ha]; exact Bool.false_ne_true)
  · rw [if_neg hp] at h
    exact ⟨hp, h⟩

/-- **Only breaks and blanks make gaps:** a CR with the LF behind it, an LF, or a run of blanks of
the line. -/
theorem cut_of_isGap {c : Char} {s : List Char} {r : Kind × Nat} (h : cut c s = r)
    (hr : r.1.isGap = true) :
    (c = '\r' ∧ r.2 = if s.head? = some '\n' then 1 else 0) ∨ (c = '\n' ∧ r.2 = 0) ∨
      (isInlineSpace c = true ∧ r.2 = spanLength isInlineSpace s) := by
  unfold cut at h
  obtain ⟨-, h⟩ := ite_of_isGap h hr (cutSlash_isGap s)
  obtain ⟨-, h⟩ := ite_of_isGap h hr (by split <;> rfl)
  obtain ⟨-, h⟩ := ite_of_isGap h hr (by split; · split <;> rfl
                                         · rfl)
  obtain ⟨-, h⟩ := ite_of_isGap h hr (cutHash_isGap s)
  obtain ⟨-, h⟩ := ite_of_isGap h hr (cutAt_isGap s)
  obtain ⟨-, h⟩ := ite_of_isGap h hr rfl
  obtain ⟨-, h⟩ := ite_of_isGap h hr rfl
  obtain ⟨-, h⟩ := ite_of_isGap h hr (by split; · split <;> rfl
                                         · rfl)
  by_cases hcr : c = '\r'
  · rw [if_pos hcr] at h
    exact .inl ⟨hcr, h ▸ rfl⟩
  · rw [if_neg hcr] at h
    by_cases hlf : c = '\n'
    · rw [if_pos hlf] at h
      exact .inr (.inl ⟨hlf, h ▸ rfl⟩)
    · rw [if_neg hlf] at h
      by_cases hspace : isInlineSpace c = true
      · rw [if_pos hspace] at h
        exact .inr (.inr ⟨hspace, h ▸ rfl⟩)
      · rw [if_neg hspace] at h
        exact absurd hr (h ▸ Bool.false_ne_true)

/-- Lexemes that stand for nothing hold nothing but the characters of gaps. -/
theorem gapChar_of_cut {c : Char} {s : List Char} (h : (cut c s).1.isGap = true) :
    ∀ d ∈ c :: s.take (cut c s).2, d ∈ gapChars := by
  rcases cut_of_isGap rfl h with ⟨rfl, hn⟩ | ⟨rfl, hn⟩ | ⟨hc, hn⟩ <;> rw [hn]
  · cases s with
    | nil => simp [gapChars]
    | cons d rest =>
      rw [List.head?_cons]
      split
      · rename_i hd
        obtain rfl := Option.some.inj hd
        simp [gapChars]
      · simp [gapChars]
  · simp [gapChars]
  · intro d hd
    rcases List.mem_cons.1 hd with rfl | hd
    · exact gapChar_of_inlineSpace hc
    · rw [take_spanLength] at hd
      exact gapChar_of_inlineSpace (List.all_eq_true.1 List.all_takeWhile d hd)

/-- Every lexeme holds a character, and a gap holds nothing but the characters of gaps. -/
theorem mem_lexemes {l : Lexeme} : ∀ {s : List Char}, l ∈ lexemes s →
    l.text ≠ [] ∧ (l.kind.isGap = true → ∀ c ∈ l.text, c ∈ gapChars)
  | [], h => by
    rw [lexemes_nil] at h
    cases h
  | c :: s, h => by
    rw [lexemes_cons, List.mem_cons] at h
    rcases h with rfl | h
    · exact ⟨List.cons_ne_nil _ _, gapChar_of_cut⟩
    · exact mem_lexemes h
termination_by s => s.length
decreasing_by simp only [List.length_cons, List.length_drop]; omega

end Lexeme

namespace Syntax

/-- **What one lexeme makes of the leaves:** nothing if it is a gap, and else the first of them. -/
theorem leavesFrom_cons_eq_ok {p : Position} {l : Lexeme} {rest : List Lexeme} {nodes : List Node}
    (h : leavesFrom [] p (l :: rest) = .ok nodes) :
    (l.kind.isGap = true ∧ leavesFrom [] (p.advance l.text) rest = .ok nodes) ∨
      (l.kind.isGap = false ∧ ∃ more, leavesFrom [] (p.advance l.text) rest = .ok more ∧
        nodes = l.toNode p :: more) := by
  rw [leavesFrom] at h
  split at h
  · cases h
  · by_cases hgap : l.kind.isGap = true
    · rw [if_pos hgap] at h
      exact .inl ⟨hgap, h⟩
    · rw [if_neg hgap, leavesFrom_eq] at h
      refine .inr ⟨Bool.not_eq_true _ ▸ hgap, ?_⟩
      cases hmore : leavesFrom [] (p.advance l.text) rest with
      | error u => rw [hmore] at h; cases h
      | ok more =>
        rw [hmore] at h
        exact ⟨more, rfl, (Except.ok.inj h).symm⟩

/-- A gap, and then pieces with a gap behind each. -/
def weave (gap : List Char) : List (List Char × List Char) → List Char
  | [] => gap
  | (piece, next) :: rest => gap ++ piece ++ weave next rest

/-- A gap in front goes to the first gap. -/
theorem append_weave (s gap : List Char) (pieces : List (List Char × List Char)) :
    s ++ weave gap pieces = weave (s ++ gap) pieces := by
  cases pieces <;> simp [weave]

/-- The text of lexemes is woven from the texts of their leaves. -/
theorem leavesFrom_tiles {ls : List Lexeme} (hls : ∀ l ∈ ls, l.text ≠ [] ∧
    (l.kind.isGap = true → ∀ c ∈ l.text, c ∈ Lexeme.gapChars)) {p : Position} {nodes : List Node}
    (h : leavesFrom [] p ls = .ok nodes) :
    ∃ gap pieces, ls.flatMap Lexeme.text = weave gap pieces ∧
      nodes.map Node.text = pieces.map (some ∘ Prod.fst) ∧ (∀ piece ∈ pieces, piece.1 ≠ []) ∧
      ∀ g ∈ gap :: pieces.map Prod.snd, ∀ c ∈ g, c ∈ Lexeme.gapChars := by
  induction ls generalizing p nodes with
  | nil =>
    rw [leavesFrom] at h
    obtain rfl := Except.ok.inj h
    exact ⟨[], [], rfl, rfl, by simp, by simp⟩
  | cons l rest ih =>
    obtain ⟨hl, hrest⟩ := List.forall_mem_cons.1 hls
    rcases leavesFrom_cons_eq_ok h with ⟨hgap, hmore⟩ | ⟨-, more, hmore, rfl⟩
    · obtain ⟨gap, pieces, htext, hnodes, hpieces, hgaps⟩ := ih hrest hmore
      obtain ⟨hfirst, hothers⟩ := List.forall_mem_cons.1 hgaps
      refine ⟨l.text ++ gap, pieces, ?_, hnodes, hpieces, List.forall_mem_cons.2 ⟨?_, hothers⟩⟩
      · rw [List.flatMap_cons, htext, append_weave]
      · intro c hc
        exact (List.mem_append.1 hc).elim (hl.2 hgap c) (hfirst c)
    · obtain ⟨gap, pieces, htext, hnodes, hpieces, hgaps⟩ := ih hrest hmore
      refine ⟨[], (l.text, gap) :: pieces, ?_, ?_, List.forall_mem_cons.2 ⟨hl.1, hpieces⟩,
        List.forall_mem_cons.2 ⟨by simp, hgaps⟩⟩
      · rw [List.flatMap_cons, htext, weave, List.nil_append]
      · rw [List.map_cons, hnodes, List.map_cons]
        rfl

/-- **Nothing of the source is lost.**  A text that has a flat tree is a gap, then the texts of the
root's children in order with a gap behind each.  No child is empty, and gaps hold spaces, tabs,
form feeds, vertical tabs, CRs and LFs only. -/
theorem flatTree_tiles {path language : String} {s : List Char} {tree : SyntaxTree}
    (h : flatTree path language s = .ok tree) :
    ∃ gap pieces, s = weave gap pieces ∧
      tree.root.children.map Node.text = pieces.map (some ∘ Prod.fst) ∧
      (∀ piece ∈ pieces, piece.1 ≠ []) ∧
      ∀ g ∈ gap :: pieces.map Prod.snd, ∀ c ∈ g, c ∈ [' ', '\t', '\x0c', '\x0b', '\r', '\n'] := by
  rw [flatTree, leaves] at h
  cases hleaves : leavesFrom [] .start (Lexeme.lexemes s) with
  | error u => rw [hleaves] at h; exact nomatch h
  | ok nodes =>
    rw [hleaves] at h
    obtain rfl := Except.ok.inj h
    obtain ⟨gap, pieces, htext, hrest⟩ := leavesFrom_tiles (fun _ => Lexeme.mem_lexemes) hleaves
    exact ⟨gap, pieces, (Lexeme.lexemes_flatten s).symm.trans htext, hrest⟩

/-- A string, a comment and three gaps, the middle one with blanks and a CR LF. -/
theorem flatTree_tiles_two_leaves :
    ∃ tree, flatTree "a.m" "objc" "\"a\" \r\n// b\n".toList = .ok tree ∧
      ∃ gap pieces, "\"a\" \r\n// b\n".toList = weave gap pieces ∧
        tree.root.children.map Node.text = pieces.map (some ∘ Prod.fst) ∧
        (∀ piece ∈ pieces, piece.1 ≠ []) ∧
        ∀ g ∈ gap :: pieces.map Prod.snd, ∀ c ∈ g,
          c ∈ [' ', '\t', '\x0c', '\x0b', '\r', '\n'] :=
  have h : ∃ tree, flatTree "a.m" "objc" "\"a\" \r\n// b\n".toList = .ok tree := ⟨_, by cbv⟩
  h.imp fun _ htree => ⟨htree, flatTree_tiles htree⟩

end Syntax
end LineMetrics
