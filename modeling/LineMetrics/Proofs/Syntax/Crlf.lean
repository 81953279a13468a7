import LineMetrics.Proofs.Lexeme.Crlf
import LineMetrics.Proofs.Syntax.Concat

/-!
# Leaves of a text with LF written as CR LF

The lexemes of `crlf s` are those of `s` with their LFs written as CR LF, up to the first that is
unclosed (`leavesFrom_lexemes_crlf`), and behind that nothing counts.  So the flat trees of the two
texts agree leaf by leaf, or the texts are refused for the same opener, unless a literal that goes
over a line comes first: then `crlf s` is refused for that literal, and `s` is not
(`flatTree_crlf`).
-/

namespace LineMetrics

open Text (crlf)

/-- The leaf with every LF of its text written as CR LF. -/
def Node.crlf (n : Node) : Node := { n with text := n.text.map Text.crlf }

namespace Lexeme

/-- A lexeme is closed unless its kind is an opener without an end. -/
theorem isClosed_iff {l : Lexeme} : l.isClosed = true ↔ ∀ opener, l.kind ≠ .unclosed opener := by
  obtain ⟨kind, text⟩ := l
  cases kind <;> simp [isClosed]

/-- Whether a message is continued does not depend on its first character, unless that is an LF. -/
theorem continued?_cons {c : Char} (hc : c ≠ '\n') (kind : Kind) (text : List Char) :
    continued? ⟨kind, c :: text⟩ = continued? ⟨kind, text⟩ := by
  simp [continued?, Ne.symm hc]

/-- A literal in one line, and what is no literal, keeps its kind. -/
theorem inCrlf_of_continued?_eq_none {l : Lexeme} (h : l.continued? = none) :
    l.inCrlf = ⟨l.kind, crlf l.text⟩ := by
  rw [inCrlf, h]

/-- What goes over a line is a closed literal with an LF. -/
theorem of_continued?_eq_some {l : Lexeme} {opener : Opener} (h : l.continued? = some opener) :
    opener ≠ .blockComment ∧ '\n' ∈ l.text ∧ l.isClosed = true := by
  obtain ⟨kind, text⟩ := l
  cases kind with
  | string =>
    simp only [continued?, Option.ite_none_right_eq_some, Option.some.injEq] at h
    exact ⟨h.2 ▸ by decide, h.1, rfl⟩
  | character =>
    simp only [continued?, Option.ite_none_right_eq_some, Option.some.injEq] at h
    exact ⟨h.2 ▸ by decide, h.1, rfl⟩
  | _ => cases h

/-- The leaf of a lexeme that stays closed. -/
theorem toNode_inCrlf {l : Lexeme} (hcr : '\r' ∉ l.text) (h : l.continued? = none) (p : Position) :
    l.inCrlf.toNode p = (l.toNode p).crlf := by
  rw [inCrlf_of_continued?_eq_none h, toNode, toNode, Position.advance_crlf p hcr]
  rfl

end Lexeme

/-- An opener and its line can be told from the words for them. -/
theorem Unclosed.reason_injective : Function.Injective Unclosed.reason := by
  rintro ⟨opener, line⟩ ⟨opener', line'⟩ h
  have hopener : opener = opener' := by
    have hlist := congrArg String.toList h
    cases opener <;> cases opener' <;>
      simp [Unclosed.reason, Opener.noun, toString] at hlist ⊢
  subst hopener
  have hline : line.repr = line'.repr := by simpa [Unclosed.reason, toString] using h
  rw [Int.repr_inj.1 hline]

namespace Syntax

open Lexeme (lexemes closedFront)

/-- One lexeme in front of others makes no difference between these. -/
theorem leavesFrom_cons_congr {ls ms : List Lexeme}
    (h : ∀ p, leavesFrom [] p ls = leavesFrom [] p ms) (l : Lexeme) (p : Position) :
    leavesFrom [] p (l :: ls) = leavesFrom [] p (l :: ms) := by
  by_cases hclosed : ∀ opener, l.kind ≠ .unclosed opener
  · rw [leavesFrom_cons hclosed, leavesFrom_cons hclosed, h]
  · obtain ⟨opener, hopen⟩ := not_forall_not.1 hclosed
    rw [leavesFrom_unclosed hopen, leavesFrom_unclosed hopen]

/-- **The leaves of `crlf s`** are those of what becomes of the lexemes of `s`. -/
theorem leavesFrom_lexemes_crlf : ∀ {s : List Char}, '\r' ∉ s → ∀ p,
    leavesFrom [] p (lexemes (crlf s)) = leavesFrom [] p ((lexemes s).map Lexeme.inCrlf)
  | [], _, p => by rw [Text.crlf_nil, Lexeme.lexemes_nil, List.map_nil]
  | c :: s, h, p => by
    obtain ⟨hcr, hs⟩ := not_or.1 (mt List.mem_cons.2 h)
    have hbehind := leavesFrom_lexemes_crlf (s := s.drop (Lexeme.cut c s).2)
      fun hmem => hs (List.mem_of_mem_drop hmem)
    rw [Lexeme.lexemes_cons c s, List.map_cons]
    by_cases hlf : c = '\n'
    · subst hlf
      rw [Lexeme.cut_lf, List.drop_zero] at hbehind
      rw [Text.crlf_lf, Lexeme.lexemes_cons, Lexeme.cut_crlf, Lexeme.cut_lf]
      exact leavesFrom_cons_congr hbehind _ p
    have hbreak : Text.isBreak c = false := by simp [Text.isBreak, hlf, Ne.symm hcr]
    obtain ⟨hkind, hlength⟩ := Lexeme.cut_in_crlf hbreak hs
    have hcontinued := Lexeme.continued?_cons hlf (Lexeme.cut c s).1 (s.take (Lexeme.cut c s).2)
    rw [Text.crlf_cons hlf, Lexeme.lexemes_cons]
    cases hopener : Lexeme.continued? ⟨(Lexeme.cut c s).1, s.take (Lexeme.cut c s).2⟩ with
    | some opener =>
      -- The literal is unclosed now, and what follows it does not count.
      rw [Lexeme.inCrlf, hopener] at hkind
      rw [hopener] at hcontinued
      rw [leavesFrom_unclosed hkind, leavesFrom_unclosed (by rw [Lexeme.inCrlf, hcontinued])]
    | none =>
      rw [Lexeme.inCrlf_of_continued?_eq_none hopener] at hkind
      rw [hopener] at hcontinued
      have hwhole : (crlf s).take (crlf (s.take (Lexeme.cut c s).2)).length =
          crlf (s.take (Lexeme.cut c s).2) := by
        conv_lhs => rw [← List.take_append_drop (Lexeme.cut c s).2 s, Text.crlf_append]
        rw [List.take_append_drop, List.take_left]
      rw [hkind, hlength hopener, Text.drop_crlf, hwhole,
        Lexeme.inCrlf_of_continued?_eq_none hcontinued, Text.crlf_cons hlf]
      exact leavesFrom_cons_congr hbehind _ p
termination_by s => s.length
decreasing_by simp only [List.length_cons, List.length_drop]; omega

variable {p : Position} {ls : List Lexeme}

/-- Without a literal that goes over a line, the leaves are the same with CR LF. -/
theorem leavesFrom_inCrlf (hcr : ∀ l ∈ ls, '\r' ∉ l.text)
    (h : ∀ l ∈ ls.takeWhile Lexeme.isClosed, l.continued? = none) :
    leavesFrom [] p (ls.map Lexeme.inCrlf) =
      (leavesFrom [] p ls).map (List.map Node.crlf) := by
  induction ls generalizing p with
  | nil => rfl
  | cons l ls ih =>
    obtain ⟨hl, hls⟩ := List.forall_mem_cons.1 hcr
    rw [List.map_cons]
    by_cases hclosed : l.isClosed = true
    · rw [List.takeWhile_cons_of_pos hclosed] at h
      obtain ⟨hcontinued, hrest⟩ := List.forall_mem_cons.1 h
      have hkeeps := Lexeme.inCrlf_of_continued?_eq_none hcontinued
      have hkind : l.inCrlf.kind = l.kind := by rw [hkeeps]
      have hnext : p.advance l.inCrlf.text = p.advance l.text := Position.advance_crlf p hl
      rw [Lexeme.isClosed_iff] at hclosed
      rw [leavesFrom_cons (hkind ▸ hclosed), leavesFrom_cons hclosed, hnext, ih hls hrest, hkind,
        Lexeme.toNode_inCrlf hl hcontinued]
      cases leavesFrom [] (p.advance l.text) ls with
      | error u => rfl
      | ok more => cases l.kind.isGap <;> rfl
    · obtain ⟨opener, hopen⟩ := not_forall_not.1 (mt Lexeme.isClosed_iff.2 hclosed)
      have hcontinued : l.continued? = none := by
        cases hsome : l.continued? with
        | none => rfl
        | some opener => exact absurd (Lexeme.of_continued?_eq_some hsome).2.2 hclosed
      have hkind : l.inCrlf.kind = .unclosed opener := by
        rw [Lexeme.inCrlf_of_continued?_eq_none hcontinued, hopen]
      rw [leavesFrom_unclosed hkind, leavesFrom_unclosed hopen]
      rfl

/-- A closed lexeme leaves the fault to those behind it. -/
theorem leavesFrom_cons_eq_error {l : Lexeme} {u : Unclosed} (hclosed : l.isClosed = true) :
    leavesFrom [] p (l :: ls) = .error u ↔ leavesFrom [] (p.advance l.text) ls = .error u := by
  rw [leavesFrom_cons (Lexeme.isClosed_iff.1 hclosed)]
  cases leavesFrom [] (p.advance l.text) ls <;> simp [Except.map]

/-- An opener that is unclosed stands behind the place where the lexemes start. -/
theorem le_line_of_leavesFrom_error {u : Unclosed} (h : leavesFrom [] p ls = .error u) :
    p.line ≤ u.line := by
  induction ls generalizing p with
  | nil => cases h
  | cons l ls ih =>
    by_cases hclosed : l.isClosed = true
    · have hline := ih ((leavesFrom_cons_eq_error hclosed).1 h)
      simp only [Position.advance] at hline
      omega
    · obtain ⟨opener, hopen⟩ := not_forall_not.1 (mt Lexeme.isClosed_iff.2 hclosed)
      rw [leavesFrom_unclosed hopen] at h
      obtain rfl := Except.error.inj h
      exact Int.le_refl _

/-- The first literal that goes over a line is unclosed with CR LF, and without it is not. -/
theorem leavesFrom_inCrlf_of_continued (hcr : ∀ l ∈ ls, '\r' ∉ l.text)
    (h : ∃ l ∈ ls.takeWhile Lexeme.isClosed, l.continued? ≠ none) :
    ∃ u, leavesFrom [] p (ls.map Lexeme.inCrlf) = .error u ∧ u.opener ≠ .blockComment ∧
      leavesFrom [] p ls ≠ .error u := by
  induction ls generalizing p with
  | nil =>
    obtain ⟨l, hl, -⟩ := h
    exact absurd hl List.not_mem_nil
  | cons l ls ih =>
    obtain ⟨hl, hls⟩ := List.forall_mem_cons.1 hcr
    have hclosed : l.isClosed = true := by
      by_contra hopen
      rw [List.takeWhile_cons_of_neg hopen] at h
      obtain ⟨l, hl, -⟩ := h
      exact absurd hl List.not_mem_nil
    rw [List.map_cons]
    cases hopener : l.continued? with
    | some opener =>
      obtain ⟨hliteral, hlf, -⟩ := Lexeme.of_continued?_eq_some hopener
      refine ⟨⟨opener, p.line⟩, leavesFrom_unclosed (by rw [Lexeme.inCrlf, hopener]) p _, hliteral,
        fun heq => ?_⟩
      -- What follows starts on a line below the literal's first one.
      have hline := le_line_of_leavesFrom_error ((leavesFrom_cons_eq_error hclosed).1 heq)
      have hbreaks : Text.breakCount l.text ≠ 0 := fun hzero =>
        absurd (Text.isBreak_of_breakCount_eq_zero hzero '\n' hlf) (by decide)
      simp only [Position.advance] at hline
      omega
    | none =>
      rw [List.takeWhile_cons_of_pos hclosed] at h
      have hbehind : ∃ l ∈ ls.takeWhile Lexeme.isClosed, l.continued? ≠ none := by
        obtain ⟨m, hm, hcontinued⟩ := h
        rcases List.mem_cons.1 hm with rfl | hm
        · exact absurd hopener hcontinued
        · exact ⟨m, hm, hcontinued⟩
      obtain ⟨u, hu, hliteral, hnot⟩ := ih (p := p.advance l.text) hls hbehind
      have hkeeps := Lexeme.inCrlf_of_continued?_eq_none hopener
      have hclosed' : l.inCrlf.isClosed = true := by rw [hkeeps]; exact hclosed
      have hnext : p.advance l.inCrlf.text = p.advance l.text := Position.advance_crlf p hl
      exact ⟨u, (leavesFrom_cons_eq_error hclosed').2 (hnext ▸ hu), hliteral,
        fun heq => hnot ((leavesFrom_cons_eq_error hclosed).1 heq)⟩

/-- The lexemes of a text without a CR have none. -/
theorem not_cr_mem_lexemes {s : List Char} (hcr : '\r' ∉ s) : ∀ l ∈ lexemes s, '\r' ∉ l.text :=
  fun l hl hmem => hcr (by
    rw [← Lexeme.lexemes_flatten s]
    exact List.mem_flatMap.2 ⟨l, hl, hmem⟩)

variable {path language : String} {s : List Char}

/-- **The flat tree with CR LF.**  If no literal in front of the first unclosed opener goes over a
line, the two texts have the same tree up to the breaks within leaves, or the same opener is
unclosed. -/
theorem flatTree_crlf (path language : String) (hcr : '\r' ∉ s)
    (h : ∀ l ∈ closedFront s, l.continued? = none) :
    (∃ tree tree', flatTree path language s = .ok tree ∧
      flatTree path language (crlf s) = .ok tree' ∧
      tree'.root.children = tree.root.children.map Node.crlf ∧
      tree'.lineCount = tree.lineCount) ∨
    ∃ u, flatTree path language s = .error u ∧ flatTree path language (crlf s) = .error u := by
  have hleaves : leaves (crlf s) = (leaves s).map (List.map Node.crlf) := by
    rw [leaves, leavesFrom_lexemes_crlf hcr, leavesFrom_inCrlf (not_cr_mem_lexemes hcr) h]
    rfl
  rw [flatTree, flatTree, hleaves]
  cases leaves s with
  | error u => exact .inr ⟨u, rfl, rfl⟩
  | ok nodes =>
    exact .inl ⟨_, _, rfl, rfl, rfl, congrArg Nat.cast (Text.lineCount_crlf hcr)⟩

/-- **A literal that goes over a line** is refused with CR LF, and it was not with LF. -/
theorem flatTree_crlf_of_continued (path language : String) (hcr : '\r' ∉ s)
    (h : ∃ l ∈ closedFront s, l.continued? ≠ none) :
    ∃ u, flatTree path language (crlf s) = .error u ∧ u.opener ≠ .blockComment ∧
      flatTree path language s ≠ .error u := by
  obtain ⟨u, hu, hliteral, hnot⟩ :=
    leavesFrom_inCrlf_of_continued (p := .start) (not_cr_mem_lexemes hcr) h
  rw [← leavesFrom_lexemes_crlf hcr] at hu
  refine ⟨u, ?_, hliteral, fun heq => hnot (leaves_of_fault heq)⟩
  rw [flatTree, leaves, hu]
  rfl

/-- The lexer refuses a text with the words for an opener only because of that opener. -/
theorem fault_of_parse {catalog : Catalog} {language : Language} {path : String} {s : List Char}
    {u : Unclosed} (h : Parser.parse ⟨.lexer, language⟩ catalog path s =
      .error (.parse path language.name u.reason)) : flatTree path language.name s = .error u := by
  cases hflat : flatTree path language.name s with
  | ok tree =>
    have hparse := parse_of_flatTree hflat catalog
    rw [hparse] at h
    cases h
  | error u' =>
    have hparse := parse_of_fault hflat catalog
    obtain ⟨-, -, hreason⟩ := Failure.parse.inj (Except.error.inj (hparse.symm.trans h))
    rw [Unclosed.reason_injective (Value.text.inj hreason)]

end Syntax
end LineMetrics
