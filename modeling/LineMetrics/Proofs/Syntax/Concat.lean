import LineMetrics.Proofs.Lexeme.Concat
import LineMetrics.Proofs.Syntax.Placement

/-!
# Leaves of a text put in front of another

A text that ends in an LF of its own (`EndsLine`) leads reading to the beginning of a line.  From
there the text behind it is read as from its own beginning, only further down: its leaves move down
by the lines above them, and so does the line of an unclosed opener (`leavesFrom_down`).  So the
leaves of the two texts stand one below the other: `leaves_append`.
-/

namespace LineMetrics

/-- The place `k` lines further down. -/
def Position.down (k : Int) (p : Position) : Position := ⟨p.line + k, p.column⟩

/-- A position that is moved down goes on moved down. -/
theorem Position.advance_down (k : Int) (p : Position) (s : List Char) :
    (p.down k).advance s = (p.advance s).down k := by
  rw [advance, down, down, advance, Int.add_right_comm]

namespace Node

/-- The leaf `k` lines further down. -/
def down (k : Int) (n : Node) : Node := { n with start := n.start.down k, endLine := n.endLine + k }

/-- A node that is moved down covers the lines below by as many. -/
theorem lines_down (k : Int) (n : Node) : (n.down k).lines = n.lines.map (· + k) := by
  have hlength : n.endLine + k + 1 - (n.start.line + k) = n.endLine + 1 - n.start.line := by ring
  simp only [lines, down, Position.down, hlength, List.map_map]
  refine List.map_congr_left fun i _ => ?_
  simp only [Function.comp_apply]
  ring

end Node

/-- The opener `k` lines further down. -/
def Unclosed.down (k : Int) (u : Unclosed) : Unclosed := { u with line := u.line + k }

namespace Lexeme

/-- An LF is a gap only as a newline. -/
theorem kind_of_lf_mem {l : Lexeme} {rest : List Char} (hshape : Shape l.kind l.text rest)
    (hgap : l.kind.isGap = true) (hlf : '\n' ∈ l.text) : l.kind = .newline := by
  obtain ⟨kind, text⟩ := l
  dsimp only at hshape hgap hlf ⊢
  cases hshape with
  | newline => rfl
  | space hspace => exact absurd (hspace '\n' hlf) (by decide)
  | word hkind => exact absurd hgap (by revert hkind; cases kind <;> simp [wordKinds, Kind.isGap])
  | _ => cases hgap

/-- A newline is one break, whether it is a CR LF, an LF or a CR. -/
theorem Shape.breakCount_newline {kind : Kind} {text rest : List Char} (h : Shape kind text rest)
    (hkind : kind = .newline) : Text.breakCount text = 1 := by
  subst hkind
  cases h with
  | word hword => exact absurd hword (by simp [wordKinds])
  | newline hbreak => obtain rfl | rfl | ⟨rfl, -⟩ := hbreak <;> rfl

/-- A text behind a message word ends in an LF only if a backslash takes it. -/
theorem Continued.escaped_of_lf {body : List Char} (h : Continued body)
    (hlf : body.getLast? = some '\n') :
    ['\\', '\n'] <:+ body ∨ ['\\', '\r', '\n'] <:+ body := by
  induction h with
  | nil => exact nomatch hlf
  | @crlf body _ ih =>
    cases body with
    | nil => exact .inr (List.suffix_refl _)
    | cons c body =>
      exact (ih hlf).imp (·.trans (List.suffix_append ['\\', '\r', '\n'] _))
        (·.trans (List.suffix_append ['\\', '\r', '\n'] _))
  | @escape d body _ ih =>
    cases body with
    | nil =>
      obtain rfl : d = '\n' := Option.some.inj hlf
      exact .inl (List.suffix_refl _)
    | cons c body =>
      exact (ih hlf).imp (·.trans (List.suffix_append ['\\', d] _))
        (·.trans (List.suffix_append ['\\', d] _))
  | @plain d body _ hbreak _ ih =>
    cases body with
    | nil =>
      obtain rfl : d = '\n' := Option.some.inj hlf
      exact nomatch hbreak
    | cons c body =>
      exact (ih hlf).imp (·.trans (List.suffix_cons _ _)) (·.trans (List.suffix_cons _ _))

/-- A message ends in an LF only if a backslash takes it. -/
theorem Shape.escaped_of_lf {text rest : List Char} (h : Shape .message text rest)
    (hlf : text.getLast? = some '\n') :
    ['\\', '\n'] <:+ text ∨ ['\\', '\r', '\n'] <:+ text := by
  cases h with
  | word hword => exact absurd hword (by simp [wordKinds])
  | @message gap word body _ _ hword hbody =>
    have htext : '#' :: (gap ++ (word ++ body)) = ('#' :: gap ++ word) ++ body := by simp
    rw [htext] at hlf ⊢
    cases body with
    | nil =>
      -- The word itself does not end in an LF.
      have hne : word ≠ [] := by
        rintro rfl
        exact absurd hword (by decide)
      rw [List.append_nil, List.getLast?_append_of_ne_nil _ hne] at hlf
      exact absurd (isBreak_messageWords word hword _ (List.mem_of_getLast? hlf)) (by decide)
    | cons c body =>
      rw [List.getLast?_append_of_ne_nil _ (List.cons_ne_nil c body)] at hlf
      exact (hbody.escaped_of_lf hlf).imp (·.trans (List.suffix_append _ _))
        (·.trans (List.suffix_append _ _))

/-- The leaves of two rows stand one row behind the other. -/
theorem placedFrom_append (first : Nat) (ls ms : List Lexeme) :
    placedFrom first (ls ++ ms) =
      placedFrom first ls ++ placedFrom (first + (ls.flatMap Lexeme.text).length) ms := by
  induction ls generalizing first with
  | nil => rfl
  | cons l ls ih =>
    rw [List.cons_append, placedFrom, placedFrom, ih, List.flatMap_cons, List.length_append,
      Nat.add_assoc, List.cons_append]

/-- The place behind lexemes that start at `p`. -/
def reach (p : Position) (ls : List Lexeme) : Position := ls.foldl (fun p l => p.advance l.text) p

theorem reach_cons (p : Position) (l : Lexeme) (ls : List Lexeme) :
    reach p (l :: ls) = reach (p.advance l.text) ls := rfl

/-- Two rows of lexemes reach as far as one after the other does. -/
theorem reach_append (p : Position) (ls ms : List Lexeme) :
    reach p (ls ++ ms) = reach (reach p ls) ms := List.foldl_append

/-- Lexemes lead no line up. -/
theorem line_le_reach (p : Position) (ls : List Lexeme) : p.line ≤ (reach p ls).line := by
  induction ls generalizing p with
  | nil => exact Int.le_refl _
  | cons l ls ih =>
    have hrest := ih (p.advance l.text)
    rw [reach_cons]
    simp only [Position.advance] at hrest ⊢
    omega

/-- The lexemes of a text lead as far as the text does. -/
theorem reach_lexemes (s : List Char) : reach .start (lexemes s) = Position.start.advance s := by
  have hmore : ∀ before, ¬Text.SplitsBreak before s →
      reach (Position.start.advance before) (lexemes s) = Position.start.advance (before ++ s) := by
    refine lexemes_induction (P := fun rest ls => ∀ before, ¬Text.SplitsBreak before rest →
      reach (Position.start.advance before) ls = Position.start.advance (before ++ rest)) ?_ ?_ s
    · intro before _
      rw [List.append_nil]
      rfl
    · intro l rest _ hshape ih before hseam
      rw [reach_cons, Position.advance_append .start (Text.not_splitsBreak_of_longer hseam),
        ih (before ++ l.text) (Text.not_splitsBreak_append hseam hshape.not_splitsBreak),
        List.append_assoc]
  exact hmore [] (Text.not_splitsBreak_nil s)

end Lexeme

namespace Syntax

open Lexeme (lexemes placed placedFrom placedLeaves reach)

/-! ### Leaves of lexemes -/

/-- Every leaf is that of a lexeme. -/
theorem exists_of_mem_leavesFrom {p : Position} {ls : List Lexeme} {nodes : List Node}
    (h : leavesFrom [] p ls = .ok nodes) : ∀ n ∈ nodes, ∃ l ∈ ls, ∃ q, n = l.toNode q := by
  induction ls generalizing p nodes with
  | nil =>
    obtain rfl := Except.ok.inj h
    exact fun _ hn => (List.not_mem_nil hn).elim
  | cons l ls ih =>
    have hmore : ∀ {q more}, leavesFrom [] q ls = .ok more →
        ∀ n ∈ more, ∃ m ∈ l :: ls, ∃ q, n = m.toNode q := by
      intro q more hrest n hn
      obtain ⟨m, hm, hn⟩ := ih hrest n hn
      exact ⟨m, List.mem_cons_of_mem _ hm, hn⟩
    rcases leavesFrom_cons_eq_ok h with ⟨-, hrest⟩ | ⟨-, more, hrest, rfl⟩
    · exact hmore hrest
    · exact List.forall_mem_cons.2 ⟨⟨l, List.mem_cons_self, p, rfl⟩, hmore hrest⟩

/-- Leaves end where their lexemes lead to, or before. -/
theorem endLine_le_reach {p : Position} {ls : List Lexeme} {nodes : List Node}
    (h : leavesFrom [] p ls = .ok nodes) : ∀ n ∈ nodes, n.endLine ≤ (reach p ls).line := by
  induction ls generalizing p nodes with
  | nil =>
    obtain rfl := Except.ok.inj h
    exact fun _ hn => (List.not_mem_nil hn).elim
  | cons l ls ih =>
    rw [Lexeme.reach_cons]
    rcases leavesFrom_cons_eq_ok h with ⟨-, hrest⟩ | ⟨-, more, hrest, rfl⟩
    · exact ih hrest
    · exact List.forall_mem_cons.2 ⟨Lexeme.line_le_reach _ ls, ih hrest⟩

/-- **Leaves of more lexemes** go on where the first lexemes lead to. -/
theorem leavesFrom_append {p : Position} {ls : List Lexeme} {nodes : List Node}
    (h : leavesFrom [] p ls = .ok nodes) (ms : List Lexeme) :
    leavesFrom [] p (ls ++ ms) = (leavesFrom [] (reach p ls) ms).map (nodes ++ ·) := by
  induction ls generalizing p nodes with
  | nil =>
    obtain rfl := Except.ok.inj h
    rw [List.nil_append]
    cases hms : leavesFrom [] (reach p []) ms <;> exact hms
  | cons l ls ih =>
    have hclosed := closed_of_leavesFrom h l List.mem_cons_self
    rw [List.cons_append, leavesFrom_cons hclosed, Lexeme.reach_cons]
    rcases leavesFrom_cons_eq_ok h with ⟨hgap, hrest⟩ | ⟨hgap, more, hrest, rfl⟩
    · rw [ih hrest, if_pos hgap]
      cases leavesFrom [] (reach (p.advance l.text) ls) ms <;> rfl
    · rw [ih hrest, if_neg (by simp [hgap])]
      cases leavesFrom [] (reach (p.advance l.text) ls) ms <;> rfl

/-- A gap behind the other lexemes makes no difference. -/
theorem leavesFrom_concat_of_isGap {last : Lexeme} (hgap : last.kind.isGap = true) (p : Position)
    (ls : List Lexeme) : leavesFrom [] p (ls ++ [last]) = leavesFrom [] p ls := by
  induction ls generalizing p with
  | nil => exact leavesFrom_cons_of_isGap hgap p []
  | cons l ls ih =>
    by_cases hopen : ∃ opener, l.kind = .unclosed opener
    · obtain ⟨opener, hkind⟩ := hopen
      rw [List.cons_append, leavesFrom_unclosed hkind, leavesFrom_unclosed hkind]
    · have hclosed : ∀ opener, l.kind ≠ .unclosed opener :=
        fun opener hkind => hopen ⟨opener, hkind⟩
      rw [List.cons_append, leavesFrom_cons hclosed, leavesFrom_cons hclosed, ih]

/-- **From further down,** the same leaves are made further down, or the same opener is unclosed
there. -/
theorem leavesFrom_down (k : Int) (p : Position) (ls : List Lexeme) :
    leavesFrom [] (p.down k) ls =
      ((leavesFrom [] p ls).map (List.map (Node.down k))).mapError (Unclosed.down k) := by
  induction ls generalizing p with
  | nil => rfl
  | cons l ls ih =>
    by_cases hopen : ∃ opener, l.kind = .unclosed opener
    · obtain ⟨opener, hkind⟩ := hopen
      rw [leavesFrom_unclosed hkind, leavesFrom_unclosed hkind]
      rfl
    · have hclosed : ∀ opener, l.kind ≠ .unclosed opener :=
        fun opener hkind => hopen ⟨opener, hkind⟩
      have hnode : l.toNode (p.down k) = (l.toNode p).down k := by
        rw [Lexeme.toNode, Position.advance_down]
        rfl
      rw [leavesFrom_cons hclosed, leavesFrom_cons hclosed, Position.advance_down, ih, hnode]
      cases leavesFrom [] (p.advance l.text) ls with
      | error u => rfl
      | ok more => cases l.kind.isGap <;> rfl

/-! ### A text in front of another -/

/-- The text ends in an LF, and no leaf holds it. -/
structure EndsLine (a : List Char) : Prop where
  lf : a.getLast? = some '\n'
  free : ∀ span ∈ spans a, ¬span.Holds (a.length - 1)

/-- The last lexeme of such a text is a newline. -/
theorem EndsLine.exists_newline {a : List Char} (h : EndsLine a) :
    ∃ ls last, lexemes a = ls ++ [last] ∧ last.kind = .newline := by
  have hne : lexemes a ≠ [] := by
    intro hnil
    have htext := Lexeme.lexemes_flatten a
    rw [hnil, List.flatMap_nil] at htext
    rw [← htext] at h
    exact nomatch h.lf
  obtain ⟨ls, last, hls⟩ : ∃ ls last, lexemes a = ls ++ [last] :=
    ⟨_, _, (List.dropLast_append_getLast hne).symm⟩
  have hmem : last ∈ lexemes a := hls ▸ List.mem_append_right _ List.mem_cons_self
  have htext : a = ls.flatMap Lexeme.text ++ last.text := by
    rw [← Lexeme.lexemes_flatten a, hls, List.flatMap_append, List.flatMap_singleton]
  have hlast := (Lexeme.mem_lexemes hmem).1
  have hlf : last.text.getLast? = some '\n' := by
    rw [← List.getLast?_append_of_ne_nil (ls.flatMap Lexeme.text) hlast, ← htext]
    exact h.lf
  refine ⟨ls, last, hls, ?_⟩
  have hgap : last.kind.isGap = true := by
    by_contra hleaf
    have hplaced : ((ls.flatMap Lexeme.text).length, last) ∈ placed a := by
      rw [placed, hls, Lexeme.placedFrom_append, Nat.zero_add]
      exact List.mem_append_right _ List.mem_cons_self
    refine h.free _ (List.mem_map.2 ⟨_, List.mem_filter.2 ⟨hplaced, by simpa using hleaf⟩, rfl⟩) ?_
    have hpos := List.length_pos_of_ne_nil hlast
    have hlength := congrArg List.length htext
    rw [List.length_append] at hlength
    simp only [Span.Holds, Lexeme.spanAt]
    omega
  obtain ⟨rest, hshape⟩ := Lexeme.shape_of_mem_lexemes hmem
  exact Lexeme.kind_of_lf_mem hshape hgap (List.mem_of_getLast? hlf)

/-- An LF leads to the beginning of a line. -/
theorem advance_of_lf {a : List Char} (h : a.getLast? = some '\n') :
    Position.start.advance a = Position.start.down (Text.breakCount a) := by
  obtain ⟨before, rfl⟩ := List.getLast?_eq_some_iff.1 h
  have hbreak : Text.isBreak '\n' = true := rfl
  rw [Position.advance_start, Text.lineStart_concat, if_pos hbreak, List.length_append,
    List.length_singleton, Int.sub_self]
  rfl

/-- **Leaves of two texts.**  Behind a text that ends in an LF of its own stand the leaves of what
follows, moved down by the breaks of that text. -/
theorem leaves_append {a : List Char} {nodes : List Node} (hends : EndsLine a)
    (ha : leaves a = .ok nodes) (b : List Char) :
    leaves (a ++ b) = ((leaves b).map fun more =>
      nodes ++ more.map (Node.down (Text.breakCount a))).mapError
        (Unclosed.down (Text.breakCount a)) := by
  have hclosed := closed_of_leavesFrom ha
  obtain ⟨ls, last, hls, hlast⟩ := hends.exists_newline
  have hlexemes : lexemes (a ++ b) = lexemes a ++ lexemes b := by
    rw [Lexeme.lexemes_append hlast (fun l hl => hclosed l (hls ▸ List.mem_append_left _ hl)) hls
      hends.lf b, hls, List.append_assoc, List.singleton_append]
  rw [leaves, hlexemes, leavesFrom_append ha, Lexeme.reach_lexemes, advance_of_lf hends.lf,
    leavesFrom_down]
  rw [leaves]
  cases leavesFrom [] .start (lexemes b) <;> rfl

/-- The leaves of such a text end above the line that its LF leads to. -/
theorem EndsLine.endLine_le {a : List Char} {nodes : List Node} (h : EndsLine a)
    (ha : leaves a = .ok nodes) : ∀ n ∈ nodes, n.endLine ≤ Text.breakCount a := by
  obtain ⟨ls, last, hls, hlast⟩ := h.exists_newline
  have hmem : last ∈ lexemes a := hls ▸ List.mem_append_right ls List.mem_cons_self
  obtain ⟨rest, hshape⟩ := Lexeme.shape_of_mem_lexemes hmem
  -- The newline makes no leaf and leads one line on.
  have hreach : Position.start.advance a = (reach .start ls).advance last.text := by
    rw [← Lexeme.reach_lexemes a, hls, Lexeme.reach_append]
    rfl
  have hline : 1 + (Text.breakCount a : Int) =
      (reach .start ls).line + Text.breakCount last.text := congrArg Position.line hreach
  rw [hshape.breakCount_newline hlast] at hline
  rw [leaves, hls, leavesFrom_concat_of_isGap (by rw [hlast]; rfl)] at ha
  intro n hn
  have hend := endLine_le_reach ha n hn
  omega

/-- No leaf starts above the first line. -/
theorem one_le_line {s : List Char} {nodes : List Node} (h : leaves s = .ok nodes) :
    ∀ n ∈ nodes, 1 ≤ n.start.line := by
  intro n hn
  rcases (leavesFrom_pairwise (fun _ hl => (Lexeme.mem_lexemes hl).1) h).1 n hn with heq | hbefore
  · exact heq ▸ Int.le_refl 1
  · rw [Position.before_iff] at hbefore
    simp only [Position.start] at hbefore
    omega

/-- Two texts share one line where the first one ends with an LF. -/
theorem lineCount_append {a b : List Char} (hlf : a.getLast? = some '\n') (hb : b ≠ []) :
    (Text.lineCount (a ++ b) : Int) = Text.lineCount a + Text.lineCount b - 1 := by
  have ha : 0 < a.length := List.length_pos_of_ne_nil (by rintro rfl; exact nomatch hlf)
  have hb := List.length_pos_of_ne_nil hb
  have hsplit : ¬Text.SplitsBreak a b := by
    rintro ⟨hcr, -⟩
    exact nomatch hcr.symm.trans hlf
  rw [lineCount_of_pos ha, lineCount_of_pos hb,
    lineCount_of_pos (by rw [List.length_append]; omega), Text.breakCount_append hsplit]
  omega

/-- The line that the LF leads to is the last one. -/
theorem EndsLine.breakCount_eq {path language : String} {a : List Char} {top : SyntaxTree}
    (h : EndsLine a) (ha : flatTree path language a = .ok top) :
    (Text.breakCount a : Int) = top.lineCount - 1 := by
  have hne : a ≠ [] := by
    rintro rfl
    exact nomatch h.lf
  rw [(flatTree_eq_ok ha).2.2.2, lineCount_of_pos (List.length_pos_of_ne_nil hne)]
  omega

/-- **The flat tree of two texts.**  Behind a text with a tree, which ends in an LF of its own, the
tree has the leaves of that text and below them those of what follows, or what follows has no tree,
and the opener that is unclosed there is unclosed further down. -/
theorem flatTree_append {path language : String} {a b : List Char} {top : SyntaxTree}
    (ha : flatTree path language a = .ok top) (hends : EndsLine a) (hb : b ≠ []) :
    (∃ bottom tree, flatTree path language b = .ok bottom ∧
      flatTree path language (a ++ b) = .ok tree ∧
      tree.root.children =
        top.root.children ++ bottom.root.children.map (Node.down (top.lineCount - 1)) ∧
      tree.lineCount = top.lineCount + bottom.lineCount - 1) ∨
    ∃ u, flatTree path language b = .error u ∧
      flatTree path language (a ++ b) = .error (u.down (top.lineCount - 1)) := by
  obtain ⟨hleaves, -, -, hlines⟩ := flatTree_eq_ok ha
  have happend := leaves_append hends hleaves b
  rw [hends.breakCount_eq ha] at happend
  cases hleavesb : leaves b with
  | error u =>
    rw [hleavesb] at happend
    refine .inr ⟨u, ?_, ?_⟩
    · rw [flatTree, hleavesb]
      rfl
    · rw [flatTree, happend]
      rfl
  | ok nodes =>
    rw [hleavesb] at happend
    refine .inl ⟨_, _, by rw [flatTree, hleavesb]; rfl, by rw [flatTree, happend]; rfl, rfl, ?_⟩
    rw [hlines]
    exact lineCount_append hends.lf hb

/-- **What holds the last LF** of a text, if a leaf does, is a message in which a backslash takes
it. -/
theorem message_of_holds_lf {path language : String} {a : List Char} {top : SyntaxTree}
    (ha : flatTree path language a = .ok top) (hlf : a.getLast? = some '\n') {n : Node}
    {span : Span} (hn : (n, span) ∈ top.root.children.zip (spans a))
    (hholds : span.Holds (a.length - 1)) :
    n.type = "preproc_message" ∧ ∃ text, n.text = some text ∧
      (['\\', '\n'] <:+ text ∨ ['\\', '\r', '\n'] <:+ text) := by
  rw [zip_children_spans ha] at hn
  obtain ⟨⟨o, l⟩, hl, heq⟩ := List.mem_map.1 hn
  obtain ⟨rfl, rfl⟩ := Prod.mk.inj heq
  obtain ⟨hplaced, hgap⟩ := List.mem_filter.1 hl
  obtain ⟨before, after, htext, ho, hne⟩ := Lexeme.exists_of_mem_placed hplaced
  have hlast : l.text.getLast? = some '\n' := by
    have hlength := congrArg List.length htext
    simp only [List.length_append] at hlength
    simp only [Span.Holds, Lexeme.spanAt] at hholds
    obtain rfl : after = [] := List.eq_nil_of_length_eq_zero (by omega)
    rw [← List.getLast?_append_of_ne_nil before hne, ← hlf, htext, List.append_nil]
  have hmem : l ∈ lexemes a := by
    obtain ⟨ls, ms, hls, -⟩ := Lexeme.mem_placedFrom hplaced
    exact hls ▸ List.mem_append_right _ List.mem_cons_self
  obtain ⟨rest, hshape⟩ := Lexeme.shape_of_mem_lexemes hmem
  have hmessage : l.kind = .message := by
    by_contra hmessage
    have hnewline : l.kind ≠ .newline := by
      intro hkind
      simp [hkind, Lexeme.Kind.isGap] at hgap
    exact absurd (hshape.isBreak_getLast hnewline hmessage _ hlast) (by decide)
  refine ⟨?_, l.text, rfl, (hmessage ▸ hshape).escaped_of_lf hlast⟩
  rw [Lexeme.toNodeAt, hmessage]
  rfl

end Syntax
end LineMetrics
