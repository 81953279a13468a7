import LineMetrics.Parser
import LineMetrics.Proofs.Lexeme.Shape

/-!
# Where leaves stand

Positions are counted lexeme by lexeme (specification, section 3).  Because no lexeme ends inside a
CR LF (`Lexeme.Shape.not_splitsBreak`), they are nevertheless the places in the whole file, its
breaks counted from its beginning: `children_of_flatTree` says which leaf each lexeme makes, and
`flatTree_positions` that leaves stand where their text does.  A lexeme holds a character, so places
increase strictly, and the sorted listings of tokens and comments are the children as they come.
-/

namespace LineMetrics

/-- A piece of a text, from one offset to before another. -/
structure Span where
  start : Nat
  stop : Nat
  deriving Repr, DecidableEq

namespace Span

/-- Whether the piece holds the character at an offset. -/
def Holds (span : Span) (i : Nat) : Prop := span.start ≤ i ∧ i < span.stop

instance (span : Span) (i : Nat) : Decidable (span.Holds i) :=
  inferInstanceAs (Decidable (_ ∧ _))

/-- The text of a piece. -/
def text (span : Span) (s : List Char) : List Char := (s.take span.stop).drop span.start

end Span

namespace Lexeme

/-- Lexemes with the offsets they start at, the first of them at `o`. -/
def placedFrom (o : Nat) : List Lexeme → List (Nat × Lexeme)
  | [] => []
  | l :: rest => (o, l) :: placedFrom (o + l.text.length) rest

/-- The lexemes of a text with the offsets they start at. -/
def placed (s : List Char) : List (Nat × Lexeme) := placedFrom 0 (lexemes s)

/-- The piece of the text that a lexeme is. -/
def spanAt (o : Nat) (l : Lexeme) : Span := ⟨o, o + l.text.length⟩

/-- The node of a lexeme that starts at an offset of `s`, its place counted from the beginning of
`s`. -/
def toNodeAt (s : List Char) (o : Nat) (l : Lexeme) : Node :=
  .leaf l.kind.nodeType (.ofOffset s o) (1 + Text.breakCount (s.take (l.spanAt o).stop)) l.text
    l.kind.isComment

/-- The lexemes that make leaves, with the offsets they start at. -/
def placedLeaves (s : List Char) : List (Nat × Lexeme) := (placed s).filter fun p => !p.2.kind.isGap

/-- A placed lexeme stands behind those in front of it. -/
theorem mem_placedFrom {o : Nat} {l : Lexeme} : ∀ {ls : List Lexeme} {first : Nat},
    (o, l) ∈ placedFrom first ls → ∃ before after, ls = before ++ l :: after ∧
      o = first + (before.flatMap Lexeme.text).length
  | m :: ls, first, h => by
    rw [placedFrom, List.mem_cons] at h
    rcases h with h | h
    · obtain ⟨rfl, rfl⟩ := Prod.mk.inj h
      exact ⟨[], ls, rfl, rfl⟩
    · obtain ⟨before, after, rfl, rfl⟩ := mem_placedFrom h
      refine ⟨m :: before, after, rfl, ?_⟩
      rw [List.flatMap_cons, List.length_append, Nat.add_assoc]

/-- No lexeme stands in front of the first place. -/
theorem le_of_mem_placedFrom {p : Nat × Lexeme} {ls : List Lexeme} {first : Nat}
    (h : p ∈ placedFrom first ls) : first ≤ p.1 := by
  obtain ⟨before, after, -, ho⟩ := mem_placedFrom h
  omega

/-- Each lexeme ends where the next one starts, or before. -/
theorem placedFrom_pairwise (first : Nat) (ls : List Lexeme) :
    (placedFrom first ls).Pairwise fun p q => (p.2.spanAt p.1).stop ≤ q.1 := by
  induction ls generalizing first with
  | nil => exact List.Pairwise.nil
  | cons l rest ih => exact List.pairwise_cons.2 ⟨fun q hq => le_of_mem_placedFrom hq, ih _⟩

/-- A lexeme stands in the text at its offset. -/
theorem exists_of_mem_placed {s : List Char} {o : Nat} {l : Lexeme} (h : (o, l) ∈ placed s) :
    ∃ before after, s = before ++ (l.text ++ after) ∧ o = before.length ∧ l.text ≠ [] := by
  obtain ⟨before, after, hls, ho⟩ := mem_placedFrom h
  refine ⟨before.flatMap Lexeme.text, after.flatMap Lexeme.text, ?_, by omega, ?_⟩
  · rw [← lexemes_flatten s, hls, List.flatMap_append, List.flatMap_cons]
  · exact (mem_lexemes (hls ▸ List.mem_append_right _ List.mem_cons_self)).1

/-- Every lexeme has the shape of its kind, with the text of the lexemes behind it. -/
theorem shape_of_lexemes_eq_append {l : Lexeme} {s : List Char} : ∀ {before after : List Lexeme},
    lexemes s = before ++ l :: after → Shape l.kind l.text (after.flatMap Lexeme.text) := by
  refine lexemes_induction (P := fun _ ls => ∀ {before after : List Lexeme},
    ls = before ++ l :: after → Shape l.kind l.text (after.flatMap Lexeme.text)) ?_ ?_ s
  · exact fun h => absurd h (by simp)
  · intro m rest _ hshape ih before after h
    cases before with
    | nil =>
      obtain ⟨rfl, rfl⟩ := List.cons.inj h
      rwa [lexemes_flatten]
    | cons m before => exact ih (List.cons.inj h).2

/-- The lexemes of a text have the shapes of their kinds. -/
theorem shape_of_mem_lexemes {l : Lexeme} {s : List Char} (h : l ∈ lexemes s) :
    ∃ rest, Shape l.kind l.text rest := by
  obtain ⟨before, after, hls⟩ := List.append_of_mem h
  exact ⟨_, shape_of_lexemes_eq_append hls⟩

/-- Every character of a text belongs to a lexeme. -/
theorem exists_placedFrom_holds {i : Nat} : ∀ {ls : List Lexeme} {first : Nat}, first ≤ i →
    i < first + (ls.flatMap Lexeme.text).length →
      ∃ p ∈ placedFrom first ls, (p.2.spanAt p.1).Holds i
  | [], first, hle, hlt => by
    rw [List.flatMap_nil, List.length_nil] at hlt
    omega
  | l :: ls, first, hle, hlt => by
    rw [List.flatMap_cons, List.length_append] at hlt
    rcases Nat.lt_or_ge i (first + l.text.length) with hhere | hbehind
    · exact ⟨(first, l), List.mem_cons_self, hle, hhere⟩
    · have hlt : i < first + l.text.length + (ls.flatMap Lexeme.text).length := by omega
      obtain ⟨p, hp, hholds⟩ := exists_placedFrom_holds hbehind hlt
      exact ⟨p, List.mem_cons_of_mem _ hp, hholds⟩

/-- Each character of a text is held by one of its lexemes. -/
theorem exists_placed_holds {s : List Char} {i : Nat} (h : i < s.length) :
    ∃ p ∈ placed s, (p.2.spanAt p.1).Holds i := by
  refine exists_placedFrom_holds (Nat.zero_le i) ?_
  rw [lexemes_flatten]
  omega

/-- Of two lexemes of a text, one ends where the other starts, or before. -/
theorem apart_of_ne {s : List Char} {p q : Nat × Lexeme} (hp : p ∈ placed s) (hq : q ∈ placed s)
    (hne : p ≠ q) : (p.2.spanAt p.1).stop ≤ q.1 ∨ (q.2.spanAt q.1).stop ≤ p.1 := by
  have hapart : (placed s).Pairwise fun p q =>
      (p.2.spanAt p.1).stop ≤ q.1 ∨ (q.2.spanAt q.1).stop ≤ p.1 :=
    (placedFrom_pairwise 0 (lexemes s)).imp Or.inl
  have : Std.Symm fun p q : Nat × Lexeme =>
      (p.2.spanAt p.1).stop ≤ q.1 ∨ (q.2.spanAt q.1).stop ≤ p.1 := ⟨fun _ _ => Or.symm⟩
  exact hapart.forall hp hq hne

/-- Pieces that hold one character are those of one lexeme. -/
theorem eq_of_holds {s : List Char} {p q : Nat × Lexeme} {i : Nat} (hp : p ∈ placed s)
    (hq : q ∈ placed s) (hpi : (p.2.spanAt p.1).Holds i) (hqi : (q.2.spanAt q.1).Holds i) :
    p = q := by
  by_contra hne
  have hapart := apart_of_ne hp hq hne
  simp only [Span.Holds, spanAt] at hpi hqi hapart
  omega

/-- No lexeme starts inside a CR LF. -/
theorem not_splitsBreak_of_mem_placed {s : List Char} {p : Nat × Lexeme} (h : p ∈ placed s) :
    ¬Text.SplitsBreak (s.take p.1) p.2.text := by
  have hmore : ∀ before, ¬Text.SplitsBreak before s →
      ∀ p ∈ placedFrom before.length (lexemes s),
        ¬Text.SplitsBreak ((before ++ s).take p.1) p.2.text := by
    refine lexemes_induction (P := fun rest ls => ∀ before, ¬Text.SplitsBreak before rest →
      ∀ p ∈ placedFrom before.length ls,
        ¬Text.SplitsBreak ((before ++ rest).take p.1) p.2.text) ?_ ?_ s
    · exact fun before _ p hp => (List.not_mem_nil hp).elim
    · intro l rest _ hshape ih before hseam
      refine List.forall_mem_cons.2 ⟨?_, ?_⟩
      · rw [List.take_left]
        exact Text.not_splitsBreak_of_longer hseam
      · have hrest := ih (before ++ l.text)
          (Text.not_splitsBreak_append hseam hshape.not_splitsBreak)
        rwa [List.append_assoc, List.length_append] at hrest
  exact hmore [] (Text.not_splitsBreak_nil s) p h

end Lexeme

/-- A node stands in the text `s` at a piece of it: it has the text of the piece and its lines and
column, all counted from the beginning of `s`. -/
structure Node.StandsAt (s : List Char) (n : Node) (span : Span) : Prop where
  nonempty : span.start < span.stop
  within : span.stop ≤ s.length
  text : n.text = some (span.text s)
  line : n.start.line = 1 + Text.breakCount (s.take span.start)
  column : n.start.column = span.start - Text.lineStart (s.take span.start)
  endLine : n.endLine = 1 + Text.breakCount (s.take span.stop)

namespace Lexeme

/-- The node of a placed lexeme stands where the lexeme does. -/
theorem toNodeAt_standsAt {s : List Char} {o : Nat} {l : Lexeme} (h : (o, l) ∈ placed s) :
    (l.toNodeAt s o).StandsAt s (l.spanAt o) := by
  obtain ⟨before, after, rfl, rfl, hne⟩ := exists_of_mem_placed h
  have hpos := List.length_pos_of_ne_nil hne
  refine ⟨?_, ?_, congrArg some ?_, rfl, rfl, rfl⟩
  · simp only [spanAt]
    omega
  · simp only [spanAt, List.length_append]
    omega
  · simp [Span.text, spanAt, List.take_append]

/-- The span of a placed lexeme cuts its text out of the whole. -/
theorem text_spanAt {s : List Char} {o : Nat} {l : Lexeme} (h : (o, l) ∈ placed s) :
    (l.spanAt o).text s = l.text :=
  (Option.some.inj (toNodeAt_standsAt h).text).symm

end Lexeme

/-- A node covers the lines from its start to its end. -/
theorem Node.mem_lines {n : Node} {line : Int} :
    line ∈ n.lines ↔ n.start.line ≤ line ∧ line ≤ n.endLine := by
  simp only [Node.lines, List.mem_map, List.mem_range]
  constructor
  · rintro ⟨i, hi, rfl⟩
    omega
  · intro h
    exact ⟨(line - n.start.line).toNat, by omega, by omega⟩

namespace Syntax

open Lexeme (placedFrom placedLeaves)

/-- The pieces of the text that its leaves are. -/
def spans (s : List Char) : List Span := (placedLeaves s).map fun p => p.2.spanAt p.1

/-- The comments of a tree with the pieces of the text that they are. -/
def commentSpans (tree : SyntaxTree) (s : List Char) : List (Node × Span) :=
  (tree.root.children.zip (spans s)).filter fun p => p.1.isComment

/-- An unclosed lexeme is a fault where it starts. -/
theorem leavesFrom_unclosed {l : Lexeme} {opener : Opener} (h : l.kind = .unclosed opener)
    (p : Position) (rest : List Lexeme) :
    leavesFrom [] p (l :: rest) = .error ⟨opener, p.line⟩ := by
  rw [leavesFrom, h]

/-- **A closed lexeme** puts its leaf, if it makes one, in front of those of the lexemes behind
it. -/
theorem leavesFrom_cons {l : Lexeme} (hclosed : ∀ opener, l.kind ≠ .unclosed opener) (p : Position)
    (rest : List Lexeme) :
    leavesFrom [] p (l :: rest) = (leavesFrom [] (p.advance l.text) rest).map
      ((if l.kind.isGap then [] else [l.toNode p]) ++ ·) := by
  rw [leavesFrom]
  split
  · rename_i opener hkind
    exact absurd hkind (hclosed opener)
  · split
    · cases leavesFrom [] (p.advance l.text) rest <;> rfl
    · rw [leavesFrom_eq]
      rfl

/-- A gap makes no leaf. -/
theorem leavesFrom_cons_of_isGap {l : Lexeme} (hgap : l.kind.isGap = true) (p : Position)
    (rest : List Lexeme) : leavesFrom [] p (l :: rest) = leavesFrom [] (p.advance l.text) rest := by
  have hclosed : ∀ opener, l.kind ≠ .unclosed opener := by
    intro opener hkind
    rw [hkind] at hgap
    cases hgap
  rw [leavesFrom_cons hclosed, if_pos hgap]
  cases leavesFrom [] (p.advance l.text) rest <;> rfl

/-- The node that is made while positions are advanced is the one that is made from the offset,
where no break is split. -/
theorem toNode_eq_toNodeAt (before rest : List Char) {l : Lexeme}
    (hseam : ¬Text.SplitsBreak before l.text) :
    l.toNode (Position.start.advance before) =
      l.toNodeAt (before ++ (l.text ++ rest)) before.length := by
  have hstart : Position.start.advance before =
      Position.ofOffset (before ++ (l.text ++ rest)) before.length := by
    rw [← Position.advance_start_take (by simp), List.take_left]
  have hstop : (before ++ (l.text ++ rest)).take (l.spanAt before.length).stop =
      before ++ l.text := by
    rw [← List.append_assoc]
    exact List.take_left' (by simp [Lexeme.spanAt])
  rw [Lexeme.toNode, Lexeme.toNodeAt, Position.advance_append .start hseam,
    Position.advance_start (before ++ l.text), hstop, hstart]

/-- If leaves are made, no lexeme is unclosed. -/
theorem closed_of_leavesFrom {p : Position} {ls : List Lexeme} {nodes : List Node}
    (h : leavesFrom [] p ls = .ok nodes) : ∀ l ∈ ls, ∀ opener, l.kind ≠ .unclosed opener := by
  induction ls generalizing p nodes with
  | nil => exact fun _ hl => (List.not_mem_nil hl).elim
  | cons l ls ih =>
    refine List.forall_mem_cons.2 ⟨fun opener hkind => ?_, ?_⟩
    · exact nomatch (leavesFrom_unclosed hkind p ls).symm.trans h
    · rcases leavesFrom_cons_eq_ok h with ⟨-, hrest⟩ | ⟨-, _, hrest, -⟩
      · exact ih hrest
      · exact ih hrest

/-- **Counted in pieces or from the beginning:** the nodes of lexemes that follow `before` are those
at their offsets of the whole text. -/
theorem leavesFrom_eq_toNodeAt {before rest : List Char} {nodes : List Node}
    (hseam : ¬Text.SplitsBreak before rest)
    (h : leavesFrom [] (Position.start.advance before) (Lexeme.lexemes rest) = .ok nodes) :
    nodes = ((placedFrom before.length (Lexeme.lexemes rest)).filter fun p => !p.2.kind.isGap).map
      fun p => p.2.toNodeAt (before ++ rest) p.1 := by
  revert before nodes
  refine Lexeme.lexemes_induction (P := fun rest ls => ∀ {before nodes},
    ¬Text.SplitsBreak before rest → leavesFrom [] (Position.start.advance before) ls = .ok nodes →
    nodes = ((placedFrom before.length ls).filter fun p => !p.2.kind.isGap).map
      fun p => p.2.toNodeAt (before ++ rest) p.1) ?_ ?_ rest
  · intro before nodes _ h
    exact (Except.ok.inj h).symm
  · intro l rest hne hshape ih before nodes hseam h
    have hfirst := Text.not_splitsBreak_of_longer hseam
    have hnext := Text.not_splitsBreak_append hseam hshape.not_splitsBreak
    have ih := fun nodes => @ih (before ++ l.text) nodes hnext
    rw [← Position.advance_append .start hfirst, List.length_append, List.append_assoc] at ih
    rw [placedFrom]
    rcases leavesFrom_cons_eq_ok h with ⟨hgap, hrest⟩ | ⟨hgap, more, hrest, rfl⟩
    · rw [List.filter_cons_of_neg (by simp [hgap])]
      exact ih nodes hrest
    · rw [List.filter_cons_of_pos (by simp [hgap]), List.map_cons, ← ih more hrest,
        toNode_eq_toNodeAt before rest hfirst]

/-- What a text with a flat tree has for a tree. -/
theorem flatTree_eq_ok {path language : String} {s : List Char} {tree : SyntaxTree}
    (h : flatTree path language s = .ok tree) :
    leaves s = .ok tree.root.children ∧ tree.root.isComment = false ∧ tree.root.text = none ∧
      tree.lineCount = Text.lineCount s := by
  rw [flatTree] at h
  cases hleaves : leaves s with
  | error u => rw [hleaves] at h; cases h
  | ok nodes =>
    rw [hleaves] at h
    obtain rfl := Except.ok.inj h
    exact ⟨rfl, rfl, rfl, rfl⟩

/-- A text that is refused has no leaves. -/
theorem leaves_of_fault {path language : String} {s : List Char} {u : Unclosed}
    (h : flatTree path language s = .error u) : leaves s = .error u := by
  rw [flatTree] at h
  cases hleaves : leaves s with
  | error u' => rw [hleaves] at h; exact congrArg Except.error (Except.error.inj h)
  | ok nodes => rw [hleaves] at h; cases h

/-- The parser of the lexer gives the flat tree. -/
theorem parse_of_flatTree {language : Language} {path : String} {s : List Char} {tree : SyntaxTree}
    (h : flatTree path language.name s = .ok tree) (catalog : Catalog) :
    Parser.parse ⟨.lexer, language⟩ catalog path s = .ok tree := by
  simp only [Parser.parse, h]

/-- The parser of the lexer refuses what has no flat tree, with the opener's reason. -/
theorem parse_of_fault {language : Language} {path : String} {s : List Char} {u : Unclosed}
    (h : flatTree path language.name s = .error u) (catalog : Catalog) :
    Parser.parse ⟨.lexer, language⟩ catalog path s =
      .error (.parse path language.name u.reason) := by
  simp only [Parser.parse, h]

/-- The lexer accepts a text only with its flat tree. -/
theorem flatTree_of_parse {catalog : Catalog} {language : Language} {path : String} {s : List Char}
    {tree : SyntaxTree} (h : Parser.parse ⟨.lexer, language⟩ catalog path s = .ok tree) :
    flatTree path language.name s = .ok tree := by
  cases hflat : flatTree path language.name s with
  | ok t =>
    have hparse := parse_of_flatTree hflat catalog
    exact congrArg Except.ok (Except.ok.inj (hparse.symm.trans h))
  | error u => exact nomatch h.symm.trans (parse_of_fault hflat catalog)

/-- **The leaves of a flat tree** are those of the lexemes, each at its place in the file. -/
theorem children_of_flatTree {path language : String} {s : List Char} {tree : SyntaxTree}
    (h : flatTree path language s = .ok tree) :
    tree.root.children = (placedLeaves s).map fun p => p.2.toNodeAt s p.1 :=
  leavesFrom_eq_toNodeAt (Text.not_splitsBreak_nil s) (flatTree_eq_ok h).1

/-- **The children of a flat tree stand at the spans of its leaves**, one by one and in order. -/
theorem children_standsAt {path language : String} {s : List Char} {tree : SyntaxTree}
    (h : flatTree path language s = .ok tree) :
    List.Forall₂ (Node.StandsAt s) tree.root.children (spans s) := by
  rw [children_of_flatTree h, spans, List.forall₂_map_left_iff, List.forall₂_map_right_iff,
    List.forall₂_same]
  intro p hp
  exact Lexeme.toNodeAt_standsAt (List.mem_of_mem_filter hp)

/-- A text that is not empty has one line more than line breaks. -/
theorem lineCount_of_pos {s : List Char} (h : 0 < s.length) :
    Text.lineCount s = Text.breakCount s + 1 := by
  rw [Text.lineCount, if_neg (by simpa using List.ne_nil_of_length_pos h)]

/-- No node ends below the last line. -/
theorem endLine_le_lineCount {s : List Char} {n : Node} {span : Span} (h : n.StandsAt s span) :
    n.endLine ≤ Text.lineCount s := by
  have hpos := h.nonempty
  have hwithin := h.within
  have hbreaks := Text.breakCount_take_le s span.stop
  rw [h.endLine, lineCount_of_pos (by omega)]
  omega

/-- The children with the pieces of the text that they are. -/
theorem zip_children_spans {path language : String} {s : List Char} {tree : SyntaxTree}
    (h : flatTree path language s = .ok tree) :
    tree.root.children.zip (spans s) =
      (placedLeaves s).map fun p => (p.2.toNodeAt s p.1, p.2.spanAt p.1) := by
  rw [children_of_flatTree h, spans, List.zip_map']

/-- Leaves stand at or behind the place where their lexemes start, each before the next. -/
theorem leavesFrom_pairwise {p : Position} {ls : List Lexeme} {nodes : List Node}
    (hls : ∀ l ∈ ls, l.text ≠ []) (h : leavesFrom [] p ls = .ok nodes) :
    (∀ n ∈ nodes, p = n.start ∨ p.before n.start = true) ∧
      nodes.Pairwise fun m n => m.start.before n.start = true := by
  induction ls generalizing p nodes with
  | nil =>
    obtain rfl := Except.ok.inj h
    exact ⟨fun _ hn => (List.not_mem_nil hn).elim, List.Pairwise.nil⟩
  | cons l rest ih =>
    obtain ⟨hl, hrest⟩ := List.forall_mem_cons.1 hls
    have hbefore := Position.before_advance p hl
    have hbehind : ∀ {nodes}, leavesFrom [] (p.advance l.text) rest = .ok nodes →
        ∀ n ∈ nodes, p.before n.start = true := by
      intro nodes hmore n hn
      rcases (ih hrest hmore).1 n hn with heq | hlt
      · exact heq ▸ hbefore
      · exact Position.before_trans hbefore hlt
    rcases leavesFrom_cons_eq_ok h with ⟨-, hmore⟩ | ⟨-, more, hmore, rfl⟩
    · exact ⟨fun n hn => .inr (hbehind hmore n hn), (ih hrest hmore).2⟩
    · refine ⟨List.forall_mem_cons.2 ⟨.inl rfl, fun n hn => .inr (hbehind hmore n hn)⟩, ?_⟩
      exact List.pairwise_cons.2 ⟨hbehind hmore, (ih hrest hmore).2⟩

/-- The children of a flat tree start one behind the other. -/
theorem children_pairwise {path language : String} {s : List Char} {tree : SyntaxTree}
    (h : flatTree path language s = .ok tree) :
    tree.root.children.Pairwise fun m n => m.start.before n.start = true :=
  (leavesFrom_pairwise (fun _ hl => (Lexeme.mem_lexemes hl).1) (flatTree_eq_ok h).1).2

/-- Nodes without children are walked as they come. -/
theorem walkFrom_leaves : ∀ {nodes : List Node}, (∀ n ∈ nodes, n.children = []) →
    Node.walkFrom [] nodes = nodes
  | [], _ => by rw [Node.walkFrom, List.reverse_nil]
  | n :: rest, h => by
    obtain ⟨hn, hrest⟩ := List.forall_mem_cons.1 h
    have hvisited : n.visited = [] := by rw [Node.visited, hn, ite_self]
    rw [Node.walkFrom_cons, hvisited, List.nil_append, walkFrom_leaves hrest]

/-- A walk of a flat tree is its root and then its children. -/
theorem walk_of_flatTree {path language : String} {s : List Char} {tree : SyntaxTree}
    (h : flatTree path language s = .ok tree) :
    tree.root.walk = tree.root :: tree.root.children := by
  have hleaves : ∀ n ∈ tree.root.children, n.children = [] := by
    rw [children_of_flatTree h]
    intro n hn
    obtain ⟨p, -, rfl⟩ := List.mem_map.1 hn
    rfl
  rw [Node.walk, Node.walkFrom_cons, Node.visited, if_neg (by simp [(flatTree_eq_ok h).2.1]),
    List.append_nil, walkFrom_leaves hleaves]

/-- **Sorting changes nothing:** a listing of the nodes of a flat tree is its children, as they
come, for which the property holds. -/
theorem listing_of_flatTree {path language : String} {s : List Char} {tree : SyntaxTree}
    (h : flatTree path language s = .ok tree) {p : Node → Bool} (hroot : p tree.root = false) :
    (SyntaxTree.inSourceOrder (tree.numbered.filter fun n => p n.1)).map Prod.fst =
      tree.root.children.filter p := by
  have hnumbered : tree.numbered.filter (fun n => p n.1) =
      (tree.root.children.zipIdx 1).filter fun n => p n.1 := by
    rw [SyntaxTree.numbered, walk_of_flatTree h, List.zipIdx_cons, List.filter_cons_of_neg]
    simp [hroot]
  have hsorted : ((tree.root.children.zipIdx 1).filter fun n => p n.1).Pairwise
      fun a b => a.1.start.notAfter b.1.start = true := by
    refine List.Pairwise.filter _ (List.Pairwise.of_map (S := fun m n : Node =>
      m.start.before n.start = true) Prod.fst (fun a b => Position.notAfter_of_before) ?_)
    rw [List.zipIdx_map_fst]
    exact children_pairwise h
  rw [hnumbered, SyntaxTree.inSourceOrder, List.mergeSort_of_pairwise hsorted]
  conv_rhs => rw [← List.zipIdx_map_fst 1 tree.root.children, List.filter_map]
  rfl

/-- The tokens of a flat tree are its children that are tokens. -/
theorem tokens_of_flatTree {path language : String} {s : List Char} {tree : SyntaxTree}
    (h : flatTree path language s = .ok tree) :
    tree.tokens = tree.root.children.filter Node.isToken :=
  listing_of_flatTree h (by simp [Node.isToken, (flatTree_eq_ok h).2.2.1])

/-- The comments of a flat tree are its children that are comments. -/
theorem comments_of_flatTree {path language : String} {s : List Char} {tree : SyntaxTree}
    (h : flatTree path language s = .ok tree) :
    tree.comments = tree.root.children.filter Node.isComment :=
  listing_of_flatTree h (flatTree_eq_ok h).2.1

/-- The comments of a flat tree stand at the spans of the comments of its text. -/
theorem commentSpans_of_flatTree {path language : String} {s : List Char} {tree : SyntaxTree}
    (h : flatTree path language s = .ok tree) :
    commentSpans tree s = ((placedLeaves s).filter fun p => p.2.kind.isComment).map
      fun p => (p.2.toNodeAt s p.1, p.2.spanAt p.1) := by
  rw [commentSpans, zip_children_spans h, List.filter_map]
  rfl

/-- A comment with its span is a placed lexeme of a comment's kind. -/
theorem mem_commentSpans_of_flatTree {path language : String} {s : List Char} {tree : SyntaxTree}
    (h : flatTree path language s = .ok tree) {c : Node × Span} :
    c ∈ commentSpans tree s ↔ ∃ p ∈ placedLeaves s, p.2.kind.isComment = true ∧
      c = (p.2.toNodeAt s p.1, p.2.spanAt p.1) := by
  rw [commentSpans_of_flatTree h, List.mem_map]
  constructor
  · rintro ⟨p, hp, rfl⟩
    obtain ⟨hleaf, hcomment⟩ := List.mem_filter.1 hp
    exact ⟨p, hleaf, hcomment, rfl⟩
  · rintro ⟨p, hp, hcomment, rfl⟩
    exact ⟨p, List.mem_filter.2 ⟨hp, hcomment⟩, rfl⟩

/-- Each comment has a span. -/
theorem map_fst_commentSpans {path language : String} {s : List Char} {tree : SyntaxTree}
    (h : flatTree path language s = .ok tree) :
    (commentSpans tree s).map Prod.fst = tree.comments := by
  rw [comments_of_flatTree h, commentSpans_of_flatTree h, children_of_flatTree h, List.filter_map,
    List.map_map]
  rfl

/-- **Positions are physical positions.**  In a text that has a flat tree, every child stands at the
piece of the text that it is: its first line is one more than the breaks before the piece, a CR LF
counted once, its column is the distance from the last of them, and its last line is one more than
the breaks before the end of the piece.  The places of the children increase strictly, no child ends
below the last line, and the tokens and the comments are the children in their order. -/
theorem flatTree_positions {path language : String} {s : List Char} {tree : SyntaxTree}
    (h : flatTree path language s = .ok tree) :
    List.Forall₂ (Node.StandsAt s) tree.root.children (spans s) ∧
      tree.root.children.Pairwise (fun m n => m.start.before n.start = true) ∧
      (∀ n ∈ tree.root.children, n.endLine ≤ tree.lineCount) ∧
      tree.tokens = tree.root.children.filter Node.isToken ∧
      tree.comments = tree.root.children.filter Node.isComment := by
  refine ⟨children_standsAt h, children_pairwise h, fun n hn => ?_, tokens_of_flatTree h,
    comments_of_flatTree h⟩
  rw [(flatTree_eq_ok h).2.2.2]
  rw [children_of_flatTree h] at hn
  obtain ⟨p, hp, rfl⟩ := List.mem_map.1 hn
  exact endLine_le_lineCount (Lexeme.toNodeAt_standsAt (List.mem_of_mem_filter hp))

/-- A comment over a CR LF, a string over an escaped CR and an escaped LF, and a comment that a lone
CR ends. -/
theorem flatTree_positions_mixed_breaks :
    let s := "/*\r\n*/ @\"\\\r\\\n\" // b\r".toList
    ∃ tree, flatTree "a.m" "objc" s = .ok tree ∧
      List.Forall₂ (Node.StandsAt s) tree.root.children (spans s) ∧
      tree.root.children.Pairwise (fun m n => m.start.before n.start = true) ∧
      (∀ n ∈ tree.root.children, n.endLine ≤ tree.lineCount) ∧
      tree.tokens = tree.root.children.filter Node.isToken ∧
      tree.comments = tree.root.children.filter Node.isComment :=
  have h : ∃ tree, flatTree "a.m" "objc"
      "/*\r\n*/ @\"\\\r\\\n\" // b\r".toList = .ok tree := ⟨_, by cbv⟩
  h.imp fun _ htree => ⟨htree, flatTree_positions htree⟩

end Syntax
end LineMetrics
