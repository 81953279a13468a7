import LineMetrics.Proofs.Lexeme.Automaton
import LineMetrics.Proofs.Syntax.Placement

/-!
# Comments of the flat tree

Where comments are, and which opener is unclosed, is what the automaton of `Lexeme.modes` says, as
long as no message is mentioned.  The lexemes of a text are runs of the automaton one behind the
other, up to the first unclosed one (`agree_lexemes`), so it stops at the same opener or reads each
character inside of the comment that its leaf is: `parse_agrees_modes`.
-/

namespace LineMetrics
namespace Lexeme

/-- For each character of placed lexemes, the offset of the comment that it belongs to. -/
def commentOffsets (ps : List (Nat × Lexeme)) : List (Option Nat) :=
  ps.flatMap fun p => List.replicate p.2.text.length (if p.2.kind.isComment then some p.1 else none)

/-- A character belongs to the comment whose piece of the text holds it. -/
theorem getElem?_commentOffsets {ls : List Lexeme} {first i o : Nat} :
    (commentOffsets (placedFrom first ls))[i]? = some (some o) ↔
      ∃ l, (o, l) ∈ placedFrom first ls ∧ l.kind.isComment = true ∧
        (l.spanAt o).Holds (first + i) := by
  induction ls generalizing first i with
  | nil => simp [commentOffsets, placedFrom]
  | cons l rest ih =>
    have hcons : commentOffsets (placedFrom first (l :: rest)) =
        List.replicate l.text.length (if l.kind.isComment then some first else none) ++
          commentOffsets (placedFrom (first + l.text.length) rest) := rfl
    rw [hcons]
    -- The first lexeme holds the characters before its end, and no other one does.
    rcases Nat.lt_or_ge i l.text.length with hlt | hge
    · rw [List.getElem?_append_left (by simpa using hlt), List.getElem?_replicate, if_pos hlt,
        Option.some.injEq]
      constructor
      · intro h
        by_cases hcomment : l.kind.isComment = true
        · rw [if_pos hcomment] at h
          obtain rfl := Option.some.inj h
          exact ⟨l, List.mem_cons_self, hcomment, by simp only [spanAt, Span.Holds]; omega⟩
        · rw [if_neg hcomment] at h
          cases h
      · rintro ⟨m, hm, hcomment, hholds⟩
        rcases List.mem_cons.1 hm with heq | hm
        · obtain ⟨rfl, rfl⟩ := Prod.mk.inj heq
          rw [if_pos hcomment]
        · have hle := le_of_mem_placedFrom hm
          simp only [spanAt, Span.Holds] at hle hholds
          omega
    · have hoffset : first + l.text.length + (i - l.text.length) = first + i := by omega
      rw [List.getElem?_append_right (by simpa using hge), List.length_replicate, ih, hoffset]
      constructor
      · rintro ⟨m, hm, h⟩
        exact ⟨m, List.mem_cons_of_mem _ hm, h⟩
      · rintro ⟨m, hm, hcomment, hholds⟩
        rcases List.mem_cons.1 hm with heq | hm
        · obtain ⟨rfl, rfl⟩ := Prod.mk.inj heq
          simp only [spanAt, Span.Holds] at hholds
          omega
        · exact ⟨m, hm, hcomment, hholds⟩

/-- There is one mark for each character. -/
theorem length_commentOffsets (ls : List Lexeme) (first : Nat) :
    (commentOffsets (placedFrom first ls)).length = (ls.flatMap Lexeme.text).length := by
  induction ls generalizing first with
  | nil => rfl
  | cons l rest ih =>
    have hrest := ih (first + l.text.length)
    simp only [commentOffsets, placedFrom, List.flatMap_cons, List.length_append,
      List.length_replicate] at hrest ⊢
    omega

/-- Lexemes at one offset are one lexeme. -/
theorem placed_inj {s : List Char} {o : Nat} {l m : Lexeme} (hl : (o, l) ∈ placed s)
    (hm : (o, m) ∈ placed s) : l = m := by
  have hfirst : ∀ {l}, (o, l) ∈ placed s → (l.spanAt o).Holds o := by
    intro l hl
    obtain ⟨before, after, -, -, htext⟩ := exists_of_mem_placed hl
    have hpos := List.length_pos_of_ne_nil htext
    simp only [Span.Holds, spanAt]
    omega
  exact (Prod.mk.inj (eq_of_holds hl hm (hfirst hl) (hfirst hm))).2

end Lexeme

namespace Syntax

open Lexeme (placedFrom placed placedLeaves commentOffsets modes modesFrom Mode Shape)

/-- The automaton reads the character at `i` inside of the comment that opens at `o`. -/
def InComment (ms : List Mode) (o i : Nat) : Prop := ∃ m, ms[i]? = some m ∧ m.comment? = some o

/-- The lexemes of `rest`, which follow `before`, and the automaton tell the same: the first
unclosed opener and its line, or the comment that each character belongs to. -/
structure Agree (before rest : List Char) (ls : List Lexeme) : Prop where
  error : ∀ u, leavesFrom [] (Position.start.advance before) ls = .error u →
    ∃ o, modesFrom .code before.length rest = .error (u.opener, o) ∧
      u.line = 1 + Text.breakCount ((before ++ rest).take o)
  ok : ∀ nodes, leavesFrom [] (Position.start.advance before) ls = .ok nodes →
    ∃ ms, modesFrom .code before.length rest = .ok ms ∧
      ms.map Mode.comment? = commentOffsets (placedFrom before.length ls)

/-- An unclosed lexeme is where both stop. -/
theorem Agree.unclosed {before rest : List Char} {l : Lexeme} {ls : List Lexeme} {opener : Opener}
    (hkind : l.kind = .unclosed opener) (hshape : Shape l.kind l.text rest) :
    Agree before (l.text ++ rest) (l :: ls) := by
  obtain ⟨sigil, hbreak, ⟨after, htext⟩, hfails⟩ := (hkind ▸ hshape).fails before.length
  have hleaves := leavesFrom_unclosed hkind (Position.start.advance before) ls
  refine ⟨fun u hu => ?_, fun nodes h => nomatch hleaves.symm.trans h⟩
  obtain rfl := Except.error.inj (hleaves.symm.trans hu)
  refine ⟨_, hfails, ?_⟩
  have hsplit : ¬Text.SplitsBreak before sigil := by
    rintro ⟨-, hlf⟩
    exact nomatch hbreak '\n' (List.mem_of_mem_head? hlf)
  have htake : (before ++ (l.text ++ rest)).take (before.length + sigil.length) =
      before ++ sigil := by
    rw [← htext, ← List.append_assoc, ← List.append_assoc, List.append_assoc]
    exact List.take_left' List.length_append
  rw [htake, Text.breakCount_append hsplit, Text.breakCount_eq_zero hbreak, Position.advance_start]
  rfl

/-- Over a closed lexeme that is no message both go on. -/
theorem Agree.cons {before rest : List Char} {l : Lexeme} {ls : List Lexeme}
    (hclosed : ∀ opener, l.kind ≠ .unclosed opener) (hmessage : l.kind ≠ .message)
    (hshape : Shape l.kind l.text rest) (hseam : ¬Text.SplitsBreak before l.text)
    (h : Agree (before ++ l.text) rest ls) : Agree before (l.text ++ rest) (l :: ls) := by
  obtain ⟨read, hread, hlength, hcomment⟩ := hshape.reads hclosed hmessage before.length
  have hleaves := leavesFrom_cons hclosed (Position.start.advance before) ls
  rw [Position.advance_append .start hseam] at hleaves
  have hmodes : modesFrom .code before.length (l.text ++ rest) =
      (modesFrom .code (before ++ l.text).length rest).map (read ++ ·) := by
    rw [List.length_append]
    exact hread
  -- Both sides take the first lexeme whole and go on with the same text behind it.
  constructor
  · intro u hu
    rw [hleaves] at hu
    cases hrest : leavesFrom [] (Position.start.advance (before ++ l.text)) ls with
    | ok nodes => rw [hrest] at hu; exact nomatch hu
    | error u' =>
      rw [hrest] at hu
      obtain rfl := Except.error.inj hu
      obtain ⟨o, ho, hline⟩ := h.error _ hrest
      refine ⟨o, ?_, by rwa [List.append_assoc] at hline⟩
      rw [hmodes, ho]
      rfl
  · intro nodes hnodes
    rw [hleaves] at hnodes
    cases hrest : leavesFrom [] (Position.start.advance (before ++ l.text)) ls with
    | error u => rw [hrest] at hnodes; exact nomatch hnodes
    | ok more =>
      obtain ⟨ms, hms, hoffsets⟩ := h.ok _ hrest
      refine ⟨read ++ ms, by rw [hmodes, hms]; rfl, ?_⟩
      have hfirst : read.map Mode.comment? = List.replicate l.text.length
          (if l.kind.isComment then some before.length else none) := by
        rw [← hlength, ← List.length_map (f := Mode.comment?), List.eq_replicate_length]
        intro m hm
        obtain ⟨mode, hmode, rfl⟩ := List.mem_map.1 hm
        exact hcomment mode hmode
      rw [List.map_append, hfirst, hoffsets, List.length_append]
      rfl

/-- **Lexemes are runs of the automaton:** behind `before` it stops at the first unclosed lexeme,
or it reads each character as a part of its lexeme. -/
theorem agree_lexemes {rest : List Char} (hquiet : Lexeme.mentionsMessage rest = false)
    (before : List Char) (hseam : ¬Text.SplitsBreak before rest) :
    Agree before rest (Lexeme.lexemes rest) := by
  revert before hquiet
  refine Lexeme.lexemes_induction (P := fun rest ls => Lexeme.mentionsMessage rest = false →
    ∀ before, ¬Text.SplitsBreak before rest → Agree before rest ls) ?_ ?_ rest
  · intro _ before _
    refine ⟨fun u h => (nomatch h), fun nodes _ => ⟨[], rfl, rfl⟩⟩
  · intro l rest hne hshape ih hquiet before hseam
    have hmessage : l.kind ≠ .message := by
      intro hkind
      rw [hkind] at hshape
      exact nomatch hshape.mentionsMessage.symm.trans hquiet
    by_cases hopen : ∃ opener, l.kind = .unclosed opener
    · obtain ⟨opener, hkind⟩ := hopen
      exact .unclosed hkind hshape
    · refine .cons (fun opener hkind => hopen ⟨opener, hkind⟩) hmessage hshape
        (Text.not_splitsBreak_of_longer hseam) ?_
      exact ih (Lexeme.mentionsMessage_of_suffix (List.suffix_append _ _) hquiet) _
        (Text.not_splitsBreak_append hseam hshape.not_splitsBreak)

/-- What the automaton reads inside of a comment is the comment's piece of the text. -/
theorem inComment_iff {s : List Char} {ms : List Mode}
    (h : ms.map Mode.comment? = commentOffsets (placed s)) {o i : Nat} :
    InComment ms o i ↔ ∃ l, (o, l) ∈ placed s ∧ l.kind.isComment = true ∧ (l.spanAt o).Holds i := by
  have hoffset : (commentOffsets (placed s))[i]? = some (some o) ↔ _ :=
    Lexeme.getElem?_commentOffsets
  rw [Nat.zero_add] at hoffset
  rw [placed, ← hoffset, ← h, List.getElem?_map, Option.map_eq_some_iff]
  rfl

/-- A comment of the tree is a lexeme that is a comment, and it stands at the lexeme's piece of the
text. -/
theorem mem_zip_comment_iff {path language : String} {s : List Char} {tree : SyntaxTree}
    (h : flatTree path language s = .ok tree) {span : Span} :
    (∃ n, (n, span) ∈ tree.root.children.zip (spans s) ∧ n.isComment = true) ↔
      ∃ o l, (o, l) ∈ placed s ∧ l.kind.isComment = true ∧ l.spanAt o = span := by
  rw [zip_children_spans h]
  constructor
  · rintro ⟨n, hn, hcomment⟩
    obtain ⟨⟨o, l⟩, hl, heq⟩ := List.mem_map.1 hn
    obtain ⟨rfl, rfl⟩ := Prod.mk.inj heq
    exact ⟨o, l, List.mem_of_mem_filter hl, hcomment, rfl⟩
  · rintro ⟨o, l, hl, hcomment, rfl⟩
    have hgap : l.kind.isGap = false := by
      revert hcomment
      cases l.kind <;> simp [Lexeme.Kind.isComment, Lexeme.Kind.isGap]
    exact ⟨l.toNodeAt s o, List.mem_map.2 ⟨(o, l), List.mem_filter.2 ⟨hl, by simp [hgap]⟩, rfl⟩,
      hcomment⟩

section

variable {path language : String} {s : List Char} {tree : SyntaxTree} {ms : List Mode}

/-- A comment holds a character exactly if the automaton reads it inside of one. -/
theorem holds_comment_iff (h : flatTree path language s = .ok tree)
    (hoffsets : ms.map Mode.comment? = commentOffsets (placed s)) (i : Nat) :
    (∃ n span, (n, span) ∈ tree.root.children.zip (spans s) ∧ n.isComment = true ∧
      span.Holds i) ↔ ∃ o, InComment ms o i := by
  constructor
  · rintro ⟨n, span, hn, hcomment, hholds⟩
    obtain ⟨o, l, hl, hkind, rfl⟩ := (mem_zip_comment_iff h).1 ⟨n, hn, hcomment⟩
    exact ⟨o, (inComment_iff hoffsets).2 ⟨l, hl, hkind, hholds⟩⟩
  · rintro ⟨o, ho⟩
    obtain ⟨l, hl, hkind, hholds⟩ := (inComment_iff hoffsets).1 ho
    obtain ⟨n, hn, hcomment⟩ := (mem_zip_comment_iff h).2 ⟨o, l, hl, hkind, rfl⟩
    exact ⟨n, _, hn, hcomment, hholds⟩

/-- A comment holds what the automaton reads from its opener on. -/
theorem holds_iff_inComment (h : flatTree path language s = .ok tree)
    (hoffsets : ms.map Mode.comment? = commentOffsets (placed s)) {n : Node} {span : Span}
    (hn : (n, span) ∈ tree.root.children.zip (spans s)) (hcomment : n.isComment = true) (i : Nat) :
    span.Holds i ↔ InComment ms span.start i := by
  obtain ⟨o, l, hl, hkind, rfl⟩ := (mem_zip_comment_iff h).1 ⟨n, hn, hcomment⟩
  rw [inComment_iff hoffsets]
  constructor
  · intro hholds
    exact ⟨l, hl, hkind, hholds⟩
  · rintro ⟨m, hm, -, hholds⟩
    rwa [Lexeme.placed_inj hl hm]

end

/-- **Comments by lexemes and by the automaton are the same.**  Of a text that mentions no message,
the lexer refuses exactly what the automaton refuses, for the first unclosed opener and its line.
If it accepts the text, a character belongs to a comment exactly if the automaton reads it inside of
one, and each comment is all of what the automaton reads from one opener on. -/
theorem parse_agrees_modes (catalog : Catalog) (language : Language) (path : String) {s : List Char}
    (hquiet : Lexeme.mentionsMessage s = false) :
    let result := Parser.parse ⟨.lexer, language⟩ catalog path s
    ((∃ failure, result = .error failure) ↔ ∃ e, modes s = .error e) ∧
    (∀ opener o, modes s = .error (opener, o) →
      let line : Int := 1 + Text.breakCount (s.take o)
      result = .error (.parse path language.name s!"unterminated {opener.noun} at line {line}")) ∧
    (∀ tree, result = .ok tree → ∃ ms, modes s = .ok ms ∧ ms.length = s.length ∧
      (∀ i, (∃ n span, (n, span) ∈ tree.root.children.zip (spans s) ∧ n.isComment = true ∧
        span.Holds i) ↔ ∃ o, InComment ms o i) ∧
      ∀ n span, (n, span) ∈ tree.root.children.zip (spans s) → n.isComment = true →
        ∀ i, span.Holds i ↔ InComment ms span.start i) := by
  intro result
  have hagree : Agree [] s (Lexeme.lexemes s) :=
    agree_lexemes hquiet [] (Text.not_splitsBreak_nil s)
  cases hflat : flatTree path language.name s with
  | error u =>
    have hresult : result = .error (.parse path language.name u.reason) :=
      parse_of_fault hflat catalog
    obtain ⟨o, hmodes, hline⟩ := hagree.error u (leaves_of_fault hflat)
    refine ⟨⟨fun _ => ⟨_, hmodes⟩, fun _ => ⟨_, hresult⟩⟩, fun opener o' ho' => ?_,
      fun tree htree => (nomatch htree.symm.trans hresult)⟩
    obtain ⟨rfl, rfl⟩ := Prod.mk.inj (Except.error.inj (ho'.symm.trans hmodes))
    dsimp only
    rw [hresult, Unclosed.reason, hline]
    rfl
  | ok tree =>
    have hresult : result = .ok tree := parse_of_flatTree hflat catalog
    obtain ⟨ms, hmodes, hoffsets⟩ := hagree.ok _ (flatTree_eq_ok hflat).1
    refine ⟨⟨fun ⟨f, hf⟩ => (nomatch hf.symm.trans hresult),
      fun ⟨e, he⟩ => (nomatch he.symm.trans hmodes)⟩,
      fun opener o ho => (nomatch ho.symm.trans hmodes), fun tree' htree' => ?_⟩
    obtain rfl := Except.ok.inj (htree'.symm.trans hresult)
    refine ⟨ms, hmodes, ?_, fun i => holds_comment_iff hflat hoffsets i,
      fun n span hn hcomment i => holds_iff_inComment hflat hoffsets hn hcomment i⟩
    rw [← List.length_map (f := Mode.comment?), hoffsets, Lexeme.length_commentOffsets,
      Lexeme.lexemes_flatten]

/-- A block comment that `/*/` does not close and a comment opener in a string with an escaped quote
are read alike; the quote on the second line is unclosed, its backslash having nothing to escape. -/
theorem parse_agrees_modes_nested_openers :
    Lexeme.mentionsMessage "/*/ ' */\"//\\\"\"\n'\\".toList = false ∧
      modes "/*/ ' */\"//\\\"\"\n'\\".toList = .error (.character, 15) ∧
      Parser.parse ⟨.lexer, .objc⟩ .empty "a.m" "/*/ ' */\"//\\\"\"\n'\\".toList =
        .error (.parse "a.m" "objc" "unterminated character literal at line 2") ∧
      ∃ tree, Parser.parse ⟨.lexer, .objc⟩ .empty "a.m" "/*/ ' */\"//\\\"\"".toList = .ok tree ∧
        ∃ ms, modes "/*/ ' */\"//\\\"\"".toList = .ok ms ∧
          ∀ i, (∃ n span, (n, span) ∈ tree.root.children.zip
              (spans "/*/ ' */\"//\\\"\"".toList) ∧
            n.isComment = true ∧ span.Holds i) ↔ ∃ o, InComment ms o i := by
  have hmodes : modes "/*/ ' */\"//\\\"\"\n'\\".toList = .error (.character, 15) := by
    decide +kernel
  have hrefused := (parse_agrees_modes .empty .objc "a.m" (by decide +kernel)).2.1 _ _ hmodes
  have hline : Text.breakCount ("/*/ ' */\"//\\\"\"\n'\\".toList.take 15) = 1 := by decide +kernel
  dsimp only at hrefused
  rw [hline] at hrefused
  have haccepted : ∃ tree, Parser.parse ⟨.lexer, .objc⟩ .empty "a.m"
      "/*/ ' */\"//\\\"\"".toList = .ok tree := ⟨_, by cbv⟩
  refine ⟨by decide +kernel, hmodes, hrefused, ?_⟩
  obtain ⟨tree, htree⟩ := haccepted
  obtain ⟨ms, hms, -, hiff, -⟩ :=
    (parse_agrees_modes .empty .objc "a.m" (by decide +kernel)).2.2 tree htree
  exact ⟨tree, htree, ms, hms, hiff⟩

end Syntax
end LineMetrics
