import LineMetrics.Proofs.Lexeme.Shape

/-!
# Comments and literals by an automaton

Whether a character is inside a comment can be told in one pass that knows four modes
(specification, section 2):

| mode | entered | left |
| --- | --- | --- |
| code | at the beginning | at an opener |
| line comment | by `//` | before a break |
| block comment | by `/*` | behind the first `*/` after the opener |
| literal | by its quote | behind the next quote that no backslash escapes |

A literal that meets a break or the end of the text, a character literal that closes at once, and a
block comment that meets the end of the text are errors at their openers.  `modes` gives the mode
each character is read in.

Lexemes are runs of the automaton from code to code: `Shape.reads` for those that are closed,
`Shape.fails` for the unclosed ones.  Messages are the exception, since their text is free.
-/

namespace LineMetrics
namespace Lexeme

/-- The two kinds of literals. -/
inductive Quote
  | string
  | character
  deriving Repr, DecidableEq

/-- The character that opens and closes the literal. -/
def Quote.mark : Quote → Char
  | string => '"'
  | character => '\x27'

/-- The literal's opener. -/
def Quote.opener : Quote → Opener
  | string => .string
  | character => .character

/-- What a character is read inside of; all but code know the offset of the opener. -/
inductive Mode
  | code
  | line (opened : Nat)
  | block (opened : Nat)
  | literal (quote : Quote) (opened : Nat)
  deriving Repr, DecidableEq

/-- The offset of the comment that the mode is in, if it is in one. -/
def Mode.comment? : Mode → Option Nat
  | line opened | block opened => some opened
  | code | literal .. => none

/-- The modes in which the characters of a text are read, the first of them at offset `i`, or the
first opener in error with its offset. -/
def modesFrom : Mode → Nat → List Char → Except (Opener × Nat) (List Mode)
  | .code, _, [] => .ok []
  | .code, i, '/' :: '/' :: rest =>
    (modesFrom (.line i) (i + 2) rest).map ([.line i, .line i] ++ ·)
  | .code, i, '/' :: '*' :: rest =>
    (modesFrom (.block i) (i + 2) rest).map ([.block i, .block i] ++ ·)
  | .code, i, '"' :: rest =>
    (modesFrom (.literal .string i) (i + 1) rest).map ([.literal .string i] ++ ·)
  | .code, i, '\x27' :: rest =>
    if rest.head? = some '\x27' then .error (.character, i)
    else (modesFrom (.literal .character i) (i + 1) rest).map ([.literal .character i] ++ ·)
  | .code, i, _ :: rest => (modesFrom .code (i + 1) rest).map ([.code] ++ ·)
  | .line _, _, [] => .ok []
  | .line o, i, c :: rest =>
    if Text.isBreak c then (modesFrom .code (i + 1) rest).map ([.code] ++ ·)
    else (modesFrom (.line o) (i + 1) rest).map ([.line o] ++ ·)
  | .block o, _, [] => .error (.blockComment, o)
  | .block o, i, '*' :: '/' :: rest =>
    (modesFrom .code (i + 2) rest).map ([.block o, .block o] ++ ·)
  | .block o, i, _ :: rest => (modesFrom (.block o) (i + 1) rest).map ([.block o] ++ ·)
  | .literal q o, _, [] => .error (q.opener, o)
  | .literal q o, i, '\\' :: _ :: rest =>
    (modesFrom (.literal q o) (i + 2) rest).map ([.literal q o, .literal q o] ++ ·)
  | .literal q o, i, c :: rest =>
    if c = q.mark then (modesFrom .code (i + 1) rest).map ([.literal q o] ++ ·)
    else if Text.isBreak c then .error (q.opener, o)
    else (modesFrom (.literal q o) (i + 1) rest).map ([.literal q o] ++ ·)

/-- A line comment is left before a break and goes on with any other character. -/
theorem modesFrom_line_cons (o i : Nat) (c : Char) (rest : List Char) :
    modesFrom (.line o) i (c :: rest) =
      if Text.isBreak c then (modesFrom .code (i + 1) rest).map ([.code] ++ ·)
      else (modesFrom (.line o) (i + 1) rest).map ([.line o] ++ ·) := rfl

/-- A literal is left behind its quote, cannot go on with a break, and goes on with any other
character but a backslash. -/
theorem modesFrom_literal_cons (q : Quote) (o i : Nat) {c : Char} (h : c ≠ '\\')
    (rest : List Char) :
    modesFrom (.literal q o) i (c :: rest) =
      if c = q.mark then (modesFrom .code (i + 1) rest).map ([.literal q o] ++ ·)
      else if Text.isBreak c then .error (q.opener, o)
      else (modesFrom (.literal q o) (i + 1) rest).map ([.literal q o] ++ ·) := by
  rw [modesFrom]
  rintro d tail rfl
  exact absurd rfl h

/-- An apostrophe in code opens a literal, unless another one follows it. -/
theorem modesFrom_apostrophe (i : Nat) (rest : List Char) :
    modesFrom .code i ('\x27' :: rest) =
      if rest.head? = some '\x27' then .error (.character, i)
      else (modesFrom (.literal .character i) (i + 1) rest).map ([.literal .character i] ++ ·) :=
  rfl

/-- The modes of a whole text. -/
def modes (s : List Char) : Except (Opener × Nat) (List Mode) := modesFrom .code 0 s

/-- The automaton reads `text` at offset `i`, the characters in the modes `read`, and goes on in
mode `next` with what follows. -/
def Reads (mode : Mode) (i : Nat) (text rest : List Char) (read : List Mode) (next : Mode) : Prop :=
  modesFrom mode i (text ++ rest) = (modesFrom next (i + text.length) rest).map (read ++ ·)

/-- Modes put in front one after the other are put in front together. -/
theorem map_map_append {e : Except (Opener × Nat) (List Mode)} (xs ys : List Mode) :
    (e.map (ys ++ ·)).map (xs ++ ·) = e.map (xs ++ ys ++ ·) := by
  cases e <;> simp [Except.map]

namespace Reads

/-- Nothing is read without a change of mode. -/
theorem nil (mode : Mode) (i : Nat) (rest : List Char) : Reads mode i [] rest [] mode := by
  unfold Reads
  rw [List.nil_append, List.length_nil, Nat.add_zero]
  cases modesFrom mode i rest <;> rfl

/-- Readings follow one another. -/
theorem append {mode middle next : Mode} {i : Nat} {s t rest : List Char} {read more : List Mode}
    (hs : Reads mode i s (t ++ rest) read middle)
    (ht : Reads middle (i + s.length) t rest more next) :
    Reads mode i (s ++ t) rest (read ++ more) next := by
  unfold Reads at *
  rw [List.append_assoc, hs, ht, map_map_append, List.length_append, Nat.add_assoc]

/-- A text stays in its mode if each character does. -/
theorem all {mode : Mode} {s rest : List Char}
    (h : ∀ c before after, s = before ++ c :: after →
      ∀ i, Reads mode i [c] (after ++ rest) [mode] mode)
    (i : Nat) : Reads mode i s rest (List.replicate s.length mode) mode := by
  induction s generalizing i with
  | nil => exact nil mode i rest
  | cons c s ih =>
    have hfirst : Reads mode i [c] (s ++ rest) [mode] mode := h c [] s rfl i
    refine hfirst.append (ih (fun d before after hs => h d (c :: before) after (hs ▸ rfl)) _)

end Reads

/-! ### One mode at a time -/

/-- A character of code that opens nothing is read as code. -/
theorem reads_code_char {c : Char} {rest : List Char} (hstring : c ≠ '"') (hcharacter : c ≠ '\x27')
    (hslash : c = '/' → rest.head? ≠ some '/' ∧ rest.head? ≠ some '*') (i : Nat) :
    Reads .code i [c] rest [.code] .code := by
  unfold Reads
  rw [List.singleton_append, modesFrom]
  · rfl
  · rintro tail rfl rfl
    exact (hslash rfl).1 rfl
  · rintro tail rfl rfl
    exact (hslash rfl).2 rfl
  · exact hstring
  · exact hcharacter

/-- Characters that open nothing are read as code. -/
theorem reads_code {text : List Char} (h : ∀ c ∈ text, c ∉ ['/', '"', '\x27']) (i : Nat)
    (rest : List Char) : Reads .code i text rest (List.replicate text.length .code) .code := by
  refine .all (fun c before after htext i => ?_) i
  have hc := h c (htext ▸ List.mem_append_right _ List.mem_cons_self)
  simp only [List.mem_cons, List.not_mem_nil, or_false, not_or] at hc
  exact reads_code_char hc.2.1 hc.2.2 (fun hslash => absurd hslash hc.1) i

/-- No plain character opens anything. -/
theorem not_mem_openers_of_isPlain {c : Char} (h : isPlain c = true) : c ∉ ['/', '"', '\x27'] :=
  fun hc => isPlain_iff.1 h (List.mem_cons_of_mem _ (List.mem_cons_of_mem _ hc))

/-- The body of a line comment is read inside of the comment. -/
theorem reads_line {body : List Char} (h : ∀ c ∈ body, Text.isBreak c = false) (o i : Nat)
    (rest : List Char) :
    Reads (.line o) i body rest (List.replicate body.length (.line o)) (.line o) := by
  refine .all (fun c before after hbody i => ?_) i
  have hc := h c (hbody ▸ List.mem_append_right _ List.mem_cons_self)
  unfold Reads
  rw [List.singleton_append, modesFrom_line_cons, if_neg (by simp [hc])]
  rfl

/-- A line comment is left before the break that ends it. -/
theorem modesFrom_line_end {rest : List Char} (h : ∀ c ∈ rest.head?, Text.isBreak c = true)
    (o i : Nat) : modesFrom (.line o) i rest = modesFrom .code i rest := by
  cases rest with
  | nil => rfl
  | cons c rest =>
    have hbreak := h c rfl
    have hcode : Reads .code i [c] rest [.code] .code :=
      reads_code_char (by rintro rfl; exact nomatch hbreak) (by rintro rfl; exact nomatch hbreak)
        (by rintro rfl; exact nomatch hbreak) i
    refine Eq.trans ?_ hcode.symm
    rw [modesFrom_line_cons, if_pos hbreak]
    rfl

/-- A character of a block comment at which the comment does not end is read inside of it. -/
theorem reads_block_char {c : Char} {rest : List Char} (h : ¬blockEnd <+: c :: rest) (o i : Nat) :
    Reads (.block o) i [c] rest [.block o] (.block o) := by
  unfold Reads
  rw [List.singleton_append, modesFrom]
  · rfl
  · rintro tail rfl rfl
    exact h ⟨tail, rfl⟩

/-- A block comment goes on to its first end. -/
theorem reads_block {body : List Char} (h : ¬blockEnd <:+: body) (o i : Nat) (rest : List Char) :
    Reads (.block o) i (body ++ blockEnd) rest (List.replicate (body.length + 2) (.block o))
      .code := by
  have hbody : Reads (.block o) i body (blockEnd ++ rest)
      (List.replicate body.length (.block o)) (.block o) := by
    refine .all (fun c before after hbody i => reads_block_char ?_ o i) i
    rintro ⟨tail, htail⟩
    obtain ⟨rfl, hafter⟩ := List.cons.inj htail
    -- The end would lie within the body, or start with its last character and go on with a `*`.
    cases after with
    | nil => exact nomatch hafter
    | cons d after =>
      obtain ⟨rfl, -⟩ := List.cons.inj hafter
      exact h ⟨before, after, by rw [hbody]; simp [blockEnd]⟩
  have hend : Reads (.block o) (i + body.length) blockEnd rest [.block o, .block o] .code := rfl
  rw [show List.replicate (body.length + 2) (Mode.block o) =
    List.replicate body.length (.block o) ++ [.block o, .block o] from List.replicate_add ..]
  exact hbody.append hend

/-- A block comment whose end does not come is an error at its opener. -/
theorem modesFrom_block_open {rest : List Char} (h : ¬blockEnd <:+: rest) (o i : Nat) :
    modesFrom (.block o) i rest = .error (.blockComment, o) := by
  have hrest : Reads (.block o) i rest [] (List.replicate rest.length (.block o)) (.block o) := by
    refine .all (fun c before after hrest i => reads_block_char ?_ o i) i
    rintro ⟨tail, htail⟩
    exact h ⟨before, tail, by rw [hrest, List.append_assoc, htail, List.append_nil]⟩
  unfold Reads at hrest
  rw [List.append_nil] at hrest
  rw [hrest]
  rfl

/-- The body of a literal is read inside of the literal. -/
theorem reads_literal {q : Quote} {body : List Char} (h : Quoted q.mark body) (o i : Nat)
    (rest : List Char) :
    Reads (.literal q o) i body rest (List.replicate body.length (.literal q o))
      (.literal q o) := by
  induction h generalizing i with
  | nil => exact .nil _ i rest
  | @escape c body _ ih =>
    have hfirst : Reads (.literal q o) i ['\\', c] (body ++ rest)
        [.literal q o, .literal q o] (.literal q o) := rfl
    exact hfirst.append (ih _)
  | @plain c body hslash hquote hbreak _ ih =>
    have hfirst : Reads (.literal q o) i [c] (body ++ rest) [.literal q o] (.literal q o) := by
      unfold Reads
      rw [List.singleton_append, modesFrom_literal_cons q o i hslash, if_neg hquote,
        if_neg (by simp [hbreak])]
      rfl
    exact hfirst.append (ih _)

/-- A literal is left behind its closing quote. -/
theorem reads_literal_end (q : Quote) (o i : Nat) (rest : List Char) :
    Reads (.literal q o) i [q.mark] rest [.literal q o] .code := by
  unfold Reads
  cases q <;> rfl

/-- A literal that is never closed is an error at its opener. -/
theorem modesFrom_literal_open {q : Quote} {s : List Char} (h : OpensQuoted q.mark s) (o i : Nat) :
    modesFrom (.literal q o) i s = .error (q.opener, o) := by
  obtain ⟨body, rest, rfl, hbody, hends, hhead⟩ := h
  have hread := reads_literal hbody o i rest
  unfold Reads at hread
  suffices hrest : ∀ j, modesFrom (.literal q o) j rest = .error (q.opener, o) by
    rw [hread, hrest]
    rfl
  intro j
  obtain rfl | rfl | ⟨c, tail, rfl, hc⟩ := hends
  · rfl
  · cases q <;> rfl
  · have hquote : c ≠ q.mark := fun hq => hhead (congrArg some hq)
    have hbreak : Text.isBreak c = true := hc.resolve_left hquote
    have hescape : c ≠ '\\' := by
      rintro rfl
      exact nomatch hbreak
    rw [modesFrom_literal_cons q o j hescape, if_neg hquote, if_pos hbreak]

/-! ### Lexeme by lexeme -/

/-- Whether a `#` stands at the front of the text and, behind it and blanks, a message word. -/
def startsMessage : List Char → Bool
  | '#' :: rest =>
    messageWords.any fun word => word.isPrefixOf (rest.dropWhile fun c => c = ' ' || c = '\t')
  | _ => false

/-- Whether such a place is anywhere in the text. -/
def mentionsMessage (s : List Char) : Bool := s.tails.any startsMessage

/-- The end of a text mentions no message if the text mentions none. -/
theorem mentionsMessage_of_suffix {s t : List Char} (hsuffix : t <:+ s)
    (h : mentionsMessage s = false) : mentionsMessage t = false := by
  rw [mentionsMessage, List.any_eq_false] at *
  intro u hu
  exact h u (List.mem_tails _ _ |>.2 ((List.mem_tails _ _ |>.1 hu).trans hsuffix))

/-- A message needs such a place. -/
theorem Shape.mentionsMessage {text rest : List Char} (h : Shape .message text rest) :
    mentionsMessage (text ++ rest) = true := by
  cases h with
  | word hkind _ => exact absurd hkind (by decide)
  | @message gap word body _ hgap hword =>
    have hwords : (messageWords.all fun word =>
        word.head?.any fun c => !(c = ' ' || c = '\t')) = true := by decide +kernel
    have hhead := List.all_eq_true.1 hwords word hword
    have hdrop : ((gap ++ (word ++ body)) ++ rest).dropWhile (fun c => c = ' ' || c = '\t') =
        word ++ (body ++ rest) := by
      rw [List.append_assoc, List.append_assoc,
        List.dropWhile_append_of_pos fun c hc => by simpa using hgap c hc]
      cases word with
      | nil => exact nomatch hhead
      | cons c tail => rw [List.cons_append, List.dropWhile_cons_of_neg (by simpa using hhead)]
    refine List.any_eq_true.2 ⟨_, (List.mem_tails _ _).2 (List.suffix_refl _), ?_⟩
    rw [List.cons_append, startsMessage, hdrop]
    exact List.any_eq_true.2 ⟨word, hword, List.isPrefixOf_iff_prefix.2 (List.prefix_append _ _)⟩

/-- A quote in code opens its literal, if it is not the first of two apostrophes. -/
theorem reads_quote (q : Quote) {rest : List Char} (h : q = .character → rest.head? ≠ some '\x27')
    (i : Nat) : Reads .code i [q.mark] rest [.literal q i] (.literal q i) := by
  cases q with
  | string => rfl
  | character =>
    unfold Reads
    rw [Quote.mark, List.singleton_append, modesFrom_apostrophe, if_neg (h rfl)]
    rfl

/-- A closed literal is read in its mode, its quotes included. -/
theorem reads_quoted (q : Quote) {body : List Char} (hbody : Quoted q.mark body)
    (hempty : q = .character → body ≠ []) (i : Nat) (rest : List Char) :
    Reads .code i (q.mark :: (body ++ [q.mark])) rest
      (List.replicate (body.length + 2) (.literal q i)) .code := by
  have hhead : q = .character → (body ++ [q.mark] ++ rest).head? ≠ some '\x27' := by
    rintro rfl
    cases hbody with
    | nil => exact absurd rfl (hempty rfl)
    | escape => simp
    | plain _ hquote => simpa [Quote.mark] using hquote
  have hread := (reads_quote q hhead i).append
    ((reads_literal hbody i (i + 1) ([q.mark] ++ rest)).append (reads_literal_end q i _ rest))
  rw [List.replicate_succ, List.replicate_succ', ← List.singleton_append]
  exact hread

/-- **A closed lexeme is a run of the automaton** from code to code.  It is read inside of a comment
if it is one, and then of the comment that it opens. -/
theorem Shape.reads {kind : Kind} {text rest : List Char} (h : Shape kind text rest)
    (hclosed : ∀ opener, kind ≠ .unclosed opener) (hmessage : kind ≠ .message) (i : Nat) :
    ∃ read, Reads .code i text rest read .code ∧ read.length = text.length ∧
      ∀ m ∈ read, m.comment? = if kind.isComment then some i else none := by
  -- Most kinds hold no character that opens anything, and all of them are read as code.
  have hcode : (∀ c ∈ text, c ∉ ['/', '"', '\x27']) → kind.isComment = false →
      ∃ read, Reads .code i text rest read .code ∧ read.length = text.length ∧
        ∀ m ∈ read, m.comment? = if kind.isComment then some i else none := by
    intro htext hkind
    refine ⟨_, reads_code htext i rest, List.length_replicate, fun m hm => ?_⟩
    rw [List.eq_of_mem_replicate hm, hkind]
    rfl
  have hone : ∀ {mode : Mode} {n : Nat}, ∀ m ∈ [mode, mode] ++ List.replicate n mode, m = mode := by
    intro mode n m hm
    rcases List.mem_append.1 hm with hm | hm
    · simpa using hm
    · exact List.eq_of_mem_replicate hm
  cases h with
  | @lineComment body _ hbody hrest =>
    -- The comment is left before its break, and that is already in the text behind it.
    have hopen : Reads .code i ['/', '/'] (body ++ rest) [.line i, .line i] (.line i) := rfl
    have hread := hopen.append (reads_line hbody i _ rest)
    unfold Reads at hread
    rw [modesFrom_line_end hrest] at hread
    refine ⟨_, hread, by simp, fun m hm => ?_⟩
    rw [hone m hm]
    rfl
  | @blockComment body _ hbody =>
    have hopen : Reads .code i ['/', '*'] (body ++ blockEnd ++ rest) [.block i, .block i]
      (.block i) := rfl
    refine ⟨_, hopen.append (reads_block hbody i _ rest), by simp [blockEnd], fun m hm => ?_⟩
    rw [hone m hm]
    rfl
  | @string sigil body _ hsigil hbody =>
    -- The sigil is read as code, and its `@` is no opener.
    have hopen : ∀ c ∈ sigil, c ∉ ['/', '"', '\x27'] := by
      rcases hsigil with rfl | rfl <;> simp
    have hread := (reads_code hopen i _).append
      (reads_quoted .string hbody (by rintro ⟨⟩) (i + sigil.length) rest)
    refine ⟨_, hread, by simp, fun m hm => ?_⟩
    rcases List.mem_append.1 hm with hm | hm <;> rw [List.eq_of_mem_replicate hm] <;> rfl
  | @character body _ hne hbody =>
    refine ⟨_, reads_quoted .character hbody (fun _ => hne) i rest, by simp, fun m hm => ?_⟩
    rw [List.eq_of_mem_replicate hm]
    rfl
  | message => exact absurd rfl hmessage
  | word hkind hplain =>
    exact hcode (fun c hc => not_mem_openers_of_isPlain (hplain c hc))
      (isComment_of_mem_wordKinds hkind)
  | newline hbreak =>
    refine hcode (fun c hc => ?_) rfl
    rcases hbreak with rfl | rfl | ⟨rfl, -⟩ <;> revert c <;> simp
  | space hspace =>
    refine hcode (fun c hc hopener => ?_) rfl
    have hnone : (['/', '"', '\x27'].any isInlineSpace) = false := by decide
    exact List.any_eq_false.1 hnone c hopener (hspace c hc)
  | @punctuation c _ hc _ =>
    refine ⟨[.code], ?_, rfl, by simp [Mode.comment?, Kind.isComment]⟩
    rcases hc with hplain | ⟨rfl, hslash⟩
    · have hplain : ∀ d ∈ [c], d ∉ ['/', '"', '\x27'] := by
        simpa using not_mem_openers_of_isPlain hplain
      exact reads_code hplain i rest
    · exact reads_code_char (by decide) (by decide) (fun _ => hslash) i
  | openBlock => exact absurd rfl (hclosed _)
  | openString => exact absurd rfl (hclosed _)
  | openCharacter => exact absurd rfl (hclosed _)

/-- **An unclosed opener is an error of the automaton** at the opener. -/
theorem Shape.fails {opener : Opener} {text rest : List Char}
    (h : Shape (.unclosed opener) text rest) (i : Nat) :
    ∃ sigil, (∀ c ∈ sigil, Text.isBreak c = false) ∧ sigil <+: text ∧
      modesFrom .code i (text ++ rest) = .error (opener, i + sigil.length) := by
  cases h with
  | word hkind _ => exact absurd hkind (by cases opener <;> decide)
  | openBlock hopen =>
    refine ⟨[], by simp, List.nil_prefix, ?_⟩
    have hread : Reads .code i ['/', '*'] rest [.block i, .block i] (.block i) := rfl
    unfold Reads at hread
    rw [hread, modesFrom_block_open hopen]
    rfl
  | @openString sigil _ hsigil hopen =>
    have hcode : ∀ c ∈ sigil, c ∉ ['/', '"', '\x27'] := by
      rcases hsigil with rfl | rfl <;> simp
    have hbreak : ∀ c ∈ sigil, Text.isBreak c = false := by
      rcases hsigil with rfl | rfl
      · simp
      · simp [Text.isBreak]
    refine ⟨sigil, hbreak, List.prefix_append _ _, ?_⟩
    have hquote : Reads .code (i + sigil.length) [Quote.string.mark] rest _ _ :=
      reads_quote .string (by rintro ⟨⟩) _
    have hread := (reads_code hcode i _).append hquote
    unfold Reads at hread
    rw [show [Quote.string.mark] = ['"'] from rfl] at hread
    rw [hread, modesFrom_literal_open (q := .string) hopen]
    rfl
  | openCharacter hopen =>
    refine ⟨[], by simp, List.nil_prefix, ?_⟩
    rw [List.singleton_append, modesFrom_apostrophe]
    by_cases hempty : rest.head? = some '\x27'
    · rw [if_pos hempty]
      rfl
    · rw [if_neg hempty, modesFrom_literal_open (q := .character) (hopen.resolve_left hempty)]
      rfl

end Lexeme
end LineMetrics
