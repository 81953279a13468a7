import LineMetrics.Proofs.Syntax.Tiling
import LineMetrics.Proofs.Text.LineStart

/-!
# The shape of a lexeme

`Lexeme.cut` decides kind and length together.  `Shape kind text rest` says what can come of it: the
text that a lexeme of each kind has, and what the rest of the source behind it cannot start with,
because the lexeme would have gone on.  It holds of every cut, `shape_cut`, and so of every lexeme
of a source, `shape_lexemes`; what is proved about lexemes is proved case by case from there, and
`cut` is not opened again.
-/

namespace LineMetrics
namespace Lexeme

/-- What stands between the quotes of a literal: characters that end nothing, and a backslash with
any character. -/
inductive Quoted (quote : Char) : List Char → Prop
  | nil : Quoted quote []
  | escape {c : Char} {body : List Char} : Quoted quote body → Quoted quote ('\\' :: c :: body)
  | plain {c : Char} {body : List Char} : c ≠ '\\' → c ≠ quote → Text.isBreak c = false →
      Quoted quote body → Quoted quote (c :: body)

/-- Whether a literal cannot go on: the text is at its end, at most a lone backslash before it, or
at the quote or at a break. -/
def EndsQuoted (quote : Char) (rest : List Char) : Prop :=
  rest = [] ∨ rest = ['\\'] ∨ ∃ c tail, rest = c :: tail ∧ (c = quote ∨ Text.isBreak c = true)

/-- Whether a literal that starts behind its quote is never closed. -/
def OpensQuoted (quote : Char) (s : List Char) : Prop :=
  ∃ body rest, s = body ++ rest ∧ Quoted quote body ∧ EndsQuoted quote rest ∧
    rest.head? ≠ some quote

/-- The text behind a message word: characters that do not break the line, and backslashes, each
with the character or the CR LF behind it. -/
inductive Continued : List Char → Prop
  | nil : Continued []
  | crlf {body : List Char} : Continued body → Continued ('\\' :: '\r' :: '\n' :: body)
  | escape {c : Char} {body : List Char} : Continued body → Continued ('\\' :: c :: body)
  | plain {c : Char} {body : List Char} : c ≠ '\\' → Text.isBreak c = false → Continued body →
      Continued (c :: body)

/-- The delimiter that ends a block comment. -/
def blockEnd : List Char := ['*', '/']

/-- The characters that break a line or may start a comment or a literal. -/
def marks : List Char := ['\n', '\r', '/', '"', '\x27']

/-- The other characters: words and numbers are made of them. -/
def isPlain (c : Char) : Bool := !marks.contains c

/-- The kinds of lexemes that are made of plain characters. -/
def wordKinds : List Kind := [.directive, .keyword, .identifier, .number]

/-- **What a lexeme looks like**, and what cannot follow it. -/
inductive Shape : Kind → List Char → List Char → Prop
  | lineComment {body rest : List Char} : (∀ c ∈ body, Text.isBreak c = false) →
      (∀ c ∈ rest.head?, Text.isBreak c = true) → Shape .lineComment ('/' :: '/' :: body) rest
  | blockComment {body rest : List Char} : ¬blockEnd <:+: body →
      Shape .blockComment ('/' :: '*' :: (body ++ blockEnd)) rest
  | string {sigil body rest : List Char} : sigil = [] ∨ sigil = ['@'] → Quoted '"' body →
      Shape .string (sigil ++ '"' :: (body ++ ['"'])) rest
  | character {body rest : List Char} : body ≠ [] → Quoted '\x27' body →
      Shape .character ('\x27' :: (body ++ ['\x27'])) rest
  | message {gap word body rest : List Char} : (∀ c ∈ gap, c = ' ' ∨ c = '\t') →
      word ∈ messageWords → Continued body → ¬Text.SplitsBreak (word ++ body) rest →
      Shape .message ('#' :: (gap ++ (word ++ body))) rest
  | word {kind : Kind} {text rest : List Char} : kind ∈ wordKinds →
      (∀ c ∈ text, isPlain c = true) → Shape kind text rest
  | newline {text rest : List Char} : text = ['\r', '\n'] ∨ text = ['\n'] ∨
      text = ['\r'] ∧ rest.head? ≠ some '\n' → Shape .newline text rest
  | space {text rest : List Char} : (∀ c ∈ text, isInlineSpace c = true) → Shape .space text rest
  | punctuation {c : Char} {rest : List Char} : isPlain c = true ∨
      c = '/' ∧ rest.head? ≠ some '/' ∧ rest.head? ≠ some '*' → isInlineSpace c = false →
      Shape .punctuation [c] rest
  | openBlock {rest : List Char} : ¬blockEnd <:+: rest →
      Shape (.unclosed .blockComment) ['/', '*'] rest
  | openString {sigil rest : List Char} : sigil = [] ∨ sigil = ['@'] → OpensQuoted '"' rest →
      Shape (.unclosed .string) (sigil ++ ['"']) rest
  | openCharacter {rest : List Char} : rest.head? = some '\x27' ∨ OpensQuoted '\x27' rest →
      Shape (.unclosed .character) ['\x27'] rest

/-! ### Runs -/

/-- A run is its first unit and the run behind that. -/
theorem run_of_unit {unit : List Char → Nat} {c : Char} {tail : List Char} {extra : Nat}
    (h : unit (c :: tail) = extra + 1) :
    run unit (c :: tail) = extra + 1 + run unit (tail.drop extra) := by
  rw [run_cons, h]

/-- A run is empty where no unit starts. -/
theorem run_of_end {unit : List Char → Nat} {s : List Char} (h : unit s = 0) : run unit s = 0 := by
  cases s with
  | nil => exact run_nil unit
  | cons c tail => rw [run_cons, h]

/-- **What holds of a run:** it holds of the empty run where no unit starts, and it is kept when a
unit is put in front.  `P body rest` speaks of the run and of what is left behind it. -/
theorem run_induction {unit : List Char → Nat} {P : List Char → List Char → Prop}
    (hlength : ∀ s, unit s ≤ s.length)
    (hend : ∀ rest, unit rest = 0 → P [] rest)
    (hunit : ∀ c tail extra body rest, unit (c :: tail) = extra + 1 →
      tail.drop extra = body ++ rest → P body rest → P (c :: (tail.take extra ++ body)) rest) :
    ∀ s, ∃ body rest, s = body ++ rest ∧ run unit s = body.length ∧ P body rest
  | [] => ⟨[], [], rfl, run_nil unit, hend [] (Nat.le_zero.1 (hlength []))⟩
  | c :: tail => by
    cases hfirst : unit (c :: tail) with
    | zero => exact ⟨[], c :: tail, rfl, run_of_end hfirst, hend _ hfirst⟩
    | succ extra =>
      obtain ⟨body, rest, htail, hrun, hP⟩ := run_induction hlength hend hunit (tail.drop extra)
      have hextra := hlength (c :: tail)
      rw [hfirst, List.length_cons] at hextra
      refine ⟨c :: (tail.take extra ++ body), rest, ?_, ?_,
        hunit c tail extra body rest hfirst htail hP⟩
      · rw [List.cons_append, List.append_assoc, ← htail, List.take_append_drop]
      · rw [run_of_unit hfirst, hrun, List.length_cons, List.length_append, List.length_take]
        omega
termination_by s => s.length
decreasing_by simp only [List.length_cons, List.length_drop]; omega

/-- A literal ends, or goes on with an escape or with a plain character. -/
theorem quotedUnit_cases (quote : Char) (s : List Char) :
    (quotedUnit quote s = 0 ∧ EndsQuoted quote s) ∨
    (∃ d tail, s = '\\' :: d :: tail ∧ quotedUnit quote s = 2) ∨
    (∃ c tail, s = c :: tail ∧ quotedUnit quote s = 1 ∧ c ≠ '\\' ∧ c ≠ quote ∧
      Text.isBreak c = false) := by
  cases s with
  | nil => exact .inl ⟨rfl, .inl rfl⟩
  | cons c tail =>
    by_cases hc : c = '\\'
    · subst hc
      cases tail with
      | nil => exact .inl ⟨rfl, .inr (.inl rfl)⟩
      | cons d tail => exact .inr (.inl ⟨d, tail, rfl, rfl⟩)
    · rw [quotedUnit, if_neg hc]
      by_cases hend : c = quote ∨ Text.isBreak c = true
      · exact .inl ⟨if_pos (by simpa using hend), .inr (.inr ⟨c, tail, rfl, hend⟩)⟩
      · obtain ⟨hquote, hbreak⟩ := not_or.1 hend
        exact .inr (.inr ⟨c, tail, rfl, if_neg (by simpa using hend), hc, hquote,
          Bool.not_eq_true _ ▸ hbreak⟩)

/-- A unit of a literal is no longer than the text. -/
theorem quotedUnit_le_length (quote : Char) (s : List Char) : quotedUnit quote s ≤ s.length := by
  obtain ⟨h, -⟩ | ⟨d, tail, rfl, h⟩ | ⟨c, tail, rfl, h, -⟩ := quotedUnit_cases quote s <;>
    simp [h]

/-- The run of a literal is its body, and behind it the literal cannot go on. -/
theorem exists_quoted_run (quote : Char) : ∀ s, ∃ body rest, s = body ++ rest ∧
    run (quotedUnit quote) s = body.length ∧ Quoted quote body ∧ EndsQuoted quote rest := by
  refine run_induction (P := fun body rest => Quoted quote body ∧ EndsQuoted quote rest)
    (quotedUnit_le_length quote) ?_ ?_
  · intro rest hend
    obtain ⟨-, h⟩ | ⟨d, tail, rfl, h⟩ | ⟨c, tail, rfl, h, -⟩ := quotedUnit_cases quote rest
    · exact ⟨.nil, h⟩
    · exact nomatch h.symm.trans hend
    · exact nomatch h.symm.trans hend
  · rintro c tail extra body rest hunit htail ⟨hbody, hrest⟩
    refine ⟨?_, hrest⟩
    obtain ⟨h, -⟩ | ⟨d, after, hs, h⟩ | ⟨d, after, hs, h, hplain⟩ :=
      quotedUnit_cases quote (c :: tail)
    · exact nomatch h.symm.trans hunit
    · obtain rfl : extra = 1 := Nat.succ.inj (hunit.symm.trans h)
      obtain ⟨rfl, rfl⟩ := List.cons.inj hs
      exact hbody.escape
    · obtain rfl : extra = 0 := Nat.succ.inj (hunit.symm.trans h)
      obtain ⟨rfl, rfl⟩ := List.cons.inj hs
      exact .plain hplain.1 hplain.2.1 hplain.2.2 hbody

/-- A message ends, or goes on with a backslash and a CR LF, an escape or a plain character. -/
theorem messageUnit_cases (s : List Char) :
    messageUnit s = 0 ∨
    (∃ tail, s = '\\' :: '\r' :: '\n' :: tail ∧ messageUnit s = 3) ∨
    (∃ d tail, s = '\\' :: d :: tail ∧ messageUnit s = 2 ∧ ¬Text.SplitsBreak [d] tail) ∨
    (∃ c tail, s = c :: tail ∧ messageUnit s = 1 ∧ c ≠ '\\' ∧ Text.isBreak c = false) := by
  fun_cases messageUnit s with
  | case1 => exact .inl rfl
  | case2 tail => exact .inr (.inl ⟨tail, rfl, rfl⟩)
  | case3 d tail hcrlf =>
    refine .inr (.inr (.inl ⟨d, tail, rfl, rfl, ?_⟩))
    rintro ⟨hlast, hhead⟩
    obtain ⟨after, htail⟩ := List.head?_eq_some_iff.1 hhead
    exact hcrlf after (Option.some.inj hlast) htail
  | case4 => exact .inl rfl
  | case5 => exact .inl rfl
  | case6 d tail => exact .inr (.inr (.inr ⟨'/', d :: tail, rfl, rfl, by decide, rfl⟩))
  | case7 => exact .inr (.inr (.inr ⟨'/', [], rfl, rfl, by decide, rfl⟩))
  | case8 => exact .inl rfl
  | case9 c tail hescape _ hbreak =>
    exact .inr (.inr (.inr ⟨c, tail, rfl, rfl, hescape, Bool.not_eq_true _ ▸ hbreak⟩))

/-- A unit of a message is no longer than the text. -/
theorem messageUnit_le_length (s : List Char) : messageUnit s ≤ s.length := by
  obtain h | ⟨tail, rfl, h⟩ | ⟨d, tail, rfl, h, -⟩ | ⟨c, tail, rfl, h, -⟩ := messageUnit_cases s <;>
    simp [h]

/-- **What holds of the run of a message:** it holds of the empty run where the message ends, and
each kind of unit keeps it. -/
theorem message_run_induction {P : List Char → List Char → Prop}
    (hend : ∀ rest, messageUnit rest = 0 → P [] rest)
    (hcrlf : ∀ body rest, P body rest → P ('\\' :: '\r' :: '\n' :: body) rest)
    (hescape : ∀ d body rest, ¬Text.SplitsBreak [d] (body ++ rest) → P body rest →
      P ('\\' :: d :: body) rest)
    (hplain : ∀ c body rest, messageUnit (c :: (body ++ rest)) = 1 → c ≠ '\\' →
      Text.isBreak c = false → P body rest → P (c :: body) rest) :
    ∀ s, ∃ body rest, s = body ++ rest ∧ run messageUnit s = body.length ∧ P body rest := by
  refine run_induction messageUnit_le_length hend ?_
  intro c tail extra body rest hunit htail hbody
  obtain h | ⟨after, hs, h⟩ | ⟨d, after, hs, h, hd⟩ | ⟨d, after, hs, h, hc, hbreak⟩ :=
    messageUnit_cases (c :: tail)
  · exact nomatch h.symm.trans hunit
  · obtain rfl : extra = 2 := Nat.succ.inj (hunit.symm.trans h)
    obtain ⟨rfl, rfl⟩ := List.cons.inj hs
    exact hcrlf body rest hbody
  · obtain rfl : extra = 1 := Nat.succ.inj (hunit.symm.trans h)
    obtain ⟨rfl, rfl⟩ := List.cons.inj hs
    rw [List.drop_succ_cons, List.drop_zero] at htail
    exact hescape d body rest (htail ▸ hd) hbody
  · obtain rfl : extra = 0 := Nat.succ.inj (hunit.symm.trans h)
    obtain ⟨rfl, rfl⟩ := List.cons.inj hs
    rw [List.drop_zero] at htail
    exact hplain c body rest (htail ▸ h) hc hbreak hbody

/-- The run of a message is its body, which does not end inside a CR LF: a backslash takes both or
neither. -/
theorem exists_message_run : ∀ s, ∃ body rest, s = body ++ rest ∧
    run messageUnit s = body.length ∧ Continued body ∧ ¬Text.SplitsBreak body rest := by
  refine message_run_induction (P := fun body rest => Continued body ∧ ¬Text.SplitsBreak body rest)
    (fun rest _ => ⟨.nil, Text.not_splitsBreak_nil rest⟩) ?_ ?_ ?_
  · rintro body rest ⟨hbody, hsplit⟩
    exact ⟨hbody.crlf, Text.not_splitsBreak_append (s := ['\\', '\r', '\n'])
      (Text.not_splitsBreak_concat (s := ['\\', '\r']) (by decide)) hsplit⟩
  · rintro d body rest hd ⟨hbody, hsplit⟩
    exact ⟨hbody.escape, Text.not_splitsBreak_append (s := ['\\', d])
      (fun h => hd ⟨h.1, h.2⟩) hsplit⟩
  · rintro c body rest - hc hbreak ⟨hbody, hsplit⟩
    refine ⟨.plain hc hbreak hbody, Text.not_splitsBreak_append (s := [c]) ?_ hsplit⟩
    exact Text.not_splitsBreak_of_no_break (by simpa using hbreak)

/-! ### Words -/

/-- A character is plain if it is none of the marks. -/
theorem isPlain_iff {c : Char} : isPlain c = true ↔ c ∉ marks := by simp [isPlain]

/-- A class of characters is plain if none of the marks is in it. -/
theorem isPlain_of {p : Char → Bool} (hp : marks.any p = false) {c : Char} (h : p c = true) :
    isPlain c = true := by
  rw [isPlain_iff]
  intro hc
  exact List.any_eq_false.1 hp c hc h

/-- Plain characters do not break a line. -/
theorem isBreak_of_isPlain {c : Char} (h : isPlain c = true) : Text.isBreak c = false := by
  rw [isPlain_iff] at h
  by_contra hbreak
  simp only [Text.isBreak, Bool.not_eq_false, Bool.or_eq_true, decide_eq_true_eq] at hbreak
  rcases hbreak with rfl | rfl
  · exact h (by decide)
  · exact h (by decide)

/-- Blanks inside a line do not break it. -/
theorem isBreak_of_isInlineSpace {c : Char} (h : isInlineSpace c = true) :
    Text.isBreak c = false := by
  simp only [isInlineSpace, Bool.or_eq_true, decide_eq_true_eq] at h
  rcases h with ((rfl | rfl) | rfl) | rfl <;> rfl

/-- Characters of words are plain. -/
theorem isPlain_of_isWord {c : Char} (h : Text.isWord c = true) : isPlain c = true :=
  isPlain_of (p := Text.isWord) (by decide +kernel) h

/-- Letters are plain. -/
theorem isPlain_of_isLetter {c : Char} (h : isLetter c = true) : isPlain c = true :=
  isPlain_of (p := isLetter) (by decide) h

/-- Digits are plain. -/
theorem isPlain_of_isDigit {c : Char} (h : Text.isDigit c = true) : isPlain c = true :=
  isPlain_of (p := Text.isDigit) (by decide +kernel) h

/-- A unit of a number is plain and no longer than the text. -/
theorem numberUnit_spec (s : List Char) : numberUnit s ≤ s.length ∧
    ∀ c ∈ s.take (numberUnit s), isPlain c = true := by
  have hpart : ∀ c, (Text.isWord c || c = '.') = true → isPlain c = true := fun c =>
    isPlain_of (p := fun c => Text.isWord c || c = '.') (by decide +kernel)
  fun_cases numberUnit s with
  | case1 => simp
  | case2 c d tail hsigned =>
    have hletter : isPlain c = true :=
      isPlain_of (p := fun c => c = 'e' || c = 'E' || c = 'p' || c = 'P') (by decide)
        (Bool.and_eq_true_iff.1 hsigned).1
    have hsign : isPlain d = true :=
      isPlain_of (p := fun d => d = '+' || d = '-') (by decide) (Bool.and_eq_true_iff.1 hsigned).2
    simp [hletter, hsign]
  | case3 c d tail _ hc => simp [hpart c hc]
  | case4 => simp
  | case5 c hc => simp [hpart c hc]
  | case6 => simp

/-- The run of a number is plain. -/
theorem exists_number_run : ∀ s, ∃ body rest, s = body ++ rest ∧
    run numberUnit s = body.length ∧ ∀ c ∈ body, isPlain c = true := by
  refine run_induction (P := fun body _ => ∀ c ∈ body, isPlain c = true)
    (fun s => (numberUnit_spec s).1) (by simp) ?_
  intro c tail extra body rest hunit htail hbody d hd
  have hfirst := (numberUnit_spec (c :: tail)).2
  rw [hunit, List.take_succ_cons] at hfirst
  exact (List.mem_append.1 (List.cons_append ▸ hd)).elim (hfirst d) (hbody d)

/-- What is left behind a span is what is left when its characters are dropped one by one. -/
theorem drop_spanLength (p : Char → Bool) (s : List Char) :
    s.drop (spanLength p s) = s.dropWhile p := by
  have h : (s.takeWhile p ++ s.dropWhile p).drop (s.takeWhile p).length = s.dropWhile p :=
    List.drop_left
  rwa [List.takeWhile_append_dropWhile] at h

/-- The characters of a span are of its class. -/
theorem of_mem_take_spanLength {p : Char → Bool} {s : List Char} :
    ∀ c ∈ s.take (spanLength p s), p c = true := by
  rw [take_spanLength]
  exact fun c hc => List.all_eq_true.1 List.all_takeWhile c hc

/-! ### The cut, opener by opener -/

/-- A block comment never ends, or it ends at the first `*/`. -/
theorem blockEndFrom_cases (count : Nat) (s : List Char) :
    (blockEndFrom count s = none ∧ ¬blockEnd <:+: s) ∨
    ∃ body rest, s = body ++ (blockEnd ++ rest) ∧ ¬blockEnd <:+: body ∧
      blockEndFrom count s = some (count + body.length + 2) := by
  fun_induction blockEndFrom count s with
  | case1 => exact .inl ⟨rfl, by simp [blockEnd]⟩
  | case2 count rest => exact .inr ⟨[], rest, rfl, by simp [blockEnd], rfl⟩
  | case3 count c rest hstart ih =>
    -- An end does not start here, so where it starts is decided by the rest.
    have hfirst : ∀ t, (t <+: rest) → ¬blockEnd <+: c :: t := by
      rintro t ⟨after, rfl⟩ ⟨tail, htail⟩
      obtain ⟨rfl, rfl⟩ := List.cons.inj htail
      exact hstart _ rfl rfl
    obtain ⟨hnone, hrest⟩ | ⟨body, after, hrest, hbody, hsome⟩ := ih
    · refine .inl ⟨hnone, fun h => ?_⟩
      exact (List.infix_cons_iff.1 h).elim (hfirst rest (List.prefix_refl rest)) hrest
    · refine .inr ⟨c :: body, after, by rw [hrest]; rfl, fun h => ?_, ?_⟩
      · exact (List.infix_cons_iff.1 h).elim (hfirst body ⟨_, hrest.symm⟩) hbody
      · rw [hsome, List.length_cons]
        congr 1
        omega

/-- A literal is never closed, or it is closed at the first quote that no backslash takes. -/
theorem quotedLength_cases (quote : Char) (s : List Char) :
    (quotedLength quote s = none ∧ OpensQuoted quote s) ∨
    ∃ body rest, s = body ++ quote :: rest ∧ Quoted quote body ∧
      quotedLength quote s = some (body.length + 1) := by
  obtain ⟨body, rest, hs, hrun, hbody, hrest⟩ := exists_quoted_run quote s
  have hdrop : s.drop body.length = rest := by rw [hs, List.drop_left]
  simp only [quotedLength, hrun, hdrop]
  by_cases hhead : rest.head? = some quote
  · obtain ⟨after, rfl⟩ := List.head?_eq_some_iff.1 hhead
    exact .inr ⟨body, after, hs, hbody, if_pos hhead⟩
  · exact .inl ⟨if_neg hhead, body, rest, hs, hbody, hrest, hhead⟩

/-- A body of a literal, and behind it a text that the literal cannot go on with. -/
theorem quotedLength_of_quoted {quote : Char} (hquote : quote ≠ '\\') {body rest : List Char}
    (hbody : Quoted quote body) (hrest : EndsQuoted quote rest) :
    quotedLength quote (body ++ rest) =
      if rest.head? = some quote then some (body.length + 1) else none := by
  have hend : quotedUnit quote rest = 0 := by
    rcases hrest with rfl | rfl | ⟨c, tail, rfl, hc⟩
    · rfl
    · rfl
    · have hescape : c ≠ '\\' := by
        rintro rfl
        exact hc.elim (fun h => hquote h.symm) nofun
      rw [quotedUnit, if_neg hescape, if_pos (by simpa using hc)]
  have hrun : run (quotedUnit quote) (body ++ rest) = body.length := by
    induction hbody with
    | nil => exact run_of_end hend
    | @escape c body _ ih =>
      have hunit : quotedUnit quote ('\\' :: c :: (body ++ rest)) = 2 := rfl
      rw [List.cons_append, List.cons_append, run_of_unit hunit, List.drop_succ_cons,
        List.drop_zero, ih, List.length_cons, List.length_cons]
      omega
    | @plain c body hescape hquote hbreak _ ih =>
      have hunit : quotedUnit quote (c :: (body ++ rest)) = 1 := by
        rw [quotedUnit, if_neg hescape, if_neg (by simp [hquote, hbreak])]
      rw [List.cons_append, run_of_unit hunit, List.drop_zero, ih, List.length_cons]
      omega
  simp only [quotedLength, hrun, List.drop_left]

/-- The first `length` characters of a text in two pieces, when the first piece is that long. -/
theorem take_drop_of_append {s body rest : List Char} {n : Nat} (hs : s = body ++ rest)
    (hn : n = body.length) : s.take n = body ∧ s.drop n = rest := by
  subst hs hn
  exact ⟨List.take_left, List.drop_left⟩

/-- What a slash starts has a shape. -/
theorem shape_cutSlash (s : List Char) :
    Shape (cutSlash s).1 ('/' :: s.take (cutSlash s).2) (s.drop (cutSlash s).2) := by
  unfold cutSlash
  split
  · rename_i rest
    rw [Nat.add_comm, List.take_succ_cons, List.drop_succ_cons, drop_spanLength]
    refine .lineComment (fun c hc => ?_) (fun c hc => ?_)
    · simpa using of_mem_take_spanLength c hc
    · have hstop := List.head?_dropWhile_not (fun c => !Text.isBreak c) rest
      rw [hc] at hstop
      simpa using hstop
  · rename_i rest
    obtain ⟨hnone, hopen⟩ | ⟨body, after, hrest, hbody, hsome⟩ := blockEndFrom_cases 1 rest
    · rw [hnone]
      exact .openBlock hopen
    · have ⟨htake, hdrop⟩ := take_drop_of_append (n := body.length + 2)
        (hrest.trans (List.append_assoc ..).symm) (by simp [blockEnd])
      rw [hsome]
      dsimp only
      rw [show 1 + body.length + 2 = body.length + 2 + 1 by omega, List.take_succ_cons,
        List.drop_succ_cons, htake, hdrop]
      exact .blockComment hbody
  · rename_i hline hblock
    refine .punctuation (.inr ⟨rfl, fun h => ?_, fun h => ?_⟩) (by decide)
    · obtain ⟨rest, rfl⟩ := List.head?_eq_some_iff.1 h
      exact hline rest rfl
    · obtain ⟨rest, rfl⟩ := List.head?_eq_some_iff.1 h
      exact hblock rest rfl

/-- A string has a shape, with an `@` in front of it or without one. -/
theorem shape_quotedString {sigil s : List Char} (hsigil : sigil = [] ∨ sigil = ['@']) :
    match quotedLength '"' s with
    | some length => Shape .string (sigil ++ '"' :: s.take length) (s.drop length)
    | none => Shape (.unclosed .string) (sigil ++ ['"']) s := by
  obtain ⟨hnone, hopen⟩ | ⟨body, rest, hs, hbody, hsome⟩ := quotedLength_cases '"' s
  · rw [hnone]
    exact .openString hsigil hopen
  · have ⟨htake, hdrop⟩ := take_drop_of_append (n := body.length + 1)
      (hs.trans (List.append_cons ..)) (by simp)
    rw [hsome]
    dsimp only
    rw [htake, hdrop]
    exact .string hsigil hbody

/-- What an `@` starts has a shape. -/
theorem shape_cutAt (s : List Char) :
    Shape (cutAt s).1 ('@' :: s.take (cutAt s).2) (s.drop (cutAt s).2) := by
  have hat : isPlain '@' = true := by decide
  have hpunctuation (rest : List Char) : Shape .punctuation ['@'] rest :=
    .punctuation (.inl hat) (by decide)
  unfold cutAt
  split
  · exact hpunctuation []
  · rename_i c rest
    by_cases hquote : c = '"'
    · subst hquote
      rw [if_pos rfl]
      have hstring := shape_quotedString (s := rest) (.inr rfl : ['@'] = [] ∨ ['@'] = ['@'])
      cases hlength : quotedLength '"' rest with
      | none =>
        rw [hlength] at hstring
        exact hstring
      | some length =>
        rw [hlength] at hstring
        dsimp only
        rw [Nat.add_comm, List.take_succ_cons, List.drop_succ_cons]
        exact hstring
    · rw [if_neg hquote]
      by_cases hletter : isLetter c = true
      · rw [if_pos hletter, Nat.add_comm]
        have hkind : Kind.keyword ∈ wordKinds := by decide
        refine .word hkind ?_
        dsimp only
        rw [List.take_succ_cons]
        refine List.forall_mem_cons.2
          ⟨hat, List.forall_mem_cons.2 ⟨isPlain_of_isLetter hletter, ?_⟩⟩
        exact fun d hd => isPlain_of_isWord (of_mem_take_spanLength d hd)
      · rw [if_neg hletter]
        exact hpunctuation (c :: rest)

/-- A text starts with no message's word, or with one that is found. -/
theorem messageWordLength_cases (s : List Char) :
    messageWordLength s = none ∨
    ∃ word rest, s = word ++ rest ∧ word ∈ messageWords ∧
      messageWordLength s = some word.length := by
  unfold messageWordLength
  dsimp only
  cases hfind : messageWords.find? fun word =>
      word.isPrefixOf s && atWordEnd (s.drop word.length) with
  | none => exact .inl rfl
  | some word =>
    have hword := List.mem_of_find?_eq_some hfind
    have hp := List.find?_some hfind
    obtain ⟨rest, hs⟩ := List.isPrefixOf_iff_prefix.1 (Bool.and_eq_true_iff.1 hp).1
    exact .inr ⟨word, rest, hs.symm, hword, rfl⟩

/-- The words of messages do not break a line. -/
theorem isBreak_messageWords : ∀ word ∈ messageWords, ∀ c ∈ word, Text.isBreak c = false := by
  intro word hword c hc
  have hnone : (messageWords.any fun word => word.any Text.isBreak) = false := by decide +kernel
  have h := List.any_eq_false.1 (Bool.not_eq_true _ ▸ List.any_eq_false.1 hnone word hword) c hc
  exact Bool.not_eq_true _ ▸ h

/-- What a `#` starts has a shape. -/
theorem shape_cutHash (s : List Char) :
    Shape (cutHash s).1 ('#' :: s.take (cutHash s).2) (s.drop (cutHash s).2) := by
  have hhash : isPlain '#' = true := by decide
  have hpunctuation (rest : List Char) : Shape .punctuation ['#'] rest :=
    .punctuation (.inl hhash) (by decide)
  -- The source behind the `#` is the blanks and `after`.
  have hgap := of_mem_take_spanLength (p := fun c => c = ' ' || c = '\t') (s := s)
  have hplain : ∀ c, (c = ' ' || c = '\t') = true → isPlain c = true := fun c =>
    isPlain_of (p := fun c => c = ' ' || c = '\t') (by decide)
  unfold cutHash
  dsimp only
  generalize spanLength (fun c => c = ' ' || c = '\t') s = n at *
  obtain hnone | ⟨word, rest, hafter, hword, hsome⟩ := messageWordLength_cases (s.drop n)
  · rw [hnone]
    dsimp only
    split
    · rename_i c tail hafter
      by_cases hletter : isLetter c = true
      · rw [if_pos hletter]
        have hkind : Kind.directive ∈ wordKinds := by decide
        refine .word hkind ?_
        dsimp only
        rw [Nat.add_assoc, List.take_add, hafter, Nat.add_comm, List.take_succ_cons]
        refine List.forall_mem_cons.2 ⟨hhash, List.forall_mem_append.2 ⟨fun d hd => ?_, ?_⟩⟩
        · exact hplain d (hgap d hd)
        · exact List.forall_mem_cons.2 ⟨isPlain_of_isLetter hletter, fun d hd =>
            isPlain_of_isWord (of_mem_take_spanLength d hd)⟩
      · rw [if_neg hletter]
        exact hpunctuation s
    · exact hpunctuation s
  · obtain ⟨body, behind, hrest, hrun, hbody, hsplit⟩ := exists_message_run rest
    have hdrop : (s.drop n).drop word.length = rest := by rw [hafter, List.drop_left]
    have ⟨htake, hbehind⟩ := take_drop_of_append hrest rfl
    rw [hsome]
    dsimp only
    have hbefore : s.drop (n + word.length) = rest := by rw [← List.drop_drop, hdrop]
    rw [hdrop, hrun, List.take_add, hbefore, htake, List.take_add, ← List.drop_drop, hbefore,
      hbehind, hafter, List.take_left, List.append_assoc]
    refine .message (fun c hc => by simpa using hgap c hc) hword hbody ?_
    exact Text.not_splitsBreak_append
      (Text.not_splitsBreak_of_no_break (isBreak_messageWords word hword)) hsplit

/-! ### The cut -/

/-- The characters of which `cut` reads on before it knows a kind. -/
def leads : List Char := ['/', '"', '\x27', '#', '@', '.']

/-- A string goes on to its closing quote, and is unclosed if there is none. -/
theorem cut_string (s : List Char) :
    cut '"' s = match quotedLength '"' s with
      | some length => (.string, length)
      | none => (.unclosed .string, 0) := rfl

/-- A character literal goes on to its closing quote, and is unclosed if there is none or nothing
between the two. -/
theorem cut_character (s : List Char) :
    cut '\x27' s = match quotedLength '\x27' s with
      | some length => if length = 1 then (.unclosed .character, 0) else (.character, length)
      | none => (.unclosed .character, 0) := rfl

/-- A point starts a number if a digit follows it. -/
theorem cut_dot (s : List Char) :
    cut '.' s = match s with
      | d :: rest =>
        if Text.isDigit d then (.number, 1 + run numberUnit rest) else (.punctuation, 0)
      | [] => (.punctuation, 0) := by
  have hdigit : Text.isDigit '.' = false := by decide +kernel
  cases s <;> simp [cut, isLetter, hdigit]

/-- Any other character tells the kind by itself. -/
theorem cut_of_not_mem_leads {c : Char} (hlead : c ∉ leads) (s : List Char) :
    cut c s =
      if isLetter c || c = '$' then
        (.identifier, spanLength (fun d => Text.isWord d || d = '$') s)
      else if Text.isDigit c then (.number, run numberUnit s)
      else if c = '\r' then (.newline, if s.head? = some '\n' then 1 else 0)
      else if c = '\n' then (.newline, 0)
      else if isInlineSpace c then (.space, spanLength isInlineSpace s)
      else (.punctuation, 0) := by
  simp only [leads, List.mem_cons, List.not_mem_nil, or_false, not_or] at hlead
  obtain ⟨hslash, hstring, hcharacter, hhash, hat, hdot⟩ := hlead
  unfold cut
  rw [if_neg hslash, if_neg hstring, if_neg hcharacter, if_neg hhash, if_neg hat, if_neg hdot]

/-- What a double quote starts has a shape. -/
theorem shape_cut_string (s : List Char) :
    Shape (cut '"' s).1 ('"' :: s.take (cut '"' s).2) (s.drop (cut '"' s).2) := by
  have h := shape_quotedString (s := s) (.inl rfl : [] = [] ∨ [] = ['@'])
  rw [cut_string]
  cases hlength : quotedLength '"' s <;> rw [hlength] at h <;> exact h

/-- What an apostrophe starts has a shape. -/
theorem shape_cut_character (s : List Char) :
    Shape (cut '\x27' s).1 ('\x27' :: s.take (cut '\x27' s).2) (s.drop (cut '\x27' s).2) := by
  rw [cut_character]
  obtain ⟨hnone, hopen⟩ | ⟨body, rest, hs, hbody, hsome⟩ := quotedLength_cases '\x27' s
  · rw [hnone]
    exact .openCharacter (.inr hopen)
  · have ⟨htake, hdrop⟩ := take_drop_of_append (n := body.length + 1)
      (hs.trans (List.append_cons ..)) (by simp)
    rw [hsome]
    dsimp only
    by_cases hempty : body.length + 1 = 1
    · obtain rfl := List.length_eq_zero_iff.1 (Nat.succ.inj hempty)
      rw [if_pos hempty]
      exact .openCharacter (.inl (by rw [hs]; rfl))
    · rw [if_neg hempty, htake, hdrop]
      refine .character ?_ hbody
      rintro rfl
      exact hempty rfl

/-- What a point starts has a shape. -/
theorem shape_cut_dot (s : List Char) :
    Shape (cut '.' s).1 ('.' :: s.take (cut '.' s).2) (s.drop (cut '.' s).2) := by
  rw [cut_dot]
  cases s with
  | nil => exact .punctuation (.inl (by decide)) (by decide)
  | cons d tail =>
    dsimp only
    by_cases hd : Text.isDigit d = true
    · rw [if_pos hd, Nat.add_comm]
      obtain ⟨body, rest, hs, hrun, hbody⟩ := exists_number_run tail
      dsimp only
      rw [List.take_succ_cons, (take_drop_of_append hs hrun).1]
      exact .word (by decide) (List.forall_mem_cons.2 ⟨by decide,
        List.forall_mem_cons.2 ⟨isPlain_of_isDigit hd, hbody⟩⟩)
    · rw [if_neg hd]
      exact .punctuation (.inl (by decide)) (by decide)

/-- **Every cut has a shape.** -/
theorem shape_cut (c : Char) (s : List Char) :
    Shape (cut c s).1 (c :: s.take (cut c s).2) (s.drop (cut c s).2) := by
  by_cases hlead : c ∈ leads
  · simp only [leads, List.mem_cons, List.not_mem_nil, or_false] at hlead
    rcases hlead with rfl | rfl | rfl | rfl | rfl | rfl
    · exact shape_cutSlash s
    · exact shape_cut_string s
    · exact shape_cut_character s
    · exact shape_cutHash s
    · exact shape_cutAt s
    · exact shape_cut_dot s
  rw [cut_of_not_mem_leads hlead]
  by_cases hidentifier : (isLetter c || c = '$') = true
  · rw [if_pos hidentifier]
    have hc : isPlain c = true :=
      isPlain_of (p := fun c => isLetter c || c = '$') (by decide) hidentifier
    have hkind : Kind.identifier ∈ wordKinds := by decide
    refine .word hkind (List.forall_mem_cons.2 ⟨hc, fun d hd => ?_⟩)
    exact isPlain_of (p := fun d => Text.isWord d || d = '$') (by decide +kernel)
      (of_mem_take_spanLength d hd)
  rw [if_neg hidentifier]
  by_cases hdigit : Text.isDigit c = true
  · rw [if_pos hdigit]
    obtain ⟨body, rest, hs, hrun, hbody⟩ := exists_number_run s
    dsimp only
    rw [(take_drop_of_append hs hrun).1]
    exact .word (by decide) (List.forall_mem_cons.2 ⟨isPlain_of_isDigit hdigit, hbody⟩)
  rw [if_neg hdigit]
  by_cases hcr : c = '\r'
  · subst hcr
    rw [if_pos rfl]
    refine .newline ?_
    by_cases hlf : s.head? = some '\n'
    · obtain ⟨rest, rfl⟩ := List.head?_eq_some_iff.1 hlf
      exact .inl rfl
    · rw [if_neg hlf]
      exact .inr (.inr ⟨rfl, hlf⟩)
  rw [if_neg hcr]
  by_cases hlf : c = '\n'
  · subst hlf
    rw [if_pos rfl]
    exact .newline (.inr (.inl rfl))
  rw [if_neg hlf]
  by_cases hspace : isInlineSpace c = true
  · rw [if_pos hspace]
    exact .space (List.forall_mem_cons.2 ⟨hspace, of_mem_take_spanLength⟩)
  · rw [if_neg hspace]
    have hplain : c ∉ marks := by
      simp only [leads, marks, List.mem_cons, not_or] at hlead ⊢
      exact ⟨hlf, hcr, hlead.1, hlead.2.1, hlead.2.2.1, List.not_mem_nil⟩
    exact .punctuation (.inl (isPlain_iff.2 hplain)) (Bool.not_eq_true _ ▸ hspace)

/-- **What holds of the lexemes of a text:** it holds of the empty text, and it is kept when a
lexeme is put in front, of which the shape is known. -/
theorem lexemes_induction {P : List Char → List Lexeme → Prop} (hnil : P [] [])
    (hcons : ∀ l rest, l.text ≠ [] → Shape l.kind l.text rest → P rest (lexemes rest) →
      P (l.text ++ rest) (l :: lexemes rest)) : ∀ s, P s (lexemes s)
  | [] => by rwa [lexemes_nil]
  | c :: s => by
    have h := hcons ⟨(cut c s).1, c :: s.take (cut c s).2⟩ (s.drop (cut c s).2)
      (List.cons_ne_nil _ _) (shape_cut c s) (lexemes_induction hnil hcons _)
    rwa [List.cons_append, List.take_append_drop, ← lexemes_cons] at h
termination_by s => s.length
decreasing_by simp only [List.length_cons, List.length_drop]; omega

/-- Words and numbers are no comments. -/
theorem isComment_of_mem_wordKinds {kind : Kind} (h : kind ∈ wordKinds) :
    kind.isComment = false := by
  simp only [wordKinds, List.mem_cons, List.not_mem_nil, or_false] at h
  rcases h with rfl | rfl | rfl | rfl <;> rfl

/-- No comment is a gap. -/
theorem Kind.isGap_of_isComment {kind : Kind} (h : kind.isComment = true) :
    kind.isGap = false := by
  cases kind <;> simp_all [isComment, isGap]

/-- **A comment** is a line comment, which goes on to a break, or a block comment. -/
theorem Shape.comment_cases {kind : Kind} {text rest : List Char} (h : Shape kind text rest)
    (hcomment : kind.isComment = true) :
    (kind = .lineComment ∧ ∃ body, text = '/' :: '/' :: body ∧
      (∀ c ∈ body, Text.isBreak c = false) ∧ ∀ c ∈ rest.head?, Text.isBreak c = true) ∨
    (kind = .blockComment ∧ ∃ body, text = '/' :: '*' :: (body ++ blockEnd)) := by
  cases h with
  | lineComment hbody hrest => exact .inl ⟨rfl, _, rfl, hbody, hrest⟩
  | blockComment => exact .inr ⟨rfl, _, rfl⟩
  | word hword =>
    exact absurd (hcomment.symm.trans (isComment_of_mem_wordKinds hword)) Bool.false_ne_true.symm
  | _ => cases hcomment

/-- **Only a newline starts with a break.** -/
theorem Shape.eq_newline {kind : Kind} {text rest : List Char} (h : Shape kind text rest) {c : Char}
    (hc : text.head? = some c) (hbreak : Text.isBreak c = true) : kind = .newline := by
  have hquiet : Text.isBreak c ≠ false := fun h => Bool.false_ne_true (h.symm.trans hbreak)
  cases h with
  | newline => rfl
  | string hsigil => obtain rfl | rfl := hsigil <;> cases hc <;> cases hbreak
  | openString hsigil => obtain rfl | rfl := hsigil <;> cases hc <;> cases hbreak
  | word _ hplain =>
    exact absurd (isBreak_of_isPlain (hplain c (List.mem_of_mem_head? hc))) hquiet
  | space hspace =>
    exact absurd (isBreak_of_isInlineSpace (hspace c (List.mem_of_mem_head? hc))) hquiet
  | punctuation hplain =>
    cases hc
    obtain hplain | ⟨rfl, -⟩ := hplain
    · exact absurd (isBreak_of_isPlain hplain) hquiet
    · cases hbreak
  | _ => cases hc; cases hbreak

/-- **Only newlines and messages end in a break.** -/
theorem Shape.isBreak_getLast {kind : Kind} {text rest : List Char} (h : Shape kind text rest)
    (hnewline : kind ≠ .newline) (hmessage : kind ≠ .message) :
    ∀ c ∈ text.getLast?, Text.isBreak c = false := by
  have hquiet : ∀ {text : List Char}, (∀ c ∈ text, Text.isBreak c = false) →
      ∀ c ∈ text.getLast?, Text.isBreak c = false := fun htext c hc =>
    htext c (List.mem_of_getLast? hc)
  have hends : ∀ (before : List Char) {last : Char}, Text.isBreak last = false →
      ∀ c ∈ (before ++ [last]).getLast?, Text.isBreak c = false := by
    intro before last hlast c hc
    rw [List.getLast?_concat] at hc
    exact Option.some.inj hc ▸ hlast
  cases h with
  | lineComment hbody =>
    exact hquiet (List.forall_mem_cons.2 ⟨rfl, List.forall_mem_cons.2 ⟨rfl, hbody⟩⟩)
  | @blockComment body =>
    rw [show '/' :: '*' :: (body ++ blockEnd) = ('/' :: '*' :: (body ++ ['*'])) ++ ['/'] by
      simp [blockEnd]]
    exact hends _ rfl
  | string =>
    rw [← List.cons_append, ← List.append_assoc]
    exact hends _ rfl
  | character =>
    rw [← List.cons_append]
    exact hends _ rfl
  | message => exact absurd rfl hmessage
  | word _ hplain => exact hquiet fun c hc => isBreak_of_isPlain (hplain c hc)
  | newline => exact absurd rfl hnewline
  | space hspace => exact hquiet fun c hc => isBreak_of_isInlineSpace (hspace c hc)
  | punctuation hc _ =>
    refine hends [] ?_
    obtain hplain | ⟨rfl, -⟩ := hc
    · exact isBreak_of_isPlain hplain
    · rfl
  | openBlock => exact hends ['/'] rfl
  | openString => exact hends _ rfl
  | openCharacter => exact hends [] rfl

/-- **No lexeme ends inside a CR LF.** -/
theorem Shape.not_splitsBreak {kind : Kind} {text rest : List Char} (h : Shape kind text rest) :
    ¬Text.SplitsBreak text rest := by
  by_cases hnewline : kind = .newline
  · subst hnewline
    cases h with
    | word hword => exact absurd hword (by simp [wordKinds])
    | newline hbreak =>
      obtain rfl | rfl | ⟨rfl, hrest⟩ := hbreak
      · exact Text.not_splitsBreak_concat (s := ['\r']) (by decide)
      · exact Text.not_splitsBreak_concat (s := []) (by decide)
      · exact fun h => hrest h.2
  by_cases hmessage : kind = .message
  · subst hmessage
    cases h with
    | word hword => exact absurd hword (by simp [wordKinds])
    | @message gap word body _ hgap _ _ hsplit =>
      rw [← List.cons_append]
      refine Text.not_splitsBreak_append (Text.not_splitsBreak_of_no_break ?_) hsplit
      refine List.forall_mem_cons.2 ⟨rfl, fun c hc => ?_⟩
      rcases hgap c hc with rfl | rfl <;> rfl
  · rintro ⟨hcr, -⟩
    exact nomatch h.isBreak_getLast hnewline hmessage '\r' hcr

end Lexeme
end LineMetrics
