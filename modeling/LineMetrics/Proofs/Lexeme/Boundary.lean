import LineMetrics.Proofs.Lexeme.Concat

/-!
# What may follow a lexeme

A lexeme is as long as its kind allows, so what follows it has a say in where it ends.  `Settled`
says how far that goes: a reading that takes `n` characters of a text is the same on these
characters with anything else behind them that is admitted there.

Code without a `#` looks at the next character only, and whether that may go on with it.  No
character of a gap goes on with it, so a gap may stand where anything else did
(`settled_cut_code`).  Blanks do go on with a comment up to the end of the line and with what
starts with a `#`; these need a line end behind them.  At the end of a line every closed lexeme is
settled, except that a backslash at the end of a message takes an LF behind its CR
(`settled_cut`).
-/

namespace LineMetrics
namespace Lexeme

variable {α β : Type} {P Q : List Char → Prop} {f : List Char → α} {s t b : List Char} {n : Nat}

/-- `f` takes `n` characters of `s` and reads the same with any text behind them that `P` admits. -/
structure Settled (P : List Char → Prop) (f : List Char → α) (s : List Char) (n : Nat) : Prop where
  le_length : n ≤ s.length
  take_append : ∀ b, P b → f (s.take n ++ b) = f s

/-- A reading is settled by its first characters if it is the same with any admitted text behind
them. -/
theorem Settled.of_append {rest : List Char} (hs : s = t ++ rest) (hn : n = t.length)
    (h : ∀ b, P b → f (t ++ b) = f s) : Settled P f s n := by
  have htake : s.take n = t := (take_drop_of_append hs hn).1
  refine ⟨?_, fun b hb => by rw [htake, h b hb]⟩
  rw [hs, hn, List.length_append]
  omega

/-- A settled reading is settled for fewer texts. -/
theorem Settled.imp (h : Settled P f s n) (hPQ : ∀ b, Q b → P b) : Settled Q f s n :=
  ⟨h.le_length, fun b hb => h.take_append b (hPQ b hb)⟩

/-- A reading that is made from another one. -/
theorem Settled.map (h : Settled P f s n) {g : List Char → β}
    (hg : ∀ {t u}, f t = f u → g t = g u) : Settled P g s n :=
  ⟨h.le_length, fun b hb => hg (h.take_append b hb)⟩

/-- A reading that is made from another one behind its first character. -/
theorem Settled.cons (h : Settled P f s n) {g : List Char → β} {c : Char}
    (hg : ∀ {t u}, f t = f u → g (c :: t) = g (c :: u)) : Settled P g (c :: s) (n + 1) := by
  refine ⟨Nat.succ_le_succ h.le_length, fun b hb => ?_⟩
  rw [List.take_succ_cons, List.cons_append]
  exact hg (h.take_append b hb)

/-! ### What may stand in whose place -/

/-- Whether `b` may stand where `rest` did: its first character is the same, or one of a gap, or it
has none. -/
def Replaces (rest b : List Char) : Prop := b.head? = rest.head? ∨ ∀ c ∈ b.head?, c ∈ gapChars

/-- Whether the text is empty or starts with an LF. -/
def AtLineEnd (b : List Char) : Prop := ∀ c ∈ b.head?, c = '\n'

/-- The end of a line may stand in the place of any text. -/
theorem AtLineEnd.replaces (h : AtLineEnd b) (rest : List Char) : Replaces rest b := by
  refine .inr fun c hc => ?_
  rw [h c hc]
  decide

/-- What may replace a text may replace it behind another one. -/
theorem Replaces.append {rest : List Char} (h : Replaces rest b) (t : List Char) :
    Replaces (t ++ rest) (t ++ b) := by
  cases t with
  | nil => exact h
  | cons c t => exact .inl rfl

/-- What does not start with a character of a class still does not, if gaps are outside the class.
-/
theorem Replaces.not_head {rest : List Char} (h : Replaces rest b) {p : Char → Bool}
    (hgap : ∀ c ∈ gapChars, p c = false) (hrest : ∀ c ∈ rest.head?, p c = false) :
    ∀ c ∈ b.head?, p c = false := by
  intro c hc
  rcases h with hsame | hgaps
  · exact hrest c (hsame ▸ hc)
  · exact hgap c (hgaps c hc)

/-- The end of a line does not start with a character of a class that has no LF. -/
theorem AtLineEnd.not_head (h : AtLineEnd b) {p : Char → Bool} (hlf : p '\n' = false) :
    ∀ c ∈ b.head?, p c = false := by
  intro c hc
  rw [h c hc, hlf]

/-! ### Characters of words and of gaps -/

/-- Letters are characters of words. -/
theorem isWord_of_isLetter {c : Char} (h : isLetter c = true) : Text.isWord c = true := by
  have hascii : ∀ n < 123, 65 ≤ n ∧ n ≤ 90 ∨ 97 ≤ n →
      Text.alphanumericRanges.contains n = true := by decide +kernel
  simp only [isLetter, Bool.or_eq_true, decide_eq_true_eq] at h
  simp only [Text.isWord, Bool.or_eq_true, decide_eq_true_eq]
  refine h.symm.imp_right fun h => ?_
  simp only [Char.isAlpha, Char.isUpper, Char.isLower, Bool.or_eq_true, Bool.and_eq_true,
    decide_eq_true_eq, ge_iff_le, UInt32.le_iff_toNat_le] at h
  have hcode : c.toNat < 123 ∧ (65 ≤ c.toNat ∧ c.toNat ≤ 90 ∨ 97 ≤ c.toNat) := by
    change (65 ≤ c.toNat ∧ c.toNat ≤ 90) ∨ (97 ≤ c.toNat ∧ c.toNat ≤ 122) at h
    omega
  exact hascii c.toNat hcode.1 hcode.2

/-- A class that holds no character of a gap is asked in vain about each of them. -/
theorem forall_gapChars {p : Char → Bool} (h : gapChars.any p = false) :
    ∀ c ∈ gapChars, p c = false := by
  intro c hc
  exact Bool.not_eq_true _ ▸ List.any_eq_false.1 h c hc

/-- No character of a gap is one of a word, a number or a name. -/
theorem gapChars_spec : ∀ c ∈ gapChars,
    Text.isWord c = false ∧ Text.isDigit c = false ∧ c ≠ '.' ∧ c ≠ '$' := by
  have hall : gapChars.any (fun c => Text.isWord c || Text.isDigit c || c = '.' || c = '$') =
      false := by
    decide +kernel
  intro c hc
  simpa [and_assoc] using forall_gapChars hall c hc

/-- Blanks inside a line are a lexeme as far as they go. -/
theorem cut_of_isInlineSpace {c : Char} (hc : isInlineSpace c = true) (s : List Char) :
    cut c s = (.space, spanLength isInlineSpace s) := by
  obtain ⟨-, hdigit, -⟩ := gapChars_spec c (gapChar_of_inlineSpace hc)
  simp only [isInlineSpace, Bool.or_eq_true, decide_eq_true_eq] at hc
  rcases hc with ((rfl | rfl) | rfl) | rfl <;> simp [cut, isLetter, hdigit, isInlineSpace]

/-- A CR without an LF is a newline of its own. -/
theorem cut_cr (h : s.head? ≠ some '\n') : cut '\r' s = (.newline, 0) := by
  obtain ⟨-, hdigit, -⟩ := gapChars_spec '\r' (by decide)
  simp [cut, isLetter, hdigit, h]

/-! ### Spans and runs -/

/-- What can be taken from a text that cannot go on in what follows is all of it. -/
theorem takeWhile_append {p : Char → Bool} (ht : ∀ c ∈ t, p c = true)
    (hb : ∀ c ∈ b.head?, p c = false) : (t ++ b).takeWhile p = t := by
  rw [List.takeWhile_append_of_pos ht]
  cases b with
  | nil => rw [List.takeWhile_nil, List.append_nil]
  | cons c b => rw [List.takeWhile_cons_of_neg (by simp [hb c rfl]), List.append_nil]

/-- A span that cannot go on in what follows is all of the text in front of it. -/
theorem spanLength_append {p : Char → Bool} (ht : ∀ c ∈ t, p c = true)
    (hb : ∀ c ∈ b.head?, p c = false) : spanLength p (t ++ b) = t.length := by
  rw [spanLength, takeWhile_append ht hb]

/-- What is behind a span does not go on with it. -/
theorem not_head_drop_spanLength (p : Char → Bool) (s : List Char) :
    ∀ c ∈ (s.drop (spanLength p s)).head?, p c = false := by
  intro c hc
  have hstop := List.head?_dropWhile_not p s
  rw [← drop_spanLength, hc] at hstop
  simpa using hstop

/-- A text is a span and a rest that does not go on with it. -/
theorem exists_span (p : Char → Bool) (s : List Char) :
    ∃ t rest, s = t ++ rest ∧ (∀ c ∈ t, p c = true) ∧ ∀ c ∈ rest.head?, p c = false :=
  ⟨_, _, (List.take_append_drop (spanLength p s) s).symm, of_mem_take_spanLength,
    not_head_drop_spanLength p s⟩

/-- A span is no longer than its text. -/
theorem spanLength_le_length (p : Char → Bool) (s : List Char) : spanLength p s ≤ s.length :=
  (List.takeWhile_prefix p).length_le

/-- A span is settled by its characters, if nothing that is admitted goes on with it. -/
theorem settled_spanLength {p : Char → Bool} (s : List Char)
    (hP : ∀ b, P b → ∀ c ∈ b.head?, p c = false) :
    Settled P (spanLength p) s (spanLength p s) := by
  refine ⟨spanLength_le_length p s, fun b hb => ?_⟩
  rw [spanLength_append of_mem_take_spanLength (hP b hb), List.length_take,
    Nat.min_eq_left (spanLength_le_length p s)]

/-- A span does not notice what replaces the text behind it, if no gap goes on with it. -/
theorem settled_spanLength_of_gap {p : Char → Bool} (hgap : ∀ c ∈ gapChars, p c = false)
    (s : List Char) :
    Settled (Replaces (s.drop (spanLength p s))) (spanLength p) s (spanLength p s) :=
  settled_spanLength s fun _ hb => hb.not_head hgap (not_head_drop_spanLength p s)

/-- A number ends, or goes on with an exponent letter and its sign, or with a character behind which
no sign belongs to it. -/
theorem numberUnit_cases (s : List Char) :
    (numberUnit s = 0 ∧ ∀ c ∈ s.head?, (Text.isWord c || c = '.') = false) ∨
    (∃ c d tail, s = c :: d :: tail ∧ ∀ t, numberUnit (c :: d :: t) = 2) ∨
    ∃ c tail, s = c :: tail ∧ ∀ b, Replaces tail b → numberUnit (c :: b) = 1 := by
  -- A gap has no sign in it, so no exponent comes about by one.
  have hsign : ∀ d ∈ gapChars, (d = '+' || d = '-') = false :=
    forall_gapChars (by decide)
  fun_cases numberUnit s with
  | case1 => exact .inl ⟨rfl, by simp⟩
  | case2 c d tail hsigned => exact .inr (.inl ⟨c, d, tail, rfl, fun t => if_pos hsigned⟩)
  | case3 c d tail hunsigned hc =>
    refine .inr (.inr ⟨c, d :: tail, rfl, fun b hb => ?_⟩)
    cases b with
    | nil => exact if_pos hc
    | cons e b =>
      have hnext : ((c = 'e' || c = 'E' || c = 'p' || c = 'P') && (e = '+' || e = '-')) =
          false := by
        by_cases hletter : (c = 'e' || c = 'E' || c = 'p' || c = 'P') = true
        · have hd : ∀ x ∈ (d :: tail).head?, (x = '+' || x = '-') = false := by
            rintro x ⟨⟩
            simpa [hletter] using hunsigned
          rw [hb.not_head hsign hd e rfl, Bool.and_false]
        · rw [Bool.eq_false_iff.2 hletter, Bool.false_and]
      rw [numberUnit, hnext, if_neg Bool.false_ne_true, if_pos hc]
  | case4 c d tail hunsigned hc => exact .inl ⟨rfl, fun x hx => by cases hx; simpa using hc⟩
  | case5 c hc =>
    refine .inr (.inr ⟨c, [], rfl, fun b hb => ?_⟩)
    cases b with
    | nil => exact if_pos hc
    | cons e b =>
      have he : (e = '+' || e = '-') = false := hb.not_head hsign (by simp) e rfl
      rw [numberUnit, he, Bool.and_false, if_neg Bool.false_ne_true, if_pos hc]
  | case6 c hc => exact .inl ⟨rfl, fun x hx => by cases hx; simpa using hc⟩

/-- A number ends where no character of a word and no point follows. -/
theorem numberUnit_of_not_head (h : ∀ c ∈ s.head?, (Text.isWord c || c = '.') = false) :
    numberUnit s = 0 := by
  fun_cases numberUnit s with
  | case1 => rfl
  | case2 c d tail hsigned =>
    have hletter : (Text.isWord c || c = '.') = true := by
      have hcases := (Bool.and_eq_true_iff.1 hsigned).1
      simp only [Bool.or_eq_true, decide_eq_true_eq] at hcases
      have hword : Text.isWord c = true := isWord_of_isLetter (by
        rcases hcases with ((rfl | rfl) | rfl) | rfl <;> decide)
      rw [hword, Bool.true_or]
    exact absurd ((h c rfl).symm.trans hletter) Bool.false_ne_true
  | case3 c d tail _ hc => exact absurd ((h c rfl).symm.trans hc) Bool.false_ne_true
  | case4 => rfl
  | case5 c hc => exact absurd ((h c rfl).symm.trans hc) Bool.false_ne_true
  | case6 => rfl

/-- The run of a number does not notice what replaces the text behind it. -/
theorem exists_settled_number_run : ∀ s, ∃ body rest, s = body ++ rest ∧
    run numberUnit s = body.length ∧
    ∀ b, Replaces rest b → run numberUnit (body ++ b) = body.length := by
  have hgap : ∀ c ∈ gapChars, (Text.isWord c || c = '.') = false := by
    intro c hc
    obtain ⟨hword, -, hdot, -⟩ := gapChars_spec c hc
    rw [hword, Bool.false_or, decide_eq_false hdot]
  refine run_induction (P := fun body rest =>
    ∀ b, Replaces rest b → run numberUnit (body ++ b) = body.length)
    (fun s => (numberUnit_spec s).1) ?_ ?_
  · intro rest hend b hb
    refine run_of_end ?_
    have hrest : ∀ c ∈ rest.head?, (Text.isWord c || c = '.') = false := by
      obtain ⟨-, h⟩ | ⟨c, d, tail, rfl, h⟩ | ⟨c, tail, rfl, h⟩ := numberUnit_cases rest
      · exact h
      · exact nomatch (h tail).symm.trans hend
      · exact nomatch (h tail (.inl rfl)).symm.trans hend
    exact numberUnit_of_not_head (hb.not_head hgap hrest)
  · intro c tail extra body rest hunit htail hbody b hb
    obtain ⟨h, -⟩ | ⟨c', d, after, hs, h⟩ | ⟨c', after, hs, h⟩ := numberUnit_cases (c :: tail)
    · exact nomatch h.symm.trans hunit
    · obtain ⟨rfl, rfl⟩ := List.cons.inj hs
      obtain rfl : extra = 1 := Nat.succ.inj (hunit.symm.trans (h after))
      have hrun := run_of_unit (h (body ++ b))
      simp only [List.drop_succ_cons, List.drop_zero] at hrun
      simp only [List.take_succ_cons, List.take_zero, List.cons_append, List.nil_append]
      rw [hrun, hbody b hb, List.length_cons, List.length_cons]
      omega
    · obtain ⟨rfl, rfl⟩ := List.cons.inj hs
      obtain rfl : extra = 0 := Nat.succ.inj (hunit.symm.trans (h tail (.inl rfl)))
      rw [List.drop_zero] at htail
      have hrun := run_of_unit (h (body ++ b) (htail ▸ hb.append body))
      rw [List.take_zero, List.nil_append, List.cons_append, hrun, List.drop_zero, hbody b hb,
        List.length_cons]
      omega

/-- The run of a number is settled by its characters. -/
theorem settled_numberRun (s : List Char) :
    Settled (Replaces (s.drop (run numberUnit s))) (run numberUnit) s (run numberUnit s) := by
  obtain ⟨body, rest, rfl, hrun, hbody⟩ := exists_settled_number_run s
  rw [hrun, List.drop_left]
  refine .of_append rfl rfl fun b hb => ?_
  rw [hbody b hb, hrun]

/-- A backslash takes one character, unless that is a CR. -/
theorem messageUnit_escape {d : Char} (hd : d ≠ '\r') (t : List Char) :
    messageUnit ('\\' :: d :: t) = 2 := by
  simp [messageUnit, hd]

/-- A slash belongs to a message unless it starts a comment. -/
theorem messageUnit_slash_iff {t : List Char} :
    messageUnit ('/' :: t) = 1 ↔ ∀ d ∈ t.head?, (d = '/' || d = '*') = false := by
  cases t with
  | nil => exact ⟨fun _ => nofun, fun _ => rfl⟩
  | cons d t =>
    have hunit : messageUnit ('/' :: d :: t) = if d = '/' || d = '*' then 0 else 1 := rfl
    simp [hunit]

/-- No comment comes about by a gap behind a slash. -/
theorem messageUnit_of_replaces {c : Char} {tail : List Char} (h : messageUnit (c :: tail) = 1)
    (hb : Replaces tail b) : messageUnit (c :: b) = 1 := by
  have hopener : ∀ d ∈ gapChars, (d = '/' || d = '*') = false :=
    forall_gapChars (by decide)
  have hescape : c ≠ '\\' := by
    rintro rfl
    obtain h' | ⟨_, -, h'⟩ | ⟨_, _, -, h', -⟩ | ⟨_, _, hs, -, hne, -⟩ :=
      messageUnit_cases ('\\' :: tail)
    · exact nomatch h'.symm.trans h
    · exact nomatch h'.symm.trans h
    · exact nomatch h'.symm.trans h
    · exact hne (List.cons.inj hs).1.symm
  by_cases hslash : c = '/'
  · subst hslash
    exact messageUnit_slash_iff.2 (hb.not_head hopener (messageUnit_slash_iff.1 h))
  · have hplain : ∀ t, messageUnit (c :: t) = if Text.isBreak c then 0 else 1 :=
      fun t => (if_neg hescape).trans (if_neg hslash)
    rwa [hplain] at h ⊢

/-- The run of a message goes on to the end of its line and not over it, unless its last backslash
holds a CR. -/
theorem exists_settled_message_run : ∀ s, ∃ body rest, s = body ++ rest ∧
    run messageUnit s = body.length ∧
    ('\r' ∉ body → ∀ b, AtLineEnd b → run messageUnit (body ++ b) = body.length) := by
  refine message_run_induction (P := fun body _ =>
    '\r' ∉ body → ∀ b, AtLineEnd b → run messageUnit (body ++ b) = body.length) ?_ ?_ ?_ ?_
  · intro rest _ _ b hb
    cases b with
    | nil => exact run_nil messageUnit
    | cons c b =>
      obtain rfl : c = '\n' := hb c rfl
      exact run_of_end rfl
  · intro body rest _ hcr
    simp at hcr
  · intro d body rest _ hbody hcr b hb
    simp only [List.mem_cons, not_or] at hcr
    have hescape := messageUnit_escape (Ne.symm hcr.2.1) (body ++ b)
    rw [List.cons_append, List.cons_append, run_of_unit hescape, List.drop_succ_cons,
      List.drop_zero, hbody hcr.2.2 b hb, List.length_cons, List.length_cons]
    omega
  · intro c body rest hunit _ _ hbody hcr b hb
    have hplain := messageUnit_of_replaces hunit ((hb.replaces rest).append body)
    simp only [List.mem_cons, not_or] at hcr
    rw [List.cons_append, run_of_unit hplain, List.drop_zero, hbody hcr.2 b hb, List.length_cons]
    omega

/-! ### Literals and block comments -/

/-- A closed literal does not look behind its closing quote. -/
theorem settled_quotedLength {quote : Char} (hquote : quote ≠ '\\')
    (h : quotedLength quote s = some n) : Settled P (quotedLength quote) s n := by
  obtain ⟨hnone, -⟩ | ⟨body, rest, rfl, hbody, hsome⟩ := quotedLength_cases quote s
  · exact nomatch hnone.symm.trans h
  · obtain rfl : n = body.length + 1 := Option.some.inj (h.symm.trans hsome)
    have hclosed : ∀ rest, quotedLength quote (body ++ quote :: rest) = some (body.length + 1) := by
      intro rest
      rw [quotedLength_of_quoted hquote hbody (.inr (.inr ⟨quote, rest, rfl, .inl rfl⟩))]
      exact if_pos rfl
    refine .of_append (t := body ++ [quote]) (List.append_cons ..) (by simp) fun b _ => ?_
    rw [List.append_assoc, List.singleton_append, hclosed, hclosed]

/-- The end of a block comment does not look behind itself. -/
theorem exists_blockEnd {count length : Nat} (h : blockEndFrom count s = some length) :
    ∃ t rest, s = t ++ rest ∧ t ≠ [] ∧ length = count + t.length ∧
      ∀ b, blockEndFrom count (t ++ b) = some length := by
  fun_induction blockEndFrom count s with
  | case1 => cases h
  | case2 count rest =>
    obtain rfl := Option.some.inj h
    exact ⟨blockEnd, rest, rfl, by decide, rfl, fun b => rfl⟩
  | case3 count c rest hstart ih =>
    obtain ⟨t, after, rfl, ht, rfl, hb⟩ := ih h
    refine ⟨c :: t, after, rfl, List.cons_ne_nil c t, ?_, fun b => ?_⟩
    · rw [List.length_cons]
      omega
    · rw [List.cons_append, blockEndFrom]
      · exact hb b
      · rintro tail rfl htail
        cases t with
        | nil => exact ht rfl
        | cons d t => exact hstart (t ++ after) rfl (by rw [(List.cons.inj htail).1]; rfl)

/-- The end of a block comment is settled by what is in front of it. -/
theorem settled_blockEndFrom {count : Nat} (h : blockEndFrom count s = some (count + n)) :
    Settled P (blockEndFrom count) s n := by
  obtain ⟨t, rest, hs, -, hn, hb⟩ := exists_blockEnd h
  refine .of_append hs (Nat.add_left_cancel hn) fun b _ => ?_
  rw [hb, h, hn]

/-! ### The cut of code -/

/-- A character is read by itself where what follows does not go on with it. -/
theorem settled_zero {p : Char → Bool} {v : α} (hgap : ∀ c ∈ gapChars, p c = false)
    (hf : ∀ s, (∀ c ∈ s.head?, p c = false) → f s = v) (hs : ∀ c ∈ s.head?, p c = false) :
    Settled (Replaces s) f s 0 := by
  refine ⟨Nat.zero_le _, fun b hb => ?_⟩
  rw [List.take_zero, List.nil_append, hf b (hb.not_head hgap hs), hf s hs]

/-- A slash is punctuation unless it starts a comment. -/
theorem cutSlash_of_not_head (h : ∀ c ∈ s.head?, (c = '/' || c = '*') = false) :
    cutSlash s = (.punctuation, 0) := by
  fun_cases cutSlash s with
  | case1 => exact nomatch h _ rfl
  | case2 => exact nomatch h _ rfl
  | case3 => exact nomatch h _ rfl
  | case4 => rfl

/-- A `/*` goes on to the end of its comment, and is unclosed if that does not come. -/
theorem cutSlash_star (rest : List Char) :
    cutSlash ('*' :: rest) = match blockEndFrom 1 rest with
      | some length => (.blockComment, length)
      | none => (.unclosed .blockComment, 1) := rfl

/-- A slash that starts no comment. -/
theorem settled_cutSlash (hcomment : (cutSlash s).1.isComment = false)
    (hclosed : ∀ opener, (cutSlash s).1 ≠ .unclosed opener) :
    Settled (Replaces (s.drop (cutSlash s).2)) cutSlash s (cutSlash s).2 := by
  have hs : ∀ c ∈ s.head?, (c = '/' || c = '*') = false := by
    intro c hc
    obtain ⟨rest, rfl⟩ := List.head?_eq_some_iff.1 hc
    by_contra hmark
    simp only [Bool.not_eq_false, Bool.or_eq_true, decide_eq_true_eq] at hmark
    rcases hmark with rfl | rfl
    · exact nomatch hcomment
    · rw [cutSlash_star] at hcomment hclosed
      cases hend : blockEndFrom 1 rest with
      | none => exact hclosed .blockComment (by rw [hend])
      | some length =>
        rw [hend] at hcomment
        exact nomatch hcomment
  rw [cutSlash_of_not_head hs]
  exact settled_zero (forall_gapChars (by decide)) (fun _ => cutSlash_of_not_head) hs

/-- A comment is settled by its characters at the end of a line. -/
theorem settled_cutSlash_comment (hcomment : (cutSlash s).1.isComment = true) :
    Settled AtLineEnd cutSlash s (cutSlash s).2 := by
  revert hcomment
  fun_cases cutSlash s with
  | case1 rest =>
    intro _
    have hline : ∀ t, cutSlash ('/' :: t) =
        (.lineComment, 1 + spanLength (fun c => !Text.isBreak c) t) := fun t => rfl
    have hspan := settled_spanLength (P := AtLineEnd) (p := fun c => !Text.isBreak c) rest
      fun b hb => hb.not_head rfl
    rw [Nat.add_comm]
    exact hspan.cons fun {t u} h => by rw [hline, hline, h]
  | case2 rest length hlength =>
    intro _
    obtain ⟨t, after, -, -, rfl, -⟩ := exists_blockEnd hlength
    have hend := settled_blockEndFrom (P := AtLineEnd) hlength
    rw [Nat.add_comm]
    exact hend.cons fun {t u} h => by rw [cutSlash_star, cutSlash_star, h]
  | case3 rest hnone => exact nofun
  | case4 => exact nofun

/-- An `@` is punctuation unless a string or a letter follows. -/
theorem cutAt_of_not_head (h : ∀ c ∈ s.head?, (c = '"' || isLetter c) = false) :
    cutAt s = (.punctuation, 0) := by
  cases s with
  | nil => rfl
  | cons c s =>
    obtain ⟨hquote, hletter⟩ := Bool.or_eq_false_iff.1 (h c rfl)
    rw [cutAt, if_neg (of_decide_eq_false hquote), if_neg (by simp [hletter])]

/-- What an `@` starts is settled by its characters, if it is closed. -/
theorem settled_cutAt (hclosed : ∀ opener, (cutAt s).1 ≠ .unclosed opener) :
    Settled (Replaces (s.drop (cutAt s).2)) cutAt s (cutAt s).2 := by
  have hgap : ∀ c ∈ gapChars, Text.isWord c = false := fun c hc => (gapChars_spec c hc).1
  by_cases hlead : ∀ c ∈ s.head?, (c = '"' || isLetter c) = false
  · rw [cutAt_of_not_head hlead]
    exact settled_zero (forall_gapChars (by decide)) (fun _ => cutAt_of_not_head) hlead
  · push Not at hlead
    obtain ⟨c, hc, hlead⟩ := hlead
    obtain ⟨rest, rfl⟩ := List.head?_eq_some_iff.1 hc
    by_cases hquote : c = '"'
    · subst hquote
      have hcut : ∀ t, cutAt ('"' :: t) = match quotedLength '"' t with
          | some length => (.string, 1 + length)
          | none => (.unclosed .string, 1) := fun t => rfl
      cases hlength : quotedLength '"' rest with
      | none => exact absurd (by rw [hcut, hlength]) (hclosed .string)
      | some length =>
        rw [hcut, hlength]
        dsimp only
        rw [Nat.add_comm]
        exact (settled_quotedLength (by decide) hlength).cons fun {t u} h => by rw [hcut, hcut, h]
    · have hletter : isLetter c = true := by simpa [hquote] using hlead
      have hcut : ∀ t, cutAt (c :: t) = (.keyword, 1 + spanLength Text.isWord t) := by
        intro t
        rw [cutAt, if_neg hquote, if_pos hletter]
      rw [hcut]
      dsimp only
      rw [Nat.add_comm, List.drop_succ_cons]
      exact (settled_spanLength_of_gap hgap rest).cons fun {t u} h => by rw [hcut, hcut, h]

/-- A point is punctuation unless a digit follows. -/
theorem cut_dot_of_not_head (h : ∀ c ∈ s.head?, Text.isDigit c = false) :
    cut '.' s = (.punctuation, 0) := by
  rw [cut_dot]
  cases s with
  | nil => rfl
  | cons d s => exact if_neg (by simp [h d rfl])

/-- What a point starts is settled by its characters. -/
theorem settled_cut_dot (s : List Char) :
    Settled (Replaces (s.drop (cut '.' s).2)) (cut '.') s (cut '.' s).2 := by
  by_cases hlead : ∀ c ∈ s.head?, Text.isDigit c = false
  · rw [cut_dot_of_not_head hlead]
    exact settled_zero (fun c hc => (gapChars_spec c hc).2.1) (fun _ => cut_dot_of_not_head) hlead
  · push Not at hlead
    obtain ⟨d, hd, hdigit⟩ := hlead
    obtain ⟨rest, rfl⟩ := List.head?_eq_some_iff.1 hd
    have hcut : ∀ t, cut '.' (d :: t) = (.number, 1 + run numberUnit t) := by
      intro t
      rw [cut_dot]
      exact if_pos (by simpa using hdigit)
    rw [hcut]
    dsimp only
    rw [Nat.add_comm, List.drop_succ_cons]
    exact (settled_numberRun rest).cons fun {t u} h => by rw [hcut, hcut, h]

/-- **Code without a `#`** does not notice what replaces the text behind it. -/
theorem settled_cut_code {c : Char} (hhash : c ≠ '#') (hgap : (cut c s).1.isGap = false)
    (hcomment : (cut c s).1.isComment = false)
    (hclosed : ∀ opener, (cut c s).1 ≠ .unclosed opener) :
    Settled (Replaces (s.drop (cut c s).2)) (cut c) s (cut c s).2 := by
  by_cases hlead : c ∈ leads
  · simp only [leads, List.mem_cons, List.not_mem_nil, or_false] at hlead
    rcases hlead with rfl | rfl | rfl | rfl | rfl | rfl
    · exact settled_cutSlash hcomment hclosed
    · cases hlength : quotedLength '"' s with
      | none => exact absurd (by rw [cut_string, hlength]) (hclosed .string)
      | some length =>
        rw [cut_string, hlength]
        exact (settled_quotedLength (by decide) hlength).map
          fun {t u} h => by rw [cut_string, cut_string, h]
    · cases hlength : quotedLength '\x27' s with
      | none => exact absurd (by rw [cut_character, hlength]) (hclosed .character)
      | some length =>
        have hcut : cut '\x27' s = (.character, length) := by
          rw [cut_character, hlength] at hclosed ⊢
          refine if_neg fun hempty => hclosed .character ?_
          exact congrArg Prod.fst (if_pos hempty)
        rw [hcut]
        exact (settled_quotedLength (by decide) hlength).map
          fun {t u} h => by rw [cut_character, cut_character, h]
    · exact absurd rfl hhash
    · exact settled_cutAt hclosed
    · exact settled_cut_dot s
  by_cases hidentifier : (isLetter c || c = '$') = true
  · have hcut : ∀ t, cut c t = (.identifier, spanLength (fun d => Text.isWord d || d = '$') t) := by
      intro t
      rw [cut_of_not_mem_leads hlead, if_pos hidentifier]
    rw [hcut]
    have hgaps : ∀ d ∈ gapChars, (Text.isWord d || d = '$') = false := by
      intro d hd
      obtain ⟨hword, -, -, hdollar⟩ := gapChars_spec d hd
      rw [hword, Bool.false_or, decide_eq_false hdollar]
    exact (settled_spanLength_of_gap hgaps s).map fun {t u} h => by rw [hcut, hcut, h]
  by_cases hdigit : Text.isDigit c = true
  · have hcut : ∀ t, cut c t = (.number, run numberUnit t) := by
      intro t
      rw [cut_of_not_mem_leads hlead, if_neg hidentifier, if_pos hdigit]
    rw [hcut]
    exact (settled_numberRun s).map fun {t u} h => by rw [hcut, hcut, h]
  -- What is left are gaps, and characters that are punctuation whatever follows.
  have hcut := cut_of_not_mem_leads hlead
  simp only [if_neg hidentifier, if_neg hdigit] at hcut
  rw [hcut] at hgap
  have hcr : c ≠ '\r' := fun h => by rw [if_pos h] at hgap; cases hgap
  rw [if_neg hcr] at hgap
  have hlf : c ≠ '\n' := fun h => by rw [if_pos h] at hgap; cases hgap
  rw [if_neg hlf] at hgap
  have hspace : ¬isInlineSpace c = true := fun h => by rw [if_pos h] at hgap; cases hgap
  simp only [if_neg hcr, if_neg hlf, if_neg hspace] at hcut
  rw [hcut]
  exact ⟨Nat.zero_le _, fun b _ => by rw [hcut, hcut]⟩

/-! ### The cut of what starts with a hash sign -/

/-- A word ends where no character of a word follows. -/
theorem atWordEnd_iff {s : List Char} :
    atWordEnd s = true ↔ ∀ c ∈ s.head?, Text.isWord c = false := by
  cases s <;> simp [atWordEnd]

/-- The words of messages are made of characters of words. -/
theorem isWord_messageWords : ∀ word ∈ messageWords, ∀ c ∈ word, Text.isWord c = true := by
  have hall : (messageWords.all fun word => word.all isLetter) = true := by decide
  intro word hword c hc
  exact isWord_of_isLetter (List.all_eq_true.1 (List.all_eq_true.1 hall word hword) c hc)

/-- A message word is a word of the text, whole. -/
theorem messageWordLength_append {w : List Char} (hw : ∀ c ∈ w, Text.isWord c = true)
    (hb : ∀ c ∈ b.head?, Text.isWord c = false) :
    messageWordLength (w ++ b) = if w ∈ messageWords then some w.length else none := by
  have hfound : ∀ word ∈ messageWords,
      (word.isPrefixOf (w ++ b) && atWordEnd ((w ++ b).drop word.length)) = decide (w = word) := by
    intro word hmem
    rw [Bool.eq_iff_iff, Bool.and_eq_true, decide_eq_true_eq]
    constructor
    · rintro ⟨hstart, hend⟩
      obtain ⟨rest, hrest⟩ := List.isPrefixOf_iff_prefix.1 hstart
      rw [← hrest, List.drop_left, atWordEnd_iff] at hend
      rw [← takeWhile_append hw hb, ← hrest, takeWhile_append (isWord_messageWords word hmem) hend]
    · rintro rfl
      refine ⟨List.isPrefixOf_iff_prefix.2 (List.prefix_append w b), ?_⟩
      rwa [List.drop_left, atWordEnd_iff]
  rw [messageWordLength, List.find?_congr hfound]
  by_cases hmem : w ∈ messageWords
  · cases hfind : messageWords.find? fun word => decide (w = word) with
    | none => simpa using List.find?_eq_none.1 hfind w hmem
    | some word =>
      obtain rfl : w = word := by simpa using List.find?_some hfind
      rw [if_pos hmem]
      rfl
  · have hnone : messageWords.find? (fun word => decide (w = word)) = none := by
      refine List.find?_eq_none.2 fun word hword heq => hmem ?_
      rwa [of_decide_eq_true heq]
    rw [if_neg hmem, hnone]
    rfl

/-- The blanks between a `#` and its word. -/
def isHashBlank (c : Char) : Bool := c = ' ' || c = '\t'

/-- No character of a word is a blank behind a `#`. -/
theorem isHashBlank_of_isWord {c : Char} (h : Text.isWord c = true) : isHashBlank c = false := by
  by_contra hblank
  simp only [isHashBlank, Bool.not_eq_false, Bool.or_eq_true, decide_eq_true_eq] at hblank
  have hmem : c ∈ gapChars := by rcases hblank with rfl | rfl <;> decide
  exact nomatch h.symm.trans (gapChars_spec c hmem).1

/-- A word does not start with a blank. -/
theorem not_hashBlank_head {w : List Char} (hw : ∀ c ∈ w, Text.isWord c = true) (hne : w ≠ [])
    (b : List Char) : ∀ c ∈ (w ++ b).head?, isHashBlank c = false := by
  obtain ⟨c, u, rfl⟩ := List.exists_cons_of_ne_nil hne
  rintro d ⟨⟩
  exact isHashBlank_of_isWord (hw c List.mem_cons_self)

section Hash

variable {g : List Char} (hg : ∀ c ∈ g, isHashBlank c = true)
include hg

/-- The blanks behind a `#` go as far as its word. -/
theorem spanLength_hashBlank (hb : ∀ c ∈ b.head?, isHashBlank c = false) :
    spanLength (fun c => c = ' ' || c = '\t') (g ++ b) = g.length :=
  spanLength_append hg hb

/-- A `#` with a message's word takes the message. -/
theorem cutHash_message {w : List Char} (hw : ∀ c ∈ w, Text.isWord c = true)
    (hb : ∀ c ∈ b.head?, Text.isWord c = false) (hmem : w ∈ messageWords) :
    cutHash (g ++ (w ++ b)) = (.message, g.length + w.length + run messageUnit b) := by
  have hne : w ≠ [] := by
    rintro rfl
    exact absurd hmem (by decide)
  have hgap := spanLength_hashBlank hg (not_hashBlank_head hw hne b)
  simp only [cutHash, hgap, List.drop_left, messageWordLength_append hw hb, if_pos hmem]

/-- A `#` with any other word is a directive and takes the word. -/
theorem cutHash_directive {c : Char} {u : List Char} (hw : ∀ d ∈ c :: u, Text.isWord d = true)
    (hb : ∀ c ∈ b.head?, Text.isWord c = false) (hmem : c :: u ∉ messageWords)
    (hletter : isLetter c = true) :
    cutHash (g ++ (c :: u ++ b)) = (.directive, g.length + 1 + u.length) := by
  have hgap := spanLength_hashBlank hg (not_hashBlank_head hw (List.cons_ne_nil c u) b)
  have hspan : spanLength Text.isWord (u ++ b) = u.length :=
    spanLength_append (List.forall_mem_cons.1 hw).2 hb
  simp only [cutHash, hgap, List.drop_left, messageWordLength_append hw hb, if_neg hmem]
  simp only [List.cons_append, if_pos hletter, hspan]

/-- A `#` without a word is punctuation. -/
theorem cutHash_punctuation (hb : ∀ c ∈ b.head?, isHashBlank c = false)
    (hletter : ∀ c ∈ b.head?, isLetter c = false) : cutHash (g ++ b) = (.punctuation, 0) := by
  have hgap := spanLength_hashBlank hg hb
  obtain ⟨w, rest, rfl, hw, hrest⟩ := exists_span Text.isWord b
  have hmem : w ∉ messageWords := by
    have hstart : (messageWords.all fun word => word.head?.any isLetter) = true := by decide
    intro hmem
    obtain ⟨c, hc, hc'⟩ := (Option.any_eq_true _ _).1 (List.all_eq_true.1 hstart w hmem)
    obtain ⟨u, rfl⟩ := List.head?_eq_some_iff.1 hc
    exact nomatch (hletter c rfl).symm.trans hc'
  simp only [cutHash, hgap, List.drop_left, messageWordLength_append hw hrest, if_neg hmem]
  cases hwr : w ++ rest with
  | nil => rfl
  | cons c tail => exact if_neg (by simp [hletter c (by rw [hwr]; rfl)])

end Hash

/-- What a `#` starts is settled by its characters at the end of a line, if it holds no CR. -/
theorem settled_cutHash (hcr : '\r' ∉ s.take (cutHash s).2) :
    Settled AtLineEnd cutHash s (cutHash s).2 := by
  obtain ⟨g, after, rfl, hg, hafter⟩ := exists_span isHashBlank s
  obtain ⟨w, rest, rfl, hw, hrest⟩ := exists_span Text.isWord after
  have hgapWord : ∀ c ∈ gapChars, Text.isWord c = false := fun c hc => (gapChars_spec c hc).1
  -- Behind the blanks there is a message's word, no letter, or another word.
  by_cases hmem : w ∈ messageWords
  · obtain ⟨body, behind, rfl, hrun, hbody⟩ := exists_settled_message_run rest
    have hcut := cutHash_message hg hw hrest hmem
    rw [hrun] at hcut
    have hs : g ++ (w ++ (body ++ behind)) = (g ++ (w ++ body)) ++ behind := by simp
    have hn : g.length + w.length + body.length = (g ++ (w ++ body)).length := by
      simp [Nat.add_assoc]
    rw [hcut] at hcr ⊢
    dsimp only at hcr ⊢
    rw [(take_drop_of_append hs hn).1] at hcr
    have hcrBody : '\r' ∉ body := fun h => hcr (by simp [h])
    refine .of_append hs hn fun b hb => ?_
    -- The word ends where it did, since what may follow now starts with no character of a word.
    have hnext := ((hb.replaces behind).append body).not_head hgapWord hrest
    rw [hcut, List.append_assoc, List.append_assoc, cutHash_message hg hw hnext hmem,
      hbody hcrBody b hb]
  by_cases hletter : ∀ c ∈ (w ++ rest).head?, isLetter c = false
  · have hcut := cutHash_punctuation hg hafter hletter
    rw [hcut]
    refine ⟨Nat.zero_le _, fun b hb => ?_⟩
    have halone : cutHash ([] ++ b) = (.punctuation, 0) :=
      cutHash_punctuation (fun _ h => nomatch h) (hb.not_head rfl) (hb.not_head rfl)
    rwa [hcut, List.take_zero]
  · push Not at hletter
    obtain ⟨c, hc, hletter⟩ := hletter
    have hletter : isLetter c = true := by simpa using hletter
    cases w with
    | nil => exact nomatch (hrest c hc).symm.trans (isWord_of_isLetter hletter)
    | cons d u =>
      obtain rfl : d = c := Option.some.inj hc
      have hcut := cutHash_directive hg hw hrest hmem hletter
      rw [hcut]
      have hs : g ++ (d :: u ++ rest) = (g ++ d :: u) ++ rest := by simp
      have hn : g.length + 1 + u.length = (g ++ d :: u).length := by
        simp only [List.length_append, List.length_cons]
        omega
      refine .of_append hs hn fun b hb => ?_
      have hnext := cutHash_directive hg hw (hb.not_head isWord_lf) hmem hletter
      rw [hcut, List.append_assoc, hnext]

/-! ### The cut -/

/-- **At the end of a line** every closed lexeme that is no gap is settled, unless it holds a CR. -/
theorem settled_cut {c : Char} (hgap : (cut c s).1.isGap = false)
    (hclosed : ∀ opener, (cut c s).1 ≠ .unclosed opener) (hcr : '\r' ∉ s.take (cut c s).2) :
    Settled AtLineEnd (cut c) s (cut c s).2 := by
  by_cases hhash : c = '#'
  · subst hhash
    exact settled_cutHash hcr
  cases hcomment : (cut c s).1.isComment with
  | false => exact (settled_cut_code hhash hgap hcomment hclosed).imp fun b hb => hb.replaces _
  | true =>
    obtain rfl : c = '/' := by
      obtain ⟨-, body, htext, -⟩ | ⟨-, body, htext⟩ := (shape_cut c s).comment_cases hcomment
      · exact (List.cons.inj htext).1
      · exact (List.cons.inj htext).1
    exact settled_cutSlash_comment hcomment

/-- **A settled lexeme** is the first one of its text and any that is admitted behind it, and the
lexemes of that text follow. -/
theorem lexemes_of_settled {c : Char} (h : Settled P (cut c) s (cut c s).2) (hb : P b) :
    lexemes (c :: s.take (cut c s).2 ++ b) =
      ⟨(cut c s).1, c :: s.take (cut c s).2⟩ :: lexemes b := by
  have hlength : (s.take (cut c s).2).length = (cut c s).2 := by
    rw [List.length_take, Nat.min_eq_left h.le_length]
  have hn : (cut c s).2 = (s.take (cut c s).2).length := hlength.symm
  rw [List.cons_append, lexemes_cons, h.take_append b hb, (take_drop_of_append rfl hn).1,
    (take_drop_of_append rfl hn).2]

/-- **By the cuts of a text:** what holds of the empty text, and of a text if it holds of what is
behind its first lexeme, holds of every text. -/
theorem cut_induction {P : List Char → Prop} (nil : P [])
    (cons : ∀ c s, P (s.drop (cut c s).2) → P (c :: s)) (s : List Char) : P s := by
  induction hlength : s.length using Nat.strong_induction_on generalizing s with
  | _ n ih =>
    cases s with
    | nil => exact nil
    | cons c s =>
      have hless : (s.drop (cut c s).2).length < n := by
        rw [← hlength, List.length_drop, List.length_cons]
        omega
      exact cons c s (ih _ hless _ rfl)

/-- Every lexeme of a text is the cut at its place. -/
theorem exists_cut_of_mem_lexemes {l : Lexeme} (h : l ∈ lexemes s) :
    ∃ c s', l = ⟨(cut c s').1, c :: s'.take (cut c s').2⟩ := by
  induction s using cut_induction with
  | nil =>
    rw [lexemes_nil] at h
    cases h
  | cons c s ih =>
    rw [lexemes_cons, List.mem_cons] at h
    rcases h with rfl | h
    · exact ⟨c, s, rfl⟩
    · exact ih h

/-- **A lexeme at the end of a line** is read from its text as it was read where it stood. -/
theorem lexemes_text_append {l : Lexeme} (h : l ∈ lexemes s) (hgap : l.kind.isGap = false)
    (hclosed : ∀ opener, l.kind ≠ .unclosed opener) (hcr : '\r' ∉ l.text) (hb : AtLineEnd b) :
    lexemes (l.text ++ b) = l :: lexemes b := by
  obtain ⟨c, s', rfl⟩ := exists_cut_of_mem_lexemes h
  have hcr : '\r' ∉ s'.take (cut c s').2 := fun h => hcr (List.mem_cons_of_mem c h)
  exact lexemes_of_settled (settled_cut hgap hclosed hcr) hb

end Lexeme
end LineMetrics
