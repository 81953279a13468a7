import LineMetrics.Proofs.Lexeme.Message

/-!
# Lexemes of a text that is cut short

Behind a lexeme a text may be cut off anywhere, and the lexeme is read as it was
(`settled_cut_beginning`): a beginning of what followed goes on with it no more than the whole did,
and what was not closed in all of the text is not closed in a part of it.  Only a message may take
more, the slash of a comment that is cut in two.

Inside a lexeme the text may change its meaning; a block comment that is cut in two may give a line
comment free.  But if only blanks are cut off, then the lexeme that is cut in two is a message
(`eq_message_of_blank_suffix`), and what is left of it is a message, at most without its last
backslash (`exists_cut_short_run`).  So trimming the text in front of the first line comment brings
no line comment about: `not_lineComment_of_trimmed`.
-/

namespace LineMetrics

namespace Text

/-- The code points of blanks. -/
def blankCodes : List Nat := blankRanges.flatMap fun r => List.range' r.1 (r.2 + 1 - r.1)

/-- The code point of a blank is in a range of blanks. -/
theorem mem_blankCodes {c : Char} (h : isBlank c = true) : c.toNat ∈ blankCodes := by
  have hsorted : Ranges.Sorted blankRanges := ⟨by decide, by decide⟩
  obtain ⟨r, hr, hlow, hhigh⟩ := (Ranges.contains_iff hsorted _).1 h
  refine List.mem_flatMap.2 ⟨r, hr, List.mem_range'_1.2 ⟨hlow, ?_⟩⟩
  omega

/-- No blank is in a class that holds none of their code points. -/
theorem eq_false_of_isBlank {p : Char → Bool}
    (hp : (blankCodes.all fun n => !p (Char.ofNat n)) = true) {c : Char} (h : isBlank c = true) :
    p c = false := by
  have hc := List.all_eq_true.1 hp _ (mem_blankCodes h)
  rw [Char.ofNat_toNat] at hc
  simpa using hc

end Text

namespace Lexeme

variable {s b rest : List Char}

/-! ### Beginnings of what follows -/

/-- A beginning of a text may stand in its place. -/
theorem Replaces.of_beginning (h : b <+: rest) : Replaces rest b := by
  cases b with
  | nil => exact .inr (by simp)
  | cons c b =>
    obtain ⟨more, rfl⟩ := h
    exact .inl rfl

/-- A beginning of a text starts with no character that the text does not start with. -/
theorem not_head_of_beginning (h : b <+: rest) {p : Char → Bool}
    (hrest : ∀ c ∈ rest.head?, p c = false) : ∀ c ∈ b.head?, p c = false := by
  cases b with
  | nil => simp
  | cons c b =>
    obtain ⟨more, rfl⟩ := h
    exact hrest

/-- What is not closed in a text is not closed in a beginning of it. -/
theorem none_of_beginning {f : List Char → Option Nat}
    (hf : ∀ {n}, f b = some n → ∃ m, Settled (fun _ => True) f b m) (hb : b <+: s)
    (h : f s = none) : f b = none := by
  cases hclosed : f b with
  | none => rfl
  | some n =>
    obtain ⟨m, hsettled⟩ := hf hclosed
    obtain ⟨more, rfl⟩ := hb
    have hagain := hsettled.take_append (b.drop m ++ more) trivial
    rw [← List.append_assoc, List.take_append_drop] at hagain
    exact nomatch h.symm.trans (hagain.trans hclosed)

/-- A literal that is not closed in a text is not closed in a beginning of it. -/
theorem quotedLength_of_beginning {quote : Char} (hquote : quote ≠ '\\') (hb : b <+: s)
    (h : quotedLength quote s = none) : quotedLength quote b = none :=
  none_of_beginning (fun hclosed => ⟨_, settled_quotedLength hquote hclosed⟩) hb h

/-- A block comment that does not end in a text does not end in a beginning of it. -/
theorem blockEndFrom_of_beginning {count : Nat} (hb : b <+: s) (h : blockEndFrom count s = none) :
    blockEndFrom count b = none := by
  refine none_of_beginning (fun hclosed => ?_) hb h
  obtain ⟨t, after, -, -, rfl, -⟩ := exists_blockEnd hclosed
  exact ⟨t.length, settled_blockEndFrom hclosed⟩

/-! ### The cut, opener by opener -/

/-- What a slash starts is read as it was if the text behind it is cut off anywhere. -/
theorem settled_cutSlash_beginning (s : List Char) :
    Settled (· <+: s.drop (cutSlash s).2) cutSlash s (cutSlash s).2 := by
  fun_cases cutSlash s with
  | case1 rest =>
    have hline : ∀ t, cutSlash ('/' :: t) =
        (.lineComment, 1 + spanLength (fun c => !Text.isBreak c) t) := fun t => rfl
    rw [Nat.add_comm, List.drop_succ_cons]
    have hspan := settled_spanLength (p := fun c => !Text.isBreak c) rest fun b hb =>
      not_head_of_beginning hb (not_head_drop_spanLength (fun c => !Text.isBreak c) rest)
    exact hspan.cons fun {t u} h => by rw [hline, hline, h]
  | case2 rest length hlength =>
    obtain ⟨t, after, -, -, rfl, -⟩ := exists_blockEnd hlength
    rw [Nat.add_comm, List.drop_succ_cons]
    exact (settled_blockEndFrom hlength).cons fun {t u} h => by rw [cutSlash_star, cutSlash_star, h]
  | case3 rest hnone =>
    refine ⟨Nat.succ_le_succ (Nat.zero_le _), fun b hb => ?_⟩
    rw [List.take_succ_cons, List.take_zero, List.singleton_append, cutSlash_star, cutSlash_star,
      hnone, blockEndFrom_of_beginning hb hnone]
  | case4 s hline hblock =>
    refine ⟨Nat.zero_le _, fun b hb => ?_⟩
    have hs : ∀ c ∈ s.head?, (c = '/' || c = '*') = false := by
      intro c hc
      obtain ⟨rest, rfl⟩ := List.head?_eq_some_iff.1 hc
      simp only [Bool.or_eq_false_iff, decide_eq_false_iff_not]
      exact ⟨fun h => hline rest (by rw [h]), fun h => hblock rest (by rw [h])⟩
    rw [List.take_zero, List.nil_append, cutSlash_of_not_head hs,
      cutSlash_of_not_head (not_head_of_beginning hb hs)]

/-- A string is read as it was if the text behind it is cut off anywhere. -/
theorem settled_cut_string_beginning (s : List Char) :
    Settled (· <+: s.drop (cut '"' s).2) (cut '"') s (cut '"' s).2 := by
  rw [cut_string]
  cases hlength : quotedLength '"' s with
  | some length =>
    exact (settled_quotedLength (by decide) hlength).map
      fun {t u} h => by rw [cut_string, cut_string, h]
  | none =>
    refine ⟨Nat.zero_le _, fun b hb => ?_⟩
    rw [List.take_zero, List.nil_append, cut_string, cut_string, hlength,
      quotedLength_of_beginning (by decide) hb hlength]

/-- A character literal is read as it was if the text behind it is cut off anywhere. -/
theorem settled_cut_character_beginning (s : List Char) :
    Settled (· <+: s.drop (cut '\x27' s).2) (cut '\x27') s (cut '\x27' s).2 := by
  cases hlength : quotedLength '\x27' s with
  | some length =>
    by_cases hempty : length = 1
    · -- An empty literal is its opening quote alone, like one that is not closed.
      obtain ⟨hnone, -⟩ | ⟨body, rest, rfl, -, hsome⟩ := quotedLength_cases '\x27' s
      · exact nomatch hnone.symm.trans hlength
      obtain rfl : body = [] := by
        have hbody := Option.some.inj (hsome.symm.trans hlength)
        exact List.length_eq_zero_iff.1 (by omega)
      have hcut : ∀ t, cut '\x27' ('\x27' :: t) = (.unclosed .character, 0) := by
        intro t
        have hclosed : EndsQuoted '\x27' ('\x27' :: t) := .inr (.inr ⟨'\x27', t, rfl, .inl rfl⟩)
        have hquoted := quotedLength_of_quoted (by decide) .nil hclosed
        rw [cut_character, ← List.nil_append ('\x27' :: t), hquoted]
        rfl
      rw [List.nil_append, hcut]
      refine ⟨Nat.zero_le _, fun b hb => ?_⟩
      cases b with
      | nil =>
        have hnil : quotedLength '\x27' [] = none := by rw [quotedLength, run_nil]; rfl
        rw [List.take_zero, List.nil_append, hcut, cut_character, hnil]
      | cons d b =>
        obtain ⟨more, hmore⟩ := hb
        obtain rfl := (List.cons.inj hmore).1
        rw [List.take_zero, List.nil_append, hcut, hcut]
    · have hcut : cut '\x27' s = (.character, length) := by
        rw [cut_character, hlength]
        exact if_neg hempty
      rw [hcut]
      exact (settled_quotedLength (by decide) hlength).map
        fun {t u} h => by rw [cut_character, cut_character, h]
  | none =>
    have hcut : ∀ t, quotedLength '\x27' t = none → cut '\x27' t = (.unclosed .character, 0) := by
      intro t ht
      rw [cut_character, ht]
    rw [hcut s hlength]
    refine ⟨Nat.zero_le _, fun b hb => ?_⟩
    rw [List.take_zero, List.nil_append, hcut s hlength,
      hcut b (quotedLength_of_beginning (by decide) hb hlength)]

/-- What an `@` starts is read as it was if the text behind it is cut off anywhere. -/
theorem settled_cutAt_beginning (s : List Char) :
    Settled (· <+: s.drop (cutAt s).2) cutAt s (cutAt s).2 := by
  have hcut : ∀ t, quotedLength '"' t = none → cutAt ('"' :: t) = (.unclosed .string, 1) := by
    intro t hnone
    simp only [cutAt, hnone, if_true]
  by_cases hopen : ∃ t, s = '"' :: t ∧ quotedLength '"' t = none
  · obtain ⟨t, rfl, hnone⟩ := hopen
    rw [hcut t hnone]
    refine ⟨Nat.succ_le_succ (Nat.zero_le _), fun b hb => ?_⟩
    rw [List.take_succ_cons, List.take_zero, List.singleton_append,
      hcut b (quotedLength_of_beginning (by decide) hb hnone), hcut t hnone]
  · refine (settled_cutAt fun opener => ?_).imp fun b hb => .of_beginning hb
    revert hopen
    fun_cases cutAt s with
    | case3 rest hnone => exact fun hopen => absurd ⟨rest, rfl, hnone⟩ hopen
    | case1 | case2 | case4 | case5 => exact fun _ h => by cases h

/-- A gap is read as it was if the text behind it is cut off anywhere. -/
theorem settled_cut_gap_beginning {c : Char} (hgap : (cut c s).1.isGap = true) :
    Settled (· <+: s.drop (cut c s).2) (cut c) s (cut c s).2 := by
  obtain ⟨rfl, -⟩ | ⟨rfl, -⟩ | ⟨hc, -⟩ := cut_of_isGap rfl hgap
  · by_cases hlf : s.head? = some '\n'
    · obtain ⟨t, rfl⟩ := List.head?_eq_some_iff.1 hlf
      rw [cut_crlf]
      refine ⟨Nat.succ_le_succ (Nat.zero_le _), fun b _ => ?_⟩
      rw [List.take_succ_cons, List.take_zero, List.singleton_append, cut_crlf, cut_crlf]
    · rw [cut_cr hlf]
      refine ⟨Nat.zero_le _, fun b hb => ?_⟩
      have hb : b.head? ≠ some '\n' := fun h => by
        obtain ⟨t, rfl⟩ := List.head?_eq_some_iff.1 h
        obtain ⟨more, rfl⟩ := hb
        exact hlf rfl
      rw [List.take_zero, List.nil_append, cut_cr hlf, cut_cr hb]
  · rw [cut_lf]
    exact ⟨Nat.zero_le _, fun b _ => by rw [cut_lf, cut_lf]⟩
  · have hcut := cut_of_isInlineSpace hc
    rw [hcut]
    have hspan := settled_spanLength (p := isInlineSpace) s
      fun b hb => not_head_of_beginning hb (not_head_drop_spanLength isInlineSpace s)
    exact hspan.map fun {t u} h => by rw [hcut, hcut, h]

/-! ### Messages -/

/-- A backslash and the character behind it are a unit, unless that starts a CR LF. -/
theorem messageUnit_of_not_splitsBreak {d : Char} {t : List Char} (h : ¬Text.SplitsBreak [d] t) :
    messageUnit ('\\' :: d :: t) = 2 := by
  obtain hunit | ⟨tail, hs, -⟩ | ⟨_, _, -, hunit, -⟩ | ⟨_, _, hs, -, hescape, -⟩ :=
    messageUnit_cases ('\\' :: d :: t)
  · obtain hnil | hlone | ⟨c, hc, hbreak⟩ | hopens := messageUnit_eq_zero_iff.1 hunit
    · cases hnil
    · cases hlone
    · obtain rfl := Option.some.inj hc
      cases hbreak
    · exact absurd (slash_of_opensComment hopens).1 (by decide)
  · obtain ⟨rfl, rfl⟩ := List.cons.inj (List.cons.inj hs).2
    exact absurd ⟨rfl, rfl⟩ h
  · exact hunit
  · exact absurd (List.cons.inj hs).1.symm hescape

/-- A CR LF that is not cut through in a text is not cut through in a beginning of it. -/
theorem not_splitsBreak_of_beginning {t : List Char} (hb : b <+: t)
    (h : ¬Text.SplitsBreak s t) : ¬Text.SplitsBreak s b := by
  obtain ⟨more, rfl⟩ := hb
  exact Text.not_splitsBreak_of_longer h

/-- What ends a message ends it when it is cut short, but for the opener of a comment. -/
theorem EndsMessage.of_beginning (h : EndsMessage rest) (hb : b <+: rest) (hslash : b ≠ ['/']) :
    EndsMessage b := by
  cases b with
  | nil => exact .inl rfl
  | cons c b =>
    obtain ⟨more, rfl⟩ := hb
    obtain hnil | hlone | ⟨d, hd, hbreak⟩ | hopens := h
    · cases hnil
    · obtain ⟨rfl, hnil⟩ := List.cons.inj hlone
      obtain rfl := (List.append_eq_nil_iff.1 hnil).1
      exact .inr (.inl rfl)
    · exact .inr (.inr (.inl ⟨c, rfl, Option.some.inj hd ▸ hbreak⟩))
    · obtain ⟨rfl, -⟩ := slash_of_opensComment hopens
      cases b with
      | nil => exact absurd rfl hslash
      | cons d b => exact .inr (.inr (.inr hopens))

/-- **Behind a message** a text may be cut off, but not inside the opener of a comment. -/
theorem exists_message_run_of_beginning : ∀ s, ∃ body rest, s = body ++ rest ∧
    run messageUnit s = body.length ∧
    ∀ b, b <+: rest → b ≠ ['/'] → run messageUnit (body ++ b) = body.length := by
  refine message_run_induction (P := fun body rest =>
    ∀ b, b <+: rest → b ≠ ['/'] → run messageUnit (body ++ b) = body.length) ?_ ?_ ?_ ?_
  · intro rest hend b hb hslash
    exact run_of_end (messageUnit_eq_zero_iff.2
      ((messageUnit_eq_zero_iff.1 hend).of_beginning hb hslash))
  · intro body rest hbody b hb hslash
    have hcrlf : messageUnit ('\\' :: '\r' :: '\n' :: (body ++ b)) = 3 := rfl
    simp only [List.cons_append]
    rw [run_of_unit hcrlf, List.drop_succ_cons, List.drop_succ_cons, List.drop_zero,
      hbody b hb hslash]
    simp only [List.length_cons]
    omega
  · intro d body rest hd hbody b hb hslash
    have hbehind : body ++ b <+: body ++ rest := (List.prefix_append_right_inj body).2 hb
    have hescape := messageUnit_of_not_splitsBreak (not_splitsBreak_of_beginning hbehind hd)
    simp only [List.cons_append]
    rw [run_of_unit hescape, List.drop_succ_cons, List.drop_zero, hbody b hb hslash]
    simp only [List.length_cons]
    omega
  · intro c body rest hunit _ _ hbody b hb hslash
    have hbehind : body ++ b <+: body ++ rest := (List.prefix_append_right_inj body).2 hb
    have hplain := messageUnit_of_replaces hunit (.of_beginning hbehind)
    rw [List.cons_append, run_of_unit hplain, List.drop_zero, hbody b hb hslash, List.length_cons]
    omega

/-- What is left behind a run is what is left behind its first unit and the run from there. -/
theorem drop_run_of_unit {unit : List Char → Nat} {c : Char} {tail : List Char} {extra : Nat}
    (h : unit (c :: tail) = extra + 1) : (c :: tail).drop (run unit (c :: tail)) =
      (tail.drop extra).drop (run unit (tail.drop extra)) := by
  rw [run_of_unit h, List.drop_drop, Nat.add_right_comm, List.drop_succ_cons]

/-- **A message that is cut short** is a message up to its end, or up to a backslash that has lost
what is behind it. -/
theorem exists_cut_short_run : ∀ s, ∃ body rest, s = body ++ rest ∧
    run messageUnit s = body.length ∧ ∀ p, p <+: body →
      p.drop (run messageUnit p) = [] ∨ p.drop (run messageUnit p) = ['\\'] := by
  have hnil : ([] : List Char).drop (run messageUnit []) = [] := List.drop_nil
  have hlone : ['\\'].drop (run messageUnit ['\\']) = ['\\'] := by rw [run_of_end rfl]; rfl
  -- Unit by unit: a unit that is cut short is whole again, or it is a backslash alone.
  refine message_run_induction (P := fun body _ => ∀ p, p <+: body →
    p.drop (run messageUnit p) = [] ∨ p.drop (run messageUnit p) = ['\\']) ?_ ?_ ?_ ?_
  · intro rest _ p hp
    rw [List.prefix_nil.1 hp]
    exact .inl hnil
  · intro body rest hbody p hp
    rcases List.prefix_cons_iff.1 hp with rfl | ⟨q, rfl, hq⟩
    · exact .inl hnil
    rcases List.prefix_cons_iff.1 hq with rfl | ⟨r, rfl, hr⟩
    · exact .inr hlone
    rcases List.prefix_cons_iff.1 hr with rfl | ⟨u, rfl, hu⟩
    · have hcr : messageUnit ['\\', '\r'] = 2 := rfl
      rw [drop_run_of_unit hcr]
      exact .inl hnil
    · have hcrlf : messageUnit ('\\' :: '\r' :: '\n' :: u) = 3 := rfl
      rw [drop_run_of_unit hcrlf]
      exact hbody u hu
  · intro d body rest hd hbody p hp
    rcases List.prefix_cons_iff.1 hp with rfl | ⟨q, rfl, hq⟩
    · exact .inl hnil
    rcases List.prefix_cons_iff.1 hq with rfl | ⟨r, rfl, hr⟩
    · exact .inr hlone
    · have hbehind := hr.trans (List.prefix_append body rest)
      have hescape := messageUnit_of_not_splitsBreak (not_splitsBreak_of_beginning hbehind hd)
      rw [drop_run_of_unit hescape]
      exact hbody r hr
  · intro c body rest hunit _ _ hbody p hp
    rcases List.prefix_cons_iff.1 hp with rfl | ⟨q, rfl, hq⟩
    · exact .inl hnil
    · have hbehind := hq.trans (List.prefix_append body rest)
      rw [drop_run_of_unit (messageUnit_of_replaces hunit (.of_beginning hbehind))]
      exact hbody q hq

/-! ### The cut -/

/-- What may be left of the text behind a lexeme: a beginning of it, but behind a message not the
slash of a comment alone. -/
def CutsOff (kind : Kind) (rest b : List Char) : Prop := b <+: rest ∧ (kind = .message → b ≠ ['/'])

/-- What a `#` starts is read as it was if the text behind it is cut off, but not inside the opener
of a comment behind a message. -/
theorem settled_cutHash_beginning (s : List Char) :
    Settled (CutsOff (cutHash s).1 (s.drop (cutHash s).2)) cutHash s (cutHash s).2 := by
  obtain ⟨g, after, rfl, hg, hafter⟩ := exists_span isHashBlank s
  obtain ⟨w, rest, rfl, hw, hrest⟩ := exists_span Text.isWord after
  by_cases hmem : w ∈ messageWords
  · obtain ⟨body, behind, rfl, hrun, hbody⟩ := exists_message_run_of_beginning rest
    have hcut := cutHash_message hg hw hrest hmem
    rw [hrun] at hcut
    have hs : g ++ (w ++ (body ++ behind)) = (g ++ (w ++ body)) ++ behind := by simp
    have hn : g.length + w.length + body.length = (g ++ (w ++ body)).length := by
      simp [Nat.add_assoc]
    rw [hcut]
    refine .of_append hs hn fun b hb => ?_
    have hprefix : b <+: behind := by rw [← (take_drop_of_append hs hn).2]; exact hb.1
    have hnext := not_head_of_beginning ((List.prefix_append_right_inj body).2 hprefix) hrest
    rw [hcut, List.append_assoc, List.append_assoc, cutHash_message hg hw hnext hmem,
      hbody b hprefix (hb.2 rfl)]
  by_cases hletter : ∀ c ∈ (w ++ rest).head?, isLetter c = false
  · have hcut := cutHash_punctuation hg hafter hletter
    rw [hcut]
    refine ⟨Nat.zero_le _, fun b hb => ?_⟩
    -- What is left are blanks, or blanks and a beginning of what is no word.
    rw [List.take_zero, List.nil_append, hcut]
    rcases List.prefix_or_prefix_of_prefix hb.1 (List.prefix_append g _) with hblanks | ⟨b, rfl⟩
    · have halone := cutHash_punctuation (b := []) (fun c hc => hg c (hblanks.subset hc))
        (by simp) (by simp)
      rwa [List.append_nil] at halone
    · have hprefix : b <+: w ++ rest := (List.prefix_append_right_inj g).1 hb.1
      exact cutHash_punctuation hg (not_head_of_beginning hprefix hafter)
        (not_head_of_beginning hprefix hletter)
  · push Not at hletter
    obtain ⟨c, hc, hletter⟩ := hletter
    have hletter : isLetter c = true := by simpa using hletter
    have hword := isWord_of_isLetter hletter
    cases w with
    | nil =>
      rw [hrest c hc] at hword
      cases hword
    | cons d u =>
      obtain rfl : d = c := Option.some.inj hc
      have hcut := cutHash_directive hg hw hrest hmem hletter
      rw [hcut]
      have hs : g ++ (d :: u ++ rest) = (g ++ d :: u) ++ rest := by simp
      have hn : g.length + 1 + u.length = (g ++ d :: u).length := by
        simp only [List.length_append, List.length_cons]
        omega
      refine .of_append hs hn fun b hb => ?_
      have hprefix : b <+: rest := by rw [← (take_drop_of_append hs hn).2]; exact hb.1
      have hnext := cutHash_directive hg hw (not_head_of_beginning hprefix hrest) hmem hletter
      rw [hcut, List.append_assoc, hnext]

/-- The openers that may stay unclosed. -/
theorem mem_of_unclosed {c : Char} {opener : Opener} (h : (cut c s).1 = .unclosed opener) :
    c ∈ ['/', '"', '\x27', '@'] := by
  have hshape := shape_cut c s
  rw [h] at hshape
  generalize htext : c :: s.take (cut c s).2 = text at hshape
  cases hshape with
  | word hkind => exact absurd hkind (by simp [wordKinds])
  | openBlock => rw [(List.cons.inj htext).1]; decide
  | openString hsigil =>
    rcases hsigil with rfl | rfl
    · rw [(List.cons.inj htext).1]; decide
    · rw [(List.cons.inj htext).1]; decide
  | openCharacter => rw [(List.cons.inj htext).1]; decide

/-- **A lexeme is read as it was** if the text behind it is cut off anywhere. -/
theorem settled_cut_beginning (c : Char) (s : List Char) :
    Settled (CutsOff (cut c s).1 (s.drop (cut c s).2)) (cut c) s (cut c s).2 := by
  by_cases hhash : c = '#'
  · subst hhash
    exact settled_cutHash_beginning s
  refine Settled.imp (P := (· <+: s.drop (cut c s).2)) ?_ fun b hb => hb.1
  by_cases hopener : c ∈ ['/', '"', '\x27', '@']
  · simp only [List.mem_cons, List.not_mem_nil, or_false] at hopener
    rcases hopener with rfl | rfl | rfl | rfl
    · exact settled_cutSlash_beginning s
    · exact settled_cut_string_beginning s
    · exact settled_cut_character_beginning s
    · exact settled_cutAt_beginning s
  cases hgap : (cut c s).1.isGap with
  | true => exact settled_cut_gap_beginning hgap
  | false =>
    have hcomment : (cut c s).1.isComment = false := by
      by_contra hcomment
      have hcases := (shape_cut c s).comment_cases (by simpa using hcomment)
      obtain ⟨-, body, htext, -⟩ | ⟨-, body, htext⟩ := hcases
      · exact hopener ((List.cons.inj htext).1 ▸ List.mem_cons_self)
      · exact hopener ((List.cons.inj htext).1 ▸ List.mem_cons_self)
    have hclosed : ∀ opener, (cut c s).1 ≠ .unclosed opener := fun _ h =>
      hopener (mem_of_unclosed h)
    exact (settled_cut_code hhash hgap hcomment hclosed).imp fun b hb => .of_beginning hb

/-! ### What lexemes end in -/

/-- The characters that words and numbers are made of. -/
def inWord (c : Char) : Bool :=
  Text.isWord c || Text.isDigit c || ['$', '.', '+', '-', '@'].contains c

/-- No blank is a character of words or numbers. -/
theorem inWord_of_isBlank {c : Char} (h : Text.isBlank c = true) : inWord c = false :=
  Text.eq_false_of_isBlank (by decide +kernel) h

/-- Characters of words are characters of words and numbers. -/
theorem inWord_of_isWord {c : Char} (h : Text.isWord c = true) : inWord c = true := by
  rw [inWord, h, Bool.true_or, Bool.true_or]

/-- Digits are characters of words and numbers. -/
theorem inWord_of_isDigit {c : Char} (h : Text.isDigit c = true) : inWord c = true := by
  rw [inWord, h, Bool.or_true, Bool.true_or]

/-- The units of a number are made of characters of words and numbers. -/
theorem inWord_numberUnit (s : List Char) : ∀ c ∈ s.take (numberUnit s), inWord c = true := by
  have hpart : ∀ c, (Text.isWord c || c = '.') = true → inWord c = true := by
    intro c hc
    rcases Bool.or_eq_true_iff.1 hc with hword | hdot
    · exact inWord_of_isWord hword
    · rw [of_decide_eq_true hdot]
      decide +kernel
  fun_cases numberUnit s with
  | case1 => simp
  | case2 c d tail hsigned =>
    simp only [Bool.and_eq_true, Bool.or_eq_true, decide_eq_true_eq] at hsigned
    obtain ⟨hletter, hsign⟩ := hsigned
    have hc : inWord c = true := inWord_of_isWord (isWord_of_isLetter (by
      rcases hletter with ((rfl | rfl) | rfl) | rfl <;> decide))
    have hd : inWord d = true := by rcases hsign with rfl | rfl <;> decide +kernel
    simp [hc, hd]
  | case3 c d tail _ hc => simp [hpart c hc]
  | case4 => simp
  | case5 c hc => simp [hpart c hc]
  | case6 => simp

/-- The run of a number is made of characters of words and numbers. -/
theorem inWord_take_numberRun (s : List Char) :
    ∀ c ∈ s.take (run numberUnit s), inWord c = true := by
  obtain ⟨body, rest, hs, hrun, hbody⟩ := run_induction
    (P := fun body _ => ∀ c ∈ body, inWord c = true) (fun s => (numberUnit_spec s).1) (by simp)
    (by
      intro c tail extra body rest hunit _ hbody d hd
      have hfirst := inWord_numberUnit (c :: tail)
      rw [hunit, List.take_succ_cons] at hfirst
      exact (List.mem_append.1 (List.cons_append ▸ hd)).elim (hfirst d) (hbody d)) s
  rw [(take_drop_of_append hs hrun).1]
  exact hbody

/-- A directive ends in its word. -/
theorem inWord_getLast_cutHash (h : (cutHash s).1 ∈ wordKinds) :
    ∀ c ∈ ('#' :: s.take (cutHash s).2).getLast?, inWord c = true := by
  obtain ⟨g, after, rfl, hg, hafter⟩ := exists_span isHashBlank s
  obtain ⟨w, rest, rfl, hw, hrest⟩ := exists_span Text.isWord after
  by_cases hmem : w ∈ messageWords
  · rw [cutHash_message hg hw hrest hmem] at h
    exact absurd h (by simp [wordKinds])
  by_cases hletter : ∀ c ∈ (w ++ rest).head?, isLetter c = false
  · rw [cutHash_punctuation hg hafter hletter] at h
    exact absurd h (by decide)
  · push Not at hletter
    obtain ⟨c, hc, hletter⟩ := hletter
    have hletter : isLetter c = true := by simpa using hletter
    have hword := isWord_of_isLetter hletter
    cases w with
    | nil =>
      rw [hrest c hc] at hword
      cases hword
    | cons d u =>
      obtain rfl : d = c := Option.some.inj hc
      have hcut := cutHash_directive hg hw hrest hmem hletter
      have hs : g ++ (d :: u ++ rest) = (g ++ d :: u) ++ rest := by simp
      have hn : g.length + 1 + u.length = (g ++ d :: u).length := by
        simp only [List.length_append, List.length_cons]
        omega
      intro e he
      rw [hcut, (take_drop_of_append hs hn).1, ← List.cons_append,
        List.getLast?_append_of_ne_nil _ (List.cons_ne_nil d u)] at he
      exact inWord_of_isWord (hw e (List.mem_of_getLast? he))

/-- Words and numbers start with a plain character. -/
theorem isPlain_of_mem_wordKinds {c : Char} (h : (cut c s).1 ∈ wordKinds) : isPlain c = true := by
  have hshape := shape_cut c s
  generalize htext : c :: s.take (cut c s).2 = text at hshape
  generalize (cut c s).1 = kind at h hshape
  cases hshape with
  | word _ hplain => exact hplain c (htext ▸ List.mem_cons_self)
  | _ => exact absurd h (by decide)

/-- A word behind an `@` is made of the characters of words. -/
theorem inWord_of_cutAt (h : (cutAt s).1 ∈ wordKinds) :
    ∀ d ∈ '@' :: s.take (cutAt s).2, inWord d = true := by
  revert h
  fun_cases cutAt s with
  | case1 => exact fun h => absurd h (by decide)
  | case2 => exact fun h => absurd h (by simp [wordKinds])
  | case3 => exact fun h => absurd h (by decide)
  | case4 c rest _ hletter =>
    intro _
    rw [Nat.add_comm, List.take_succ_cons]
    refine List.forall_mem_cons.2 ⟨by decide +kernel, List.forall_mem_cons.2 ⟨?_, fun d hd => ?_⟩⟩
    · exact inWord_of_isWord (isWord_of_isLetter hletter)
    · exact inWord_of_isWord (of_mem_take_spanLength d hd)
  | case5 => exact fun h => absurd h (by decide)

/-- A number that starts with a point is made of the characters of numbers. -/
theorem inWord_of_cut_dot (h : (cut '.' s).1 ∈ wordKinds) :
    ∀ d ∈ '.' :: s.take (cut '.' s).2, inWord d = true := by
  rw [cut_dot] at h ⊢
  have hdot : inWord '.' = true := by decide +kernel
  cases s with
  | nil => exact absurd h (by decide)
  | cons d rest =>
    dsimp only at h ⊢
    by_cases hdigit : Text.isDigit d = true
    · rw [if_pos hdigit, Nat.add_comm]
      dsimp only
      rw [List.take_succ_cons]
      exact List.forall_mem_cons.2 ⟨hdot, List.forall_mem_cons.2
        ⟨inWord_of_isDigit hdigit, inWord_take_numberRun rest⟩⟩
    · rw [if_neg hdigit] at h
      exact absurd h (by decide)

/-- Words without a `#`, and numbers, are made of their characters throughout. -/
theorem inWord_of_cut {c : Char} (hhash : c ≠ '#') (h : (cut c s).1 ∈ wordKinds) :
    ∀ d ∈ c :: s.take (cut c s).2, inWord d = true := by
  by_cases hat : c = '@'
  · subst hat
    exact inWord_of_cutAt h
  by_cases hdot : c = '.'
  · subst hdot
    exact inWord_of_cut_dot h
  have hlead : c ∉ leads := by
    have hmarks := isPlain_iff.1 (isPlain_of_mem_wordKinds h)
    simp only [marks, leads, List.mem_cons, List.not_mem_nil, or_false] at hmarks ⊢
    tauto
  rw [cut_of_not_mem_leads hlead] at h ⊢
  by_cases hidentifier : (isLetter c || c = '$') = true
  · rw [if_pos hidentifier]
    refine List.forall_mem_cons.2 ⟨?_, fun d hd => ?_⟩
    · rcases Bool.or_eq_true_iff.1 hidentifier with hletter | hdollar
      · exact inWord_of_isWord (isWord_of_isLetter hletter)
      · rw [of_decide_eq_true hdollar]
        decide +kernel
    · rcases Bool.or_eq_true_iff.1 (of_mem_take_spanLength d hd) with hword | hdollar
      · exact inWord_of_isWord hword
      · rw [of_decide_eq_true hdollar]
        decide +kernel
  rw [if_neg hidentifier] at h ⊢
  by_cases hdigit : Text.isDigit c = true
  · rw [if_pos hdigit]
    exact List.forall_mem_cons.2 ⟨inWord_of_isDigit hdigit, inWord_take_numberRun s⟩
  · rw [if_neg hdigit] at h
    exact absurd h (by split_ifs <;> simp [wordKinds])

/-- **The last character of a word or a number** is one of the characters they are made of. -/
theorem inWord_getLast {c : Char} (h : (cut c s).1 ∈ wordKinds) :
    ∀ d ∈ (c :: s.take (cut c s).2).getLast?, inWord d = true := by
  by_cases hhash : c = '#'
  · subst hhash
    exact inWord_getLast_cutHash h
  · exact fun d hd => inWord_of_cut hhash h d (List.mem_of_getLast? hd)

/-- A lexeme that ends in a blank runs to the end of its line, or is a word, or a single character,
or nothing but blanks: the others end in a delimiter. -/
theorem Shape.cases_of_isBlank_getLast {kind : Kind} {text rest : List Char}
    (h : Shape kind text rest) (hlast : ∀ d ∈ text.getLast?, Text.isBlank d = true) :
    kind = .lineComment ∨ kind = .message ∨ kind ∈ wordKinds ∨ text.length = 1 ∨
      ∀ d ∈ text, Text.isBlank d = true := by
  have hends : ∀ (before : List Char) (d : Char), text = before ++ [d] →
      Text.isBlank d = true := by
    intro before d heq
    exact hlast d (by rw [heq, List.getLast?_concat]; rfl)
  cases h with
  | lineComment => exact .inl rfl
  | message => exact .inr (.inl rfl)
  | word hkind => exact .inr (.inr (.inl hkind))
  | punctuation => exact .inr (.inr (.inr (.inl rfl)))
  | openCharacter => exact .inr (.inr (.inr (.inl rfl)))
  | newline hnewline =>
    refine .inr (.inr (.inr (.inr fun d hd => ?_)))
    have hbreak : d = '\r' ∨ d = '\n' := by
      rcases hnewline with rfl | rfl | ⟨rfl, -⟩
      · simpa using hd
      · exact .inr (by simpa using hd)
      · exact .inl (by simpa using hd)
    rcases hbreak with rfl | rfl <;> decide +kernel
  | space hspaces =>
    refine .inr (.inr (.inr (.inr fun d hd => ?_)))
    have hspace := hspaces d hd
    simp only [isInlineSpace, Bool.or_eq_true, decide_eq_true_eq] at hspace
    rcases hspace with ((rfl | rfl) | rfl) | rfl <;> decide +kernel
  -- All other kinds end with their closing delimiter, or with an opener, and neither is blank.
  | @blockComment body rest =>
    have hslash := hends ('/' :: '*' :: (body ++ ['*'])) '/' (by simp [blockEnd])
    exact absurd hslash (by decide +kernel)
  | @string sigil body rest =>
    have hquote := hends (sigil ++ '"' :: body) '"' (by simp)
    exact absurd hquote (by decide +kernel)
  | @character body rest =>
    have hquote := hends ('\x27' :: body) '\x27' (by simp)
    exact absurd hquote (by decide +kernel)
  | openBlock =>
    have hstar := hends ['/'] '*' rfl
    exact absurd hstar (by decide +kernel)
  | @openString sigil rest =>
    have hquote := hends sigil '"' rfl
    exact absurd hquote (by decide +kernel)

/-- **Only a message is cut in two** where blanks are cut off: other lexemes do not end in a blank,
or are nothing but blanks. -/
theorem eq_message_of_blank_suffix {c : Char} {p v : List Char}
    (hline : (cut c s).1 ≠ .lineComment) (htext : s.take (cut c s).2 = p ++ v) (hv : v ≠ [])
    (hblank : ∀ d ∈ v, Text.isBlank d = true)
    (hp : ∀ d ∈ (c :: p).getLast?, Text.isBlank d = false) : (cut c s).1 = .message := by
  have hlast : ∀ d ∈ (c :: (p ++ v)).getLast?, Text.isBlank d = true := by
    intro d hd
    rw [← List.cons_append, List.getLast?_append_of_ne_nil _ hv] at hd
    exact hblank d (List.mem_of_getLast? hd)
  have hword := inWord_getLast (c := c) (s := s)
  have hshape := shape_cut c s
  rw [htext] at hshape hword
  rcases hshape.cases_of_isBlank_getLast hlast with
    hcomment | hmessage | hkind | hlength | hall
  · exact absurd hcomment hline
  · exact hmessage
  · have hd := List.getLast?_eq_some_getLast (List.cons_ne_nil c (p ++ v))
    have hvisible := hword hkind _ hd
    rw [inWord_of_isBlank (hlast _ hd)] at hvisible
    cases hvisible
  · rw [List.length_cons, Nat.add_eq_right, List.length_eq_zero_iff] at hlength
    exact absurd (List.append_eq_nil_iff.1 hlength).2 hv
  · have hvisible := hp _ (List.getLast?_eq_some_getLast (List.cons_ne_nil c p))
    rw [hall _ (List.mem_append_left v (List.getLast_mem (List.cons_ne_nil c p)))] at hvisible
    cases hvisible

/-- **Blanks cut off from a message** leave a message, and behind it at most a backslash. -/
theorem lexemes_of_cut_short_message {p v : List Char} (h : (cutHash s).1 = .message)
    (htext : s.take (cutHash s).2 = p ++ v) (hblank : ∀ d ∈ v, Text.isBlank d = true) :
    ∃ message rest, lexemes ('#' :: p) = ⟨.message, message⟩ :: lexemes rest ∧
      (rest = [] ∨ rest = ['\\']) := by
  obtain ⟨g, w, rest, rfl, hg, hw, hrest, hlength⟩ := exists_of_cutHash_message h
  obtain ⟨body, behind, rfl, hrun, hshort⟩ := exists_cut_short_run rest
  have hs : g ++ (w ++ (body ++ behind)) = g ++ (w ++ body) ++ behind := by simp
  have hn : (cutHash (g ++ (w ++ (body ++ behind)))).2 = (g ++ (w ++ body)).length := by
    rw [hlength, hrun]
    simp [Nat.add_assoc]
  rw [(take_drop_of_append hs hn).1, ← List.append_assoc] at htext
  -- No blank ends the word, so the blanks are cut off from the body.
  have hwords := isWord_messageWords w hw
  obtain ⟨q, rfl, hq⟩ : ∃ q, p = g ++ w ++ q ∧ q <+: body := by
    rcases List.append_eq_append_iff.1 htext with ⟨q, rfl, rfl⟩ | ⟨v', hgw, rfl⟩
    · exact ⟨q, rfl, List.prefix_append q v⟩
    · rcases List.eq_nil_or_concat' v' with rfl | ⟨v', d, rfl⟩
      · exact ⟨[], by simpa using hgw.symm, List.nil_prefix⟩
      · have hne : w ≠ [] := by
          rintro rfl
          exact absurd hw (by decide)
        have hd : d ∈ w.getLast? := by
          rw [← List.getLast?_append_of_ne_nil g hne, hgw, ← List.append_assoc,
            List.getLast?_concat]
          rfl
        have hword := inWord_of_isWord (hwords d (List.mem_of_getLast? hd))
        rw [inWord_of_isBlank (hblank d (by simp))] at hword
        cases hword
  have hnext := not_head_of_beginning (hq.trans (List.prefix_append body behind)) hrest
  have hcut : cut '#' (g ++ w ++ q) = (.message, g.length + w.length + run messageUnit q) := by
    rw [List.append_assoc]
    exact cutHash_message hg hwords hnext hw
  have hdrop : (g ++ w ++ q).drop (g.length + w.length + run messageUnit q) =
      q.drop (run messageUnit q) := by
    rw [← List.length_append, ← List.drop_drop, List.drop_left]
  rw [lexemes_cons, hcut, hdrop]
  exact ⟨_, _, rfl, hshort q hq⟩

/-! ### Trimming -/

/-- A `/*` starts with itself, closed or not. -/
theorem exists_text_of_star {ls : List Lexeme} {l : Lexeme}
    (h : lexemes ('/' :: '*' :: s) = l :: ls) : ∃ more, l.text = '/' :: '*' :: more := by
  have hcut : cut '/' ('*' :: s) = _ := cutSlash_star s
  rw [lexemes_cons, hcut] at h
  rw [← (List.cons.inj h).1]
  cases hend : blockEndFrom 1 s with
  | none => exact ⟨[], rfl⟩
  | some length =>
    obtain ⟨t, after, -, -, rfl, -⟩ := exists_blockEnd hend
    rw [Nat.add_comm]
    exact ⟨s.take t.length, rfl⟩

/-- Blanks and a slash do not make up what is in front of a line comment, where a comment opens. -/
theorem not_opensComment_of_trimmed {front back : List Lexeme} {blanks : List Char}
    (hlexemes : lexemes s = front ++ back) (hfront : ∀ l ∈ front, l.kind ≠ .lineComment)
    (htext : front.flatMap Lexeme.text = '/' :: blanks)
    (hblank : ∀ c ∈ blanks, Text.isBlank c = true) : opensComment s = false := by
  by_contra hopens
  rw [Bool.not_eq_false] at hopens
  cases s with
  | nil => cases hopens
  | cons c s =>
    obtain ⟨rfl, d, hd, hopener⟩ := slash_of_opensComment hopens
    obtain ⟨s, rfl⟩ := List.head?_eq_some_iff.1 hd
    simp only [Bool.or_eq_true, decide_eq_true_eq] at hopener
    cases front with
    | nil => cases htext
    | cons l front =>
      rcases hopener with rfl | rfl
      · rw [lexemes_cons] at hlexemes
        refine hfront l List.mem_cons_self ?_
        rw [← (List.cons.inj hlexemes).1]
        rfl
      · obtain ⟨more, hl⟩ := exists_text_of_star hlexemes
        rw [List.flatMap_cons, hl] at htext
        have hstar := hblank '*' (by rw [← (List.cons.inj htext).2]; exact List.mem_cons_self)
        exact absurd hstar (by decide +kernel)

/-- Of two ways to cut a text, one does not cut into what the other has in front, or it does. -/
theorem append_eq_append_cases {α : Type} {t u p v : List α} (h : t ++ u = p ++ v) :
    (∃ q, p = t ++ q ∧ u = q ++ v) ∨ ∃ q, q ≠ [] ∧ t = p ++ q ∧ v = q ++ u := by
  rcases List.append_eq_append_iff.1 h with ⟨q, hp, hu⟩ | ⟨q, ht, hv⟩
  · exact .inl ⟨q, hp, hu⟩
  · by_cases hq : q = []
    · subst hq
      exact .inl ⟨[], by simpa using ht.symm, by simpa using hv.symm⟩
    · exact .inr ⟨q, hq, ht, hv⟩

/-- Behind a lexeme in front of the first line comment, the text may be trimmed. -/
theorem cutsOff_of_trimmed {c : Char} {front back : List Lexeme} {q blanks : List Char}
    (hlexemes : lexemes (s.drop (cut c s).2) = front ++ back)
    (hfront : ∀ l ∈ front, l.kind ≠ .lineComment)
    (htext : front.flatMap Lexeme.text = q ++ blanks)
    (hblank : ∀ c ∈ blanks, Text.isBlank c = true) :
    CutsOff (cut c s).1 (s.drop (cut c s).2) q := by
  have hbehind : s.drop (cut c s).2 = q ++ (blanks ++ back.flatMap Lexeme.text) := by
    rw [← lexemes_flatten (s.drop _), hlexemes, List.flatMap_append, htext, List.append_assoc]
  refine ⟨⟨_, hbehind.symm⟩, fun hmessage hslash => ?_⟩
  subst hslash
  have hcloses := not_opensComment_of_trimmed hlexemes hfront htext hblank
  obtain rfl := eq_hash_of_cut hmessage
  have hends : EndsMessage (s.drop (cut '#' s).2) := (stopsAtComment_of_cutHash hmessage).ends
  rw [hbehind] at hends hcloses
  rcases hends with hnil | hlone | ⟨d, hd, hbreak⟩ | hopens
  · cases hnil
  · exact absurd (List.cons.inj hlone).1 (by decide)
  · obtain rfl := Option.some.inj hd
    cases hbreak
  · exact Bool.false_ne_true (hcloses.symm.trans hopens)

/-- **Trimming the text in front of the first line comment** brings no line comment about.  By the
lexemes of that text: one that is left whole is read as it was, and one that is cut in two is the
last of them and a message. -/
theorem not_lineComment_of_trimmed {front back : List Lexeme} {p blanks : List Char}
    (hlexemes : lexemes s = front ++ back) (hfront : ∀ l ∈ front, l.kind ≠ .lineComment)
    (htext : front.flatMap Lexeme.text = p ++ blanks)
    (hblank : ∀ c ∈ blanks, Text.isBlank c = true)
    (hp : ∀ c ∈ p.getLast?, Text.isBlank c = false) : ∀ l ∈ lexemes p, l.kind ≠ .lineComment := by
  induction s using cut_induction generalizing front p with
  | nil =>
    rw [lexemes_nil] at hlexemes
    obtain ⟨rfl, -⟩ := List.append_eq_nil_iff.1 hlexemes.symm
    obtain ⟨rfl, -⟩ := List.append_eq_nil_iff.1 htext.symm
    rw [lexemes_nil]
    exact List.forall_mem_nil _
  | cons c s ih =>
    cases p with
    | nil =>
      rw [lexemes_nil]
      exact List.forall_mem_nil _
    | cons d p =>
      cases front with
      | nil => cases htext
      | cons l front =>
        rw [lexemes_cons] at hlexemes
        obtain ⟨rfl, hrest⟩ := List.cons.inj hlexemes
        obtain ⟨hline, hfront⟩ := List.forall_mem_cons.1 hfront
        rw [List.flatMap_cons] at htext
        obtain ⟨rfl, hbehind⟩ := List.cons.inj htext
        -- The cut falls behind the first lexeme, which is then as it was, or inside of it.
        rcases append_eq_append_cases hbehind with ⟨q, rfl, hq⟩ | ⟨v, hv, htake, hblanks⟩
        · have hoff := cutsOff_of_trimmed hrest hfront hq hblank
          rw [← List.cons_append, lexemes_of_settled (settled_cut_beginning c s) hoff]
          refine List.forall_mem_cons.2 ⟨hline, ih hrest hfront hq fun d hd => hp d ?_⟩
          rw [← List.cons_append, List.getLast?_append, hd]
          rfl
        · have hvblank : ∀ d ∈ v, Text.isBlank d = true := fun d hd =>
            hblank d (hblanks ▸ List.mem_append_left _ hd)
          -- Only blanks are cut off, so the lexeme is a message; at most a backslash is left over.
          have hmessage := eq_message_of_blank_suffix hline htake hv hvblank hp
          obtain rfl := eq_hash_of_cut hmessage
          obtain ⟨message, rest, hcut, hnil⟩ := lexemes_of_cut_short_message hmessage htake hvblank
          rw [hcut]
          refine List.forall_mem_cons.2 ⟨nofun, ?_⟩
          rcases hnil with rfl | rfl
          · rw [lexemes_nil]
            exact List.forall_mem_nil _
          · have hlone : lexemes ['\\'] = [⟨.punctuation, ['\\']⟩] := by cbv
            rw [hlone]
            decide

end Lexeme
end LineMetrics
