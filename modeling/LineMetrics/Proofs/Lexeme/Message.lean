import LineMetrics.Proofs.Lexeme.Boundary

/-!
# Where a message ends

The free text of a message stops where a comment opens, with one exception: a backslash takes the
character behind it, so a slash that is escaped opens nothing (specification, section 2).
`endsEscaped` reads the backslashes of a text from the left and tells whether one is left for the
next character.  A whole unit of a message leaves none, so it may be put in front
(`endsEscaped_append_of_not`).  In `StopsAtComment` every opener inside a message has its slash
escaped, and behind the message there is nothing that would go on with it.
-/

namespace LineMetrics
namespace Lexeme

/-- Whether a text starts with `//` or `/*`. -/
def opensComment : List Char → Bool
  | '/' :: c :: _ => c = '/' || c = '*'
  | _ => false

/-- Whether a backslash at the end of a text takes the character behind it; one that is taken
itself takes nothing. -/
def endsEscaped (s : List Char) : Bool := s.foldl (fun escaped c => !escaped && c = '\\') false

/-- Where a message cannot go on: at the end of the text, at most a lone backslash before it, at a
break, or where a comment opens. -/
def EndsMessage (rest : List Char) : Prop :=
  rest = [] ∨ rest = ['\\'] ∨ (∃ c ∈ rest.head?, Text.isBreak c = true) ∨ opensComment rest = true

/-- A message and the text behind it: where a comment seems to open inside the message, a backslash
takes the slash, and behind the message it cannot go on. -/
structure StopsAtComment (message rest : List Char) : Prop where
  escaped : ∀ a b, message ++ rest = a ++ b → a.length < message.length → opensComment b = true →
    endsEscaped a = true
  ends : EndsMessage rest

/-- What opens a comment is a slash, with another one or a star behind it. -/
theorem slash_of_opensComment {c : Char} {s : List Char} (h : opensComment (c :: s) = true) :
    c = '/' ∧ ∃ d ∈ s.head?, (d = '/' || d = '*') = true := by
  rw [opensComment.eq_def] at h
  split at h
  · rename_i d rest heq
    obtain ⟨rfl, rfl⟩ := List.cons.inj heq
    exact ⟨rfl, d, rfl, h⟩
  · cases h

/-- The units of a message stop where the message ends. -/
theorem messageUnit_eq_zero_iff {s : List Char} : messageUnit s = 0 ↔ EndsMessage s := by
  constructor
  · fun_cases messageUnit s with
    | case1 => exact fun _ => .inl rfl
    | case4 => exact fun _ => .inr (.inl rfl)
    | case5 d tail hopener => exact fun _ => .inr (.inr (.inr hopener))
    | case8 c tail _ _ hbreak => exact fun _ => .inr (.inr (.inl ⟨c, rfl, hbreak⟩))
    | case2 | case3 | case6 | case7 | case9 => exact fun h => by cases h
  · rintro (rfl | rfl | ⟨c, hc, hbreak⟩ | hopens)
    · rfl
    · rfl
    · obtain ⟨tail, rfl⟩ := List.head?_eq_some_iff.1 hc
      simp only [Text.isBreak, Bool.or_eq_true, decide_eq_true_eq] at hbreak
      rcases hbreak with rfl | rfl <;> rfl
    · cases s with
      | nil => cases hopens
      | cons c tail =>
        obtain ⟨rfl, d, hd, hopener⟩ := slash_of_opensComment hopens
        obtain ⟨tail, rfl⟩ := List.head?_eq_some_iff.1 hd
        exact if_pos hopener

/-- A text in which nothing is left to be escaped does not count. -/
theorem endsEscaped_append_of_not {u : List Char} (h : endsEscaped u = false) (a : List Char) :
    endsEscaped (u ++ a) = endsEscaped a := by
  rw [endsEscaped] at h
  rw [endsEscaped, List.foldl_append, h, endsEscaped]

/-- Without a backslash nothing is escaped. -/
theorem endsEscaped_of_no_backslash {u : List Char} (h : ∀ c ∈ u, c ≠ '\\') :
    endsEscaped u = false := by
  induction u with
  | nil => rfl
  | cons c u ih =>
    obtain ⟨hc, hu⟩ := List.forall_mem_cons.1 h
    have hfirst : endsEscaped [c] = false := decide_eq_false hc
    rw [← List.singleton_append, endsEscaped_append_of_not hfirst, ih hu]

/-- A text in front of a message takes no part in it, and no comment opens in that text but behind a
backslash. -/
theorem StopsAtComment.append {u message rest : List Char} (h : StopsAtComment message rest)
    (hu : endsEscaped u = false)
    (hopener : ∀ a v, u = a ++ v → v ≠ [] → opensComment (v ++ (message ++ rest)) = true →
      endsEscaped a = true) : StopsAtComment (u ++ message) rest := by
  refine ⟨fun a b heq hlength hb => ?_, h.ends⟩
  rw [List.append_assoc] at heq
  rw [List.length_append] at hlength
  rcases Nat.lt_or_ge a.length u.length with hshort | hlong
  · obtain ⟨v, rfl⟩ := List.prefix_of_prefix_length_le ⟨b, heq.symm⟩ (List.prefix_append u _)
      (Nat.le_of_lt hshort)
    rw [List.append_assoc] at heq
    obtain rfl := List.append_cancel_left heq
    refine hopener a v rfl ?_ hb
    rintro rfl
    simp at hshort
  · obtain ⟨a', rfl⟩ := List.prefix_of_prefix_length_le (List.prefix_append u _) ⟨b, heq.symm⟩ hlong
    rw [List.append_assoc] at heq
    rw [endsEscaped_append_of_not hu]
    rw [List.length_append] at hlength
    exact h.escaped a' b (List.append_cancel_left heq) (by omega) hb

/-- A text without slashes in front of a message. -/
theorem StopsAtComment.append_of_no_slash {u message rest : List Char}
    (h : StopsAtComment message rest) (hu : ∀ c ∈ u, c ≠ '\\' ∧ c ≠ '/') :
    StopsAtComment (u ++ message) rest := by
  refine h.append (endsEscaped_of_no_backslash fun c hc => (hu c hc).1) fun a v hav hv hb => ?_
  obtain ⟨c, v, rfl⟩ := List.exists_cons_of_ne_nil hv
  exact absurd (slash_of_opensComment hb).1 (hu c (by simp [hav])).2

/-- **The run of a message** stops at a comment.  By the units of the run: one that is no escape is
no slash in front of an opener's second character, and an escape takes one character, so that the
backslashes of what follows count from the left as before. -/
theorem exists_stopping_message_run : ∀ s, ∃ body rest, s = body ++ rest ∧
    run messageUnit s = body.length ∧ StopsAtComment body rest := by
  refine message_run_induction (P := StopsAtComment) ?_ ?_ ?_ ?_
  · exact fun rest hend =>
      ⟨fun _ _ _ hlength => absurd hlength (Nat.not_lt_zero _), messageUnit_eq_zero_iff.1 hend⟩
  · intro body rest hbody
    refine hbody.append (u := ['\\', '\r', '\n']) rfl fun a v hav hv hb => ?_
    obtain ⟨e, v, rfl⟩ := List.exists_cons_of_ne_nil hv
    obtain rfl := (slash_of_opensComment hb).1
    have hslash : '/' ∈ ['\\', '\r', '\n'] := by
      rw [hav]
      exact List.mem_append_right a List.mem_cons_self
    exact absurd hslash (by decide)
  · intro d body rest _ hbody
    refine hbody.append (u := ['\\', d]) rfl fun a v hav hv hb => ?_
    obtain ⟨e, v, rfl⟩ := List.exists_cons_of_ne_nil hv
    obtain rfl := (slash_of_opensComment hb).1
    match a, hav with
    | [], hav => exact absurd (List.cons.inj hav).1 (by decide)
    | [_], hav => rw [← (List.cons.inj hav).1]; rfl
    | _ :: _ :: a, hav => simp at hav
  · intro c body rest hunit hescape _ hbody
    refine hbody.append (u := [c]) (decide_eq_false hescape) fun a v hav hv hb => ?_
    obtain ⟨e, v, rfl⟩ := List.exists_cons_of_ne_nil hv
    match a, hav with
    | [], hav =>
      obtain ⟨rfl, rfl⟩ := List.cons.inj hav
      obtain ⟨rfl, e, he, hopener⟩ := slash_of_opensComment hb
      exact nomatch (messageUnit_slash_iff.1 hunit e he).symm.trans hopener
    | _ :: a, hav => simp at hav

/-! ### The lexeme -/

/-- What is left of the lexemes of a text are the lexemes of what is left of it. -/
theorem lexemes_flatMap_of_suffix {s : List Char} {ls : List Lexeme} (h : ls <:+ lexemes s) :
    lexemes (ls.flatMap Lexeme.text) = ls := by
  induction s using cut_induction with
  | nil =>
    rw [lexemes_nil, List.suffix_nil] at h
    rw [h, List.flatMap_nil, lexemes_nil]
  | cons c s ih =>
    rw [lexemes_cons, List.suffix_cons_iff] at h
    rcases h with rfl | h
    · rw [← lexemes_cons, lexemes_flatten]
    · exact ih h

/-- A `#` makes a message only together with a message word. -/
theorem exists_of_cutHash_message {s : List Char} (h : (cutHash s).1 = .message) :
    ∃ g w rest, s = g ++ (w ++ rest) ∧ (∀ c ∈ g, isHashBlank c = true) ∧ w ∈ messageWords ∧
      (∀ c ∈ rest.head?, Text.isWord c = false) ∧
      (cutHash s).2 = g.length + w.length + run messageUnit rest := by
  obtain ⟨g, after, rfl, hg, hafter⟩ := exists_span isHashBlank s
  obtain ⟨w, rest, rfl, hw, hrest⟩ := exists_span Text.isWord after
  by_cases hmem : w ∈ messageWords
  · exact ⟨g, w, rest, rfl, hg, hmem, hrest, by rw [cutHash_message hg hw hrest hmem]⟩
  by_cases hletter : ∀ c ∈ (w ++ rest).head?, isLetter c = false
  · rw [cutHash_punctuation hg hafter hletter] at h
    cases h
  · push Not at hletter
    obtain ⟨c, hc, hletter⟩ := hletter
    have hletter : isLetter c = true := by simpa using hletter
    cases w with
    | nil => exact nomatch (hrest c hc).symm.trans (isWord_of_isLetter hletter)
    | cons d u =>
      obtain rfl : d = c := Option.some.inj hc
      rw [cutHash_directive hg hw hrest hmem hletter] at h
      cases h

/-- Messages start with a `#`. -/
theorem eq_hash_of_cut {c : Char} {s : List Char} (h : (cut c s).1 = .message) : c = '#' := by
  have hshape := shape_cut c s
  rw [h] at hshape
  generalize htext : c :: s.take (cut c s).2 = text at hshape
  cases hshape with
  | message => exact (List.cons.inj htext).1
  | word hkind => exact absurd hkind (by decide)

/-- **A message stops at a comment.** -/
theorem stopsAtComment_of_cutHash {s : List Char} (h : (cutHash s).1 = .message) :
    StopsAtComment ('#' :: s.take (cutHash s).2) (s.drop (cutHash s).2) := by
  obtain ⟨g, w, rest, rfl, hg, hw, -, hlength⟩ := exists_of_cutHash_message h
  obtain ⟨body, behind, rfl, hrun, hbody⟩ := exists_stopping_message_run rest
  have hs : g ++ (w ++ (body ++ behind)) = g ++ (w ++ body) ++ behind := by simp
  have hn : (cutHash (g ++ (w ++ (body ++ behind)))).2 = (g ++ (w ++ body)).length := by
    rw [hlength, hrun]
    simp [Nat.add_assoc]
  rw [(take_drop_of_append hs hn).1, (take_drop_of_append hs hn).2, ← List.append_assoc,
    ← List.cons_append]
  refine hbody.append_of_no_slash (List.forall_mem_cons.2 ⟨by decide, fun c hc => ?_⟩)
  have hplain : (messageWords.all fun word => word.all fun c => c ≠ '\\' && c ≠ '/') = true := by
    decide
  rcases List.mem_append.1 hc with hc | hc
  · have hblank := hg c hc
    simp only [isHashBlank, Bool.or_eq_true, decide_eq_true_eq] at hblank
    rcases hblank with rfl | rfl <;> decide
  · simpa using List.all_eq_true.1 (List.all_eq_true.1 hplain w hw) c hc

/-- **A message among the lexemes of a text** stops at a comment, or where messages end. -/
theorem stopsAtComment_of_lexemes {s : List Char} {l : Lexeme} {before after : List Lexeme}
    (h : lexemes s = before ++ l :: after) (hmessage : l.kind = .message) :
    StopsAtComment l.text (after.flatMap Lexeme.text) := by
  have hsuffix : l :: after <:+ lexemes s := ⟨before, h.symm⟩
  have hlexemes := lexemes_flatMap_of_suffix hsuffix
  have hne : l.text ≠ [] := (mem_lexemes (h ▸ List.mem_append_right before List.mem_cons_self)).1
  obtain ⟨kind, text⟩ := l
  obtain ⟨c, t, rfl⟩ := List.exists_cons_of_ne_nil hne
  rw [List.flatMap_cons, List.cons_append] at hlexemes
  generalize t ++ List.flatMap Lexeme.text after = u at hlexemes
  rw [lexemes_cons] at hlexemes
  obtain ⟨hfirst, hrest⟩ := List.cons.inj hlexemes
  obtain ⟨hkind, htext⟩ := Lexeme.mk.inj hfirst
  have hcut := hkind.trans hmessage
  obtain rfl := eq_hash_of_cut hcut
  rw [← hrest, lexemes_flatten]
  exact htext ▸ stopsAtComment_of_cutHash hcut

/-- What opens a comment is one, if nothing is unclosed. -/
theorem exists_comment_of_opensComment {s : List Char} (h : opensComment s = true)
    (hclosed : ∀ l ∈ lexemes s, ∀ opener, l.kind ≠ .unclosed opener) :
    ∃ comment after, lexemes s = comment :: after ∧ comment.kind.isComment = true := by
  cases s with
  | nil => cases h
  | cons c s =>
    obtain ⟨rfl, d, hd, hopener⟩ := slash_of_opensComment h
    obtain ⟨s, rfl⟩ := List.head?_eq_some_iff.1 hd
    rw [lexemes_cons] at hclosed ⊢
    refine ⟨_, _, rfl, ?_⟩
    have hfirst := hclosed _ List.mem_cons_self
    simp only [Bool.or_eq_true, decide_eq_true_eq] at hopener
    rcases hopener with rfl | rfl
    · rfl
    · have hcut : cut '/' ('*' :: s) = _ := cutSlash_star s
      rw [hcut] at hfirst ⊢
      cases hend : blockEndFrom 1 s with
      | none => exact absurd (by rw [hend]) (hfirst .blockComment)
      | some length => rfl

end Lexeme
end LineMetrics
