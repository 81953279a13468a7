import LineMetrics.Proofs.Lexeme.Shape

/-!
# Lexemes of a text put in front of another

What follows a text cannot change its lexemes if the text ends in an LF that is a newline of its
own.  Every lexeme before the LF is decided within the text: it has closed there, or something it
cannot go over was met, at the latest the LF itself.  So each cut stays as it was
(`cut_append_lf`), and the lexemes of the two texts stand one behind the other (`lexemes_append`).
-/

namespace LineMetrics
namespace Lexeme

variable {t b : List Char}

/-! ### Runs that an LF ends -/

/-- A span of a class without an LF stops before the LF. -/
theorem spanLength_append_lf {p : Char → Bool} (hlf : p '\n' = false) (t b : List Char) :
    spanLength p (t ++ '\n' :: b) = spanLength p t := by
  induction t with
  | nil => simp [spanLength, hlf]
  | cons c t ih =>
    simp only [spanLength, List.cons_append, List.takeWhile_cons] at ih ⊢
    split
    · rw [List.length_cons, List.length_cons, ih]
    · rfl

/-- A unit at the front of a text that goes on to an LF does not look behind it. -/
def IsLocal (unit : List Char → Nat) : Prop :=
  ∀ t b, unit (t ++ '\n' :: b) = unit (t ++ ['\n'])

/-- A unit of a literal does not look behind an LF. -/
theorem isLocal_quotedUnit (quote : Char) : IsLocal (quotedUnit quote) := by
  rintro (_ | ⟨c, t⟩) b
  · rfl
  · simp [quotedUnit]

/-- A unit of a message does not look behind an LF. -/
theorem isLocal_messageUnit : IsLocal messageUnit := by
  rintro (_ | ⟨c, _ | ⟨d, _ | ⟨e, t⟩⟩⟩) b
  · rfl
  · simp [messageUnit]
  · by_cases hd : d = '\r' <;> simp [messageUnit, hd]
  · by_cases hd : d = '\r'
    · by_cases he : e = '\n' <;> simp [messageUnit, hd, he]
    · simp [messageUnit, hd]

/-- An LF is no character of a word. -/
theorem isWord_lf : Text.isWord '\n' = false := by decide +kernel

/-- A unit of a number does not look behind an LF. -/
theorem isLocal_numberUnit : IsLocal numberUnit := by
  rintro (_ | ⟨c, _ | ⟨d, t⟩⟩) b
  · cases b <;> simp [numberUnit, isWord_lf]
  · simp [numberUnit]
  · simp [numberUnit]

/-- **A run that stops before the LF** is the same whatever follows the LF. -/
theorem run_append_lf {unit : List Char → Nat} (hlocal : IsLocal unit) : ∀ t b : List Char,
    run unit (t ++ ['\n']) ≤ t.length → run unit (t ++ '\n' :: b) = run unit (t ++ ['\n'])
  | [], b, h => by
    -- A unit that took the LF would make the run too long.
    have hend : unit ([] ++ ['\n']) = 0 := by
      by_contra hne
      obtain ⟨extra, hextra⟩ := Nat.exists_eq_succ_of_ne_zero hne
      rw [List.nil_append] at h hextra
      rw [run_of_unit hextra, List.length_nil] at h
      omega
    rw [run_of_end hend, run_of_end ((hlocal [] b).trans hend)]
  | c :: t, b, h => by
    have hunit := hlocal (c :: t) b
    cases hfirst : unit (c :: t ++ ['\n']) with
    | zero => rw [run_of_end hfirst, run_of_end (hunit.trans hfirst)]
    | succ extra =>
      rw [hfirst] at hunit
      rw [List.cons_append] at h hfirst hunit ⊢
      rw [List.cons_append, run_of_unit hfirst, run_of_unit hunit]
      rw [run_of_unit hfirst, List.length_cons] at h
      -- The unit ends before the LF, and the run goes on in a shorter text.
      have hextra : extra ≤ t.length := by omega
      rw [List.drop_append_of_le_length hextra] at h ⊢
      rw [List.drop_append_of_le_length hextra, run_append_lf hlocal (t.drop extra) b]
      rw [List.length_drop]
      omega
termination_by t => t.length
decreasing_by simp only [List.length_cons, List.length_drop]; omega

/-- A literal that is closed in front of an LF is closed there whatever follows. -/
theorem quotedLength_append_lf {quote : Char} (hquote : quote ≠ '\n') {length : Nat}
    (h : quotedLength quote (t ++ ['\n']) = some length) :
    quotedLength quote (t ++ '\n' :: b) = some length := by
  simp only [quotedLength] at h ⊢
  split at h
  · rename_i hhead
    have hshort : run (quotedUnit quote) (t ++ ['\n']) < t.length := by
      by_contra hge
      rw [List.drop_append, List.drop_eq_nil_of_le (Nat.le_of_not_lt hge), List.nil_append] at hhead
      have hmem := List.mem_of_mem_drop (List.mem_of_mem_head? hhead)
      exact hquote (List.mem_singleton.1 hmem)
    rw [run_append_lf (isLocal_quotedUnit quote) t b (Nat.le_of_lt hshort)]
    rw [List.drop_append_of_le_length (Nat.le_of_lt hshort), List.head?_append] at hhead ⊢
    exact (if_pos hhead).trans h
  · cases h

/-- A block comment that has ended is not changed by what follows. -/
theorem blockEndFrom_append {count length : Nat} {s : List Char}
    (h : blockEndFrom count s = some length) (b : List Char) :
    blockEndFrom count (s ++ b) = some length := by
  fun_induction blockEndFrom count s with
  | case1 => cases h
  | case2 => exact h
  | case3 count c rest hstart ih =>
    rw [List.cons_append, blockEndFrom]
    · exact ih h
    · rintro tail rfl htail
      cases rest with
      | nil => cases h
      | cons d rest => exact hstart rest rfl (by rw [(List.cons.inj htail).1])

/-! ### Message words -/

/-- Whether a word stands in front of an LF is decided before it. -/
theorem isPrefixOf_append_lf {word : List Char} (hword : '\n' ∉ word) (t b : List Char) :
    word.isPrefixOf (t ++ '\n' :: b) = word.isPrefixOf t := by
  induction word generalizing t with
  | nil => simp
  | cons c word ih =>
    simp only [List.mem_cons, not_or] at hword
    cases t with
    | nil => simp [List.isPrefixOf, Ne.symm hword.1]
    | cons d t => simp [List.isPrefixOf, ih hword.2]

/-- Whether a word ends in front of an LF is decided before it. -/
theorem atWordEnd_append_lf (t b : List Char) : atWordEnd (t ++ '\n' :: b) = atWordEnd t := by
  cases t with
  | nil => simp [atWordEnd, isWord_lf]
  | cons c t => rfl

/-- A message's word in front of an LF is found whatever follows the LF. -/
theorem messageWordLength_append_lf (t b : List Char) :
    messageWordLength (t ++ '\n' :: b) = messageWordLength t := by
  have hfound : ∀ word ∈ messageWords,
      (word.isPrefixOf (t ++ '\n' :: b) && atWordEnd ((t ++ '\n' :: b).drop word.length)) =
        (word.isPrefixOf t && atWordEnd (t.drop word.length)) := by
    intro word hword
    have hlf : '\n' ∉ word := fun h => nomatch isBreak_messageWords word hword _ h
    rw [isPrefixOf_append_lf hlf]
    cases hprefix : word.isPrefixOf t with
    | false => rfl
    | true =>
      have hlength := (List.isPrefixOf_iff_prefix.1 hprefix).length_le
      rw [List.drop_append_of_le_length hlength, atWordEnd_append_lf]
  rw [messageWordLength, messageWordLength, List.find?_congr hfound]

/-! ### The cut -/

/-- What a slash starts is the same whatever follows the LF, if it is closed there. -/
theorem cutSlash_append_lf (hclosed : ∀ opener, (cutSlash (t ++ ['\n'])).1 ≠ .unclosed opener)
    (b : List Char) : cutSlash (t ++ '\n' :: b) = cutSlash (t ++ ['\n']) := by
  rcases t with _ | ⟨c, t⟩
  · rfl
  by_cases hline : c = '/'
  · subst hline
    simp only [cutSlash, List.cons_append]
    rw [spanLength_append_lf (by decide), spanLength_append_lf (by decide)]
  by_cases hblock : c = '*'
  · subst hblock
    simp only [cutSlash, List.cons_append] at hclosed ⊢
    cases hend : blockEndFrom 1 (t ++ ['\n']) with
    | none => exact absurd (by rw [hend]) (hclosed .blockComment)
    | some length =>
      have hmore := blockEndFrom_append hend b
      rw [List.append_assoc, List.singleton_append] at hmore
      rw [hmore]
  · simp [cutSlash, hline, hblock]

/-- What an `@` starts is the same whatever follows the LF, if it is closed there. -/
theorem cutAt_append_lf (hclosed : ∀ opener, (cutAt (t ++ ['\n'])).1 ≠ .unclosed opener)
    (b : List Char) : cutAt (t ++ '\n' :: b) = cutAt (t ++ ['\n']) := by
  rcases t with _ | ⟨c, t⟩
  · simp [cutAt, isLetter]
  simp only [cutAt, List.cons_append] at hclosed ⊢
  by_cases hquote : c = '"'
  · simp only [if_pos hquote] at hclosed ⊢
    cases hlength : quotedLength '"' (t ++ ['\n']) with
    | none => exact absurd (by rw [hlength]) (hclosed .string)
    | some length => rw [quotedLength_append_lf (by decide) hlength]
  · rw [if_neg hquote, if_neg hquote, spanLength_append_lf isWord_lf,
      spanLength_append_lf isWord_lf]

/-- What a `#` starts is the same whatever follows the LF, if it stops before it. -/
theorem cutHash_append_lf (hshort : (cutHash (t ++ ['\n'])).2 ≤ t.length) (b : List Char) :
    cutHash (t ++ '\n' :: b) = cutHash (t ++ ['\n']) := by
  -- The blanks end before the LF, so the word behind them is looked up in the same place.
  have hgap : ∀ b, spanLength (fun c => c = ' ' || c = '\t') (t ++ '\n' :: b) =
      spanLength (fun c => c = ' ' || c = '\t') t := spanLength_append_lf (by decide) t
  have hle : spanLength (fun c => c = ' ' || c = '\t') t ≤ t.length :=
    (List.takeWhile_prefix _).length_le
  simp only [cutHash, hgap] at hshort ⊢
  generalize spanLength (fun c => c = ' ' || c = '\t') t = gap at *
  rw [List.drop_append_of_le_length hle, messageWordLength_append_lf] at hshort
  rw [List.drop_append_of_le_length hle, List.drop_append_of_le_length hle,
    messageWordLength_append_lf, messageWordLength_append_lf]
  obtain hnone | ⟨word, rest, hrest, -, hsome⟩ := messageWordLength_cases (t.drop gap)
  · rw [hnone]
    cases t.drop gap with
    | nil => rfl
    | cons c tail =>
      simp only [List.cons_append]
      rw [spanLength_append_lf isWord_lf, spanLength_append_lf isWord_lf]
  · -- A message's run has to stop before the LF, which its length says.
    have hword : word.length ≤ (t.drop gap).length := by rw [hrest, List.length_append]; omega
    rw [hsome] at hshort ⊢
    simp only [List.drop_append_of_le_length hword] at hshort ⊢
    rw [run_append_lf isLocal_messageUnit]
    rw [List.length_drop, List.length_drop]
    omega

/-- An LF is no digit. -/
theorem digit_lf : Text.isDigit '\n' = false := by decide +kernel

/-- A string that is closed in front of the LF is the same whatever follows. -/
theorem cut_string_append_lf
    (hclosed : ∀ opener, (cut '"' (t ++ ['\n'])).1 ≠ .unclosed opener) (b : List Char) :
    cut '"' (t ++ '\n' :: b) = cut '"' (t ++ ['\n']) := by
  rw [cut_string] at hclosed
  rw [cut_string, cut_string]
  cases hlength : quotedLength '"' (t ++ ['\n']) with
  | none => exact absurd (by rw [hlength]) (hclosed .string)
  | some length => rw [quotedLength_append_lf (by decide) hlength]

/-- A character literal that is closed in front of the LF is the same whatever follows. -/
theorem cut_character_append_lf
    (hclosed : ∀ opener, (cut '\x27' (t ++ ['\n'])).1 ≠ .unclosed opener) (b : List Char) :
    cut '\x27' (t ++ '\n' :: b) = cut '\x27' (t ++ ['\n']) := by
  rw [cut_character] at hclosed
  rw [cut_character, cut_character]
  cases hlength : quotedLength '\x27' (t ++ ['\n']) with
  | none => exact absurd (by rw [hlength]) (hclosed .character)
  | some length => rw [quotedLength_append_lf (by decide) hlength]

/-- What a point starts is the same whatever follows the LF, if it stops before it. -/
theorem cut_dot_append_lf (hshort : (cut '.' (t ++ ['\n'])).2 ≤ t.length) (b : List Char) :
    cut '.' (t ++ '\n' :: b) = cut '.' (t ++ ['\n']) := by
  rw [cut_dot] at hshort
  rw [cut_dot, cut_dot]
  cases t with
  | nil => simp [digit_lf]
  | cons d t =>
    simp only [List.cons_append] at hshort ⊢
    by_cases hd : Text.isDigit d = true
    · rw [if_pos hd] at hshort ⊢
      rw [if_pos hd, run_append_lf isLocal_numberUnit t b]
      dsimp only at hshort
      rw [List.length_cons] at hshort
      omega
    · rw [if_neg hd, if_neg hd]

/-- **A cut that stops before the LF** is the same whatever follows the LF, unless the lexeme does
not close. -/
theorem cut_append_lf (c : Char) (hclosed : ∀ opener, (cut c (t ++ ['\n'])).1 ≠ .unclosed opener)
    (hshort : (cut c (t ++ ['\n'])).2 ≤ t.length) (b : List Char) :
    cut c (t ++ '\n' :: b) = cut c (t ++ ['\n']) := by
  by_cases hlead : c ∈ leads
  · simp only [leads, List.mem_cons, List.not_mem_nil, or_false] at hlead
    rcases hlead with rfl | rfl | rfl | rfl | rfl | rfl
    · exact cutSlash_append_lf hclosed b
    · exact cut_string_append_lf hclosed b
    · exact cut_character_append_lf hclosed b
    · exact cutHash_append_lf hshort b
    · exact cutAt_append_lf hclosed b
    · exact cut_dot_append_lf hshort b
  -- No other character opens anything: what follows is a run of a class without LF, or nothing.
  rw [cut_of_not_mem_leads hlead] at hshort
  rw [cut_of_not_mem_leads hlead, cut_of_not_mem_leads hlead]
  by_cases hidentifier : (isLetter c || c = '$') = true
  · have hlf : (Text.isWord '\n' || '\n' = '$') = false := by decide +kernel
    rw [if_pos hidentifier, if_pos hidentifier, spanLength_append_lf hlf, spanLength_append_lf hlf]
  rw [if_neg hidentifier] at hshort ⊢
  rw [if_neg hidentifier]
  by_cases hdigit : Text.isDigit c = true
  · rw [if_pos hdigit] at hshort
    rw [if_pos hdigit, if_pos hdigit, run_append_lf isLocal_numberUnit t b hshort]
  rw [if_neg hdigit, if_neg hdigit]
  -- The LF of a CR LF is within the text.
  have hhead : (t ++ '\n' :: b).head? = (t ++ ['\n']).head? := by
    rw [List.head?_append, List.head?_append]
    rfl
  have hspace : isInlineSpace '\n' = false := by decide
  rw [hhead, spanLength_append_lf hspace, spanLength_append_lf hspace]

/-- An LF is a newline. -/
theorem cut_lf (b : List Char) : cut '\n' b = (.newline, 0) := by
  simp [cut, isLetter, digit_lf]

/-- A CR LF is one newline. -/
theorem cut_crlf (b : List Char) : cut '\r' ('\n' :: b) = (.newline, 1) := by
  have hdigit : Text.isDigit '\r' = false := by decide +kernel
  simp [cut, isLetter, hdigit]

/-- A newline by an LF is one whatever follows. -/
theorem lexemes_append_newline {a : List Char} {last : Lexeme} (hlexemes : lexemes a = [last])
    (hlast : last.kind = .newline) (hlf : a.getLast? = some '\n') (b : List Char) :
    lexemes (a ++ b) = last :: lexemes b := by
  have htext : a = last.text := by rw [← lexemes_flatten a, hlexemes, List.flatMap_singleton]
  obtain ⟨rest, hshape⟩ : ∃ rest, Shape last.kind last.text rest := by
    cases a with
    | nil => exact nomatch hlf
    | cons c s =>
      rw [lexemes_cons] at hlexemes
      rw [← (List.cons.inj hlexemes).1]
      exact ⟨_, shape_cut c s⟩
  obtain ⟨kind, text⟩ := last
  obtain rfl : kind = .newline := hlast
  obtain rfl : a = text := htext
  cases hshape with
  | word hkind _ => exact absurd hkind (by simp [wordKinds])
  | newline hbreak =>
    obtain rfl | rfl | ⟨rfl, -⟩ := hbreak
    · rw [List.cons_append, List.singleton_append, lexemes_cons, cut_crlf]
      rfl
    · rw [List.singleton_append, lexemes_cons, cut_lf]
      rfl
    · exact absurd hlf (by decide)

/-- **Lexemes of two texts.**  Behind a text of closed lexemes of which the last one is a newline by
an LF, the lexemes are those of what follows. -/
theorem lexemes_append {ls : List Lexeme} {last : Lexeme} (hlast : last.kind = .newline)
    (hclosed : ∀ l ∈ ls, ∀ opener, l.kind ≠ .unclosed opener) {a : List Char}
    (hlexemes : lexemes a = ls ++ [last]) (hlf : a.getLast? = some '\n') (b : List Char) :
    lexemes (a ++ b) = ls ++ last :: lexemes b := by
  induction ls generalizing a with
  | nil => exact lexemes_append_newline hlexemes hlast hlf b
  | cons l ls ih =>
    obtain ⟨hl, hls⟩ := List.forall_mem_cons.1 hclosed
    cases a with
    | nil => exact nomatch hlf
    | cons c s =>
      rw [lexemes_cons] at hlexemes
      obtain ⟨hfirst, hrest⟩ := List.cons.inj hlexemes
      -- More lexemes follow, so the first one stops before the last LF.
      have hshort : (cut c s).2 < s.length := by
        by_contra hge
        rw [List.drop_eq_nil_of_le (Nat.le_of_not_lt hge), lexemes_nil] at hrest
        simp at hrest
      have hs : s.getLast? = some '\n' := by
        rwa [List.getLast?_cons_of_ne_nil (List.ne_nil_of_length_pos (by omega))] at hlf
      obtain ⟨t, rfl⟩ := List.getLast?_eq_some_iff.1 hs
      rw [List.length_append, List.length_singleton] at hshort
      have hle : (cut c (t ++ ['\n'])).2 ≤ t.length := Nat.le_of_lt_succ hshort
      have hcut := cut_append_lf c (by rw [← hfirst] at hl; exact hl) hle b
      have hdrop : (t ++ ['\n']).drop (cut c (t ++ ['\n'])).2 = t.drop _ ++ ['\n'] :=
        List.drop_append_of_le_length hle
      have hbehind := ih hls hrest (by rw [hdrop, List.getLast?_concat])
      rw [hdrop, List.append_assoc, List.singleton_append,
        ← List.drop_append_of_le_length hle] at hbehind
      rw [List.cons_append, List.append_assoc, List.singleton_append, lexemes_cons, hcut, hbehind,
        ← hfirst, List.take_append_of_le_length hle, List.take_append_of_le_length hle]
      rfl

end Lexeme
end LineMetrics
