import LineMetrics.Proofs.Lexeme.Concat
import LineMetrics.Proofs.Text.Crlf

/-!
# Lexemes of a text with LF written as CR LF

Most lexemes are cut from `crlf s` as they are from `s`, each with its LFs written as CR LF:
comments and gaps treat CR LF as one break, and the backslash of a message takes it whole.  The
backslash of a literal takes one character only.  So a literal that goes over a line in `s` is
unclosed in `crlf s`: its backslash takes the CR, and the LF ends it (`quotedLength_crlf`).
`Lexeme.inCrlf` says what becomes of a lexeme, and `cut_in_crlf` that every cut becomes this.
-/

namespace LineMetrics
namespace Lexeme

open Text (crlf)

/-- The opener of a literal that goes over a line: a backslash takes the LF. -/
def continued? (l : Lexeme) : Option Opener :=
  match l.kind with
  | .string => if '\n' ∈ l.text then some .string else none
  | .character => if '\n' ∈ l.text then some .character else none
  | _ => none

/-- Whether the lexeme has all of its delimiters. -/
def isClosed (l : Lexeme) : Bool :=
  match l.kind with
  | .unclosed _ => false
  | _ => true

/-- The lexemes of a text in front of the first unclosed opener. -/
def closedFront (s : List Char) : List Lexeme := (lexemes s).takeWhile isClosed

/-- What becomes of a lexeme where every LF is written as CR LF. -/
def inCrlf (l : Lexeme) : Lexeme where
  kind := match l.continued? with
    | some opener => .unclosed opener
    | none => l.kind
  text := crlf l.text

/-! ### Runs -/

/-- A span of a class without line breaks is as long in the text with CR LFs. -/
theorem spanLength_crlf {p : Char → Bool} (hlf : p '\n' = false) (hcr : p '\r' = false)
    (s : List Char) : spanLength p (crlf s) = (crlf (s.take (spanLength p s))).length := by
  rw [take_spanLength, spanLength]
  induction s with
  | nil => rfl
  | cons c s ih =>
    by_cases hc : c = '\n'
    · rw [hc, Text.crlf_lf, List.takeWhile_cons_of_neg (by simp [hcr]),
        List.takeWhile_cons_of_neg (by simp [hlf])]
      rfl
    · rw [Text.crlf_cons hc, List.takeWhile_cons, List.takeWhile_cons]
      split
      · rw [Text.crlf_cons hc, List.length_cons, List.length_cons, ih]
      · rfl

/-- A run is the unit at the front and the run behind it. -/
theorem run_of_pos {unit : List Char → Nat} {s : List Char} (hs : s ≠ []) (h : 0 < unit s) :
    run unit s = unit s + run unit (s.drop (unit s)) := by
  obtain ⟨c, tail, rfl⟩ := List.exists_cons_of_ne_nil hs
  obtain ⟨extra, hextra⟩ := Nat.exists_eq_succ_of_ne_zero (Nat.ne_of_gt h)
  rw [run_of_unit hextra, hextra, List.drop_succ_cons]

/-- **A run of units that take a CR LF as they take an LF** is as long as the run in the text with
LFs, written with CR LFs. -/
theorem run_crlf {unit : List Char → Nat} (hlength : ∀ s, unit s ≤ s.length)
    (hunit : ∀ s, '\r' ∉ s → unit (crlf s) = (crlf (s.take (unit s))).length) :
    ∀ s, '\r' ∉ s → run unit (crlf s) = (crlf (s.take (run unit s))).length
  | s, h => by
    have hcrlf := hunit s h
    by_cases hzero : unit s = 0
    · rw [hzero] at hcrlf
      rw [run_of_end hzero, run_of_end hcrlf]
      rfl
    · have hpos : 0 < unit s := Nat.pos_of_ne_zero hzero
      have hs : s ≠ [] := by
        rintro rfl
        exact hzero (Nat.le_zero.1 (hlength []))
      have hfirst : s.take (unit s) ≠ [] := by
        rw [ne_eq, List.take_eq_nil_iff, not_or]
        exact ⟨hzero, hs⟩
      have hposcrlf : 0 < unit (crlf s) :=
        hcrlf ▸ List.length_pos_of_ne_nil (Text.crlf_ne_nil hfirst)
      have hbehind := run_crlf hlength hunit (s.drop (unit s))
        fun hmem => h (List.mem_of_mem_drop hmem)
      rw [run_of_pos hs hpos, run_of_pos (Text.crlf_ne_nil hs) hposcrlf, hcrlf, Text.drop_crlf,
        hbehind, List.take_add, Text.crlf_append, List.length_append]
termination_by s => s.length
decreasing_by
  have := List.length_pos_of_ne_nil hs
  rw [List.length_drop]
  omega

/-- A CR is no character of a word. -/
theorem isWord_cr : Text.isWord '\r' = false := by decide +kernel

/-- A unit of a number is the same in the text with CR LFs. -/
theorem numberUnit_crlf (s : List Char) :
    numberUnit (crlf s) = (crlf (s.take (numberUnit s))).length := by
  have hquiet : crlf (s.take (numberUnit s)) = s.take (numberUnit s) :=
    Text.crlf_of_no_lf fun hmem => nomatch (numberUnit_spec s).2 '\n' hmem
  rw [hquiet, List.length_take, Nat.min_eq_left (numberUnit_spec s).1]
  rcases s with _ | ⟨c, _ | ⟨d, s⟩⟩
  · rfl
  · by_cases hc : c = '\n'
    · rw [hc, Text.crlf_lf]
      simp [numberUnit, isWord_lf, isWord_cr]
    · rw [Text.crlf_cons hc]
      rfl
  · by_cases hc : c = '\n'
    · rw [hc, Text.crlf_lf]
      simp [numberUnit, isWord_lf, isWord_cr]
    · by_cases hd : d = '\n'
      · rw [Text.crlf_cons hc, hd, Text.crlf_lf]
        simp [numberUnit]
      · rw [Text.crlf_cons hc, Text.crlf_cons hd]
        rfl

/-- **The run of a number** is the same in the text with CR LFs. -/
theorem numberRun_crlf : ∀ s, '\r' ∉ s →
    run numberUnit (crlf s) = (crlf (s.take (run numberUnit s))).length :=
  run_crlf (fun s => (numberUnit_spec s).1) fun s _ => numberUnit_crlf s

/-- The backslash of a message takes a CR LF whole. -/
theorem messageUnit_crlf {s : List Char} (h : '\r' ∉ s) :
    messageUnit (crlf s) = (crlf (s.take (messageUnit s))).length := by
  -- Case by case of a unit; a CR is in no case, and an LF is a break or behind a backslash.
  fun_cases messageUnit s with
  | case1 => rfl
  | case2 tail => simp at h
  | case3 d tail hcrlf =>
    by_cases hd : d = '\n'
    · rw [hd]
      rfl
    · have hcr : d ≠ '\r' := fun hd => h (by simp [hd])
      have hescape : crlf ('\\' :: d :: tail) = '\\' :: d :: crlf tail := by
        rw [Text.crlf_cons (by decide), Text.crlf_cons hd]
      rw [hescape, List.take_succ_cons, List.take_succ_cons, Text.crlf_cons (by decide),
        Text.crlf_cons hd]
      simp [messageUnit, hcr, Text.crlf_nil]
  | case4 => rfl
  | case5 d tail hcomment =>
    have hd : d ≠ '\n' := by
      rintro rfl
      exact absurd hcomment (by decide)
    rw [Text.crlf_cons (by decide), Text.crlf_cons hd]
    have hunit : messageUnit ('/' :: d :: crlf tail) = 0 := if_pos hcomment
    rw [hunit]
    rfl
  | case6 d tail hcomment =>
    by_cases hd : d = '\n'
    · rw [hd]
      rfl
    · rw [Text.crlf_cons (by decide), Text.crlf_cons hd]
      simp only [messageUnit, List.take_succ_cons, List.take_zero]
      simp [hcomment, Text.crlf]
  | case7 => rfl
  | case8 c tail hescape hslash hbreak =>
    have hlf : c = '\n' := by
      have hcr : c ≠ '\r' := fun hc => h (by simp [hc])
      simpa [Text.isBreak, hcr] using hbreak
    rw [hlf, Text.crlf_lf]
    rfl
  | case9 c tail hescape hslash hbreak =>
    have hlf : c ≠ '\n' := by
      rintro rfl
      exact hbreak rfl
    rw [Text.crlf_cons hlf]
    simp [messageUnit, hescape, hslash, hbreak, Text.crlf, hlf]

/-! ### Block comments -/

/-- A block comment ends at the same place of its text with CR LFs. -/
theorem blockEndFrom_crlf (s : List Char) :
    blockEndFrom 0 (crlf s) = (blockEndFrom 0 s).map fun n => (crlf (s.take n)).length := by
  induction s with
  | nil => rfl
  | cons c s ih =>
    -- Where no end starts at `c`, the count goes on behind what is written for it.
    have hnext : ∀ {d : Char} {t : List Char}, ¬(d = '*' ∧ t.head? = some '/') →
        blockEndFrom 0 (d :: t) = (blockEndFrom 0 t).map (1 + ·) := by
      intro d t hend
      rw [blockEndFrom.eq_3, ← blockEndFrom_add]
      rintro rest rfl rfl
      exact hend ⟨rfl, rfl⟩
    by_cases hlf : c = '\n'
    · subst hlf
      rw [Text.crlf_lf, hnext (by simp), hnext (by simp), hnext (by simp), ih]
      cases blockEndFrom 0 s with
      | none => rfl
      | some n =>
        simp only [Option.map_some, Nat.add_comm 1 n, List.take_succ_cons, Text.crlf_lf,
          List.length_cons]
        congr 1
        omega
    · rw [Text.crlf_cons hlf]
      by_cases hend : c = '*' ∧ s.head? = some '/'
      · obtain ⟨rfl, hhead⟩ := hend
        obtain ⟨rest, rfl⟩ := List.head?_eq_some_iff.1 hhead
        rfl
      · have hcrlf : (crlf s).head? = some '/' → s.head? = some '/' := by
          intro hhead
          rcases s with _ | ⟨d, s⟩
          · cases hhead
          · by_cases hd : d = '\n'
            · rw [hd, Text.crlf_lf] at hhead
              cases hhead
            · rwa [Text.crlf_cons hd] at hhead
        rw [hnext hend, hnext fun h => hend ⟨h.1, hcrlf h.2⟩, ih]
        cases blockEndFrom 0 s with
        | none => rfl
        | some n =>
          simp only [Option.map_some, Nat.add_comm 1 n, List.take_succ_cons, Text.crlf_cons hlf,
            List.length_cons]
          congr 1
          omega

/-! ### Literals -/

/-- A body that goes over a line is cut short: its backslash takes the CR, and the LF is left. -/
theorem Quoted.exists_crlf_cut {quote : Char} {body : List Char} (h : Quoted quote body)
    (hlf : '\n' ∈ body) :
    ∃ first more, crlf body = first ++ '\n' :: more ∧ Quoted quote first := by
  induction h with
  | nil => exact absurd hlf List.not_mem_nil
  | @escape c body _ ih =>
    by_cases hc : c = '\n'
    · subst hc
      exact ⟨['\\', '\r'], crlf body, rfl, Quoted.nil.escape⟩
    · have hmem : '\n' ∈ body := by simpa [Ne.symm hc] using hlf
      obtain ⟨first, more, hcrlf, hfirst⟩ := ih hmem
      refine ⟨'\\' :: c :: first, more, ?_, hfirst.escape⟩
      rw [Text.crlf_cons (by decide), Text.crlf_cons hc, hcrlf]
      rfl
  | @plain c body hescape hquote hbreak _ ih =>
    have hc : c ≠ '\n' := by
      rintro rfl
      exact nomatch hbreak
    have hmem : '\n' ∈ body := by simpa [Ne.symm hc] using hlf
    obtain ⟨first, more, hcrlf, hfirst⟩ := ih hmem
    refine ⟨c :: first, more, ?_, .plain hescape hquote hbreak hfirst⟩
    rw [Text.crlf_cons hc, hcrlf]
    rfl

/-- **A literal is closed as before** if it does not go over a line, and unclosed if it does. -/
theorem quotedLength_crlf {quote : Char} (hescape : quote ≠ '\\')
    (hquiet : Text.isBreak quote = false) (s : List Char) :
    quotedLength quote (crlf s) = (quotedLength quote s).filter fun n => '\n' ∉ s.take n := by
  have hquote : quote ≠ '\n' ∧ quote ≠ '\r' := by simpa [Text.isBreak] using hquiet
  obtain ⟨body, rest, rfl, -, hbody, hrest⟩ := exists_quoted_run quote s
  rw [quotedLength_of_quoted hescape hbody hrest, Text.crlf_append]
  -- An LF in the body has a backslash in front of it; in the other text that takes the CR, and the
  -- LF behind it ends the literal there.
  by_cases hlf : '\n' ∈ body
  · obtain ⟨first, more, hcrlf, hfirst⟩ := hbody.exists_crlf_cut hlf
    have hends : EndsQuoted quote ('\n' :: (more ++ crlf rest)) := .inr (.inr ⟨_, _, rfl, .inr rfl⟩)
    have htake : '\n' ∈ (body ++ rest).take (body.length + 1) := by
      rw [List.take_length_add_append]
      exact List.mem_append_left _ hlf
    rw [hcrlf, List.append_assoc, List.cons_append, quotedLength_of_quoted hescape hfirst hends,
      if_neg (by simpa using Ne.symm hquote.1)]
    split
    · exact (if_neg (by simpa using htake)).symm
    · rfl
  · have hends : EndsQuoted quote (crlf rest) := by
      rcases hrest with rfl | rfl | ⟨c, tail, rfl, hc⟩
      · exact .inl rfl
      · exact .inr (.inl rfl)
      · refine .inr (.inr ?_)
        by_cases hc' : c = '\n'
        · exact ⟨'\r', '\n' :: crlf tail, by rw [hc', Text.crlf_lf], .inr rfl⟩
        · exact ⟨c, crlf tail, Text.crlf_cons hc' tail, hc⟩
    -- A quote follows the body in both texts or in neither.
    have hhead : (crlf rest).head? = some quote ↔ rest.head? = some quote := by
      rcases rest with _ | ⟨c, rest⟩
      · rfl
      · by_cases hc : c = '\n'
        · rw [hc, Text.crlf_lf]
          simp [Ne.symm hquote.1, Ne.symm hquote.2]
        · rw [Text.crlf_cons hc]
          rfl
    rw [Text.crlf_of_no_lf hlf, quotedLength_of_quoted hescape hbody hends]
    simp only [hhead]
    split
    · rename_i hclosed
      obtain ⟨after, rfl⟩ := List.head?_eq_some_iff.1 hclosed
      have htake : '\n' ∉ (body ++ quote :: after).take (body.length + 1) := by
        rw [List.take_length_add_append]
        simpa [hlf] using Ne.symm hquote.1
      exact (if_pos (by simpa using htake)).symm
    · rfl

/-! ### The cut -/

/-- What the cut of a text becomes where every LF is written as CR LF: the kind may be another, and
the length is that of what is written, unless the lexeme is unclosed now. -/
structure CutInCrlf (s : List Char) (r r' : Kind × Nat) : Prop where
  kind : r'.1 = (inCrlf ⟨r.1, s.take r.2⟩).kind
  length : continued? ⟨r.1, s.take r.2⟩ = none → r'.2 = (crlf (s.take r.2)).length

/-- Only literals become unclosed. -/
theorem CutInCrlf.of_eq {s : List Char} {kind : Kind} {n : Nat} {r' : Kind × Nat}
    (hkind : kind ≠ .string ∧ kind ≠ .character)
    (h : r' = (kind, (crlf (s.take n)).length)) : CutInCrlf s (kind, n) r' := by
  have hcontinued : continued? ⟨kind, s.take n⟩ = none := by
    rw [continued?]
    split
    · rename_i hstring
      exact absurd hstring hkind.1
    · rename_i hcharacter
      exact absurd hcharacter hkind.2
    · rfl
  subst h
  refine ⟨?_, fun _ => rfl⟩
  rw [inCrlf, hcontinued]

/-- A literal without an LF is closed, and one with an LF is unclosed. -/
theorem CutInCrlf.of_literal {s : List Char} {kind : Kind} {opener : Opener} {n : Nat}
    {r' : Kind × Nat} (hkind : kind = .string ∧ opener = .string ∨
      kind = .character ∧ opener = .character) (hn : n ≤ s.length)
    (hopen : '\n' ∈ s.take n → r'.1 = .unclosed opener)
    (hclosed : '\n' ∉ s.take n → r' = (kind, n)) : CutInCrlf s (kind, n) r' := by
  have hcontinued : continued? ⟨kind, s.take n⟩ =
      if '\n' ∈ s.take n then some opener else none := by
    rcases hkind with ⟨rfl, rfl⟩ | ⟨rfl, rfl⟩ <;> rfl
  by_cases hlf : '\n' ∈ s.take n
  · rw [if_pos hlf] at hcontinued
    refine ⟨by rw [hopen hlf, inCrlf, hcontinued], fun hnone => ?_⟩
    exact nomatch hcontinued.symm.trans hnone
  · rw [if_neg hlf] at hcontinued
    rw [hclosed hlf]
    refine ⟨by rw [inCrlf, hcontinued], fun _ => ?_⟩
    rw [Text.crlf_of_no_lf hlf, List.length_take, Nat.min_eq_left hn]

/-- A closed literal is no longer than its text. -/
theorem quotedLength_le {quote : Char} {s : List Char} {n : Nat}
    (h : quotedLength quote s = some n) : n ≤ s.length := by
  obtain ⟨hnone, -⟩ | ⟨body, rest, rfl, -, hsome⟩ := quotedLength_cases quote s
  · exact nomatch hnone.symm.trans h
  · obtain rfl := Option.some.inj (hsome.symm.trans h)
    rw [List.length_append, List.length_cons]
    omega

/-- What a slash starts in the text with CR LFs. -/
theorem cutSlash_crlf (s : List Char) : CutInCrlf s (cutSlash s) (cutSlash (crlf s)) := by
  rcases s with _ | ⟨c, s⟩
  · exact .of_eq (by decide) rfl
  by_cases hline : c = '/'
  · subst hline
    rw [Text.crlf_cons (by decide)]
    refine .of_eq (by decide) ?_
    rw [Text.length_crlf_take_cons (by decide), ← spanLength_crlf (by decide) (by decide)]
    rfl
  by_cases hblock : c = '*'
  · subst hblock
    have hend : ∀ t, blockEndFrom 1 t = (blockEndFrom 0 t).map (1 + ·) := blockEndFrom_add 1 0
    rw [Text.crlf_cons (by decide)]
    simp only [cutSlash, hend, blockEndFrom_crlf, Option.map_map]
    cases blockEndFrom 0 s with
    | none => exact .of_eq (by decide) rfl
    | some n =>
      refine .of_eq (by decide) ?_
      rw [Text.length_crlf_take_cons (by decide)]
      rfl
  · have hpunctuation : cutSlash (c :: s) = (.punctuation, 0) := by simp [cutSlash, hline, hblock]
    have hcrlf : cutSlash (crlf (c :: s)) = (.punctuation, 0) := by
      by_cases hlf : c = '\n'
      · rw [hlf, Text.crlf_lf]
        rfl
      · rw [Text.crlf_cons hlf]
        simp [cutSlash, hline, hblock]
    rw [hpunctuation, hcrlf]
    exact .of_eq (by decide) rfl

/-- A string, with the `"` behind an `@` or without one. -/
theorem string_crlf (before : List Char) (hbefore : '\n' ∉ before) (s : List Char) :
    let cutBehind (t : List Char) : Kind × Nat := match quotedLength '"' t with
      | some length => (.string, before.length + length)
      | none => (.unclosed .string, before.length)
    CutInCrlf (before ++ s) (cutBehind s) (cutBehind (crlf s)) := by
  intro cutBehind
  simp only [cutBehind, quotedLength_crlf (by decide : '"' ≠ '\\') rfl]
  cases hlength : quotedLength '"' s with
  | none =>
    refine .of_eq (by decide) ?_
    rw [List.take_left, Text.crlf_of_no_lf hbefore]
    rfl
  | some length =>
    have hle := quotedLength_le hlength
    have htake : (before ++ s).take (before.length + length) = before ++ s.take length :=
      List.take_length_add_append length
    have hlf : '\n' ∈ (before ++ s).take (before.length + length) ↔ '\n' ∈ s.take length := by
      rw [htake, List.mem_append, or_iff_right hbefore]
    refine .of_literal (.inl ⟨rfl, rfl⟩) (by rw [List.length_append]; omega) ?_ ?_
    · intro hopen
      rw [Option.filter_some, if_neg (by simpa using hlf.1 hopen)]
    · intro hclosed
      rw [Option.filter_some, if_pos (by simpa using mt hlf.2 hclosed)]

/-- What an `@` starts in the text with CR LFs. -/
theorem cutAt_crlf (s : List Char) : CutInCrlf s (cutAt s) (cutAt (crlf s)) := by
  have hpunctuation : ∀ t, CutInCrlf t (.punctuation, 0) (.punctuation, 0) := fun t =>
    .of_eq (by decide) rfl
  rcases s with _ | ⟨c, s⟩
  · exact hpunctuation []
  by_cases hlf : c = '\n'
  · subst hlf
    exact hpunctuation _
  rw [Text.crlf_cons hlf]
  by_cases hquote : c = '"'
  · subst hquote
    exact string_crlf ['"'] (by decide) s
  · simp only [cutAt, if_neg hquote]
    split
    · refine .of_eq (by decide) ?_
      rw [Text.length_crlf_take_cons hlf, ← spanLength_crlf isWord_lf isWord_cr]
    · exact hpunctuation _

/-- A word ends at the same place of the text with CR LFs. -/
theorem atWordEnd_crlf (s : List Char) : atWordEnd (crlf s) = atWordEnd s := by
  rcases s with _ | ⟨c, s⟩
  · rfl
  · by_cases hlf : c = '\n'
    · rw [hlf, Text.crlf_lf, atWordEnd, atWordEnd, isWord_lf, isWord_cr]
    · rw [Text.crlf_cons hlf]
      rfl

/-- A word without line breaks stands at the front of a text if it does with CR LFs. -/
theorem isPrefixOf_crlf {word : List Char} (hquiet : ∀ c ∈ word, Text.isBreak c = false)
    (s : List Char) : word.isPrefixOf (crlf s) = word.isPrefixOf s := by
  induction word generalizing s with
  | nil => simp
  | cons c word ih =>
    obtain ⟨hc, hword⟩ := List.forall_mem_cons.1 hquiet
    have hbreak : c ≠ '\n' ∧ c ≠ '\r' := by simpa [Text.isBreak] using hc
    rcases s with _ | ⟨d, s⟩
    · rfl
    · by_cases hlf : d = '\n'
      · rw [hlf, Text.crlf_lf]
        simp [List.isPrefixOf, beq_false_of_ne hbreak.1, beq_false_of_ne hbreak.2]
      · rw [Text.crlf_cons hlf, List.isPrefixOf, List.isPrefixOf, ih hword]

/-- A message's word is found at the same place of the text with CR LFs. -/
theorem messageWordLength_crlf (s : List Char) :
    messageWordLength (crlf s) = messageWordLength s := by
  have hfound : ∀ word ∈ messageWords,
      (word.isPrefixOf (crlf s) && atWordEnd ((crlf s).drop word.length)) =
        (word.isPrefixOf s && atWordEnd (s.drop word.length)) := by
    intro word hword
    have hquiet := isBreak_messageWords word hword
    rw [isPrefixOf_crlf hquiet]
    cases hprefix : word.isPrefixOf s with
    | false => rfl
    | true =>
      obtain ⟨rest, rfl⟩ := List.isPrefixOf_iff_prefix.1 hprefix
      have hlf : '\n' ∉ word := fun hmem => absurd (hquiet _ hmem) (by decide)
      rw [Text.crlf_append, Text.crlf_of_no_lf hlf, List.drop_left, List.drop_left, atWordEnd_crlf]
  rw [messageWordLength, messageWordLength, List.find?_congr hfound]

/-- What a `#` starts in the text with CR LFs. -/
theorem cutHash_crlf {s : List Char} (h : '\r' ∉ s) :
    CutInCrlf s (cutHash s) (cutHash (crlf s)) := by
  have hgap := spanLength_crlf (p := fun c => c = ' ' || c = '\t') (by decide) (by decide) s
  simp only [cutHash, hgap, Text.drop_crlf, messageWordLength_crlf]
  generalize spanLength (fun c => c = ' ' || c = '\t') s = gap
  obtain hnone | ⟨word, rest, hrest, hword, hsome⟩ := messageWordLength_cases (s.drop gap)
  · simp only [hnone]
    cases hdrop : s.drop gap with
    | nil => exact .of_eq (by decide) rfl
    | cons c tail =>
      by_cases hlf : c = '\n'
      · rw [hlf, Text.crlf_lf]
        exact .of_eq (by decide) rfl
      rw [Text.crlf_cons hlf]
      dsimp only
      by_cases hletter : isLetter c = true
      · rw [if_pos hletter, if_pos hletter]
        refine .of_eq (by decide) ?_
        rw [Nat.add_assoc, Nat.add_assoc, List.take_add, hdrop, Text.crlf_append,
          List.length_append, Text.length_crlf_take_cons hlf, ← spanLength_crlf isWord_lf isWord_cr]
      · rw [if_neg hletter, if_neg hletter]
        exact .of_eq (by decide) rfl
  · have hlf : '\n' ∉ word := fun hmem =>
      absurd (isBreak_messageWords word hword _ hmem) (by decide)
    have hcr : '\r' ∉ rest := fun hmem =>
      h (List.mem_of_mem_drop (hrest ▸ List.mem_append_right word hmem))
    have hrun := run_crlf messageUnit_le_length (fun _ => messageUnit_crlf) rest hcr
    simp only [hsome]
    simp only [hrest, Text.crlf_append, Text.crlf_of_no_lf hlf, List.drop_left, hrun]
    refine .of_eq (by decide) ?_
    rw [Nat.add_assoc, Nat.add_assoc, List.take_add, hrest, List.take_length_add_append,
      Text.crlf_append, Text.crlf_append, Text.crlf_of_no_lf hlf, List.length_append,
      List.length_append]

/-- What an apostrophe starts in the text with CR LFs. -/
theorem cut_character_crlf (s : List Char) :
    CutInCrlf s (cut '\x27' s) (cut '\x27' (crlf s)) := by
  rw [cut_character, cut_character, quotedLength_crlf (by decide) rfl]
  cases hlength : quotedLength '\x27' s with
  | none => exact .of_eq (by decide) rfl
  | some length =>
    have hle := quotedLength_le hlength
    dsimp only
    by_cases hempty : length = 1
    · -- An empty literal is unclosed anyway.
      rw [if_pos hempty]
      refine .of_eq (by decide) ?_
      rw [Option.filter_some]
      split_ifs
      · exact if_pos hempty
      · rfl
    · rw [if_neg hempty]
      refine .of_literal (.inr ⟨rfl, rfl⟩) hle (fun hopen => ?_) fun hclosed => ?_
      · rw [Option.filter_some, if_neg (by simpa using hopen)]
      · rw [Option.filter_some, if_pos (by simpa using hclosed)]
        exact if_neg hempty

/-- What a point starts in the text with CR LFs. -/
theorem cut_dot_crlf {s : List Char} (h : '\r' ∉ s) :
    CutInCrlf s (cut '.' s) (cut '.' (crlf s)) := by
  rw [cut_dot, cut_dot]
  rcases s with _ | ⟨c, s⟩
  · exact .of_eq (by decide) rfl
  by_cases hlf : c = '\n'
  · have hcr : Text.isDigit '\r' = false := by decide +kernel
    rw [hlf, Text.crlf_lf]
    simp only [digit_lf, hcr, Bool.false_eq_true, if_false]
    exact .of_eq (by decide) rfl
  rw [Text.crlf_cons hlf]
  dsimp only
  by_cases hdigit : Text.isDigit c = true
  · rw [if_pos hdigit, if_pos hdigit]
    refine .of_eq (by decide) ?_
    rw [Text.length_crlf_take_cons hlf,
      numberRun_crlf s fun hmem => h (List.mem_cons_of_mem c hmem)]
  · rw [if_neg hdigit, if_neg hdigit]
    exact .of_eq (by decide) rfl

/-- **Every cut becomes what `inCrlf` says.** -/
theorem cut_in_crlf {c : Char} {s : List Char} (hc : Text.isBreak c = false) (h : '\r' ∉ s) :
    CutInCrlf s (cut c s) (cut c (crlf s)) := by
  have hbreak : c ≠ '\n' ∧ c ≠ '\r' := by simpa [Text.isBreak] using hc
  by_cases hlead : c ∈ leads
  · simp only [leads, List.mem_cons, List.not_mem_nil, or_false] at hlead
    rcases hlead with rfl | rfl | rfl | rfl | rfl | rfl
    · exact cutSlash_crlf s
    · have hstring := string_crlf [] List.not_mem_nil s
      simp only [List.length_nil, Nat.zero_add, List.nil_append] at hstring
      exact hstring
    · exact cut_character_crlf s
    · exact cutHash_crlf h
    · exact cutAt_crlf s
    · exact cut_dot_crlf h
  rw [cut_of_not_mem_leads hlead, cut_of_not_mem_leads hlead, if_neg hbreak.2, if_neg hbreak.2,
    if_neg hbreak.1, if_neg hbreak.1]
  by_cases hidentifier : (isLetter c || c = '$') = true
  · rw [if_pos hidentifier, if_pos hidentifier]
    refine .of_eq (by decide) ?_
    rw [spanLength_crlf (by decide +kernel) (by decide +kernel)]
  rw [if_neg hidentifier, if_neg hidentifier]
  by_cases hdigit : Text.isDigit c = true
  · rw [if_pos hdigit, if_pos hdigit]
    exact .of_eq (by decide) (by rw [numberRun_crlf s h])
  rw [if_neg hdigit, if_neg hdigit]
  by_cases hspace : isInlineSpace c = true
  · rw [if_pos hspace, if_pos hspace]
    exact .of_eq (by decide) (by rw [spanLength_crlf (by decide) (by decide)])
  · rw [if_neg hspace, if_neg hspace]
    exact .of_eq (by decide) rfl

end Lexeme
end LineMetrics
