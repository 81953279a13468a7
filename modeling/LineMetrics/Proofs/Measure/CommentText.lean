import LineMetrics.Proofs.Measure.Comments

/-!
# The lines of one comment

A comment that has contents is its contents between the delimiters of one family
(`CommentAnalyzer.eq_of_contents`; specification, section 4.2).  The delimiters of the C families
are quiet: they break no line and hold no letter and no number.  So the pieces of the contents,
numbered from the line the comment starts on, are the lines of the comment itself: they reach down
as far as its breaks (`CommentAnalyzer.exists_number_iff`), and a piece has a letter or a number
exactly where the comment has one behind as many breaks (`CommentAnalyzer.exists_worded_iff`).
Nothing here depends on where the comment comes from.
-/

namespace LineMetrics
namespace Text

/-- The text has a character with the property behind `k` breaks. -/
def HasOn (p : Char → Bool) (s : List Char) (k : Nat) : Prop :=
  ∃ before c after, s = before ++ c :: after ∧ p c = true ∧ breakCount before = k

variable {p : Char → Bool}

/-- The empty text has nothing on any line. -/
theorem not_hasOn_nil (k : Nat) : ¬HasOn p [] k := by
  rintro ⟨before, c, after, h, -, -⟩
  simp at h

/-- What a text has on a line its first character is, or the rest has it there, or one line higher
behind a break. -/
theorem hasOn_cons {c : Char} {rest : List Char} (h : ¬SplitsBreak [c] rest) (k : Nat) :
    HasOn p (c :: rest) k ↔ (p c = true ∧ k = 0) ∨
      ∃ j, HasOn p rest j ∧ k = j + if isBreak c then 1 else 0 := by
  constructor
  · rintro ⟨before, d, after, htext, hd, rfl⟩
    cases before with
    | nil =>
      obtain ⟨rfl, rfl⟩ := List.cons.inj htext
      exact .inl ⟨hd, rfl⟩
    | cons b before =>
      obtain ⟨rfl, rfl⟩ := List.cons.inj htext
      have hcount := breakCount_cons (not_splitsBreak_of_longer h)
      exact .inr ⟨_, ⟨before, d, after, rfl, hd, rfl⟩, hcount⟩
  · rintro (⟨hc, rfl⟩ | ⟨j, ⟨before, d, after, rfl, hd, rfl⟩, rfl⟩)
    · exact ⟨[], c, rest, rfl, hc, rfl⟩
    · exact ⟨c :: before, d, after, rfl, hd, breakCount_cons (not_splitsBreak_of_longer h)⟩

/-- Where breaks do not have the property, a break is only counted. -/
theorem hasOn_crlf (hp : ∀ c, isBreak c = true → p c = false) (rest : List Char) (k : Nat) :
    HasOn p ('\r' :: '\n' :: rest) k ↔ ∃ j, HasOn p rest j ∧ k = j + 1 := by
  constructor
  · rintro ⟨before, d, after, htext, hd, rfl⟩
    rcases before with _ | ⟨b, _ | ⟨b', before⟩⟩
    · obtain ⟨rfl, -⟩ := List.cons.inj htext
      exact nomatch hd.symm.trans (hp '\r' rfl)
    · obtain ⟨-, htext⟩ := List.cons.inj htext
      obtain ⟨rfl, -⟩ := List.cons.inj htext
      exact nomatch hd.symm.trans (hp '\n' rfl)
    · obtain ⟨hcr, htext⟩ := List.cons.inj htext
      obtain ⟨hlf, rfl⟩ := List.cons.inj htext
      rw [← hcr, ← hlf]
      exact ⟨_, ⟨before, d, after, rfl, hd, rfl⟩, breakCount.eq_2 before⟩
  · rintro ⟨j, ⟨before, d, after, rfl, hd, rfl⟩, rfl⟩
    exact ⟨'\r' :: '\n' :: before, d, after, rfl, hd, breakCount.eq_2 before⟩

/-- **A piece between breaks** has a character with the property exactly if the text has one behind
as many breaks as there are pieces before it. -/
theorem exists_splitLines_iff (hp : ∀ c, isBreak c = true → p c = false) (s : List Char) (k : Nat) :
    (∃ piece, (splitLines s)[k]? = some piece ∧ piece.any p = true) ↔ HasOn p s k := by
  -- Along the count of breaks: a break starts a new piece, any other character joins the first.
  fun_induction breakCount s generalizing k with
  | case1 =>
    refine iff_of_false ?_ (not_hasOn_nil k)
    rintro ⟨piece, hpiece, hany⟩
    obtain rfl : piece = [] := by
      simpa [splitLines, splitLinesFrom] using List.mem_of_getElem? hpiece
    cases hany
  | case2 rest ih =>
    have hpieces : splitLines ('\r' :: '\n' :: rest) = [] :: splitLines rest := rfl
    rw [hasOn_crlf hp, hpieces]
    cases k with
    | zero => simp
    | succ k => simpa using ih k
  | case3 c rest hcrlf hc ih =>
    have hsplit := not_splitsBreak_cons hcrlf
    rw [hasOn_cons hsplit, splitLines_cons hsplit, if_pos hc, if_pos hc]
    cases k with
    | zero => simp [hp c hc]
    | succ k => simpa using ih k
  | case4 c rest hcrlf hc ih =>
    have hsplit := not_splitsBreak_cons hcrlf
    rw [hasOn_cons hsplit, splitLines_cons hsplit, if_neg hc, if_neg hc]
    cases k with
    | zero =>
      have hfirst := ih 0
      cases hpieces : splitLines rest with
      | nil =>
        have hlength := length_splitLines rest
        simp [hpieces] at hlength
      | cons piece pieces =>
        rw [hpieces] at hfirst
        simpa using or_congr_right (a := p c = true) (by simpa using hfirst)
    | succ k =>
      have hlater : ((splitLines rest).modifyHead (c :: ·))[k + 1]? =
          (splitLines rest)[k + 1]? := by
        cases splitLines rest <;> rfl
      rw [hlater, ih]
      simp

/-- What has neither a break nor the property in front of a text changes nothing. -/
theorem hasOn_append_left {opening : List Char}
    (hquiet : ∀ c ∈ opening, isBreak c = false ∧ p c = false) (s : List Char) (k : Nat) :
    HasOn p (opening ++ s) k ↔ HasOn p s k := by
  induction opening with
  | nil => rfl
  | cons c opening ih =>
    obtain ⟨⟨hbreak, hc⟩, hrest⟩ := List.forall_mem_cons.1 hquiet
    have hsplit : ¬SplitsBreak [c] (opening ++ s) :=
      not_splitsBreak_of_no_break (List.forall_mem_singleton.2 hbreak)
    rw [List.cons_append, hasOn_cons hsplit, ← ih hrest]
    simp [hbreak, hc]

/-- A closing delimiter without such characters adds none to any line. -/
theorem hasOn_append_right {closing : List Char} (hquiet : ∀ c ∈ closing, p c = false)
    (s : List Char) (k : Nat) : HasOn p (s ++ closing) k ↔ HasOn p s k := by
  constructor
  · rintro ⟨before, c, after, htext, hc, hk⟩
    rcases List.append_eq_append_iff.1 htext with ⟨mid, -, hmid⟩ | ⟨mid, hs, hmid⟩
    · have hmem : c ∈ closing := hmid ▸ List.mem_append_right _ List.mem_cons_self
      exact nomatch hc.symm.trans (hquiet c hmem)
    · cases mid with
      | nil =>
        have hmem : c ∈ closing := by
          rw [List.nil_append] at hmid
          exact hmid ▸ List.mem_cons_self
        exact nomatch hc.symm.trans (hquiet c hmem)
      | cons d mid =>
        obtain ⟨rfl, rfl⟩ := List.cons.inj hmid
        exact ⟨before, c, mid, hs, hc, hk⟩
  · rintro ⟨before, c, after, rfl, hc, hk⟩
    exact ⟨before, c, after ++ closing, by simp, hc, hk⟩

end Text

namespace CommentFamily

/-- The delimiters of the C families hold no break, no letter and no number. -/
theorem quiet_of_mem_ofC {f : CommentFamily} (h : f ∈ ofC) : ∀ c ∈ f.opening ++ f.closing,
    Text.isBreak c = false ∧ Text.isAlphanumeric c = false := by
  have hall : ofC.all (fun f => (f.opening ++ f.closing).all fun c =>
      !Text.isBreak c && !Text.isAlphanumeric c) = true := by decide +kernel
  intro c hc
  simpa using List.all_eq_true.1 (List.all_eq_true.1 hall f h) c hc

/-- The contents of a comment have its breaks. -/
theorem breakCount_of_quiet {f : CommentFamily} (h : f ∈ ofC) (body : List Char) :
    Text.breakCount (f.opening ++ (body ++ f.closing)) = Text.breakCount body := by
  have hquiet := quiet_of_mem_ofC h
  have hopening : ∀ c ∈ f.opening, Text.isBreak c = false := fun c hc =>
    (hquiet c (List.mem_append_left _ hc)).1
  have hclosing : ∀ c ∈ f.closing, Text.isBreak c = false := fun c hc =>
    (hquiet c (List.mem_append_right _ hc)).1
  have hseam : ¬Text.SplitsBreak body f.closing := fun hs =>
    nomatch hclosing '\n' (List.mem_of_head? hs.2)
  rw [Text.breakCount_append (Text.not_splitsBreak_of_no_break hopening),
    Text.breakCount_append hseam, Text.breakCount_eq_zero hopening,
    Text.breakCount_eq_zero hclosing, Nat.zero_add, Nat.add_zero]

end CommentFamily

namespace CommentAnalyzer

variable {a : CommentAnalyzer}

/-- The family of a comment is the first one whose opener it starts with. -/
theorem familyOf_eq_ok {comment : List Char} {f : CommentFamily} : a.familyOf comment = .ok f ↔
    a.families.find? (fun f => f.opening.isPrefixOf comment) = some f := by
  rw [familyOf]
  cases a.families.find? fun f => f.opening.isPrefixOf comment <;> simp

/-- **Contents are what stands between the delimiters** of the comment's family. -/
theorem contents_eq_ok_iff {comment body : List Char} : a.contents comment = .ok body ↔
    ∃ f, a.familyOf comment = .ok f ∧ comment = f.opening ++ (body ++ f.closing) := by
  refine ⟨fun h => ?_, fun ⟨f, hfamily, hcomment⟩ => contents_eq_ok hcomment hfamily⟩
  obtain ⟨g, hfamily, h⟩ := bind_eq_ok_iff.1 h
  refine ⟨g, hfamily, ?_⟩
  have hopening : g.opening.isPrefixOf comment = true := by
    simpa using List.find?_some (familyOf_eq_ok.1 hfamily)
  obtain ⟨rest, rfl⟩ := List.isPrefixOf_iff_prefix.1 hopening
  dsimp only at h
  by_cases hshort : (g.opening ++ rest).length < g.minLength
  · rw [if_pos hshort] at h
    cases h
  · by_cases hclosing : g.closing.isSuffixOf (g.opening ++ rest) = true
    · rw [if_neg hshort, if_neg (by simpa using hclosing)] at h
      have hbody := Except.ok.inj h
      obtain ⟨before, hbefore⟩ := List.isSuffixOf_iff_suffix.1 hclosing
      have hlength := congrArg List.length hbefore
      simp only [List.length_append] at hlength
      rw [CommentFamily.minLength, List.length_append] at hshort
      -- The delimiters do not overlap, so what is in front of the closing one has the opening.
      have hprefix : g.opening <+: before :=
        List.prefix_of_prefix_length_le (List.prefix_append _ rest)
          (hbefore ▸ List.prefix_append _ _) (by omega)
      obtain ⟨middle, rfl⟩ := hprefix
      have hcut : (g.opening ++ rest).length - g.closing.length =
          (g.opening ++ middle).length := by
        rw [List.length_append, ← hlength]
        omega
      rw [hcut, ← hbefore, List.take_left, List.drop_left] at hbody
      rw [← hbefore, hbody, List.append_assoc]
    · rw [if_neg hshort, if_pos (by simp [hclosing])] at h
      cases h

/-- **What has contents is a comment:** its contents stand between the delimiters of a family. -/
theorem eq_of_contents {comment body : List Char} (h : a.contents comment = .ok body) :
    ∃ f ∈ a.families, comment = f.opening ++ (body ++ f.closing) := by
  obtain ⟨f, hfamily, hcomment⟩ := contents_eq_ok_iff.1 h
  exact ⟨f, List.mem_of_find?_eq_some (familyOf_eq_ok.1 hfamily), hcomment⟩

/-- The pieces of the contents are the lines of the comment, in place and in number. -/
theorem mem_commentLines {n : Node} {lines : List CommentLine} (h : a.commentLines n = .ok lines) :
    ∃ body, a.contents (n.text.getD []) = .ok body ∧ ∀ l, l ∈ lines ↔
      ∃ k : Nat, (Text.splitLines body)[k]? = some l.text ∧ l.number = n.start.line + k := by
  rw [commentLines] at h
  obtain ⟨body, hbody, h⟩ := bind_eq_ok_iff.1 h
  obtain rfl := Except.ok.inj h
  refine ⟨body, hbody, fun l => ?_⟩
  rw [List.mem_map]
  constructor
  · rintro ⟨⟨piece, k⟩, hpiece, rfl⟩
    exact ⟨k, List.mk_mem_zipIdx_iff_getElem?.1 hpiece, rfl⟩
  · rintro ⟨k, hpiece, hnumber⟩
    exact ⟨(l.text, k), List.mk_mem_zipIdx_iff_getElem?.2 hpiece, by dsimp only; rw [← hnumber]⟩

section

variable {n : Node} {lines : List CommentLine}

/-- **The lines of a comment of a C family** go from its first line down with its breaks. -/
theorem exists_number_iff (hfamilies : a.families = CommentFamily.ofC)
    (h : a.commentLines n = .ok lines) (line : Int) : (∃ l ∈ lines, l.number = line) ↔
      n.start.line ≤ line ∧ line ≤ n.start.line + Text.breakCount (n.text.getD []) := by
  obtain ⟨body, hbody, hmem⟩ := mem_commentLines h
  obtain ⟨f, hf, hcomment⟩ := eq_of_contents hbody
  rw [hcomment, CommentFamily.breakCount_of_quiet (hfamilies ▸ hf)]
  have hlength := Text.length_splitLines body
  constructor
  · rintro ⟨l, hl, rfl⟩
    obtain ⟨k, hpiece, hnumber⟩ := (hmem l).1 hl
    have hlt := (List.getElem?_eq_some_iff.1 hpiece).1
    omega
  · rintro ⟨hstart, hend⟩
    obtain ⟨k, rfl⟩ : ∃ k : Nat, line = n.start.line + k := ⟨(line - n.start.line).toNat, by omega⟩
    have hlt : k < (Text.splitLines body).length := by omega
    exact ⟨⟨_, _⟩, (hmem _).2 ⟨k, List.getElem?_eq_getElem hlt, rfl⟩, rfl⟩

/-- **A line of the comment has a letter or a number** where the comment has one behind the breaks
in front of the line. -/
theorem exists_worded_iff (hfamilies : a.families = CommentFamily.ofC)
    (h : a.commentLines n = .ok lines) (line : Int) :
    (∃ l ∈ lines, isBlankLine l.text = false ∧ l.number = line) ↔
      ∃ k : Nat, Text.HasOn Text.isAlphanumeric (n.text.getD []) k ∧ line = n.start.line + k := by
  obtain ⟨body, hbody, hmem⟩ := mem_commentLines h
  obtain ⟨f, hf, hcomment⟩ := eq_of_contents hbody
  have hquiet := CommentFamily.quiet_of_mem_ofC (hfamilies ▸ hf)
  have hbreak : ∀ c, Text.isBreak c = true → Text.isAlphanumeric c = false := by
    intro c hc
    obtain rfl | rfl : c = '\n' ∨ c = '\r' := by simpa [Text.isBreak] using hc
    · decide +kernel
    · decide +kernel
  have hpieces : ∀ k, Text.HasOn Text.isAlphanumeric (n.text.getD []) k ↔ ∃ piece,
      (Text.splitLines body)[k]? = some piece ∧ piece.any Text.isAlphanumeric = true := by
    intro k
    rw [Text.exists_splitLines_iff hbreak, hcomment,
      Text.hasOn_append_left fun c hc => hquiet c (List.mem_append_left _ hc),
      Text.hasOn_append_right fun c hc => (hquiet c (List.mem_append_right _ hc)).2]
  constructor
  · rintro ⟨l, hl, hworded, rfl⟩
    obtain ⟨k, hpiece, hnumber⟩ := (hmem l).1 hl
    exact ⟨k, (hpieces k).2 ⟨l.text, hpiece, by simpa [isBlankLine] using hworded⟩, hnumber⟩
  · rintro ⟨k, hk, rfl⟩
    obtain ⟨piece, hpiece, hany⟩ := (hpieces k).1 hk
    exact ⟨⟨_, piece⟩, (hmem _).2 ⟨k, hpiece, rfl⟩, by simpa [isBlankLine] using hany, rfl⟩

end

end CommentAnalyzer
end LineMetrics
