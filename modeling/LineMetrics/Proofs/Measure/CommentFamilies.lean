import LineMetrics.Proofs.Measure.CommentText
import LineMetrics.Proofs.Syntax.Walk

/-!
# The family of a comment

An analyzer sorts its families once, those with longer openings first, and takes the first one that
starts a comment (specification, section 4.2).  Said of the list as it was given, this is the first
listed of those with the longest opening that starts the comment (`CommentFamily.IsFirstLongest`): a
family in front of it in the sorted list has a longer opening, and families with openings of one
length keep their order, because the sort is stable (`CommentFamily.isFirstLongest_mergeSort`).
Openings of one length that start one comment are the same, so if no two families open alike there
is one longest, and neither the family nor the contents depend on the order of the list:
`CommentAnalyzer.strips_exactly`.
-/

namespace LineMetrics

/-- The first listed of the families whose opening delimiter starts the text and is the longest that
does. -/
def CommentFamily.IsFirstLongest (families : List CommentFamily) (text : List Char)
    (f : CommentFamily) : Prop :=
  f.opening <+: text ∧ ∃ before after, families = before ++ f :: after ∧
    (∀ g ∈ before, g.opening <+: text → g.opening.length < f.opening.length) ∧
    ∀ g ∈ after, g.opening <+: text → g.opening.length ≤ f.opening.length

/-- The result is a fault, and the fault is told as a broken contract. -/
def CommentFault.BreaksContract {α : Type} (result : Except CommentFault α) : Prop :=
  ∃ fault, result = .error fault ∧ fault.toFailure.failureClass = .invariant

namespace CommentFamily

variable {families : List CommentFamily} {text : List Char} {f g : CommentFamily}

/-- The first and longest family is one of the families. -/
theorem IsFirstLongest.mem (h : f.IsFirstLongest families text) : f ∈ families := by
  obtain ⟨-, before, after, rfl, -⟩ := h
  simp

/-- No family that starts the text has a longer opening. -/
theorem IsFirstLongest.length_le (h : f.IsFirstLongest families text) (hg : g ∈ families)
    (hopening : g.opening <+: text) : g.opening.length ≤ f.opening.length := by
  obtain ⟨-, before, after, rfl, hbefore, hafter⟩ := h
  rcases List.mem_append.1 hg with hg | hg
  · exact (hbefore g hg hopening).le
  · rcases List.mem_cons.1 hg with rfl | hg
    · exact le_rfl
    · exact hafter g hg hopening

/-- A text does not start with another exactly if the test for it fails. -/
theorem isPrefixOf_eq_false_iff {s t : List Char} : s.isPrefixOf t = false ↔ ¬s <+: t := by
  rw [← Bool.not_eq_true, List.isPrefixOf_iff_prefix]

/-- **The first longest** is the longest, and the first of its length. -/
theorem isFirstLongest_iff : f.IsFirstLongest families text ↔
    (∀ g ∈ families, g.opening <+: text → g.opening.length ≤ f.opening.length) ∧
      families.find? (fun g => g.opening.isPrefixOf text &&
        decide (g.opening.length = f.opening.length)) = some f := by
  constructor
  · intro h
    refine ⟨fun g => h.length_le, ?_⟩
    obtain ⟨hopening, before, after, rfl, hbefore, -⟩ := h
    refine List.find?_eq_some_iff_append.2 ⟨by simpa using hopening, before, after, rfl, ?_⟩
    intro g hg
    have hshorter := hbefore g hg
    simp only [Bool.not_eq_true', Bool.and_eq_false_iff, decide_eq_false_iff_not]
    by_cases hstarts : g.opening <+: text
    · exact .inr (hshorter hstarts).ne
    · exact .inl (isPrefixOf_eq_false_iff.2 hstarts)
  · rintro ⟨hlongest, hfirst⟩
    obtain ⟨hf, before, after, rfl, hbefore⟩ := List.find?_eq_some_iff_append.1 hfirst
    refine ⟨by simpa using hf, before, after, rfl, fun g hg hopening => ?_, fun g hg => ?_⟩
    · have hle := hlongest g (List.mem_append_left _ hg) hopening
      have hne : g.opening.length ≠ f.opening.length := by
        simpa [List.isPrefixOf_iff_prefix.2 hopening] using hbefore g hg
      omega
    · exact hlongest g (List.mem_append_right _ (List.mem_cons_of_mem f hg))

/-- There is one family that is the first longest. -/
theorem IsFirstLongest.unique (hf : f.IsFirstLongest families text)
    (hg : g.IsFirstLongest families text) : f = g := by
  have hlength : f.opening.length = g.opening.length :=
    le_antisymm (hg.length_le hf.mem hf.1) (hf.length_le hg.mem hg.1)
  have hfound := (isFirstLongest_iff.1 hf).2
  rw [hlength] at hfound
  exact Option.some.inj (hfound.symm.trans (isFirstLongest_iff.1 hg).2)

/-- **Where longer openings come first,** the first family that starts the text is the first
longest. -/
theorem isFirstLongest_iff_find?
    (hsorted : families.Pairwise fun f g => g.opening.length ≤ f.opening.length) :
    f.IsFirstLongest families text ↔
      families.find? (fun g => g.opening.isPrefixOf text) = some f := by
  rw [List.find?_eq_some_iff_append, List.isPrefixOf_iff_prefix]
  refine and_congr_right fun hopening => exists_congr fun before => exists_congr fun after => ?_
  refine and_congr_right ?_
  rintro rfl
  obtain ⟨-, hafter, hbefore⟩ := List.pairwise_append.1 hsorted
  constructor
  · rintro ⟨hshorter, -⟩ g hg
    have hlonger := hbefore g hg f List.mem_cons_self
    have hnot : ¬g.opening <+: text := fun h => (hshorter g hg h).not_ge hlonger
    simpa using isPrefixOf_eq_false_iff.2 hnot
  · intro hnone
    refine ⟨fun g hg h => ?_, fun g hg _ => List.rel_of_pairwise_cons hafter hg⟩
    exact absurd h (isPrefixOf_eq_false_iff.1 (by simpa using hnone g hg))

/-- **Sorting by length** moves no first longest family: it is stable. -/
theorem isFirstLongest_mergeSort :
    f.IsFirstLongest (families.mergeSort opensNoShorter) text ↔ f.IsFirstLongest families text := by
  have hstable : (families.mergeSort opensNoShorter).find? (fun g => g.opening.isPrefixOf text &&
      decide (g.opening.length = f.opening.length)) = families.find? fun g =>
        g.opening.isPrefixOf text && decide (g.opening.length = f.opening.length) := by
    rw [← List.head?_filter, ← List.head?_filter, filter_mergeSort_of_le]
    · intro f g h hfg hgh
      simp only [opensNoShorter, decide_eq_true_eq] at *
      omega
    · intro f g
      simp only [opensNoShorter, Bool.or_eq_true, decide_eq_true_eq]
      omega
    · intro g g' hg hg'
      simp only [opensNoShorter, Bool.and_eq_true, decide_eq_true_eq] at *
      omega
  simp only [isFirstLongest_iff, List.mem_mergeSort, hstable]

/-- With pairwise distinct openings there is one longest, so there is no first. -/
theorem isFirstLongest_iff_of_distinct
    (hdistinct : families.Pairwise fun f g => f.opening ≠ g.opening) :
    f.IsFirstLongest families text ↔ f ∈ families ∧ f.opening <+: text ∧
      ∀ g ∈ families, g.opening <+: text → g.opening.length ≤ f.opening.length := by
  refine ⟨fun h => ⟨h.mem, h.1, fun g => h.length_le⟩, fun ⟨hmem, hopening, hlongest⟩ => ?_⟩
  obtain ⟨before, after, rfl⟩ := List.append_of_mem hmem
  refine ⟨hopening, before, after, rfl, fun g hg hstarts => ?_, fun g hg => ?_⟩
  · refine lt_of_le_of_ne (hlongest g (List.mem_append_left _ hg) hstarts) fun hlength => ?_
    -- Two openings of one length that start one text are the same.
    have hsame : g.opening = f.opening :=
      (List.prefix_of_prefix_length_le hstarts hopening hlength.le).eq_of_length hlength
    exact (List.pairwise_append.1 hdistinct).2.2 g hg f List.mem_cons_self hsame
  · exact hlongest g (List.mem_append_right _ (List.mem_cons_of_mem f hg))

end CommentFamily

/-- Whatever is wrong with a comment, it breaks the contract. -/
theorem CommentFault.breaksContract_iff {α : Type} {result : Except CommentFault α} :
    BreaksContract result ↔ ∀ x, result ≠ .ok x := by
  cases result with
  | ok x => exact iff_of_false (fun ⟨_, h, _⟩ => nomatch h) fun h => h x rfl
  | error fault =>
    refine iff_of_true ⟨fault, rfl, ?_⟩ fun x h => nomatch h
    cases fault <;> rfl

namespace CommentAnalyzer

variable {a b : CommentAnalyzer} {text : List Char} {families : List CommentFamily}

/-- Analyzers that find the same families tell the same fault where there is none. -/
theorem familyOf_congr (h : ∀ f, a.familyOf text = .ok f ↔ b.familyOf text = .ok f) :
    a.familyOf text = b.familyOf text := by
  have hnone : ∀ {c : CommentAnalyzer}, (∀ f, c.familyOf text ≠ .ok f) →
      c.familyOf text = .error (.noFamily text) := by
    intro c hc
    rw [familyOf]
    split
    · rename_i f hfound
      exact absurd (familyOf_eq_ok.2 hfound) (hc f)
    · rfl
  by_cases hfound : ∃ f, a.familyOf text = .ok f
  · obtain ⟨f, hf⟩ := hfound
    rw [hf, (h f).1 hf]
  · have hnot := not_exists.1 hfound
    rw [hnone hnot, hnone fun f => mt (h f).2 (hnot f)]

/-- The contents of a comment depend on its family alone. -/
theorem contents_congr (h : a.familyOf text = b.familyOf text) :
    a.contents text = b.contents text := by
  rw [contents, contents, h]

/-- **The family that is found** is the first longest of the list. -/
theorem familyOf_ofList_iff (hne : families ≠ []) {f : CommentFamily} :
    (ofList families hne).familyOf text = .ok f ↔ f.IsFirstLongest families text := by
  have hsorted := (ofList families hne).longestFirst
  rw [familyOf_eq_ok, ← CommentFamily.isFirstLongest_iff_find? hsorted]
  exact CommentFamily.isFirstLongest_mergeSort

/-- A family is found exactly if one of the list starts the text. -/
theorem exists_familyOf_ofList_iff (hne : families ≠ []) :
    (∃ f, (ofList families hne).familyOf text = .ok f) ↔ ∃ f ∈ families, f.opening <+: text := by
  simp only [familyOf_eq_ok, ← Option.isSome_iff_exists, List.find?_isSome, ofList,
    List.mem_mergeSort, List.isPrefixOf_iff_prefix]

/-- **The order of the list does not matter** if no two families open alike. -/
theorem familyOf_ofList_perm {others : List CommentFamily} (hne : families ≠ [])
    (hne' : others ≠ []) (hperm : others.Perm families)
    (hdistinct : families.Pairwise fun f g => f.opening ≠ g.opening) :
    (ofList others hne').familyOf text = (ofList families hne).familyOf text := by
  have hdistinct' := hdistinct.perm hperm.symm Ne.symm
  refine familyOf_congr fun f => ?_
  rw [familyOf_ofList_iff, familyOf_ofList_iff,
    CommentFamily.isFirstLongest_iff_of_distinct hdistinct,
    CommentFamily.isFirstLongest_iff_of_distinct hdistinct']
  simp only [hperm.mem_iff]

/-- **Delimiters are stripped exactly,** for any families.  The family of a comment is the first
listed of those with the longest opening that starts it, and there is none exactly if no opening
does.  The contents are `body` exactly if the comment is `body` between the delimiters of its
family, so delimiters that overlap have none between them.  All else breaks the contract.  If no two
families open alike, nothing depends on the order of the list, and a body between the delimiters of
a family is read back unless a family with a longer opening starts the text as well. -/
theorem strips_exactly (hne : families ≠ []) : ∃ a, create families = .ok a ∧
    (∀ text f, a.familyOf text = .ok f ↔ f.IsFirstLongest families text) ∧
    (∀ text, CommentFault.BreaksContract (a.familyOf text) ↔
      ∀ f ∈ families, ¬f.opening <+: text) ∧
    (∀ text body, a.contents text = .ok body ↔
      ∃ f : CommentFamily, f.IsFirstLongest families text ∧
        text = f.opening ++ (body ++ f.closing)) ∧
    (∀ text, CommentFault.BreaksContract (a.contents text) ↔
      ∀ (f : CommentFamily) (body : List Char), f.IsFirstLongest families text →
        text ≠ f.opening ++ (body ++ f.closing)) ∧
    (families.Pairwise (fun f g => f.opening ≠ g.opening) →
      (∀ others : List CommentFamily, others.Perm families → ∃ b, create others = .ok b ∧
        ∀ text, b.familyOf text = a.familyOf text ∧ b.contents text = a.contents text) ∧
      ∀ f ∈ families, ∀ body, (∀ g ∈ families, g.opening <+: f.opening ++ (body ++ f.closing) →
        g.opening.length ≤ f.opening.length) →
          a.contents (f.opening ++ (body ++ f.closing)) = .ok body) := by
  have hcontents : ∀ text body, (ofList families hne).contents text = .ok body ↔
      ∃ f : CommentFamily, f.IsFirstLongest families text ∧
        text = f.opening ++ (body ++ f.closing) := by
    intro text body
    simp only [contents_eq_ok_iff, familyOf_ofList_iff]
  refine ⟨ofList families hne, dif_neg hne, fun text f => familyOf_ofList_iff hne, fun text => ?_,
    hcontents, fun text => ?_, fun hdistinct => ⟨fun others hperm => ?_, fun f hf body hle => ?_⟩⟩
  · rw [CommentFault.breaksContract_iff, ← not_exists, exists_familyOf_ofList_iff hne]
    simp only [not_exists, not_and]
  · rw [CommentFault.breaksContract_iff]
    simp only [ne_eq, hcontents, not_exists, not_and]
    exact forall_comm
  · have hne' : others ≠ [] := fun h => hne (List.perm_nil.1 (h ▸ hperm.symm))
    refine ⟨ofList others hne', dif_neg hne', fun text => ?_⟩
    have hfamily : (ofList others hne').familyOf text = (ofList families hne).familyOf text :=
      familyOf_ofList_perm hne hne' hperm hdistinct
    exact ⟨hfamily, contents_congr hfamily⟩
  · refine (hcontents _ body).2 ⟨f, ?_, rfl⟩
    exact (CommentFamily.isFirstLongest_iff_of_distinct hdistinct).2
      ⟨hf, List.prefix_append _ _, hle⟩

/-- Of nested openings, one of them empty, the longest is taken, also where its delimiters overlap
and those of another family would fit, and in either order of the list. -/
theorem strips_exactly_nested :
    let slash : CommentFamily := ⟨"slash", ['/'], ['/']⟩
    let bare : CommentFamily := ⟨"bare", [], []⟩
    let families : List CommentFamily := [slash, bare, .block]
    ∃ a b, create families = .ok a ∧ create families.reverse = .ok b ∧
      a.familyOf ['/', '*', '/'] = .ok .block ∧
      CommentFault.BreaksContract (a.contents ['/', '*', '/']) ∧
      b.contents ['/', '*', '/'] = a.contents ['/', '*', '/'] ∧
      a.contents ['/', 'a', '/'] = .ok ['a'] := by
  intro slash bare families
  have hne : families ≠ [] := List.cons_ne_nil _ _
  obtain ⟨a, ha, hfamily, -, -, hbreaks, hdistinct⟩ := strips_exactly hne
  obtain ⟨hperm, hread⟩ := hdistinct (by decide)
  obtain ⟨b, hb, hsame⟩ := hperm _ (List.reverse_perm families)
  have hblock : CommentFamily.IsFirstLongest families ['/', '*', '/'] .block :=
    ⟨by decide, [slash, bare], [], rfl, by decide, by decide⟩
  refine ⟨a, b, ha, hb, (hfamily _ _).2 hblock, (hbreaks _).2 fun f body hf htext => ?_,
    (hsame _).2, hread slash List.mem_cons_self ['a'] (by decide)⟩
  obtain rfl := hblock.unique hf
  have hlength := congrArg List.length htext
  simp [CommentFamily.block] at hlength

end CommentAnalyzer
end LineMetrics
