/-!
# Sets of lines

A set of line numbers is kept as its elements in increasing order, so its size is a length and its
listing is sorted.
-/

namespace LineMetrics

/-- A finite set of line numbers. -/
structure LineSet where
  /-- The elements, in increasing order. -/
  toList : List Int
  increasing : toList.Pairwise (· < ·)

namespace LineSet

/-- Each run of equal neighbours as one element. -/
def mergeEqual : List Int → List Int
  | [] => []
  | a :: rest => if rest.head? = some a then mergeEqual rest else a :: mergeEqual rest

theorem mem_mergeEqual {a : Int} {l : List Int} : a ∈ mergeEqual l ↔ a ∈ l := by
  induction l with
  | nil => simp [mergeEqual]
  | cons b rest ih =>
    rw [mergeEqual]
    split
    · rename_i h
      rw [ih, List.mem_cons]
      constructor
      · exact Or.inr
      · rintro (rfl | h')
        · exact List.mem_of_mem_head? h
        · exact h'
    · simp [ih]

theorem pairwise_mergeEqual {l : List Int} (h : l.Pairwise (· ≤ ·)) :
    (mergeEqual l).Pairwise (· < ·) := by
  induction l with
  | nil => simp [mergeEqual]
  | cons b rest ih =>
    obtain ⟨least, sorted⟩ := List.pairwise_cons.1 h
    rw [mergeEqual]
    split
    · exact ih sorted
    · rename_i different
      refine List.pairwise_cons.2 ⟨fun a ha => ?_, ih sorted⟩
      have ha := mem_mergeEqual.1 ha
      have := least a ha
      have : a ≠ b := by
        rintro rfl
        cases rest with
        | nil => simp at ha
        | cons c rest =>
          have hc : a ≤ c := least c List.mem_cons_self
          have hle : c ≤ a := by
            rcases List.mem_cons.1 ha with e | e
            · omega
            · exact (List.pairwise_cons.1 sorted).1 a e
          exact different (by simp; omega)
      omega

/-- The set of the numbers in a list. -/
def ofList (l : List Int) : LineSet :=
  ⟨mergeEqual (l.mergeSort fun a b => decide (a ≤ b)), by
    refine pairwise_mergeEqual ?_
    have sorted : (l.mergeSort fun a b => decide (a ≤ b)).Pairwise fun a b => decide (a ≤ b) :=
      List.pairwise_mergeSort (by intro a b c h₁ h₂; simp at *; omega) (by intro a b; simp; omega) l
    simpa using sorted⟩

instance : Membership Int LineSet := ⟨fun s a => a ∈ s.toList⟩

theorem mem_def {a : Int} {s : LineSet} : a ∈ s ↔ a ∈ s.toList := Iff.rfl

@[simp] theorem mem_ofList {a : Int} {l : List Int} : a ∈ ofList l ↔ a ∈ l := by
  simp [mem_def, ofList, mem_mergeEqual]

/-- The number of lines in the set. -/
def size (s : LineSet) : Nat := s.toList.length

/-- The elements of the first increasing list that are not in the second. -/
def without : List Int → List Int → List Int
  | [], _ => []
  | as, [] => as
  | a :: as, b :: bs =>
    if a < b then a :: without as (b :: bs)
    else if b < a then without (a :: as) bs
    else without as bs
termination_by as bs => as.length + bs.length

theorem mem_without {x : Int} {as bs : List Int} (ha : as.Pairwise (· < ·))
    (hb : bs.Pairwise (· < ·)) : x ∈ without as bs ↔ x ∈ as ∧ x ∉ bs := by
  fun_induction without as bs with
  | case1 => simp
  | case2 => simp
  | case3 a as b bs lt ih =>
    have hb' := (List.pairwise_cons.1 hb).1
    rw [List.mem_cons, ih (List.pairwise_cons.1 ha).2 hb]
    simp only [List.mem_cons, not_or]
    constructor
    · rintro (rfl | ⟨h₁, h₂, h₃⟩)
      · exact ⟨Or.inl rfl, by omega, fun h => by have := hb' _ h; omega⟩
      · exact ⟨Or.inr h₁, h₂, h₃⟩
    · rintro ⟨h | h, h'⟩
      · exact Or.inl h
      · exact Or.inr ⟨h, h'⟩
  | case4 a as b bs _ lt ih =>
    have ha' := (List.pairwise_cons.1 ha).1
    rw [ih ha (List.pairwise_cons.1 hb).2]
    simp only [List.mem_cons, not_or]
    constructor
    · rintro ⟨h₁, h₂⟩
      refine ⟨h₁, ?_, h₂⟩
      rintro rfl
      rcases h₁ with h | h
      · omega
      · have := ha' _ h; omega
    · rintro ⟨h₁, _, h₂⟩
      exact ⟨h₁, h₂⟩
  | case5 a as b bs _ _ ih =>
    obtain rfl : a = b := by omega
    have ha' := (List.pairwise_cons.1 ha).1
    rw [ih (List.pairwise_cons.1 ha).2 (List.pairwise_cons.1 hb).2]
    simp only [List.mem_cons, not_or]
    constructor
    · rintro ⟨h₁, h₂⟩
      exact ⟨Or.inr h₁, fun h => by have := ha' _ h₁; omega, h₂⟩
    · rintro ⟨h | h, h₁, h₂⟩
      · exact absurd h h₁
      · exact ⟨h, h₂⟩

theorem without_sublist (as bs : List Int) : (without as bs).Sublist as := by
  fun_induction without as bs with
  | case1 => exact List.Sublist.slnil
  | case2 => exact List.Sublist.refl _
  | case3 a as b bs _ ih => exact ih.cons_cons a
  | case4 a as b bs _ _ ih => exact ih
  | case5 a as b bs _ _ ih => exact ih.cons a

/-- The lines of the first set that are not in the second. -/
def diff (s t : LineSet) : LineSet :=
  ⟨without s.toList t.toList, s.increasing.sublist (without_sublist _ _)⟩

@[simp] theorem mem_diff {a : Int} {s t : LineSet} : a ∈ s.diff t ↔ a ∈ s ∧ a ∉ t :=
  mem_without s.increasing t.increasing

/-- Sets with the same elements are equal. -/
theorem ext {s t : LineSet} (h : ∀ a, a ∈ s ↔ a ∈ t) : s = t := by
  obtain ⟨s, hs⟩ := s
  obtain ⟨t, ht⟩ := t
  have key : ∀ s t : List Int, s.Pairwise (· < ·) → t.Pairwise (· < ·) →
      (∀ a, a ∈ s ↔ a ∈ t) → s = t := by
    intro s
    induction s with
    | nil =>
      intro t _ _ h
      cases t with
      | nil => rfl
      | cons b t => exact absurd ((h b).2 List.mem_cons_self) (by simp)
    | cons a s ih =>
      intro t hs ht h
      cases t with
      | nil => exact absurd ((h a).1 List.mem_cons_self) (by simp)
      | cons b t =>
        have hs' := List.pairwise_cons.1 hs
        have ht' := List.pairwise_cons.1 ht
        have e : a = b := by
          rcases List.mem_cons.1 ((h a).1 List.mem_cons_self) with e | e
          · exact e
          · rcases List.mem_cons.1 ((h b).2 List.mem_cons_self) with e' | e'
            · exact e'.symm
            · have := ht'.1 _ e
              have := hs'.1 _ e'
              omega
        subst e
        congr 1
        refine ih t hs'.2 ht'.2 fun x => ?_
        have hx := h x
        simp only [List.mem_cons] at hx
        constructor
        · intro hm
          rcases hx.1 (Or.inr hm) with e | e
          · have := hs'.1 _ hm; omega
          · exact e
        · intro hm
          rcases hx.2 (Or.inr hm) with e | e
          · have := ht'.1 _ hm; omega
          · exact e
  have := key s t hs ht h
  subst this
  rfl

end LineSet
end LineMetrics
