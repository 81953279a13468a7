import LineMetrics.LineSet
import Mathlib

/-!
# Sets of lines one below the other

Line numbers of a text that stands below another one are moved down by the lines above it.  A set of
lines of the upper text and one of the lower text, moved down, share no line; sizes add up and the
listings follow one another (`toList_stack`), whether the set was gathered from a list
(`ofList_append_down`) or is what one set has and another has not (`diff_stack`).
-/

namespace LineMetrics
namespace LineSet

/-- The size is the number of elements. -/
theorem size_eq_ncard (s : LineSet) : s.size = {a : Int | a ∈ s}.ncard := by
  have hset : {a : Int | a ∈ s} = (s.toList.toFinset : Set Int) := by
    ext a
    simp [mem_def]
  rw [hset, Set.ncard_coe_finset, List.toFinset_card_of_nodup, size]
  exact s.increasing.imp fun h => Int.ne_of_lt h

/-- The size of a set of lines is the number of lines that satisfy what describes it. -/
theorem size_eq_ncard_of_iff {s : LineSet} {P : Int → Prop} (h : ∀ a, a ∈ s ↔ P a) :
    s.size = {a : Int | P a}.ncard := by
  rw [size_eq_ncard]
  exact congrArg Set.ncard (Set.ext h)

/-- Lines of a text with `n` lines are at most `n`. -/
theorem size_le_of_within {s : LineSet} {n : Int} (hn : 0 ≤ n) (h : ∀ a ∈ s, 1 ≤ a ∧ a ≤ n) :
    s.size ≤ n := by
  have hsubset : {a : Int | a ∈ s} ⊆ (Finset.Icc 1 n : Finset Int) := fun a ha => by
    simpa using h a ha
  have hcard := Set.ncard_le_ncard hsubset (Finset.finite_toSet _)
  rw [← size_eq_ncard, Set.ncard_coe_finset, Int.card_Icc] at hcard
  omega

/-- The lines from `a` to `b`. -/
theorem size_of_mem_iff_within {s : LineSet} {a b : Int} (h : ∀ x, x ∈ s ↔ a ≤ x ∧ x ≤ b) :
    s.size = (b + 1 - a).toNat := by
  have hset : {x : Int | a ≤ x ∧ x ≤ b} = (Finset.Icc a b : Finset Int) := by
    ext x
    simp
  rw [size_eq_ncard_of_iff h, hset, Set.ncard_coe_finset, Int.card_Icc]

/-- Lines that are among others are taken away each. -/
theorem size_diff_add {s t : LineSet} (h : ∀ a ∈ t, a ∈ s) : (s.diff t).size + t.size = s.size := by
  have hdiff : {a : Int | a ∈ s.diff t} = {a | a ∈ s} \ {a | a ∈ t} := by
    ext a
    exact mem_diff
  rw [size_eq_ncard, size_eq_ncard, size_eq_ncard, hdiff]
  exact Set.ncard_sdiff_add_ncard_of_subset h s.toList.finite_toSet

/-- A subset is no larger. -/
theorem size_le_of_subset {s t : LineSet} (h : ∀ a ∈ t, a ∈ s) : t.size ≤ s.size := by
  have hadd := size_diff_add h
  omega

/-- **Lines from `a` to `b` in front of others,** which may have no more of them than `b`, are so
many more as they are, without the line that is shared. -/
theorem size_sub_of_front {s t : LineSet} {a b : Int} (hab : a ≤ b)
    (hs : ∀ x, x ∈ s ↔ (a ≤ x ∧ x ≤ b) ∨ x ∈ t) (ht : ∀ x ∈ t, b ≤ x) {shared : Prop}
    [Decidable shared] (hshared : b ∈ t ↔ shared) :
    (s.size : Int) - t.size = (b - a + 1) - if shared then 1 else 0 := by
  have hadd := size_diff_add fun x hx => (hs x).2 (.inr hx)
  have hfront : ∀ x, x ∈ s.diff t ↔ (a ≤ x ∧ x ≤ b) ∧ x ∉ t := by
    intro x
    rw [mem_diff, hs]
    tauto
  by_cases hb : b ∈ t
  · have hsize : (s.diff t).size = (b - 1 + 1 - a).toNat := by
      refine size_of_mem_iff_within fun x => (hfront x).trans ⟨fun ⟨hx, hnot⟩ => ?_, fun hx => ?_⟩
      · have hne : x ≠ b := fun heq => hnot (heq ▸ hb)
        omega
      · exact ⟨by omega, fun hmem => absurd (ht x hmem) (by omega)⟩
    rw [if_pos (hshared.1 hb)]
    omega
  · have hsize : (s.diff t).size = (b + 1 - a).toNat := by
      refine size_of_mem_iff_within fun x => (hfront x).trans ⟨And.left, fun hx => ⟨hx, ?_⟩⟩
      intro hmem
      have heq : x = b := by
        have hle := ht x hmem
        omega
      exact hb (heq ▸ hmem)
    rw [if_neg (hshared.not.1 hb)]
    omega

/-- What is left without some lines is no more than there was. -/
theorem size_diff_le (s t : LineSet) : (s.diff t).size ≤ s.size := (without_sublist _ _).length_le

/-- The lines of `s`, all up to line `k`, and those of `t`, from line 1 on, moved down by `k`. -/
def stack (k : Int) (s t : LineSet) (hs : ∀ a ∈ s, a ≤ k) (ht : ∀ b ∈ t, 1 ≤ b) : LineSet :=
  ⟨s.toList ++ t.toList.map (· + k), by
    refine List.pairwise_append.2 ⟨s.increasing, ?_, fun a ha c hc => ?_⟩
    · exact List.pairwise_map.2 (t.increasing.imp fun h => Int.add_lt_add_right h k)
    · obtain ⟨b, hb, rfl⟩ := List.mem_map.1 hc
      have hle := hs a ha
      have hpos := ht b hb
      omega⟩

variable {k : Int} {s t u v : LineSet}

/-- One set on top of another lists its own lines and then the others further down. -/
theorem toList_stack (hs : ∀ a ∈ s, a ≤ k) (ht : ∀ b ∈ t, 1 ≤ b) :
    (stack k s t hs ht).toList = s.toList ++ t.toList.map (· + k) := rfl

/-- Sizes add up where one set is on top of another. -/
theorem size_stack (hs : ∀ a ∈ s, a ≤ k) (ht : ∀ b ∈ t, 1 ≤ b) :
    (stack k s t hs ht).size = s.size + t.size := by
  simp [size, toList_stack]

/-- A line of one set on top of another is one of the upper set, or one of the lower further down.
-/
theorem mem_stack {a : Int} {hs : ∀ a ∈ s, a ≤ k} {ht : ∀ b ∈ t, 1 ≤ b} :
    a ∈ stack k s t hs ht ↔ a ∈ s ∨ a - k ∈ t := by
  rw [mem_def, toList_stack, List.mem_append, List.mem_map]
  constructor
  · rintro (h | ⟨b, hb, rfl⟩)
    · exact .inl h
    · exact .inr (by rwa [Int.add_sub_cancel])
  · rintro (h | h)
    · exact .inl h
    · exact .inr ⟨a - k, h, Int.sub_add_cancel a k⟩

/-- **Gathering** lines of both texts is gathering them apart. -/
theorem ofList_append_down {xs ys : List Int} (hs : ∀ a ∈ ofList xs, a ≤ k)
    (ht : ∀ b ∈ ofList ys, 1 ≤ b) :
    ofList (xs ++ ys.map (· + k)) = stack k (ofList xs) (ofList ys) hs ht := by
  refine ext fun a => ?_
  rw [mem_stack, mem_ofList, mem_ofList, mem_ofList, List.mem_append, List.mem_map]
  constructor
  · rintro (h | ⟨b, hb, rfl⟩)
    · exact .inl h
    · exact .inr (by rwa [Int.add_sub_cancel])
  · rintro (h | h)
    · exact .inl h
    · exact .inr ⟨a - k, h, Int.sub_add_cancel a k⟩

/-- **Taking away** lines of both texts is taking them away apart. -/
theorem diff_stack (hs : ∀ a ∈ s, a ≤ k) (ht : ∀ b ∈ t, 1 ≤ b) (hu : ∀ a ∈ u, a ≤ k)
    (hv : ∀ b ∈ v, 1 ≤ b) :
    (stack k s t hs ht).diff (stack k u v hu hv) =
      stack k (s.diff u) (t.diff v) (fun a ha => hs a (mem_diff.1 ha).1)
        (fun b hb => ht b (mem_diff.1 hb).1) := by
  refine ext fun a => ?_
  rw [mem_diff, mem_stack, mem_stack, mem_stack, mem_diff, mem_diff]
  constructor
  · rintro ⟨h | h, hnot⟩
    · exact .inl ⟨h, fun hu => hnot (.inl hu)⟩
    · exact .inr ⟨h, fun hv => hnot (.inr hv)⟩
  · -- A line is above or below the seam, so it cannot be in the other half.
    rintro (⟨h, hnot⟩ | ⟨h, hnot⟩)
    · refine ⟨.inl h, ?_⟩
      rintro (hu' | hv')
      · exact hnot hu'
      · have hle := hs a h
        have hpos := hv _ hv'
        omega
    · refine ⟨.inr h, ?_⟩
      rintro (hu' | hv')
      · have hle := hu a hu'
        have hpos := ht _ h
        omega
      · exact hnot hv'

end LineSet
end LineMetrics
