/-!
# Sets of characters as sorted ranges

A property of characters is given by a list of ranges of code points, both ends included,
in increasing order.  Looking a code point up stops at the first range that starts above it,
so the low code points that source text is made of are decided after a few steps.
-/

namespace LineMetrics
namespace Text

/-- Ranges of code points, both ends included, in increasing order. -/
abbrev Ranges := List (Nat × Nat)

/-- Whether a code point lies in one of the ranges. -/
def Ranges.contains : Ranges → Nat → Bool
  | [], _ => false
  | (low, high) :: rest, n =>
    if n < low then false else if n ≤ high then true else Ranges.contains rest n

/-- The ranges are not empty, and each ends before the next one starts. -/
def Ranges.Sorted (ranges : Ranges) : Prop :=
  (∀ r ∈ ranges, r.1 ≤ r.2) ∧ ranges.Pairwise fun a b => a.2 < b.1

/-- Lookup is membership: **in sorted ranges, stopping early loses nothing.** -/
theorem Ranges.contains_iff {ranges : Ranges} (sorted : ranges.Sorted) (n : Nat) :
    ranges.contains n = true ↔ ∃ r ∈ ranges, r.1 ≤ n ∧ n ≤ r.2 := by
  induction ranges with
  | nil => simp [contains]
  | cons r rest ih =>
    obtain ⟨low, high⟩ := r
    obtain ⟨nonempty, apart⟩ := sorted
    have restSorted : Ranges.Sorted rest :=
      ⟨fun r hr => nonempty r (List.mem_cons_of_mem _ hr), (List.pairwise_cons.1 apart).2⟩
    have above := (List.pairwise_cons.1 apart).1
    have first := nonempty _ List.mem_cons_self
    simp only [contains, List.mem_cons, exists_eq_or_imp]
    split
    · rename_i below
      simp only [Bool.false_eq_true, false_iff, not_or, not_and, not_exists]
      refine ⟨fun h => by omega, fun r hr h => ?_⟩
      have := above r hr
      simp only at this first
      omega
    · split
      · rename_i h₁ h₂
        simp only [true_iff]
        exact Or.inl ⟨by omega, h₂⟩
      · rename_i h₁ h₂
        rw [ih restSorted]
        constructor
        · exact Or.inr
        · rintro (⟨_, h⟩ | h)
          · exact absurd h h₂
          · exact h

end Text
end LineMetrics
