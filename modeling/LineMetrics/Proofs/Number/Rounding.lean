import LineMetrics.Number.Binary64
import Mathlib

/-!
# Where rounding reaches a power of two

A quotient is rounded at its own scale: to a multiple of `2^e`, so many that 53 bits hold it.  Just
below `2^k` the multiples are `2^(k - 53)` apart, and a quotient is rounded up to `2^k` from halfway
above the last of them, from `halfwayBelow k` on, since a tie goes to the even neighbour.  So a
quotient and what it is rounded to are on the same side of every such number (`ofQuotient_cases`),
and it is rounded to an infinity where the power that it reaches is `2^1024`.
-/

namespace LineMetrics
namespace Binary64

/-! ### Rounding to an integer -/

section Integer

variable {n d bound : Nat}

/-- A quotient that reaches a whole number is not rounded below it. -/
theorem le_roundHalfEven (hd : 0 < d) (h : bound * d ≤ n) : bound ≤ roundHalfEven n d := by
  have hq : bound ≤ n / d := (Nat.le_div_iff_mul_le hd).2 h
  simp only [roundHalfEven]
  split_ifs <;> omega

/-- A quotient below a whole number is not rounded above it. -/
theorem roundHalfEven_le (hd : 0 < d) (h : n < bound * d) : roundHalfEven n d ≤ bound := by
  have hq : n / d < bound := (Nat.div_lt_iff_lt_mul hd).2 h
  simp only [roundHalfEven]
  split_ifs <;> omega

/-- **Halfway above an odd number** is where the next one is reached. -/
theorem succ_le_roundHalfEven_iff (hd : 0 < d) (hodd : bound % 2 = 1) :
    bound + 1 ≤ roundHalfEven n d ↔ (2 * bound + 1) * d ≤ 2 * n := by
  have hn : d * (n / d) + n % d = n := Nat.div_add_mod n d
  have hr : n % d < d := Nat.mod_lt n hd
  rcases Nat.lt_trichotomy (n / d) bound with hq | hq | hq
  · have hle : roundHalfEven n d ≤ bound :=
      roundHalfEven_le hd ((Nat.div_lt_iff_lt_mul hd).1 hq)
    have hmul : d * (n / d) + d ≤ bound * d := by
      rw [← Nat.mul_succ, Nat.mul_comm]
      exact Nat.mul_le_mul_right d hq
    constructor
    · omega
    · intro h
      rw [Nat.add_mul, Nat.mul_assoc] at h
      omega
  · have hmul : bound * d = d * (n / d) := by rw [hq, Nat.mul_comm]
    rw [Nat.add_mul, Nat.mul_assoc, hmul]
    simp only [roundHalfEven]
    split_ifs <;> omega
  · have hle : bound + 1 ≤ roundHalfEven n d :=
      le_roundHalfEven hd ((Nat.le_div_iff_mul_le hd).1 hq)
    have hmul : (bound + 1) * d ≤ n := (Nat.le_div_iff_mul_le hd).1 hq
    refine iff_of_true hle ?_
    rw [Nat.add_mul] at hmul ⊢
    rw [Nat.mul_assoc]
    omega

end Integer

/-! ### Quotients at a scale -/

theorem two_zpow_pos (e : Int) : (0 : ℚ) < 2 ^ e := zpow_pos (by norm_num) e

/-- A power of two with an exponent that is not negative is a whole number. -/
theorem zpow_toNat {e : Int} (he : 0 ≤ e) : ((2 ^ e.toNat : Nat) : ℚ) = 2 ^ e := by
  rw [Nat.cast_pow, Nat.cast_ofNat, ← zpow_natCast, Int.toNat_of_nonneg he]

/-- The magnitude of a number is the number. -/
theorem magnitude_spec (m : Nat) (e : Int) :
    0 < (magnitude m e).2 ∧ ((magnitude m e).1 : ℚ) / (magnitude m e).2 = m * 2 ^ e := by
  simp only [magnitude, Nat.pow_eq]
  split_ifs with he
  · rw [Nat.cast_mul, zpow_toNat he, Nat.cast_one, div_one]
    exact ⟨Nat.one_pos, rfl⟩
  · refine ⟨Nat.two_pow_pos _, ?_⟩
    rw [zpow_toNat (by omega), div_eq_mul_inv, zpow_neg, inv_inv]

/-- Scaling divides the quotient by a power of two. -/
theorem scaled_spec (num : Nat) {den : Nat} (hden : 0 < den) (e : Int) :
    0 < (scaled num den e).2 ∧
      ((scaled num den e).1 : ℚ) / (scaled num den e).2 = num / den / 2 ^ e := by
  simp only [scaled, Nat.pow_eq]
  split_ifs with he
  · refine ⟨Nat.mul_pos hden (Nat.two_pow_pos _), ?_⟩
    rw [Nat.cast_mul, zpow_toNat he, div_div]
  · refine ⟨hden, ?_⟩
    rw [Nat.cast_mul, zpow_toNat (by omega), zpow_neg, div_div, mul_comm (den : ℚ), ← div_div,
      div_eq_mul_inv (num : ℚ)]

/-- **The exponent of a quotient**: between which powers of two it lies. -/
theorem log2Quotient_spec {num den : Nat} (hnum : 0 < num) (hden : 0 < den) :
    (2 : ℚ) ^ log2Quotient num den ≤ num / den ∧
      (num : ℚ) / den < 2 ^ (log2Quotient num den + 1) := by
  have hpos : (0 : ℚ) < den := Nat.cast_pos.2 hden
  have hlow : (2 : ℚ) ^ ((num.log2 : Int) - den.log2 - 1) ≤ num / den := by
    have hn : (2 : ℚ) ^ num.log2 ≤ num := by exact_mod_cast Nat.log2_self_le hnum.ne'
    have hd : (den : ℚ) ≤ 2 ^ (den.log2 + 1) := by exact_mod_cast Nat.lt_log2_self.le
    rw [sub_sub, zpow_sub₀ two_ne_zero, zpow_natCast, ← Nat.cast_succ, zpow_natCast]
    exact div_le_div₀ (Nat.cast_nonneg num) hn hpos hd
  have hhigh : (num : ℚ) / den < 2 ^ ((num.log2 : Int) - den.log2 + 1) := by
    have hn : (num : ℚ) < 2 ^ (num.log2 + 1) := by exact_mod_cast Nat.lt_log2_self
    have hd : (2 : ℚ) ^ den.log2 ≤ den := by exact_mod_cast Nat.log2_self_le hden.ne'
    rw [sub_add_eq_add_sub, zpow_sub₀ two_ne_zero, zpow_natCast, ← Nat.cast_succ, zpow_natCast]
    exact div_lt_div₀ hn hd (by positivity) (by positivity)
  obtain ⟨hd, hscaled⟩ := scaled_spec num hden ((num.log2 : Int) - den.log2)
  have hless : (scaled num den ((num.log2 : Int) - den.log2)).1 <
      (scaled num den ((num.log2 : Int) - den.log2)).2 ↔
        (num : ℚ) / den < 2 ^ ((num.log2 : Int) - den.log2) := by
    rw [← div_lt_one (two_zpow_pos _), ← hscaled, div_lt_one (Nat.cast_pos.2 hd), Nat.cast_lt]
  simp only [log2Quotient, hless]
  split_ifs with h
  · rw [sub_add_cancel]
    exact ⟨hlow, h⟩
  · exact ⟨not_lt.1 h, hhigh⟩

/-! ### Halfway below a power of two -/

/-- Halfway from the last number of 53 bits below `2^k` to `2^k`. -/
def halfwayBelow (k : Int) : ℚ := (2 ^ 54 - 1) * 2 ^ (k - 54)

theorem halfwayBelow_pos (k : Int) : 0 < halfwayBelow k :=
  mul_pos (by norm_num) (two_zpow_pos _)

/-- A larger exponent has the larger halfway point. -/
theorem halfwayBelow_mono : Monotone halfwayBelow := fun k l hkl =>
  mul_le_mul_of_nonneg_left (zpow_le_zpow_right₀ one_le_two (by omega)) (by norm_num)

/-- The halfway points scale by powers of two. -/
theorem halfwayBelow_le_mul_iff (k e : Int) (x : ℚ) :
    halfwayBelow k ≤ x * 2 ^ e ↔ halfwayBelow (k - e) ≤ x := by
  have hpower : halfwayBelow k = halfwayBelow (k - e) * 2 ^ e := by
    rw [halfwayBelow, halfwayBelow, mul_assoc, ← zpow_add₀ two_ne_zero]
    congr 2
    omega
  rw [hpower, mul_le_mul_iff_left₀ (two_zpow_pos e)]

/-- What has 53 bits is beyond `2^52` and the powers below it. -/
theorem halfwayBelow_le {k : Int} (hk : k ≤ 52) : halfwayBelow k ≤ 2 ^ 52 :=
  (halfwayBelow_mono hk).trans (by norm_num [halfwayBelow])

section Significand

variable {n d : Nat} {k : Int}

/-- Below its power: a number of at most 53 bits is rounded up to `2^k` from halfway below. -/
theorem le_roundHalfEven_iff (hd : 0 < d) (hhigh : n < 2 ^ 53 * d)
    (hlow : k < 53 → 2 ^ 52 * d ≤ n) :
    halfwayBelow k ≤ roundHalfEven n d ↔ halfwayBelow k ≤ (n : ℚ) / d := by
  have hdpos : (0 : ℚ) < d := Nat.cast_pos.2 hd
  have hround : roundHalfEven n d ≤ 2 ^ 53 := roundHalfEven_le hd hhigh
  rcases lt_trichotomy k 53 with hk | rfl | hk
  · -- Both numbers are at least `2^52`, which is beyond.
    have hsmall : halfwayBelow k ≤ 2 ^ 52 := halfwayBelow_le (by omega)
    have hm : (2 : ℚ) ^ 52 ≤ roundHalfEven n d := by
      exact_mod_cast le_roundHalfEven hd (hlow hk)
    have hn : (2 : ℚ) ^ 52 ≤ (n : ℚ) / d := by
      rw [le_div_iff₀ hdpos]
      exact_mod_cast hlow hk
    exact iff_of_true (hsmall.trans hm) (hsmall.trans hn)
  · have hiff : 2 ^ 53 - 1 + 1 ≤ roundHalfEven n d ↔ (2 * (2 ^ 53 - 1) + 1) * d ≤ 2 * n :=
      succ_le_roundHalfEven_iff hd (by norm_num)
    have hhalf : ∀ x : ℚ, halfwayBelow 53 ≤ x ↔ 2 ^ 54 - 1 ≤ 2 * x := fun x => by
      norm_num [halfwayBelow]
      constructor <;> intro h <;> linarith
    have hleft : 2 ^ 54 - 1 ≤ 2 * (roundHalfEven n d : ℚ) ↔
        2 ^ 53 - 1 + 1 ≤ roundHalfEven n d := by
      have hcast : 2 ^ 54 - 1 ≤ 2 * (roundHalfEven n d : ℚ) ↔
          ((2 ^ 54 - 1 : Nat) : ℚ) ≤ ((2 * roundHalfEven n d : Nat) : ℚ) := by
        rw [Nat.cast_mul, Nat.cast_ofNat]
        norm_num
      rw [hcast, Nat.cast_le]
      omega
    have hright : 2 ^ 54 - 1 ≤ 2 * ((n : ℚ) / d) ↔ (2 * (2 ^ 53 - 1) + 1) * d ≤ 2 * n := by
      rw [← mul_div_assoc, le_div_iff₀ hdpos, ← Nat.cast_le (α := ℚ)]
      norm_num
    rw [hhalf, hhalf, hleft, hright, hiff]
  · -- Both numbers are at most `2^53`, which falls short.
    have hlarge : 2 ^ 53 < halfwayBelow k :=
      lt_of_lt_of_le (by norm_num [halfwayBelow]) (halfwayBelow_mono hk)
    have hm : (roundHalfEven n d : ℚ) ≤ 2 ^ 53 := by exact_mod_cast hround
    have hn : (n : ℚ) / d ≤ 2 ^ 53 := by
      rw [div_le_iff₀ hdpos]
      exact_mod_cast hhigh.le
    exact iff_of_false (not_le.2 (hm.trans_lt hlarge)) (not_le.2 (hn.trans_lt hlarge))

end Significand

/-! ### Rounding a quotient -/

section Quotient

variable {num den : Nat}

/-- The exponent at which a quotient is rounded: 53 bits of it are left, or fewer at the least
exponent. -/
def roundingExponent (num den : Nat) : Int := max (log2Quotient num den - 52) minExponent

/-- At its exponent a quotient has at most 53 bits, and 53 bits above the least exponent. -/
theorem scaled_roundingExponent (hnum : 0 < num) (hden : 0 < den) :
    let scale := scaled num den (roundingExponent num den)
    scale.1 < 2 ^ 53 * scale.2 ∧
      (minExponent < roundingExponent num den → 2 ^ 52 * scale.2 ≤ scale.1) := by
  intro scale
  obtain ⟨hlow, hhigh⟩ := log2Quotient_spec hnum hden
  obtain ⟨hd, hscaled⟩ := scaled_spec num hden (roundingExponent num den)
  have hdpos : (0 : ℚ) < scale.2 := Nat.cast_pos.2 hd
  constructor
  · have h : (scale.1 : ℚ) / scale.2 < 2 ^ 53 := by
      rw [hscaled, div_lt_iff₀ (two_zpow_pos _)]
      refine hhigh.trans_le ?_
      rw [← zpow_natCast, ← zpow_add₀ two_ne_zero]
      refine zpow_le_zpow_right₀ one_le_two ?_
      have := le_max_left (log2Quotient num den - 52) minExponent
      rw [roundingExponent]
      omega
    rw [div_lt_iff₀ hdpos] at h
    exact_mod_cast h
  · intro hleast
    have hexponent : roundingExponent num den = log2Quotient num den - 52 :=
      max_eq_left_of_lt (by rw [roundingExponent] at hleast; omega)
    have h : (2 : ℚ) ^ 52 ≤ scale.1 / scale.2 := by
      rw [hscaled, le_div_iff₀ (two_zpow_pos _)]
      refine le_trans (le_of_eq ?_) hlow
      rw [← zpow_natCast, ← zpow_add₀ two_ne_zero, hexponent]
      congr 1
      omega
    rw [le_div_iff₀ hdpos] at h
    exact_mod_cast h

/-- **A positive quotient is rounded to `2 ^ k` or more exactly if it reaches the halfway point
below `2 ^ k`**, for `k` in the range of normal numbers. -/
theorem halfwayBelow_le_rounded_iff {k : Int} (hnum : 0 < num) (hden : 0 < den)
    (hk : minExponent + 53 ≤ k) :
    let e := roundingExponent num den
    let scale := scaled num den e
    halfwayBelow k ≤ roundHalfEven scale.1 scale.2 * 2 ^ e ↔ halfwayBelow k ≤ num / den := by
  intro e scale
  obtain ⟨hhigh, hlow⟩ := scaled_roundingExponent hnum hden
  obtain ⟨hd, hscaled⟩ := scaled_spec num hden e
  have hquotient : (num : ℚ) / den = scale.1 / scale.2 * 2 ^ e := by
    rw [hscaled, div_mul_cancel₀ _ (two_zpow_pos e).ne']
  rw [hquotient, halfwayBelow_le_mul_iff, halfwayBelow_le_mul_iff]
  exact le_roundHalfEven_iff hd hhigh fun hlt => hlow (by omega)

/-- A number of 53 bits, all of them used above the least exponent, has too great an exponent from
halfway below `2^1024` on. -/
theorem maxExponent_lt_iff {m : Nat} {e : Int} (hm : m < 2 ^ 53)
    (hfull : minExponent < e → 2 ^ 52 ≤ m) :
    maxExponent < e ↔ halfwayBelow 1024 ≤ m * 2 ^ e := by
  rw [halfwayBelow_le_mul_iff]
  by_cases he : maxExponent < e
  · refine iff_of_true he ?_
    have hmin : minExponent < e := lt_trans (by decide) he
    calc halfwayBelow (1024 - e) ≤ 2 ^ 52 := halfwayBelow_le (by rw [maxExponent] at he; omega)
      _ ≤ m := by exact_mod_cast hfull hmin
  · refine iff_of_false he (not_le.2 ?_)
    calc (m : ℚ) ≤ 2 ^ 53 - 1 := le_sub_iff_add_le.2 (by exact_mod_cast hm)
      _ < halfwayBelow 53 := by norm_num [halfwayBelow]
      _ ≤ halfwayBelow (1024 - e) := halfwayBelow_mono (by rw [maxExponent] at he; omega)

/-- Rounding a positive quotient, before its exponent is found too great: 53 bits that carry over
are 52 at the next exponent. -/
theorem exists_ofQuotient_eq (negative : Bool) (hnum : 0 < num) (hden : 0 < den) :
    let e := roundingExponent num den
    let scale := scaled num den e
    ∃ (m' : Nat) (e' : Int), (m' : ℚ) * 2 ^ e' = roundHalfEven scale.1 scale.2 * 2 ^ e ∧
      m' < 2 ^ 53 ∧ (minExponent < e' → 2 ^ 52 ≤ m') ∧
      ofQuotient negative num den =
        if maxExponent < e' then .infinite negative else .finite negative m' e' := by
  intro e scale
  obtain ⟨hhigh, hlow⟩ := scaled_roundingExponent hnum hden
  obtain ⟨hd, -⟩ := scaled_spec num hden e
  have hround : roundHalfEven scale.1 scale.2 ≤ 2 ^ 53 := roundHalfEven_le hd hhigh
  have heq : ofQuotient negative num den =
      let rounded := if roundHalfEven scale.1 scale.2 = 2 * leadingBit then (leadingBit, e + 1)
        else (roundHalfEven scale.1 scale.2, e)
      if maxExponent < rounded.2 then .infinite negative
        else .finite negative rounded.1 rounded.2 := by
    rw [ofQuotient, if_neg hnum.ne']
    rfl
  by_cases hcarry : roundHalfEven scale.1 scale.2 = 2 * leadingBit
  · refine ⟨leadingBit, e + 1, ?_, by decide, fun _ => by decide, ?_⟩
    · rw [hcarry, zpow_add_one₀ two_ne_zero, Nat.cast_mul, Nat.cast_ofNat]
      ring
    · rw [heq, if_pos hcarry]
  · refine ⟨roundHalfEven scale.1 scale.2, e, rfl, lt_of_le_of_ne hround hcarry, fun hmin => ?_, ?_⟩
    · exact le_roundHalfEven hd (hlow hmin)
    · rw [heq, if_neg hcarry]

/-- **Rounding a quotient** gives an infinity from halfway below `2^1024` on, and else a number that
is on the same side as the quotient of all that is halfway below a power of two. -/
theorem ofQuotient_cases (negative : Bool) (hden : 0 < den) :
    (ofQuotient negative num den = .infinite negative ∧ halfwayBelow 1024 ≤ num / den) ∨
      ∃ m e, ofQuotient negative num den = .finite negative m e ∧
        (num : ℚ) / den < halfwayBelow 1024 ∧
        ∀ k, minExponent + 53 ≤ k →
          (halfwayBelow k ≤ m * 2 ^ e ↔ halfwayBelow k ≤ num / den) := by
  rcases Nat.eq_zero_or_pos num with rfl | hnum
  · refine .inr ⟨0, minExponent, if_pos rfl, ?_, fun k _ => ?_⟩
    · simpa using halfwayBelow_pos 1024
    · simp
  · obtain ⟨m, e, hvalue, hm, hfull, heq⟩ := exists_ofQuotient_eq negative hnum hden
    have hside : ∀ k, minExponent + 53 ≤ k →
        (halfwayBelow k ≤ m * 2 ^ e ↔ halfwayBelow k ≤ num / den) := fun k hk => by
      rw [hvalue]
      exact halfwayBelow_le_rounded_iff hnum hden hk
    have hlimit : maxExponent < e ↔ halfwayBelow 1024 ≤ num / den :=
      (maxExponent_lt_iff hm hfull).trans (hside 1024 (by decide))
    by_cases he : maxExponent < e
    · exact .inl ⟨by rw [heq, if_pos he], hlimit.1 he⟩
    · exact .inr ⟨m, e, by rw [heq, if_neg he], not_le.1 (hlimit.not.1 he), hside⟩

end Quotient

end Binary64
end LineMetrics
