/-
**Ranks computed in numbers of 32 bits.**

The rank of a percentile is the share of the count, rounded up, and it is computed from three
rounded numbers: the share, the count and their product. A share is off by less than a quarter of
what a rounding may move. So a product that should be a whole number is rounded to it, and any other
product is one hundredth away from the next whole number at least, farther than the roundings move
it as long as the count is not beyond some ten thousands. For any count the shares are far enough
apart for the ranks to keep their order.

* `Share`: the shares, and how far they are off;
* `ceiling_le_iff`: rounding up;
* `rank_le_iff`: the rank is the exact one;
* `rank_le_rank`: ranks in order.
-/

import Wayfinder.Proofs.Decimal.Rounding
import Wayfinder.Tally

namespace Wayfinder.Tally

open Decimal

/-! ### Rounding up -/

/-- A natural number is not below a value rounded up exactly if it is not below the value. -/
theorem ceiling_le_iff (size : Magnitude) (bound : Nat) :
    ceiling (.finite false size) ≤ bound ↔ size.value ≤ bound := by
  have positive : (0 : ℚ) < size.denominator := Nat.cast_pos.mpr size.denominator_pos
  have positive' := size.denominator_pos
  rw [size.value_eq, div_le_iff₀ positive]
  unfold ceiling
  rw [Nat.div_le_iff_le_mul_add_pred positive', Nat.mul_comm]
  norm_cast
  omega

/-! ### Shares -/

/-- A percentage as a number of 32 bits. -/
structure Share (percent : Nat) (share : Magnitude) : Prop where
  eq : quotient percent 100 = .finite false share
  positive : 0 < percent
  bounded : percent ≤ 100
  close : |share.value - percent / 100| ≤ percent / 100 / 2 ^ 26

theorem share_fifty : Share 50 ⟨8388608, -24⟩ :=
  ⟨by decide +kernel, by decide, by decide, by norm_num [Magnitude.value, abs_le]⟩

theorem share_ninetyFive : Share 95 ⟨15938355, -24⟩ :=
  ⟨by decide +kernel, by decide, by decide, by norm_num [Magnitude.value, abs_le]⟩

theorem share_ninetyNine : Share 99 ⟨16609444, -24⟩ :=
  ⟨by decide +kernel, by decide, by decide, by norm_num [Magnitude.value, abs_le]⟩

/-! ### Ranks -/

variable {percent percent' count : Nat} {share share' : Magnitude}

/-- A count as a number of 32 bits. -/
theorem count_nearest (some : count ≠ 0) (few : count < 2 ^ 64) :
    ∃ factor unit, single.roundRatio count 1 = .some factor ∧
      single.Nearest count unit factor := by
  have bound : (count : ℚ) < 2 ^ 64 := by exact_mod_cast few
  have within : ((count : ℚ) / (1 : ℕ)) < 2 ^ (single.greatestExponent + single.precision - 1) := by
    rw [Nat.cast_one, div_one]
    refine bound.trans ?_
    norm_num [single]
  have found := Format.roundRatio_nearest some one_ne_zero (by decide) (by decide) within
  rwa [Nat.cast_one, div_one] at found

/-- Quotients from here on are not tiny. -/
theorem least_le : (2 : ℚ) ^ (single.leastExponent + single.precision) ≤ 1 / 2 ^ 8 := by
  norm_num [single]

/-- A count is moved by a small share of itself. -/
theorem factor_close {factor : Magnitude} {unit : Int} (some : count ≠ 0)
    (nearest : single.Nearest count unit factor) :
    |factor.value - count| ≤ count / 2 ^ 24 := by
  have large : (1 : ℚ) ≤ count := by exact_mod_cast Nat.one_le_iff_ne_zero.mpr some
  exact nearest.relative (least_le.trans (le_trans (by norm_num) large))

theorem Share.value_ge (shared : Share percent share) : 1 / 2 ^ 7 ≤ share.value := by
  have close := abs_le.mp shared.close
  have least : (1 : ℚ) ≤ percent := by exact_mod_cast shared.positive
  linarith

theorem Share.value_le (shared : Share percent share) : share.value ≤ 2 := by
  have close := abs_le.mp shared.close
  have most : (percent : ℚ) ≤ 100 := by exact_mod_cast shared.bounded
  linarith

/-- The rank is the product of share and count, rounded and then rounded up. -/
theorem rank_eq (shared : Share percent share) {factor : Magnitude}
    (found : single.roundRatio count 1 = .some factor)
    (low : 1 / 2 ≤ factor.value) (high : factor.value ≤ 2 ^ 65) :
    ∃ size unit, single.Nearest (share.value * factor.value) unit size ∧
      |size.value - share.value * factor.value| ≤ share.value * factor.value / 2 ^ 24 ∧
      ∀ bound, rank percent count ≤ bound ↔ size.value ≤ bound := by
  have product : ((share.numerator * factor.numerator : ℕ) : ℚ) /
      (share.denominator * factor.denominator : ℕ) = share.value * factor.value := by
    rw [share.value_eq, factor.value_eq, Nat.cast_mul, Nat.cast_mul, div_mul_div_comm]
  have large : 1 / 2 ^ 8 ≤ share.value * factor.value := by
    nlinarith [shared.value_ge]
  have nonzero : share.numerator * factor.numerator ≠ 0 := by
    intro zero
    rw [zero, Nat.cast_zero, zero_div] at product
    linarith
  have positive : share.denominator * factor.denominator ≠ 0 :=
    (Nat.mul_pos share.denominator_pos factor.denominator_pos).ne'
  have within : share.value * factor.value <
      2 ^ (single.greatestExponent + single.precision - 1) := by
    have power : (2 : ℚ) ^ (single.greatestExponent + single.precision - 1) = 2 ^ 127 := by
      norm_num [single]
    rw [power]
    nlinarith [shared.value_le]
  rw [← product] at within
  obtain ⟨size, unit', rounded, nearest⟩ :=
    Format.roundRatio_nearest nonzero positive (by decide) (by decide) within
  rw [product] at nearest
  refine ⟨size, unit', nearest, nearest.relative (least_le.trans large), fun bound => ?_⟩
  rw [← ceiling_le_iff]
  simp only [rank, found, shared.eq, Format.multiply, Format.ofRatio, rounded]

/-- The product of share and count is off by as much as the share. -/
theorem Share.product_close (shared : Share percent share) (count : Nat) :
    |share.value * count - percent * count / 100| ≤ percent * count / 100 / 2 ^ 26 := by
  have nonneg : (0 : ℚ) ≤ count := Nat.cast_nonneg count
  calc |share.value * count - percent * count / 100|
      = |share.value - percent / 100| * count := by
        rw [← abs_of_nonneg nonneg, ← abs_mul, abs_of_nonneg nonneg]
        congr 1
        ring
    _ ≤ percent / 100 / 2 ^ 26 * count := mul_le_mul_of_nonneg_right shared.close nonneg
    _ = percent * count / 100 / 2 ^ 26 := by ring

/-- **The rank is the exact one**, as long as the count is not too large: the least number that is
not below the share of the count. -/
theorem rank_le_iff (shared : Share percent share) (some : count ≠ 0) (few : count ≤ 2 ^ 15)
    (bound : Nat) : rank percent count ≤ bound ↔ percent * count ≤ 100 * bound := by
  have large : (1 : ℚ) ≤ count := by exact_mod_cast Nat.one_le_iff_ne_zero.mpr some
  have small : (count : ℚ) ≤ 2 ^ 15 := by exact_mod_cast few
  obtain ⟨factor, unit, found, nearest⟩ := count_nearest some (by omega)
  have whole : factor.value = count := by
    refine nearest.exact (by decide) (small.trans_lt (by norm_num [single])) ?_
    rw [sub_self, abs_zero]
    positivity
  obtain ⟨size, unit', nearest', moved, rounded_up⟩ :=
    rank_eq shared found (by linarith) (by linarith)
  rw [whole] at nearest' moved
  have moved := abs_le.mp moved
  have close := abs_le.mp (shared.product_close count)
  have most : (percent : ℚ) * count ≤ 100 * 2 ^ 15 := by
    exact_mod_cast Nat.mul_le_mul shared.bounded few
  rw [rounded_up]
  rcases Nat.lt_trichotomy (percent * count) (100 * bound) with below | equal | above
  · -- one hundredth below the bound, at least
    have gap : (percent : ℚ) * count + 1 ≤ 100 * bound := by exact_mod_cast below
    exact iff_of_true (by linarith) below.le
  · have ideal : (percent : ℚ) * count = 100 * bound := by exact_mod_cast equal
    have exactly : size.value = bound := by
      refine nearest'.exact (by decide) ?_ ?_
      · norm_num [single]
        linarith
      · rw [abs_le]
        norm_num [single]
        constructor <;> linarith
    exact iff_of_true exactly.le equal.le
  · have gap : (100 : ℚ) * bound + 1 ≤ percent * count := by exact_mod_cast above
    exact iff_of_false (by linarith) (Nat.not_le_of_lt above)

/-- **Ranks are in the order of their percentages**, however large the count is. -/
theorem rank_le_rank (shared : Share percent share) (shared' : Share percent' share')
    (below : percent < percent') (some : count ≠ 0) (few : count < 2 ^ 64) :
    rank percent count ≤ rank percent' count := by
  have large : (1 : ℚ) ≤ count := by exact_mod_cast Nat.one_le_iff_ne_zero.mpr some
  have small : (count : ℚ) < 2 ^ 64 := by exact_mod_cast few
  obtain ⟨factor, unit, found, nearest⟩ := count_nearest some few
  have close := abs_le.mp (factor_close some nearest)
  have low : 1 / 2 ≤ factor.value := by linarith
  have high : factor.value ≤ 2 ^ 65 := by linarith
  obtain ⟨size, _, _, moved, rounded_up⟩ := rank_eq shared found low high
  obtain ⟨size', _, _, moved', rounded_up'⟩ := rank_eq shared' found low high
  have moved := abs_le.mp moved
  have moved' := abs_le.mp moved'
  -- the shares are farther apart than the roundings move the products
  have apart : share.value * (1 + 1 / 2 ^ 22) ≤ share'.value := by
    have close := abs_le.mp shared.close
    have close' := abs_le.mp shared'.close
    have order : (percent : ℚ) + 1 ≤ percent' := by exact_mod_cast below
    have most : (percent' : ℚ) ≤ 100 := by exact_mod_cast shared'.bounded
    linarith
  have scaled := mul_le_mul_of_nonneg_right apart (le_trans (by norm_num) low)
  have upper : size.value ≤ size'.value := by linarith
  exact (rounded_up _).mpr (upper.trans ((rounded_up' _).mp le_rfl))

end Wayfinder.Tally
