/-
**How far rounding moves a quotient.**

A magnitude is rounded on a grid whose unit is chosen by the quotient: it has `precision` bits
before the point, or it is the least unit of the format. Rounding moves the quotient by half a unit
at most, which is a small share of a quotient that is not tiny. A natural number below
`2 ^ precision` lies on the grid, so that a quotient close enough to it is rounded to it.

* `roundHalfEven_near`: rounding to a natural number;
* `lt_unitExponent`, `unitExponent_le`: the unit against the quotient;
* `Format.Nearest`, `Format.roundRatio_nearest`: what rounding to a format gives, and that it gives
  something;
* `Format.Nearest.relative`: the share of a quotient by which it is moved;
* `Format.Nearest.exact`: quotients that are rounded to a natural number.
-/

import Mathlib.Algebra.Order.Field.Power
import Mathlib.Tactic.FieldSimp
import Mathlib.Tactic.Linarith
import Mathlib.Tactic.Positivity
import Mathlib.Tactic.Ring
import Wayfinder.Decimal.Binary

namespace Wayfinder.Decimal

/-! ### Quotients and powers of two -/

/-- A power of two as a quotient of two natural ones. -/
theorem zpow_eq_ratio (exponent : Int) :
    (2 : ℚ) ^ exponent = (Nat.pow 2 exponent.toNat : ℕ) / (Nat.pow 2 (-exponent).toNat : ℕ) := by
  obtain ⟨size, rfl | rfl⟩ := exponent.eq_nat_or_neg
  · simp [Nat.pow_eq]
  · simp [Nat.pow_eq]

/-- A quotient measured in units of a power of two. -/
theorem ratio_shift (numerator denominator : Nat) (exponent : Int) :
    ((numerator * Nat.pow 2 (-exponent).toNat : ℕ) : ℚ) /
        (denominator * Nat.pow 2 exponent.toNat : ℕ) =
      (numerator / denominator : ℚ) / 2 ^ exponent := by
  rw [zpow_eq_ratio, Nat.cast_mul, Nat.cast_mul]
  field_simp

/-- The value of a magnitude. -/
def Magnitude.value (size : Magnitude) : ℚ := size.mantissa * 2 ^ size.exponent

theorem Magnitude.value_eq (size : Magnitude) :
    size.value = (size.numerator : ℚ) / size.denominator := by
  unfold Magnitude.value Magnitude.numerator Magnitude.denominator
  rw [zpow_eq_ratio, Nat.cast_mul, mul_div_assoc]

theorem Magnitude.denominator_pos (size : Magnitude) : 0 < size.denominator :=
  Nat.pow_pos (by decide)

/-! ### Rounding to a natural number -/

/-- **Rounding to a natural number moves a quotient by one half at most.** -/
theorem roundHalfEven_near (numerator : Nat) {denominator : Nat} (positive : 0 < denominator) :
    |(roundHalfEven numerator denominator : ℚ) - numerator / denominator| ≤ 1 / 2 := by
  have bounds : 2 * (roundHalfEven numerator denominator * denominator) ≤
        2 * numerator + denominator ∧
      2 * numerator ≤ 2 * (roundHalfEven numerator denominator * denominator) + denominator := by
    have parts := Nat.div_add_mod numerator denominator
    have rest := Nat.mod_lt numerator positive
    have next := Nat.add_one_mul (numerator / denominator) denominator
    rw [Nat.mul_comm] at parts
    unfold roundHalfEven
    dsimp only
    split_ifs <;> omega
  obtain ⟨above, below⟩ := bounds
  have positive' : (0 : ℚ) < denominator := Nat.cast_pos.mpr positive
  have above' : 2 * ((roundHalfEven numerator denominator : ℚ) * denominator) ≤
      2 * numerator + denominator := by exact_mod_cast above
  have below' : (2 : ℚ) * numerator ≤
      2 * ((roundHalfEven numerator denominator : ℚ) * denominator) + denominator := by
    exact_mod_cast below
  have whole : (numerator : ℚ) / denominator * denominator = numerator :=
    div_mul_cancel₀ _ positive'.ne'
  rw [abs_le]
  constructor <;> nlinarith

/-! ### The unit -/

theorem two_zpow_pos (exponent : Int) : (0 : ℚ) < 2 ^ exponent := by positivity

/-- The test by which a format chooses its unit. -/
theorem reaches_iff (numerator : Nat) {denominator : Nat} (positive : 0 < denominator)
    (exponent : Int) :
    denominator * Nat.pow 2 exponent.toNat ≤ numerator * Nat.pow 2 (-exponent).toNat ↔
      (2 : ℚ) ^ exponent ≤ numerator / denominator := by
  have positive' : (0 : ℚ) < denominator := Nat.cast_pos.mpr positive
  have power : (0 : ℚ) < (Nat.pow 2 (-exponent).toNat : ℕ) :=
    Nat.cast_pos.mpr (Nat.pow_pos (by decide))
  rw [zpow_eq_ratio, div_le_div_iff₀ power positive', Nat.mul_comm denominator]
  norm_cast

/-- A quotient of natural numbers lies between the powers of two next to the difference of their
logarithms. -/
theorem ratio_log2 {numerator denominator : Nat} (some : numerator ≠ 0)
    (positive : denominator ≠ 0) :
    (2 : ℚ) ^ ((numerator.log2 : Int) - denominator.log2 - 1) < numerator / denominator ∧
      (numerator / denominator : ℚ) < 2 ^ ((numerator.log2 : Int) - denominator.log2 + 1) := by
  have low : (2 : ℚ) ^ numerator.log2 ≤ numerator := by exact_mod_cast Nat.log2_self_le some
  have high : (numerator : ℚ) < 2 ^ (numerator.log2 + 1) := by exact_mod_cast Nat.lt_log2_self
  have low' : (2 : ℚ) ^ denominator.log2 ≤ denominator := by
    exact_mod_cast Nat.log2_self_le positive
  have high' : (denominator : ℚ) < 2 ^ (denominator.log2 + 1) := by
    exact_mod_cast Nat.lt_log2_self
  have positive' : (0 : ℚ) < denominator := Nat.cast_pos.mpr (Nat.pos_of_ne_zero positive)
  rw [lt_div_iff₀ positive', div_lt_iff₀ positive']
  constructor
  · calc (2 : ℚ) ^ ((numerator.log2 : Int) - denominator.log2 - 1) * denominator
        < 2 ^ ((numerator.log2 : Int) - denominator.log2 - 1) * 2 ^ (denominator.log2 + 1) :=
          mul_lt_mul_of_pos_left high' (two_zpow_pos _)
      _ = 2 ^ numerator.log2 := by
          rw [← zpow_natCast, ← zpow_natCast, ← zpow_add₀ two_ne_zero]
          congr 1
          omega
      _ ≤ numerator := low
  · calc (numerator : ℚ) < 2 ^ (numerator.log2 + 1) := high
      _ = 2 ^ ((numerator.log2 : Int) - denominator.log2 + 1) * 2 ^ denominator.log2 := by
          rw [← zpow_natCast, ← zpow_natCast, ← zpow_add₀ two_ne_zero]
          congr 1
          omega
      _ ≤ 2 ^ ((numerator.log2 : Int) - denominator.log2 + 1) * denominator :=
          mul_le_mul_of_nonneg_left low' (two_zpow_pos _).le

section Format

variable (format : Format) {numerator denominator : Nat}

/-- The unit is the least one, or the one in which a quotient has `precision` bits before the
point. -/
theorem unitExponent_eq (some : numerator ≠ 0) (positive : denominator ≠ 0) :
    ∃ unit, format.unitExponent numerator denominator = max format.leastExponent unit ∧
      (2 : ℚ) ^ (unit + format.precision - 1) ≤ numerator / denominator ∧
      (numerator / denominator : ℚ) < 2 ^ (unit + format.precision) := by
  obtain ⟨low, high⟩ := ratio_log2 some positive
  unfold Format.unitExponent
  dsimp only
  simp only [reaches_iff numerator (Nat.pos_of_ne_zero positive)]
  split_ifs with reached
  · refine ⟨_, rfl, ?_, ?_⟩
    · convert reached using 2
      omega
    · convert high using 2
      omega
  · refine ⟨_, rfl, ?_, not_le.mp reached⟩
    rw [Int.sub_add_cancel]
    exact low.le

/-- **A quotient has no more than `precision` bits before the point, counted in its unit.** -/
theorem lt_unitExponent (some : numerator ≠ 0) (positive : denominator ≠ 0) :
    (numerator / denominator : ℚ) <
      2 ^ (format.unitExponent numerator denominator + format.precision) := by
  obtain ⟨unit, chosen, _, high⟩ := unitExponent_eq format some positive
  refine high.trans_le (zpow_le_zpow_right₀ one_le_two ?_)
  omega

/-- **It has as many, or its unit is the least one.** -/
theorem unitExponent_le (some : numerator ≠ 0) (positive : denominator ≠ 0)
    (above : format.leastExponent < format.unitExponent numerator denominator) :
    (2 : ℚ) ^ (format.unitExponent numerator denominator + format.precision - 1) ≤
      numerator / denominator := by
  obtain ⟨unit, chosen, low, _⟩ := unitExponent_eq format some positive
  rwa [show format.unitExponent numerator denominator = unit by omega]

/-! ### Rounding to a format -/

variable {format}

/-- What a magnitude has to do with the quotient of which it is the nearest one. -/
structure Format.Nearest (format : Format) (quotient : ℚ) (unit : Int) (size : Magnitude) :
    Prop where
  /-- The quotient has no more than `precision` bits before the point, counted in the unit. -/
  lt : quotient < 2 ^ (unit + format.precision)
  /-- It has as many, or the unit is the least one. -/
  le : format.leastExponent < unit → 2 ^ (unit + format.precision - 1) ≤ quotient
  least : format.leastExponent ≤ unit
  /-- The magnitude lies on the grid of the unit. -/
  whole : ∃ count : ℕ, size.value = count * 2 ^ unit
  /-- The quotient is moved by half a unit at most. -/
  near : |size.value - quotient| ≤ 2 ^ unit / 2

/-- A mantissa that has become one bit too long is written with the next unit. -/
theorem carried_value {precision : Nat} (precise : 0 < precision) (unit : Int) :
    (⟨Nat.pow 2 (precision - 1), unit + 1⟩ : Magnitude).value =
      (Nat.pow 2 precision : ℕ) * 2 ^ unit := by
  obtain ⟨shorter, rfl⟩ := Nat.exists_eq_succ_of_ne_zero precise.ne'
  simp only [Magnitude.value, Nat.pow_eq, Nat.succ_eq_add_one, Nat.add_sub_cancel, pow_succ,
    zpow_add₀ (two_ne_zero' ℚ), zpow_one, Nat.cast_mul, Nat.cast_ofNat]
  ring

/-- **Rounding gives a magnitude that is nearest**, unless the quotient lies beyond the format. -/
theorem Format.roundRatio_nearest (some : numerator ≠ 0) (positive : denominator ≠ 0)
    (precise : 0 < format.precision) (ordered : format.leastExponent < format.greatestExponent)
    (within : (numerator / denominator : ℚ) <
      2 ^ (format.greatestExponent + format.precision - 1)) :
    ∃ size unit, format.roundRatio numerator denominator = .some size ∧
      format.Nearest (numerator / denominator) unit size := by
  let unit := format.unitExponent numerator denominator
  let mantissa :=
    roundHalfEven (numerator * Nat.pow 2 (-unit).toNat) (denominator * Nat.pow 2 unit.toNat)
  let size : Magnitude :=
    if mantissa = Nat.pow 2 format.precision then ⟨Nat.pow 2 (format.precision - 1), unit + 1⟩
    else ⟨mantissa, unit⟩
  have value : size.value = mantissa * 2 ^ unit := by
    by_cases carried : mantissa = Nat.pow 2 format.precision
    · simp only [size, if_pos carried, carried_value precise]
      rw [carried]
    · simp only [size, if_neg carried]
      rfl
  have least : format.leastExponent ≤ unit := by
    obtain ⟨_, chosen, _⟩ := unitExponent_eq format some positive
    omega
  have lower := unitExponent_le format some positive
  -- a unit above the greatest one would make the quotient too large
  have bounded : unit < format.greatestExponent := by
    by_contra beyond
    have order : (2 : ℚ) ^ (format.greatestExponent + format.precision - 1) ≤
        2 ^ (unit + format.precision - 1) := zpow_le_zpow_right₀ one_le_two (by omega)
    exact absurd (order.trans (lower (by omega))) (not_le.mpr within)
  have fits : size.exponent ≤ format.greatestExponent := by
    by_cases carried : mantissa = Nat.pow 2 format.precision
    · simp only [size, if_pos carried]
      omega
    · simp only [size, if_neg carried]
      omega
  refine ⟨size, unit, ?_, lt_unitExponent format some positive, lower, least, ⟨mantissa, value⟩, ?_⟩
  · unfold Format.roundRatio
    rw [if_neg some]
    exact if_pos fits
  · have power : 0 < denominator * Nat.pow 2 unit.toNat :=
      Nat.mul_pos (Nat.pos_of_ne_zero positive) (Nat.pow_pos (by decide))
    have near := roundHalfEven_near (numerator * Nat.pow 2 (-unit).toNat) power
    rw [ratio_shift] at near
    have moved : size.value - numerator / denominator =
        (mantissa - numerator / denominator / 2 ^ unit) * 2 ^ unit := by
      rw [value, sub_mul, div_mul_cancel₀ _ (two_zpow_pos unit).ne']
    rw [moved, abs_mul, abs_of_pos (two_zpow_pos unit)]
    calc |(mantissa : ℚ) - numerator / denominator / 2 ^ unit| * 2 ^ unit
        ≤ 1 / 2 * 2 ^ unit := mul_le_mul_of_nonneg_right near (two_zpow_pos unit).le
      _ = 2 ^ unit / 2 := by ring

namespace Format.Nearest

variable {quotient : ℚ} {unit : Int} {size : Magnitude}

/-- **A quotient that is not tiny is moved by a small share of itself.** -/
theorem relative (nearest : format.Nearest quotient unit size)
    (large : 2 ^ (format.leastExponent + format.precision) ≤ quotient) :
    |size.value - quotient| ≤ quotient / 2 ^ format.precision := by
  have above : format.leastExponent < unit := by
    have order := (zpow_lt_zpow_iff_right₀ (one_lt_two : (1 : ℚ) < 2)).mp (large.trans_lt nearest.lt)
    omega
  have bits : (2 : ℚ) ^ (unit + format.precision - 1) = 2 ^ unit / 2 * 2 ^ format.precision := by
    rw [zpow_sub₀ two_ne_zero, zpow_add₀ two_ne_zero, zpow_one, zpow_natCast]
    ring
  refine nearest.near.trans ((le_div_iff₀ (by positivity)).mpr ?_)
  rw [← bits]
  exact nearest.le above

/-- The unit is a fraction of one if the quotient is below `2 ^ precision`. -/
theorem unit_le (nearest : format.Nearest quotient unit size) (fine : format.leastExponent ≤ 0)
    (bound : quotient < 2 ^ format.precision) : unit ≤ 0 := by
  by_contra coarse
  have order : (2 : ℚ) ^ (format.precision : Int) ≤ 2 ^ (unit + format.precision - 1) :=
    zpow_le_zpow_right₀ one_le_two (by omega)
  rw [zpow_natCast] at order
  exact absurd (order.trans (nearest.le (by omega))) (not_le.mpr bound)

/-- **A quotient that is close to a natural number, and below `2 ^ precision`, is rounded to it.** -/
theorem exact (nearest : format.Nearest quotient unit size) (fine : format.leastExponent ≤ 0)
    (bound : quotient < 2 ^ format.precision) {number : Nat}
    (close : |quotient - number| ≤ quotient / 2 ^ (format.precision + 1)) :
    size.value = number := by
  obtain ⟨count, counted⟩ := nearest.whole
  have positive := two_zpow_pos unit
  -- the number lies on the grid, too
  obtain ⟨fraction, split⟩ : ∃ fraction : ℕ, unit = -fraction :=
    ⟨(-unit).toNat, by have := nearest.unit_le fine bound; omega⟩
  have units : (number : ℚ) = (number * 2 ^ fraction : ℕ) * 2 ^ unit := by
    rw [split, zpow_neg, zpow_natCast, Nat.cast_mul, Nat.cast_pow, Nat.cast_ofNat,
      mul_inv_cancel_right₀ (by positivity)]
  have small : quotient / 2 ^ (format.precision + 1) < 2 ^ unit / 2 := by
    have lt := nearest.lt
    rw [zpow_add₀ two_ne_zero, zpow_natCast] at lt
    rw [pow_succ, div_lt_div_iff₀ (by positivity) two_pos]
    linarith
  -- two points of a grid that are less than a unit apart are the same
  have apart : |(count : ℚ) - (number * 2 ^ fraction : ℕ)| * 2 ^ unit < 1 * 2 ^ unit := by
    rw [← abs_of_pos positive, ← abs_mul, abs_of_pos positive, sub_mul, ← counted, ← units]
    calc |size.value - number| ≤ |size.value - quotient| + |quotient - number| :=
          abs_sub_le _ _ _
      _ < 1 * 2 ^ unit := by linarith [nearest.near]
  have same : |(count : Int) - (number * 2 ^ fraction : ℕ)| < 1 := by
    exact_mod_cast lt_of_mul_lt_mul_right apart positive.le
  have equal : count = number * 2 ^ fraction := by
    have := Int.abs_lt_one_iff.mp same
    omega
  rw [counted, units, equal]

end Format.Nearest

end Format

end Wayfinder.Decimal
