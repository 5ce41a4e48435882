/-
**Reading decimals.**

Two readings of a decimal `digits * 10 ^ exponent` are in use. The correctly rounded one serves
texts of settings. The stepwise one serves JSON documents: the digits are rounded first and then
multiplied or divided by powers of ten, each a rounding of its own.

* `Format.ofScaled`: the nearest value;
* `stepwise?`: the product of rounded factors, or `none` beyond the greatest value.
-/

import Wayfinder.Decimal.Shortest

namespace Wayfinder.Decimal

/-- The value nearest to a signed decimal. Exponents far outside the format are settled without
computing the power of ten. -/
def Format.ofScaled (format : Format) (negative : Bool) (decimal : Scaled) : Binary :=
  if decimal.digits = 0 then .finite negative ⟨0, format.leastExponent⟩
  else
    let size : Int := ((Numeral.ofNat 10 decimal.digits).length : Int) + decimal.exponent
    if 400 < size then .infinite negative
    else if size < -400 then .finite negative ⟨0, format.leastExponent⟩
    else
      format.ofRatio negative (decimal.digits * Nat.pow 10 decimal.exponent.toNat)
        (Nat.pow 10 (-decimal.exponent).toNat)

/-- A power of ten up to the greatest one that 64 bits hold, rounded. -/
def powerOfTen (exponent : Nat) : Magnitude :=
  (double.roundRatio (Nat.pow 10 exponent) 1).getD ⟨0, 0⟩

/-- Divides by the greatest power of ten until the exponent is at least its negative. The steps
end early at zero. -/
def scaleDown : Nat → Binary → Int → Binary × Int
  | 0, value, exponent => (value, exponent)
  | steps + 1, value, exponent =>
    if -308 ≤ exponent || value.isZero then (value, exponent)
    else scaleDown steps (double.divide value (powerOfTen 308)) (exponent + 308)

/-- The value of 64 bits that a decimal gives step by step, `none` beyond the greatest value. Four
divisions bring every value to zero, so no more are needed. -/
def stepwise? (negative : Bool) (decimal : Scaled) : Option Binary :=
  let signed (value : Binary) : Binary := if negative then value.negate else value
  let (value, exponent) := scaleDown 4 (double.ofNat decimal.digits) decimal.exponent
  if value.isZero then some (signed value)
  else if 308 < exponent then none
  else if 0 ≤ exponent then
    match double.multiply value (powerOfTen exponent.toNat) with
    | .infinite _ => none
    | product => some (signed product)
  else if exponent < -308 then some (signed value)
  else some (signed (double.divide value (powerOfTen (-exponent).toNat)))

example : stepwise? false ⟨1, -1⟩ = some (double.ofRatio false 1 10) := by decide +kernel

example : stepwise? false ⟨1, 309⟩ = none := by decide +kernel

end Wayfinder.Decimal
