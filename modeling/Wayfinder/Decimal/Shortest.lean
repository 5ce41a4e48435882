/-
**Shortest decimals.**

A floating-point value is written with the fewest significant digits that read back as the same
value, never with an exponent: `0.0000001`, `20`, `-0.5`.

* `Format.readsBack`: the reals that round to a magnitude, as a test on decimals;
* `Format.shortest`: the digits, found on the first decimal grid that holds such a real;
* `Format.write`: the positional text of a value.
-/

import Wayfinder.Decimal.Binary
import Wayfinder.Text.Numeral

namespace Wayfinder.Decimal

/-- The number `digits * 10 ^ exponent`. -/
structure Scaled where
  digits : Nat
  exponent : Int
deriving DecidableEq, Repr

/-- Compares `left * 10 ^ scale` with `right * 2 ^ unit`, exactly. -/
def compareScaled (left : Nat) (scale : Int) (right : Nat) (unit : Int) : Ordering :=
  compare (left * Nat.pow 10 scale.toNat * Nat.pow 2 (-unit).toNat)
    (right * Nat.pow 2 unit.toNat * Nat.pow 10 (-scale).toNat)

/-- Whether the value below is only half as far away as the value above. -/
def Format.narrowBelow (format : Format) (size : Magnitude) : Bool :=
  size.mantissa == Nat.pow 2 (format.precision - 1) && decide (format.leastExponent < size.exponent)

/-- Whether a decimal lies among the reals that round to the magnitude: between the middles
towards its neighbours, the ends included when its mantissa is even. -/
def Format.readsBack (format : Format) (size : Magnitude) (decimal : Scaled) : Bool :=
  let lower := if format.narrowBelow size then 4 * size.mantissa - 1 else 4 * size.mantissa - 2
  let upper := 4 * size.mantissa + 2
  let closed := size.mantissa % 2 == 0
  let below := compareScaled decimal.digits decimal.exponent lower (size.exponent - 2)
  let above := compareScaled decimal.digits decimal.exponent upper (size.exponent - 2)
  (below == .gt || (closed && below == .eq)) && (above == .lt || (closed && above == .eq))

/-- The greatest multiple of `10 ^ scale` that is at most the magnitude, in units of the grid. -/
def Magnitude.floorOn (size : Magnitude) (scale : Int) : Nat :=
  (size.numerator * Nat.pow 10 (-scale).toNat) / (size.denominator * Nat.pow 10 scale.toNat)

/-- The least exponent whose power of ten exceeds the magnitude. The logarithm to the base two
gives an estimate that is too small by at most four. -/
def Magnitude.decimalPoint (size : Magnitude) : Int :=
  let binary : Int := (size.mantissa.log2 : Int) + size.exponent
  let estimate : Int := (binary * 1233).fdiv 4096 - 1
  let exceeds (point : Int) : Bool := compareScaled 1 point size.mantissa size.exponent == .gt
  let points := (List.range 4).map fun (step : Nat) => estimate + (step : Int)
  (points.find? exceeds).getD (estimate + 4)

/-- The neighbour of the magnitude on a decimal grid that reads back; the nearer one when both
do, the upper one when they are equally near. -/
def Format.onGrid? (format : Format) (size : Magnitude) (scale : Int) : Option Scaled :=
  let floor := size.floorOn scale
  let lower : Scaled := ⟨floor, scale⟩
  let upper : Scaled := ⟨floor + 1, scale⟩
  match format.readsBack size lower, format.readsBack size upper with
  | true, true =>
    if compareScaled (2 * floor + 1) scale size.mantissa (size.exponent + 1) == .gt
    then some lower else some upper
  | true, false => some lower
  | false, true => some upper
  | false, false => none

/-- The exact decimal value of a magnitude. -/
def Magnitude.exactDecimal (size : Magnitude) : Scaled :=
  ⟨size.numerator * Nat.pow 5 (-size.exponent).toNat, -((-size.exponent).toNat : Int)⟩

/-- The digits of the first grid that holds a decimal which reads back, coarsest grid first. No
format in use needs more than seventeen digits; the exact value would follow. -/
def Format.shortest (format : Format) (size : Magnitude) : Scaled :=
  let point := size.decimalPoint
  let grids := (List.range 17).map fun (count : Nat) => point - 1 - (count : Int)
  (grids.findSome? (format.onGrid? size)).getD size.exactDecimal

/-- The positional text of a decimal, without zeros that carry nothing. -/
def Scaled.write (decimal : Scaled) : List Char :=
  let digits := Numeral.ofNat 10 decimal.digits
  if 0 ≤ decimal.exponent then digits ++ List.replicate decimal.exponent.toNat '0'
  else
    let places := (-decimal.exponent).toNat
    let padded := List.replicate (places + 1 - digits.length) '0' ++ digits
    let whole := padded.take (padded.length - places)
    let fraction := ((padded.drop (padded.length - places)).reverse.dropWhile (· == '0')).reverse
    if fraction.isEmpty then whole else whole ++ '.' :: fraction

/-- The text of a value: `inf` and `NaN` for the values that are no numbers. -/
def Format.write (format : Format) : Binary → String
  | .finite negative size =>
    let digits := if size.mantissa = 0 then ['0'] else (format.shortest size).write
    String.ofList (if negative then '-' :: digits else digits)
  | .infinite negative => if negative then "-inf" else "inf"
  | .nan => "NaN"

example : double.write (double.ofRatio false 1 10) = "0.1" := by decide +kernel

example : double.write (double.ofRatio true 3 2) = "-1.5" := by decide +kernel

/-- A tie between two shortest decimals goes up. -/
example : double.write (double.ofRatio false 1 (2 ^ 25)) = "0.000000029802322387695313" := by
  decide +kernel

end Wayfinder.Decimal
