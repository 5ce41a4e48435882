/-
**Binary floating-point values.**

Hit rates, coordinates and some settings are binary numbers with a bounded count of significant
bits. A finite value is a sign and a magnitude `mantissa * 2 ^ exponent`; every operation computes
an exact quotient of naturals and rounds it once, to the nearest value and to the even mantissa
when two are equally near.

* `Format.roundRatio`: the magnitude nearest to a quotient;
* `Format.ofRatio`, `Format.ofNat`, `Format.divide`, `Format.multiply`, `Format.convert`: values
  computed exactly and rounded once;
* `Format.bits`: the interchange encoding.
-/

namespace Wayfinder.Decimal

/-- A binary format: its significant bits and the exponents of its least and greatest units. -/
structure Format where
  precision : Nat
  leastExponent : Int
  greatestExponent : Int
deriving DecidableEq, Repr

/-- The format of 32 bits. -/
def single : Format := ⟨24, -149, 104⟩

/-- The format of 64 bits. -/
def double : Format := ⟨53, -1074, 971⟩

/-- The number `mantissa * 2 ^ exponent`. -/
structure Magnitude where
  mantissa : Nat
  exponent : Int
deriving DecidableEq, Repr

/-- A floating-point value. -/
inductive Binary where
  | finite (negative : Bool) (size : Magnitude)
  | infinite (negative : Bool)
  | nan
deriving DecidableEq, Repr

/-- The numerator of a magnitude written as a quotient. -/
def Magnitude.numerator (size : Magnitude) : Nat := size.mantissa * Nat.pow 2 size.exponent.toNat

/-- The denominator of a magnitude written as a quotient. -/
def Magnitude.denominator (size : Magnitude) : Nat := Nat.pow 2 (-size.exponent).toNat

/-- The quotient rounded to the nearest natural, to the even one in the middle. -/
def roundHalfEven (numerator denominator : Nat) : Nat :=
  let quotient := numerator / denominator
  let rest := 2 * (numerator % denominator)
  if rest < denominator then quotient
  else if denominator < rest then quotient + 1
  else if quotient % 2 = 0 then quotient else quotient + 1

/-- The quotient rounded to the nearest natural, upwards in the middle. -/
def roundHalfUp (numerator denominator : Nat) : Nat :=
  (2 * numerator + denominator) / (2 * denominator)

/-- The exponent of the unit in which a positive quotient has `precision` bits before the point,
kept within the format's range from below. -/
def Format.unitExponent (format : Format) (numerator denominator : Nat) : Int :=
  let estimate : Int := (numerator.log2 : Int) - denominator.log2 - format.precision
  let reached := denominator * Nat.pow 2 (estimate + format.precision).toNat
    ≤ numerator * Nat.pow 2 (-(estimate + format.precision)).toNat
  max format.leastExponent (if reached then estimate + 1 else estimate)

/-- The magnitude nearest to a quotient, or `none` when it lies beyond the greatest one. -/
def Format.roundRatio (format : Format) (numerator denominator : Nat) : Option Magnitude :=
  if numerator = 0 then some ⟨0, format.leastExponent⟩
  else
    let unit := format.unitExponent numerator denominator
    let mantissa :=
      roundHalfEven (numerator * Nat.pow 2 (-unit).toNat) (denominator * Nat.pow 2 unit.toNat)
    let size : Magnitude :=
      if mantissa = Nat.pow 2 format.precision then ⟨Nat.pow 2 (format.precision - 1), unit + 1⟩
      else ⟨mantissa, unit⟩
    if size.exponent ≤ format.greatestExponent then some size else none

/-- A signed quotient as a value of the format. -/
def Format.ofRatio (format : Format) (negative : Bool) (numerator denominator : Nat) : Binary :=
  match format.roundRatio numerator denominator with
  | some size => .finite negative size
  | none => .infinite negative

/-- A natural number as a value of the format. -/
def Format.ofNat (format : Format) (number : Nat) : Binary := format.ofRatio false number 1

/-- The product of a value and a positive finite magnitude. -/
def Format.multiply (format : Format) (value : Binary) (factor : Magnitude) : Binary :=
  match value with
  | .finite negative size =>
    format.ofRatio negative (size.numerator * factor.numerator)
      (size.denominator * factor.denominator)
  | other => other

/-- The quotient of a value and a positive finite magnitude. -/
def Format.divide (format : Format) (value : Binary) (divisor : Magnitude) : Binary :=
  match value with
  | .finite negative size =>
    format.ofRatio negative (size.numerator * divisor.denominator)
      (size.denominator * divisor.numerator)
  | other => other

/-- A value of another format, rounded to this one. -/
def Format.convert (format : Format) : Binary → Binary
  | .finite negative size => format.ofRatio negative size.numerator size.denominator
  | other => other

/-- Whether the value is a number with a bound. -/
def Binary.isFinite : Binary → Bool
  | .finite _ _ => true
  | _ => false

/-- Whether the value is one of the two zeros. -/
def Binary.isZero : Binary → Bool
  | .finite _ size => size.mantissa == 0
  | _ => false

/-- Changes the sign. -/
def Binary.negate : Binary → Binary
  | .finite negative size => .finite (!negative) size
  | .infinite negative => .infinite (!negative)
  | .nan => .nan

/-- The number of codes of the exponent field. The last one is kept for values that are no numbers.
-/
def Format.exponentCodes (format : Format) : Nat :=
  (format.greatestExponent - format.leastExponent).toNat + 3

/-- The interchange encoding of a magnitude: exponent code, then mantissa without its first bit. -/
def Format.magnitudeBits (format : Format) (size : Magnitude) : Nat :=
  let hidden := Nat.pow 2 (format.precision - 1)
  if size.mantissa < hidden then size.mantissa
  else ((size.exponent - format.leastExponent).toNat + 1) * hidden + (size.mantissa - hidden)

/-- The interchange encoding of a value. -/
def Format.bits (format : Format) (value : Binary) : Nat :=
  let hidden := Nat.pow 2 (format.precision - 1)
  let signBit (negative : Bool) : Nat :=
    if negative then format.exponentCodes * hidden else 0
  match value with
  | .finite negative size => signBit negative + format.magnitudeBits size
  | .infinite negative => signBit negative + (format.exponentCodes - 1) * hidden
  | .nan => (format.exponentCodes - 1) * hidden + hidden / 2

/-- One tenth, the greatest finite value and the least positive one of 32 bits. -/
example : single.bits (single.ofRatio false 1 10) = 0x3DCCCCCD
    ∧ single.bits (.finite false ⟨2 ^ 24 - 1, 104⟩) = 0x7F7FFFFF
    ∧ single.bits (single.ofRatio true 1 (2 ^ 149)) = 0x80000001 := by decide +kernel

/-- Half of the unit above the greatest value of 64 bits rounds to infinity. -/
example : double.bits (double.ofNat (2 ^ 1024 - 2 ^ 970)) = 0x7FF0000000000000 := by
  decide +kernel

end Wayfinder.Decimal
