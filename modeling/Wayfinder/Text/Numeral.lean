/-
**Numerals.**

Numbers are written in a base of at most sixteen, most significant digit first, without leading
zeros; they are read with leading zeros and with hexadecimal digits of either case.

* `ofNat`, `decimal`: the digits of a number;
* `value?`: the number that a non-empty run of digits denotes;
* `unsigned?`: a decimal numeral that may carry one plus sign.
-/

namespace Wayfinder.Numeral

/-- The digits of a number in a base up to sixteen, most significant first. -/
def ofNat (base number : Nat) : List Char := Nat.toDigits base number

/-- The decimal digits of a number, as a text. -/
def decimal (number : Nat) : String := String.ofList (ofNat 10 number)

/-- The decimal digits of an integer, after a minus sign when it is negative. -/
def signed (number : Int) : String :=
  if number < 0 then String.ofList ('-' :: ofNat 10 number.natAbs) else decimal number.natAbs

/-- The value of an ASCII digit or of a letter from `a` to `f` in either case. -/
def digitValue? (character : Char) : Option Nat :=
  let code := character.toNat
  if 48 ≤ code ∧ code ≤ 57 then some (code - 48)
  else if 97 ≤ code ∧ code ≤ 102 then some (code - 87)
  else if 65 ≤ code ∧ code ≤ 70 then some (code - 55)
  else none

/-- Whether the character is a digit of the base. -/
def isDigitOf (base : Nat) (character : Char) : Bool :=
  match digitValue? character with
  | some value => decide (value < base)
  | none => false

/-- The value of a run of digits that continues a number already read. -/
def valueFrom (base : Nat) : Nat → List Char → Nat
  | number, [] => number
  | number, character :: rest =>
    valueFrom base (number * base + (digitValue? character).getD 0) rest

/-- The number that a non-empty run of digits denotes. -/
def value? (base : Nat) (digits : List Char) : Option Nat :=
  if digits.isEmpty || !digits.all (isDigitOf base) then none
  else some (valueFrom base 0 digits)

/-- Takes one plus sign off the front. -/
def dropPlus : List Char → List Char
  | '+' :: rest => rest
  | text => text

/-- A decimal numeral below `limit`, with an optional plus sign. -/
def unsigned? (limit : Nat) (text : List Char) : Option Nat :=
  (value? 10 (dropPlus text)).filter (· < limit)

example : value? 16 ['F', 'f', '0', '0'] = some 0xff00 := by decide

example : unsigned? 100 ['+', '0', '7'] = some 7 := by decide

end Wayfinder.Numeral
