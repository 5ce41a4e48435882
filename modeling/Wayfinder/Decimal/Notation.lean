/-
**Decimal notation.**

Texts of settings may spell a floating-point number: an optional sign, digits with an optional point
among them, at its ends included, and an optional exponent; or, in any case of letters, `inf`,
`infinity` and `nan`.

* `Format.parse?`: the value of such a text, correctly rounded;
* `integer?`: an integer of 64 bits.
-/

import Wayfinder.Decimal.Reading

namespace Wayfinder.Decimal

/-- Takes a sign off the front, and tells whether it is a minus. -/
def takeSign : List Char → Bool × List Char
  | '-' :: rest => (true, rest)
  | '+' :: rest => (false, rest)
  | text => (false, text)

/-- Whether the text is one of the given words, in any case of ASCII letters. -/
def isWord (words : List String) (text : List Char) : Bool :=
  words.any fun word => word.toList == text.map Char.toLower

/-- An integer of 64 bits in a base, with an optional sign. -/
def integer? (base : Nat) (text : List Char) : Option Int :=
  let (negative, digits) := takeSign text
  ((Numeral.value? base digits).map fun value =>
    if negative then -(value : Int) else (value : Int)).filter
      fun value => -0x8000000000000000 ≤ value ∧ value < 0x8000000000000000

/-- An exponent behind its mark, or nothing. -/
def exponent? : List Char → Option Int
  | [] => some 0
  | mark :: rest =>
    if mark == 'e' || mark == 'E' then
      let (negative, digits) := takeSign rest
      (Numeral.value? 10 digits).map fun value =>
        if negative then -(value : Int) else (value : Int)
    else none

/-- The digits after a point, if there is one, and what follows them. -/
def places : List Char → List Char × List Char
  | '.' :: rest =>
    (rest.takeWhile (Numeral.isDigitOf 10), rest.dropWhile (Numeral.isDigitOf 10))
  | text => ([], text)

/-- A decimal without sign. -/
def scaled? (text : List Char) : Option Scaled := do
  let whole := text.takeWhile (Numeral.isDigitOf 10)
  let (fraction, rest) := places (text.dropWhile (Numeral.isDigitOf 10))
  let digits ← Numeral.value? 10 (whole ++ fraction)
  let exponent ← exponent? rest
  return ⟨digits, exponent - (fraction.length : Int)⟩

/-- The value of a text. -/
def Format.parse? (format : Format) (text : List Char) : Option Binary :=
  let (negative, size) := takeSign text
  if isWord ["inf", "infinity"] size then some (.infinite negative)
  else if isWord ["nan"] size then some .nan
  else (scaled? size).map (format.ofScaled negative)

example : integer? 10 ['-', '0', '7'] = some (-7) ∧ integer? 16 ['+', 'f'] = some 15
    ∧ integer? 10 ['1', '.'] = none := by decide

example : (double.parse? ['-', '.', '5', 'e', '1']).map double.write = some "-5" := by
  decide +kernel

example : double.parse? ['.'] = none ∧ double.parse? ['1', 'e'] = none := by decide +kernel

end Wayfinder.Decimal
