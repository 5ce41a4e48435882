/-
**Escaped characters.**

Inside quotes a character may be written by its code point, as a count of hexadecimal digits that
the notation fixes.

* `charOfHex?`: the character whose code point a text begins with.
-/

import Wayfinder.Text.Numeral

namespace Wayfinder.Text

/-- The character whose code point a text begins with, in just as many hexadecimal digits as wanted,
and what follows. Code points of half a surrogate pair name no character. -/
def charOfHex? (count : Nat) (text : List Char) : Option (Char × List Char) :=
  (Numeral.value? 16 (text.take count)).bind fun code =>
    if (text.take count).length = count ∧ code.isValidChar then
      some (Char.ofNat code, text.drop count)
    else none

example : charOfHex? 4 ['0', '0', 'e', '9', '1'] = some ('é', ['1']) := by decide

example : charOfHex? 4 ['d', '8', '0', '0'] = none ∧ charOfHex? 4 ['4', '1'] = none := by decide

end Wayfinder.Text
