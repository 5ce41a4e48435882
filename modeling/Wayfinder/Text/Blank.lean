/-
**White space.**

Identifiers and interface numbers are read after the blanks around them have been taken off. A
character is blank when it has the Unicode property White_Space:

* `isBlank`: membership in the ten ranges of the property;
* `trim`: the text without the blanks at its two ends.
-/

import Wayfinder.Text.Ranges

namespace Wayfinder.Text

/-- The characters that are white space. -/
def blankRanges : Ranges :=
  [(0x09, 0x0D), (0x20, 0x20), (0x85, 0x85), (0xA0, 0xA0), (0x1680, 0x1680), (0x2000, 0x200A),
   (0x2028, 0x2029), (0x202F, 0x202F), (0x205F, 0x205F), (0x3000, 0x3000)]

/-- White space, in the sense of the Unicode property. -/
def isBlank (character : Char) : Bool := blankRanges.covers character

/-- A text without the blanks at its ends. -/
def trim (text : List Char) : List Char :=
  ((text.dropWhile isBlank).reverse.dropWhile isBlank).reverse

/-- No range is missing from the table and none is counted twice. -/
example : blankRanges.areApart ∧ blankRanges.size = 25 := by decide

example : trim [' ', '\t', 'a', ' ', 'b', '\u3000'] = ['a', ' ', 'b'] := by decide

end Wayfinder.Text
