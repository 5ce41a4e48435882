/-
**Ignorable characters.**

A character with the Unicode property Default_Ignorable_Code_Point is not shown unless somebody asks
for it: fillers, joiners, and selectors of variants.

* `isIgnorable`: membership in the ranges of the property.
-/

import Wayfinder.Text.Ranges

namespace Wayfinder.Text

/-- The characters that are ignored when a text is shown. -/
def ignorableRanges : Ranges :=
  [(0x00AD, 0x00AD), (0x034F, 0x034F), (0x061C, 0x061C), (0x115F, 0x1160), (0x17B4, 0x17B5),
   (0x180B, 0x180F), (0x200B, 0x200F), (0x202A, 0x202E), (0x2060, 0x206F), (0x3164, 0x3164),
   (0xFE00, 0xFE0F), (0xFEFF, 0xFEFF), (0xFFA0, 0xFFA0), (0xFFF0, 0xFFF8), (0x1BCA0, 0x1BCA3),
   (0x1D173, 0x1D17A), (0xE0000, 0xE0FFF)]
/-- A character that is ignored when a text is shown, in the sense of the Unicode property. -/
def isIgnorable (character : Char) : Bool := ignorableRanges.covers character

/-- No range is missing from the table and none is counted twice. -/
example : ignorableRanges.areApart ∧ ignorableRanges.size = 4174 := by decide

end Wayfinder.Text
