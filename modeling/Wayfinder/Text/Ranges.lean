/-
**Sets of characters.**

A Unicode property holds for ranges of code points. Its table lists them in ascending order and
apart, so that none can be joined to the next. All tables here follow version 17 of Unicode.

* `Ranges.covers`: whether a set has a character;
* `Ranges.areApart`, `Ranges.size`: the shape of a table and the number of its code points.
-/

namespace Wayfinder.Text

/-- Closed ranges of code points, ascending. -/
abbrev Ranges := List (Nat × Nat)

namespace Ranges

/-- Whether a character lies in one of the ranges. The search ends at the first range above it. -/
def covers : Ranges → Char → Bool
  | [], _ => false
  | range :: rest, character =>
    if character.toNat < range.1 then false
    else decide (character.toNat ≤ range.2) || covers rest character

/-- Whether the ranges ascend, with a gap between any two. -/
def areApart : Ranges → Bool
  | [] => true
  | [range] => decide (range.1 ≤ range.2)
  | range :: next :: rest =>
    decide (range.1 ≤ range.2) && decide (range.2 + 1 < next.1) && areApart (next :: rest)

/-- The number of code points in the ranges. -/
def size (ranges : Ranges) : Nat :=
  ranges.foldr (fun range rest => range.2 + 1 - range.1 + rest) 0

end Ranges

end Wayfinder.Text
