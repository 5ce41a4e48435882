/-
**Counting lookups and round trips.**

A tally counts lookups and hits, round trips to the collaborators, evictions and refreshes. The
durations of the last round trips are kept in a window of bounded length. A summary gives the
counters, the share of hits and three percentiles of the window.

* `Tally.recordLookup`, `Tally.recordRoundTrip`, `Tally.recordEviction`, `Tally.recordRefresh`;
* `percentile`: the value at a rank, with the rank computed in numbers of 32 bits;
* `Tally.summary`: everything a caller may see.
-/

import Wayfinder.Decimal.Binary

namespace Wayfinder

/-- Counters of a cache. -/
structure Tally where
  /-- The greatest length of the window. -/
  history : Nat := 1024
  lookups : Nat := 0
  hits : Nat := 0
  roundTrips : Nat := 0
  evictions : Nat := 0
  refreshes : Nat := 0
  refreshFailures : Nat := 0
  /-- The durations of the last round trips in microseconds, oldest first. -/
  window : List Nat := []
deriving DecidableEq, Repr

/-- What a caller sees of a tally. -/
structure Tally.Summary where
  lookups : Nat
  hits : Nat
  misses : Nat
  hitRate : Decimal.Binary
  roundTrips : Nat
  evictions : Nat
  refreshes : Nat
  refreshFailures : Nat
  p50 : Nat
  p95 : Nat
  p99 : Nat
deriving DecidableEq, Repr

namespace Tally

/-- Counts a lookup. -/
def recordLookup (tally : Tally) (hit : Bool) : Tally :=
  { tally with lookups := tally.lookups + 1, hits := tally.hits + (if hit then 1 else 0) }

/-- Appends to a window and drops the oldest element when the window has become too long. -/
def slide (history : Nat) (window : List Nat) (value : Nat) : List Nat :=
  let longer := window ++ [value]
  if history < longer.length then longer.drop 1 else longer

/-- Counts a round trip of the given duration in microseconds. -/
def recordRoundTrip (tally : Tally) (micros : Nat) : Tally :=
  { tally with
    roundTrips := tally.roundTrips + 1
    window := slide tally.history tally.window micros }

/-- Counts an entry that left its cache. -/
def recordEviction (tally : Tally) : Tally := { tally with evictions := tally.evictions + 1 }

/-- Counts several entries that left their cache. -/
def recordEvictions (tally : Tally) (count : Nat) : Tally :=
  { tally with evictions := tally.evictions + count }

/-- Counts a refresh. -/
def recordRefresh (tally : Tally) (succeeded : Bool) : Tally :=
  { tally with
    refreshes := tally.refreshes + 1
    refreshFailures := tally.refreshFailures + (if succeeded then 0 else 1) }

/-- The least natural number that is not below a value; zero for what is no positive number. -/
def ceiling : Decimal.Binary → Nat
  | .finite false size => (size.numerator + size.denominator - 1) / size.denominator
  | _ => 0

/-- The quotient of two naturals, each rounded to 32 bits first. -/
def quotient (numerator denominator : Nat) : Decimal.Binary :=
  match Decimal.single.ofNat numerator, Decimal.single.roundRatio denominator 1 with
  | value, some divisor => Decimal.single.divide value divisor
  | value, none => value

/-- The rank of a percentile among `count` values: the share of the count, rounded up. -/
def rank (percent count : Nat) : Nat :=
  match Decimal.single.roundRatio count 1 with
  | some factor => ceiling (Decimal.single.multiply (quotient percent 100) factor)
  | none => 0

/-- The value at a percentile of ascending values, zero when there are none. -/
def percentile (sorted : List Nat) (percent : Nat) : Nat :=
  (sorted[min (rank percent sorted.length - 1) (sorted.length - 1)]?).getD 0

/-- The share of hits among lookups, zero before the first one. -/
def hitRate (tally : Tally) : Decimal.Binary :=
  if tally.lookups = 0 then Decimal.single.ofNat 0 else quotient tally.hits tally.lookups

/-- The window in ascending order. -/
def sortedWindow (tally : Tally) : List Nat := tally.window.mergeSort (fun a b => decide (a ≤ b))

/-- What a caller sees. -/
def summary (tally : Tally) : Summary :=
  let sorted := tally.sortedWindow
  { lookups := tally.lookups
    hits := tally.hits
    misses := tally.lookups - tally.hits
    hitRate := tally.hitRate
    roundTrips := tally.roundTrips
    evictions := tally.evictions
    refreshes := tally.refreshes
    refreshFailures := tally.refreshFailures
    p50 := percentile sorted 50
    p95 := percentile sorted 95
    p99 := percentile sorted 99 }

example : rank 95 20 = 19 ∧ rank 99 100 = 99 ∧ rank 50 3 = 2 := by decide +kernel

end Tally

end Wayfinder
