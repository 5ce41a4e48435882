/-
**Instants and durations.**

Both are counted in nanoseconds: instants from the beginning of 1970, durations from nothing. A
duration is shown in the largest unit of which it holds at least one, with the rest as a decimal
fraction: `5s`, `1.5s`, `50.5ms`, `1µs`, `0ns`.

* `Duration.text`: that text;
* `Duration.micros`: whole microseconds.
-/

import Wayfinder.Text.Numeral

namespace Wayfinder

/-- An instant, in nanoseconds since the beginning of 1970. -/
abbrev Timestamp := Int

/-- A length of time, in nanoseconds. -/
abbrev Duration := Nat

namespace Duration

/-- A number of milliseconds. -/
def ofMillis (count : Nat) : Duration := count * 1000000

/-- A number of seconds. -/
def ofSeconds (count : Nat) : Duration := count * 1000000000

/-- Whole microseconds. -/
def micros (duration : Duration) : Nat := duration / 1000

/-- The last `places` decimal digits of a number. -/
def lastDigits : Nat → Nat → List Char
  | 0, _ => []
  | places + 1, number => lastDigits places (number / 10) ++ [Nat.digitChar (number % 10)]

/-- A fraction of `places` digits after a point, without zeros at its end. -/
def fraction (places number : Nat) : List Char :=
  let digits := ((lastDigits places number).reverse.dropWhile (· == '0')).reverse
  if digits.isEmpty then [] else '.' :: digits

/-- A duration in a unit of `10 ^ places` nanoseconds. -/
def inUnit (places : Nat) (unit : String) (duration : Duration) : String :=
  String.ofList (Numeral.ofNat 10 (duration / Nat.pow 10 places) ++
    fraction places (duration % Nat.pow 10 places)) ++ unit

/-- The text of a duration. -/
def text (duration : Duration) : String :=
  if 1000000000 ≤ duration then inUnit 9 "s" duration
  else if 1000000 ≤ duration then inUnit 6 "ms" duration
  else if 1000 ≤ duration then inUnit 3 "µs" duration
  else inUnit 0 "ns" duration

example : (ofMillis 1500).text = "1.5s" := by decide +kernel

example : text 50500000 = "50.5ms" := by decide +kernel

end Duration

end Wayfinder
