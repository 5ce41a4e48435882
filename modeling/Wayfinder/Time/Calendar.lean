/-
**Calendar texts of instants.**

Instants travel as texts such as `2030-01-01T02:00:00.5+02:00`: a date of the proleptic Gregorian
calendar, a time of day and an offset from universal time. Reading is generous about blanks,
missing leading zeros and the letters that separate the parts; writing always gives universal time
with the letter `Z` and 0, 3, 6 or 9 digits after the second.

* `Date.dayNumber`, `Date.ofDayNumber`: dates and days since the beginning of 1970;
* `Moment`: an instant that may lie in an inserted second, the one numbered 60;
* `Moment.parse?`, `Moment.text`: the two directions.
-/

import Wayfinder.Text.Blank
import Wayfinder.Time.Duration

namespace Wayfinder

/-- An instant. An inserted second has the number 60 in its minute and shares its count of
nanoseconds with the second after it. -/
structure Moment where
  nanos : Timestamp
  inserted : Bool
deriving DecidableEq, Repr

/-- A date of the calendar. -/
structure Date where
  year : Int
  month : Nat
  day : Nat
deriving DecidableEq, Repr

namespace Date

/-- Whether a year has a 29 February. -/
def isLeapYear (year : Int) : Bool :=
  year % 4 == 0 && (year % 100 != 0 || year % 400 == 0)

/-- The number of days of a month. -/
def monthLength (year : Int) (month : Nat) : Nat :=
  if month = 2 then (if isLeapYear year then 29 else 28)
  else if month = 4 || month = 6 || month = 9 || month = 11 then 30 else 31

/-- Whether the calendar has the date, within the years that are supported. -/
def isValid (date : Date) : Bool :=
  decide (-262143 ≤ date.year) && decide (date.year ≤ 262142) &&
    decide (1 ≤ date.month) && decide (date.month ≤ 12) &&
    decide (1 ≤ date.day) && decide (date.day ≤ monthLength date.year date.month)

/-- The days between the beginning of 1970 and a date. Years are counted from March, so that the
odd day ends a year and the lengths of the months follow one linear rule. -/
def dayNumber (date : Date) : Int :=
  let year := if date.month ≤ 2 then date.year - 1 else date.year
  let month : Int := ((date.month : Int) + 9) % 12
  365 * year + year.fdiv 4 - year.fdiv 100 + year.fdiv 400 + (153 * month + 2) / 5
    + (date.day : Int) - 1 - 719468

/-- The date of a day. Whole spans of 400 years are split off first, then centuries, spans of four
years and years, of which the last of its span may be a day longer. -/
def ofDayNumber (number : Int) : Date :=
  let shifted := number + 719468
  let span := shifted.fdiv 146097
  let inSpan := (shifted.fmod 146097).toNat
  let century := min (inSpan / 36524) 3
  let inCentury := inSpan - century * 36524
  let olympiad := inCentury / 1461
  let inOlympiad := inCentury - olympiad * 1461
  let yearOf := min (inOlympiad / 365) 3
  let inYear := inOlympiad - yearOf * 365
  let marchMonth := (5 * inYear + 2) / 153
  let day := inYear - (153 * marchMonth + 2) / 5 + 1
  let month := if marchMonth < 10 then marchMonth + 3 else marchMonth - 9
  let year := span * 400 + ((century * 100 + olympiad * 4 + yearOf : Nat) : Int)
  ⟨if month ≤ 2 then year + 1 else year, month, day⟩

example : dayNumber ⟨1970, 1, 1⟩ = 0 ∧ dayNumber ⟨2030, 1, 1⟩ = 21915 := by decide

example : ofDayNumber (dayNumber ⟨2000, 2, 29⟩) = ⟨2000, 2, 29⟩ := by decide

end Date

namespace Moment

/-- The seconds since the beginning of 1970 that have gone by, in universal time. An inserted second
goes by at the end of the second before it. -/
def secondNumber (moment : Moment) : Int :=
  moment.nanos.fdiv 1000000000 - (if moment.inserted then 1 else 0)

/-- The date of an instant, in universal time. -/
def date (moment : Moment) : Date := Date.ofDayNumber (moment.secondNumber.fdiv 86400)

/-- A reader takes characters off the front of a text, or fails. -/
abbrev Scan := StateT (List Char) Option

/-- Skips blanks. -/
def blanks : Scan Unit := modify (·.dropWhile Text.isBlank)

/-- Takes a character that satisfies a test. -/
def character (test : Char → Bool) : Scan Char := fun
  | first :: rest => if test first then some (first, rest) else none
  | [] => none

/-- Takes at least one and at most `limit` digits. -/
def number (limit : Nat) : Scan Nat := fun text =>
  let digits := (text.take limit).takeWhile (Numeral.isDigitOf 10)
  (Numeral.value? 10 digits).map fun value => (value, text.drop digits.length)

/-- Takes a number after blanks. -/
def field (limit : Nat) : Scan Nat := do
  blanks
  number limit

/-- Takes a year: four digits at most, or any number of them behind a sign. -/
def yearField : Scan Int := do
  blanks
  match ← get with
  | '-' :: rest => do set rest; return -((← number rest.length) : Int)
  | '+' :: rest => do set rest; return ((← number rest.length) : Int)
  | _ => return ((← number 4) : Int)

/-- Takes a mark between blanks before it. -/
def mark (expected : Char) : Scan Unit := do
  blanks
  let _ ← character (· == expected)

/-- Takes a fraction of a second in nanoseconds. Digits after the ninth are skipped. -/
def fractionField : Scan Nat := do
  match ← get with
  | '.' :: rest => do
    let digits := rest.takeWhile (Numeral.isDigitOf 10)
    let leading := digits.take 9
    let some value := Numeral.value? 10 leading | failure
    set (rest.drop digits.length)
    return value * Nat.pow 10 (9 - leading.length)
  | _ => return 0

/-- Takes exactly two digits. -/
def twoDigits : Scan Nat := fun
  | first :: second :: rest => (Numeral.value? 10 [first, second]).map fun value => (value, rest)
  | _ => none

/-- Takes an offset from universal time, in seconds: `Z`, `UTC`, or a sign with hours and minutes.
Colons and blanks may stand between the two numbers. -/
def offsetField : Scan Int := do
  match ← get with
  | first :: rest =>
    if first == 'Z' || first == 'z' then do
      set rest
      return 0
    else if ((first :: rest).take 3).map Char.toUpper == ['U', 'T', 'C'] then do
      set (rest.drop 2)
      return 0
    else if first == '+' || first == '-' || first == '\u2212' then do
      set rest
      let hours ← twoDigits
      modify (·.dropWhile fun next => next == ':' || Text.isBlank next)
      let minutes ← twoDigits
      if 59 < minutes || 23 < hours then failure
      let seconds : Int := (hours * 3600 + minutes * 60 : Nat)
      return if first == '+' then seconds else -seconds
    else failure
  | [] => failure

/-- Takes a whole calendar text. The instant has to lie within the supported years both where the
text was written and in universal time. -/
def scan : Scan Moment := do
  let year ← yearField
  mark '-'
  let month ← field 2
  mark '-'
  let day ← field 2
  let _ ← character fun next => next == 'T' || next == 't' || next == ' '
  let hour ← field 2
  mark ':'
  let minute ← field 2
  mark ':'
  let second ← field 2
  let nanos ← fractionField
  blanks
  let offset ← offsetField
  blanks
  unless (← get).isEmpty do failure
  let date : Date := ⟨year, month, day⟩
  unless date.isValid && decide (hour ≤ 23) && decide (minute ≤ 59) && decide (second ≤ 60) do
    failure
  let wallClock : Int := date.dayNumber * 86400 + (hour * 3600 + minute * 60 + second : Nat)
  let moment : Moment := ⟨(wallClock - offset) * 1000000000 + (nanos : Nat), second == 60⟩
  unless moment.date.isValid do failure
  return moment

/-- The instant of a calendar text. -/
def parse? (text : String) : Option Moment :=
  (scan.run text.toList).map (·.1)

/-- Digits of a number, padded with zeros in front. -/
def padded (width number : Nat) : List Char :=
  let digits := Numeral.ofNat 10 number
  List.replicate (width - digits.length) '0' ++ digits

/-- A year: four digits, with a sign when it does not fit them. -/
def yearText (year : Int) : List Char :=
  if year < 0 then '-' :: padded 4 year.natAbs
  else if 9999 < year then '+' :: padded 4 year.natAbs
  else padded 4 year.natAbs

/-- A fraction of a second in as few groups of three digits as needed. -/
def fractionText (nanos : Nat) : List Char :=
  if nanos = 0 then []
  else if nanos % 1000000 = 0 then '.' :: padded 3 (nanos / 1000000)
  else if nanos % 1000 = 0 then '.' :: padded 6 (nanos / 1000)
  else '.' :: padded 9 nanos

/-- The calendar text of an instant, in universal time. -/
def text (moment : Moment) : String :=
  let nanos := (moment.nanos.fmod 1000000000).toNat
  let date := moment.date
  let clock := (moment.secondNumber.fmod 86400).toNat
  let second := clock % 60 + (if moment.inserted then 1 else 0)
  String.ofList (yearText date.year ++ '-' :: padded 2 date.month ++ '-' :: padded 2 date.day ++
    'T' :: padded 2 (clock / 3600) ++ ':' :: padded 2 (clock / 60 % 60) ++
    ':' :: padded 2 second ++ fractionText nanos ++ ['Z'])

example : (parse? "2030-01-01T02:00:00.5+02:00").map text = some "2030-01-01T00:00:00.500Z" := by
  decide +kernel

example : parse? "2030-02-29T00:00:00Z" = none := by decide +kernel

/-- The offset leads out of the supported years. -/
example : parse? "+262142-12-31T23:59:59-00:01" = none := by decide +kernel

end Moment

end Wayfinder
