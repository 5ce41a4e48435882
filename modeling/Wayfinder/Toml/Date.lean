/-
**Dates and times of TOML.**

A value may be a date, a time of day, or both with an optional offset from universal time. As a
setting it is a text: `T` between date and time, a fraction of a second without zeros at its end.

* `Toml.isDate`: whether a word begins a date;
* `Toml.date?`: a date or time that begins with a word.
-/

import Wayfinder.Toml.Text

namespace Wayfinder.Toml

/-- A count of digits that together are at most a limit, and what follows. -/
def field? (count limit : Nat) (text : List Char) : Option (List Char × List Char) :=
  ((Numeral.value? 10 (text.take count)).filter fun value =>
    (text.take count).length = count && decide (value ≤ limit)).map fun _ =>
      (text.take count, text.drop count)

/-- Takes an expected character off the front. -/
def mark? (expected : Char) (text : List Char) : Option (List Char) :=
  Text.dropStart? [expected] text

/-- A date such as `1979-05-27`. All months have up to 31 days. -/
def day? (text : List Char) : Option (List Char × List Char) := do
  let (year, text) ← field? 4 9999 text
  let (month, text) ← field? 2 12 (← mark? '-' text)
  let (day, text) ← field? 2 31 (← mark? '-' text)
  if month = ['0', '0'] ∨ day = ['0', '0'] then none
  else some (year ++ ['-'] ++ month ++ ['-'] ++ day, text)

/-- A fraction of a second behind its point, to nine places and without zeros at the end. -/
def fraction (places : List Char) : List Char :=
  match ((places.take 9).reverse.dropWhile (· = '0')).reverse with
  | [] => []
  | kept => '.' :: kept

/-- A time such as `07:32:00.5`. -/
def time? (text : List Char) : Option (List Char × List Char) := do
  let (hour, text) ← field? 2 24 text
  let (minute, text) ← field? 2 59 (← mark? ':' text)
  let (second, text) ← field? 2 59 (← mark? ':' text)
  let whole := hour ++ [':'] ++ minute ++ [':'] ++ second
  match text with
  | '.' :: rest =>
    let places := rest.takeWhile (Numeral.isDigitOf 10)
    if places.isEmpty then none else some (whole ++ fraction places, rest.drop places.length)
  | _ => some (whole, text)

/-- An offset from universal time up to the end of a text, or nothing. Zero hours are never
negative. -/
def offset? : List Char → Option (List Char)
  | [] => some []
  | ['Z'] | ['z'] => some ['Z']
  | sign :: text => do
    let (hours, text) ← field? 2 99 text
    let (minutes, text) ← field? 2 99 (← mark? ':' text)
    if (sign ≠ '+' ∧ sign ≠ '-') ∨ text ≠ [] then none
    else
      some ((if hours = ['0', '0'] then '+' else sign) :: hours ++ [':'] ++ minutes)

/-- A date, a time, or both, up to the end of a text. -/
def canonicalDate? (text : List Char) : Option (List Char) :=
  if text[2]? = some ':' then
    (time? text).bind fun (time, rest) => if rest.isEmpty then some time else none
  else do
    let (day, rest) ← day? text
    match rest with
    | [] => return day
    | divider :: rest =>
      if divider ≠ 'T' ∧ divider ≠ 't' ∧ divider ≠ ' ' then none
      let (time, rest) ← time? rest
      let offset ← offset? rest
      return day ++ ['T'] ++ time ++ offset

/-- What follows the next word. -/
def afterWord? (text : List Char) : Option (List Char) :=
  if (word text).1.isEmpty then none else some (word text).2

/-- What follows the next word behind a mark, if there is this mark. -/
def afterMarked? (expected : Char) (text : List Char) : Option (List Char) :=
  match mark? expected text with
  | some rest => afterWord? rest
  | none => some text

/-- What follows the time whose hours have been read. -/
def afterTime? (text : List Char) : Option (List Char) :=
  match mark? ':' text with
  | none => some text
  | some rest => do
    let rest ← (afterWord? rest).bind (mark? ':')
    (((← afterWord? rest) |> afterMarked? '.').bind (afterMarked? '+')).bind (afterMarked? ':')

/-- Whether a text has a mark of an exponent with a minus sign behind it. -/
def hasExponent : List Char → Bool
  | 'e' :: '-' :: _ | 'E' :: '-' :: _ => true
  | _ :: rest => hasExponent rest
  | [] => false

/-- Whether a word begins a date or a time, before what follows it. -/
def isDate (text rest : List Char) : Bool :=
  text.contains 'T' || text.contains 't' || rest.head? == some ':' ||
    ((text.drop 1).contains '-' && !hasExponent text)

/-- A date or time that begins with a word, and what follows it. A single space may stand between
date and time. -/
def date? (text rest : List Char) : Option (String × List Char) := do
  let behind := (mark? ' ' rest).bind afterWord?
  let after ← afterTime? (behind.getD rest)
  let whole := text ++ rest.take (rest.length - after.length)
  return (String.ofList (← canonicalDate? whole), after)

example : (date? "1979-05-27".toList " 07:32:00.50-00:30 #".toList) =
    some ("1979-05-27T07:32:00.5+00:30", [' ', '#']) := by decide +kernel

example : (date? "07".toList ":32:00".toList).isSome ∧ (date? "1979-13-27".toList []).isNone := by
  decide +kernel

end Wayfinder.Toml
