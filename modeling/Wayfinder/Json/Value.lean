/-
**JSON documents.**

A document is kept as it was written: fields in their order, repeated names included, and numbers
as digits. What a number means is decided by whoever reads the field.

* `Json`: documents;
* `Json.Number.integer?`: the value of a number written as an integer that fits 64 bits;
* `Json.Number.double?`: the value of 64 bits that a number stands for;
* `Json.depth`: how deeply containers are nested.
-/

import Wayfinder.Decimal.Reading

namespace Wayfinder

/-- A number as it is written. -/
structure Json.Number where
  negative : Bool
  whole : List Char
  fraction : Option (List Char)
  exponent : Option Int
deriving DecidableEq, Repr

/-- A JSON document. A text is `none` when it holds half of a surrogate pair, so that it names no
sequence of characters. -/
inductive Json where
  | null
  | bool (value : Bool)
  | number (value : Json.Number)
  | string (value : Option String)
  | array (items : List Json)
  | object (fields : List (Option String × Json))
deriving Repr

namespace Json

namespace Number

/-- Appends digits to a significand as long as it stays below the size of 64 bits. Gives the
significand, the count of digits taken and the digits left. -/
def accumulate : Nat → List Char → Nat × Nat × List Char
  | significand, [] => (significand, 0, [])
  | significand, digit :: rest =>
    let next := significand * 10 + (Numeral.digitValue? digit).getD 0
    if next < UInt64.size then
      let (final, count, left) := accumulate next rest
      (final, count + 1, left)
    else (significand, 0, digit :: rest)

/-- The significand and scale of a number. Digits that do not fit the significand are dropped;
those of the whole part still count for the scale. -/
def scaled (number : Number) : Decimal.Scaled :=
  let (whole, _, dropped) := accumulate 0 number.whole
  let (significand, places, _) := accumulate whole (number.fraction.getD [])
  ⟨significand, (dropped.length : Int) - (places : Int) + number.exponent.getD 0⟩

/-- The value of a number without fraction and exponent, if it fits 64 bits with or without a sign.
Zero with a minus sign is no integer. -/
def integer? (number : Number) : Option Int :=
  if number.fraction.isSome || number.exponent.isSome then none
  else
    match Numeral.value? 10 number.whole with
    | none => none
    | some value =>
      if number.negative then
        if 0 < value ∧ value ≤ 0x8000000000000000 then some (-(value : Int)) else none
      else if value < UInt64.size then some value else none

/-- The value of 64 bits, `none` beyond the greatest one. -/
def double? (number : Number) : Option Decimal.Binary :=
  match number.integer? with
  | some value => some (Decimal.double.ofRatio (decide (value < 0)) value.natAbs 1)
  | none => Decimal.stepwise? number.negative number.scaled

/-- The value of 32 bits: integers are rounded once, other numbers by way of 64 bits. -/
def single? (number : Number) : Option Decimal.Binary :=
  match number.integer? with
  | some value => some (Decimal.single.ofRatio (decide (value < 0)) value.natAbs 1)
  | none => number.double?.map Decimal.single.convert

end Number

/-- An integer as a document. -/
def ofInt (value : Int) : Json :=
  .number ⟨decide (value < 0), Numeral.ofNat 10 value.natAbs, none, none⟩

/-- A natural number as a document. -/
def ofNat (value : Nat) : Json := ofInt value

/-- A text as a document. -/
def ofString (text : String) : Json := .string (some text)

/-- An object with the given fields. -/
def ofFields (fields : List (String × Json)) : Json :=
  .object (fields.map fun field => (some field.1, field.2))

/-- A value, or `null` in its absence. -/
def ofOption {α : Type} (write : α → Json) : Option α → Json
  | some value => write value
  | none => .null

/-- The items of a list, as an array. -/
def ofList {α : Type} (write : α → Json) (items : List α) : Json := .array (items.map write)

mutual

/-- How deeply containers are nested: zero for a document that is none. -/
def depth : Json → Nat
  | .array items => depthOfItems items + 1
  | .object fields => depthOfFields fields + 1
  | _ => 0

/-- The greatest depth among items. -/
def depthOfItems : List Json → Nat
  | [] => 0
  | item :: rest => max (depth item) (depthOfItems rest)

/-- The greatest depth among the values of fields. -/
def depthOfFields : List (Option String × Json) → Nat
  | [] => 0
  | (_, value) :: rest => max (depth value) (depthOfFields rest)

end

mutual

/-- Whether every text of the document, names included, is a sequence of characters, and every
number has a value of 64 bits. -/
def isPlain : Json → Bool
  | .number value => value.integer?.isSome || value.double?.isSome
  | .string value => value.isSome
  | .array items => plainItems items
  | .object fields => plainFields fields
  | _ => true

/-- Whether every item is plain. -/
def plainItems : List Json → Bool
  | [] => true
  | item :: rest => isPlain item && plainItems rest

/-- Whether every field is plain. -/
def plainFields : List (Option String × Json) → Bool
  | [] => true
  | (name, value) :: rest => name.isSome && isPlain value && plainFields rest

end

end Json

end Wayfinder
