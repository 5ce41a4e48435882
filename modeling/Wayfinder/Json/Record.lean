/-
**Records in JSON.**

A record is written as an object with named fields. It is read from such an object, where fields
that the record does not have are skipped and no field may stand twice, or from an array that
lists its values in the order of declaration.

* `Json.record?`: the documents of the declared fields;
* `Json.strictRecord?`: the same for records that allow no other field;
* `Json.natural?`, `Json.int32?`, `Json.text?`, `Json.list?`, `Json.option?`: plain values.
-/

import Wayfinder.Json.Value

namespace Wayfinder

/-- A field of a record. -/
structure Json.Field where
  name : String
  /-- Whether the field may be left out. -/
  optional : Bool := false
deriving Repr

namespace Json

/-- A field that has to be present. -/
def required (name : String) : Field := ⟨name, false⟩

/-- A field that may be left out. -/
def optional (name : String) : Field := ⟨name, true⟩

/-- What an object holds for a field: at most one document, and one if the field is required. -/
def Field.select? (field : Field) (fields : List (Option String × Json)) :
    Option (Option Json) :=
  match fields.filter (·.1 == some field.name) with
  | [] => if field.optional then some none else none
  | [(_, value)] => some (some value)
  | _ => none

/-- The values of an array for the declared fields, in order. -/
def positional? : List Field → List Json → Option (List (Option Json))
  | [], [] => some []
  | [], _ :: _ => none
  | _ :: declared, item :: items => (positional? declared items).map (some item :: ·)
  | field :: declared, [] =>
    if field.optional then (positional? declared []).map (none :: ·) else none

/-- The documents of the declared fields, from an object. -/
def named? (declared : List Field) (fields : List (Option String × Json)) :
    Option (List (Option Json)) :=
  if fields.all (·.1.isSome) then declared.mapM (·.select? fields) else none

/-- The documents of the declared fields. -/
def record? (declared : List Field) : Json → Option (List (Option Json))
  | .object fields => named? declared fields
  | .array items => positional? declared items
  | _ => none

/-- The documents of the declared fields, of a record that has no others. -/
def strictRecord? (declared : List Field) : Json → Option (List (Option Json))
  | .object fields =>
    if fields.all fun field => declared.any fun known => field.1 == some known.name
    then named? declared fields else none
  | .array items => positional? declared items
  | _ => none

/-- A truth value. -/
def bool? : Json → Option Bool
  | .bool value => some value
  | _ => none

/-- An integer, written as such. -/
def integer? : Json → Option Int
  | .number value => value.integer?
  | _ => none

/-- A natural number below a limit. -/
def natural? (limit : Nat) (document : Json) : Option Nat := do
  let value ← document.integer?
  if 0 ≤ value ∧ value.toNat < limit then some value.toNat else none

/-- A natural number of 64 bits. -/
def word? (document : Json) : Option UInt64 := (document.natural? UInt64.size).map UInt64.ofNat

/-- An integer of 32 bits. -/
def int32? (document : Json) : Option Int32 := do
  let value ← document.integer?
  if -0x80000000 ≤ value ∧ value < 0x80000000 then some (Int32.ofInt value) else none

/-- A number, as a value of 32 bits. -/
def single? : Json → Option Decimal.Binary
  | .number value => value.single?
  | _ => none

/-- A text. -/
def text? : Json → Option String
  | .string value => value
  | _ => none

/-- A list. -/
def list? {α : Type} (read : Json → Option α) : Json → Option (List α)
  | .array items => items.mapM read
  | _ => none

/-- A value that may be `null`. -/
def option? {α : Type} (read : Json → Option α) : Json → Option (Option α)
  | .null => some none
  | document => (read document).map some

/-- A field that must be there. -/
def present? {α : Type} (read : Json → Option α) (document : Option Json) : Option α :=
  document.bind read

/-- A field that has a value in its absence. -/
def orElse? {α : Type} (absent : α) (read : Json → Option α) : Option Json → Option α
  | some document => read document
  | none => some absent

/-- A field that may be absent or `null`. -/
def maybe? {α : Type} (read : Json → Option α) (document : Option Json) : Option (Option α) :=
  orElse? none (option? read) document

end Json

end Wayfinder
