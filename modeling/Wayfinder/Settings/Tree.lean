/-
**Trees of settings.**

Settings come from several layers: defaults, files and variables. A layer is a tree whose inner
nodes are tables and lists and whose leaves are typed values. Later layers win; tables are joined
key by key.

* `SettingTree.place?`: a value at a path;
* `SettingTree.merge`: one tree laid over another;
* `SettingTree.text?`, `SettingTree.natural?`, `SettingTree.truth?`: a leaf as the type wanted, with
  the conversions that the types allow.
-/

import Wayfinder.Decimal.Notation
import Wayfinder.Json.Value

namespace Wayfinder

/-- A tree of settings. -/
inductive SettingTree where
  | missing
  | bool (value : Bool)
  | integer (value : Int)
  | real (value : Decimal.Binary)
  | text (value : String)
  | list (items : List SettingTree)
  | table (fields : List (String × SettingTree))
deriving Repr

/-- A step of a path: to the value of a key or to the item at a position. Negative positions count
from the end. -/
inductive SettingStep where
  | key (name : String)
  | item (position : Int)
deriving DecidableEq, Repr

namespace SettingTree

/-- The fields of a table. What is no table has none. -/
def fields : SettingTree → List (String × SettingTree)
  | .table fields => fields
  | _ => []

/-- The items of a list. What is no list has none. -/
def items : SettingTree → List SettingTree
  | .list items => items
  | _ => []

/-- Changes the value of a key. A new key starts with an empty table. -/
def change (key : String) (update : SettingTree → SettingTree) :
    List (String × SettingTree) → List (String × SettingTree)
  | [] => [(key, update (.table []))]
  | (other, value) :: rest =>
    if other = key then (other, update value) :: rest
    else (other, value) :: change key update rest

/-- The value of a key of a table. -/
def get? (tree : SettingTree) (key : String) : Option SettingTree :=
  (tree.fields.find? (·.1 = key)).map (·.2)

/-- Sets the item at an index. Items that are missing on the way there are added. -/
def setItem (index : Nat) (item : SettingTree) (items : List SettingTree) : List SettingTree :=
  if index < items.length then items.set index item
  else items ++ List.replicate (index - items.length) .missing ++ [item]

/-- The greatest count of items of a list. -/
def itemLimit : Nat := 0x1000000

/-- The index of a position in a list of some length. There is none before the beginning, nor where
a list could not reach. -/
def index? (position : Int) (length : Nat) : Option Nat :=
  if 0 ≤ position then
    if position.toNat < itemLimit then some position.toNat else none
  else if position.natAbs ≤ length then some (length - position.natAbs)
  else none

mutual

/-- Lays a tree over another one. A table is laid over it field by field, so that a table without
fields changes nothing; anything else takes its place. -/
def merge (under : SettingTree) : SettingTree → SettingTree
  | .table fields => mergeFields under fields
  | upper => upper

/-- Lays fields over a tree, which becomes a table if it is none. -/
def mergeFields (under : SettingTree) : List (String × SettingTree) → SettingTree
  | [] => under
  | (key, value) :: rest =>
    mergeFields (.table (change key (fun old => merge old value) under.fields)) rest

end

/-- Lays a value over what stands at a path; as an item of a list it takes the place of the one
before. Whatever is in the way becomes a table or a list. There is no result if a position on the
path has no index. -/
def place? (value : SettingTree) : List SettingStep → SettingTree → Option SettingTree
  | [], under => some (merge under value)
  | .key name :: path, under =>
    (place? value path ((under.get? name).getD (.table []))).map fun tree =>
      .table (change name (fun _ => tree) under.fields)
  | [.item position], under =>
    (index? position under.items.length).map fun index =>
      .list (setItem index value under.items)
  | .item position :: path, under =>
    (index? position under.items.length).bind fun index =>
      (place? value path (under.items[index]?.getD .missing)).map fun tree =>
        .list (setItem index tree under.items)

/-! ### Leaves as values of a wanted type -/

/-- Words for a truth value. -/
def word? (text : String) : Option Bool :=
  let characters := text.toList
  if Decimal.isWord ["true", "on", "yes"] characters then some true
  else if Decimal.isWord ["false", "off", "no"] characters then some false
  else none

/-- A text. Numbers and truth values are written out. -/
def text? : SettingTree → Option String
  | .bool value => some (if value then "true" else "false")
  | .integer value => some (Numeral.signed value)
  | .real value => some (Decimal.double.write value)
  | .text value => some value
  | _ => none

/-- A floating-point number as a natural number of 64 bits: the nearest one, upwards in the middle,
kept within the range. -/
def roundedWord : Decimal.Binary → Nat
  | .finite false size =>
    min (Decimal.roundHalfUp size.numerator size.denominator) (UInt64.size - 1)
  | .finite true _ => 0
  | .infinite false => UInt64.size - 1
  | .infinite true => 0
  | .nan => 0

/-- A natural number of 64 bits. -/
def natural? : SettingTree → Option Nat
  | .bool value => some value.toNat
  | .integer value => if 0 ≤ value then some value.toNat else none
  | .real value => some (roundedWord value)
  | .text value =>
    match word? value with
    | some truth => some truth.toNat
    | none => Numeral.unsigned? UInt64.size value.toList
  | _ => none

/-- A truth value. -/
def truth? : SettingTree → Option Bool
  | .bool value => some value
  | .integer value => some (value != 0)
  | .real value => some (!value.isZero)
  | .text value =>
    if value = "1" then some true
    else if value = "0" then some false
    else word? value
  | _ => none

/-! ### Trees of documents -/

mutual

/-- A document as a tree. Integers beyond 64 bits with a sign become floating-point numbers, and of
fields with one name the last one counts. A document that is not plain has no tree. -/
def ofJson? : Json → Option SettingTree
  | .null => some .missing
  | .bool value => some (.bool value)
  | .number value =>
    match value.integer?.filter fun whole =>
        -0x8000000000000000 ≤ whole ∧ whole < 0x8000000000000000 with
    | some whole => some (.integer whole)
    | none => value.double?.map .real
  | .string value => value.map .text
  | .array items => (ofItems? items).map .list
  | .object fields => (ofFields? fields []).map .table

/-- The items of a list. -/
def ofItems? : List Json → Option (List SettingTree)
  | [] => some []
  | item :: rest => (ofJson? item).bind fun tree => (ofItems? rest).map (tree :: ·)

/-- The fields of a table, after those already read. -/
def ofFields? : List (Option String × Json) → List (String × SettingTree) →
    Option (List (String × SettingTree))
  | [], read => some read
  | (some name, value) :: rest, read =>
    (ofJson? value).bind fun tree => ofFields? rest (change name (fun _ => tree) read)
  | (none, _) :: _, _ => none

end

example : index? (-1) 2 = some 1 ∧ index? (-3) 2 = none ∧ index? 5 2 = some 5 := by decide

end SettingTree

end Wayfinder
