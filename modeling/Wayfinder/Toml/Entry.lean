/-
**Tables of TOML.**

Tables grow line by line: a header opens a table or adds one to a list of tables, names with points
open tables within the table at hand, and values are given to names. Nothing may be given twice, and
what one way of writing has opened another one cannot continue.

* `Toml.Entry`, `Toml.Entries`: what stands under a name, and tables;
* `Entries.assign?`: a value given to a name;
* `Entries.openTable?`: a header;
* `Entries.within?`: a change in the table under a header;
* `Entries.tree`: a table as a tree of settings.
-/

import Wayfinder.Settings.Tree

namespace Wayfinder.Toml

/-- What stands under a name. -/
inductive Entry where
  /-- A value. -/
  | value (tree : SettingTree)
  /-- A table that names with points have opened. -/
  | dotted (entries : List (String × Entry))
  /-- A table that headers have opened, by its own header or on the way to others. -/
  | table (opened : Bool) (entries : List (String × Entry))
  /-- A list of tables, of which only the last one is still growing. -/
  | tables (before : List SettingTree) (last : List (String × Entry))

/-- A table: names and what stands under them. -/
abbrev Entries := List (String × Entry)

mutual

/-- What stands under a name, as a tree. -/
def Entry.tree : Entry → SettingTree
  | .value tree => tree
  | .dotted entries | .table _ entries => .table (fields entries)
  | .tables before last => .list (before ++ [.table (fields last)])

/-- The fields of a table. -/
def fields : List (String × Entry) → List (String × SettingTree)
  | [] => []
  | (name, entry) :: rest => (name, entry.tree) :: fields rest

end

namespace Entries

/-- A table as a tree of settings. -/
def tree (entries : Entries) : SettingTree := .table (fields entries)

/-- What stands under a name. -/
def get? (entries : Entries) (name : String) : Option Entry :=
  (entries.find? (·.1 = name)).map (·.2)

/-- Puts an entry under a name. -/
def put (name : String) (entry : Entry) : Entries → Entries
  | [] => [(name, entry)]
  | (other, old) :: rest =>
    if other = name then (other, entry) :: rest else (other, old) :: put name entry rest

/-- Gives a value to a name, or to several ones with points between them. -/
def assign? (value : SettingTree) : List String → Entries → Option Entries
  | [], _ => none
  | [name], entries =>
    match entries.get? name with
    | none => some (entries.put name (.value value))
    | some _ => none
  | name :: names, entries =>
    match entries.get? name with
    | none => (assign? value names []).map fun inner => entries.put name (.dotted inner)
    | some (.dotted inner) =>
      (assign? value names inner).map fun inner => entries.put name (.dotted inner)
    | some _ => none

/-- Opens the table of a header, or adds a table to the list of a header. Tables on the way there
are opened for later headers, too. -/
def openTable? (many : Bool) : List String → Entries → Option Entries
  | [], _ => none
  | [name], entries =>
    match entries.get? name, many with
    | none, false => some (entries.put name (.table true []))
    | none, true => some (entries.put name (.tables [] []))
    | some (.table false inner), false => some (entries.put name (.table true inner))
    | some (.tables before last), true =>
      some (entries.put name (.tables (before ++ [tree last]) []))
    | some _, _ => none
  | name :: names, entries =>
    match entries.get? name with
    | none => (openTable? many names []).map fun inner => entries.put name (.table false inner)
    | some (.table opened inner) =>
      (openTable? many names inner).map fun inner => entries.put name (.table opened inner)
    | some (.tables before last) =>
      (openTable? many names last).map fun last => entries.put name (.tables before last)
    | some _ => none

/-- Changes the table under a header that has been opened. -/
def within? (update : Entries → Option Entries) : List String → Entries → Option Entries
  | [], entries => update entries
  | name :: names, entries =>
    match entries.get? name with
    | some (.table opened inner) =>
      (within? update names inner).map fun inner => entries.put name (.table opened inner)
    | some (.tables before last) =>
      (within? update names last).map fun last => entries.put name (.tables before last)
    | _ => none

end Entries

end Wayfinder.Toml
