/-
**Layers of settings.**

Variables of the environment carry settings under names such as `STEM_SECTION__KEY`: the stem and
one underscore in front, two underscores between the steps of the path, in any case of letters.
Their texts stand for truth values, integers or other numbers where they can be read as such. Files
hold documents. The names of their fields are paths, too: points stand before keys, and positions in
lists stand in brackets.

* `Layers.path`: the path that a key writes;
* `Layers.setting?`: the path and value of a variable;
* `Layers.underVariables`: all variables laid over a tree;
* `Layers.underFile`: the file of a name laid over a tree.
-/

import Wayfinder.Settings.Fault
import Wayfinder.Settings.Folder
import Wayfinder.Settings.Tree

namespace Wayfinder.Layers

/-- A character in lower case, among the letters that can make up a name. The sign of the unit
kelvin is a capital letter, too. -/
def lowerChar (character : Char) : Char :=
  if character = '\u212a' then 'k' else character.toLower

/-- A name in lower case. -/
def lower (text : String) : List Char := text.toList.map lowerChar

/-- Characters that a key on a path may have. -/
def isKeyChar (character : Char) : Bool :=
  character.isAlphanum || character == '_' || character == '-' || character == ' '

/-- Makes a point of every two underscores, from left to right. -/
def separate : List Char → List Char
  | '_' :: '_' :: rest => '.' :: separate rest
  | character :: rest => character :: separate rest
  | [] => []

/-- A position in a list: an integer without a plus sign, between spaces. -/
def position? (text : List Char) : Option Int :=
  let isSpace (character : Char) : Bool := character == ' ' || character == '\t'
  let numeral := ((text.dropWhile isSpace).reverse.dropWhile isSpace).reverse
  if numeral.head? = some '+' then none else Decimal.integer? 10 numeral

/-- The steps that a text writes: keys of at least one character behind points, and positions in
brackets. -/
def steps? : List Char → Option (List SettingStep)
  | [] => some []
  | '.' :: rest =>
    let key := rest.takeWhile isKeyChar
    if key.isEmpty then none
    else (steps? (rest.dropWhile isKeyChar)).map (.key (String.ofList key) :: ·)
  | '[' :: rest =>
    match position? (rest.takeWhile (· ≠ ']')) with
    | some position =>
      if rest.contains ']' then
        (steps? ((rest.dropWhile (· ≠ ']')).drop 1)).map (.item position :: ·)
      else none
    | none => none
  | _ => none
termination_by text => text.length
decreasing_by
  · exact Nat.lt_succ_of_le (List.dropWhile_sublist _).length_le
  · exact Nat.lt_succ_of_le
      (Nat.le_trans (List.drop_sublist _ _).length_le (List.dropWhile_sublist _).length_le)

/-- The path that a key writes. A key that writes none is a single step. -/
def path (key : List Char) : List SettingStep :=
  (steps? ('.' :: key)).getD [.key (String.ofList key)]

/-- The value of a text: a truth value, an integer or another number, if it can be read as one. -/
def valueOf (text : String) : SettingTree :=
  let characters := text.toList
  if Decimal.isWord ["true"] characters then .bool true
  else if Decimal.isWord ["false"] characters then .bool false
  else
    match Decimal.integer? 10 characters with
    | some value => .integer value
    | none =>
      match Decimal.double.parse? characters with
      | some value => .real value
      | none => .text text

/-- The path and value of a variable, if its name begins with the stem. -/
def setting? (stem : String) (name value : String) : Option (List SettingStep × SettingTree) :=
  (Text.dropStart? (lower stem ++ ['_']) (lower name)).map fun key =>
    (path (separate key), valueOf value)

/-- Values laid over a tree at their paths, one after another. -/
def under (placed : List (List SettingStep × SettingTree)) (tree : SettingTree) :
    Except SettingsFault SettingTree :=
  placed.foldlM (fun tree entry =>
    match SettingTree.place? entry.2 entry.1 tree with
    | some tree => .ok tree
    | none => .error .outOfBounds) tree

/-- All variables laid over a tree. -/
def underVariables (stem : String) (environment : List (String × String)) (tree : SettingTree) :
    Except SettingsFault SettingTree :=
  under (environment.filterMap fun entry => setting? stem entry.1 entry.2) tree

/-- The file of a name laid over a tree, key by key. A file that does not exist changes nothing; one
that holds no document is malformed. -/
def underFile (files : Folder) (name : String) (tree : SettingTree) :
    Except SettingsFault SettingTree :=
  match files.document? name with
  | none => .ok tree
  | some document =>
    match document.fields? with
    | some fields => under (fields.map fun field => (path field.1.toList, field.2)) tree
    | none => .error .malformed

example : path ['a', '.', 'b', ' ', 'c'] = [.key "a", .key "b c"] := by decide +kernel

example : path ['a', '[', '-', '1', ']', '.', 'b'] = [.key "a", .item (-1), .key "b"] := by
  decide +kernel

example : path ['a', '.', '.', 'b'] = [.key "a..b"] := by decide +kernel

end Wayfinder.Layers
