/-
**Reading INI.**

A document has entries, a key and a value with an equals sign or a colon between them, in sections
that lines in brackets begin. All values are texts. A comment takes up a line of its own and begins
at its very start. Keys may go over several lines; values end with their lines, but for the part of
them that stands between quotes.

* `Ini.parse?`: the fields of a document: the entries before the first section, and the sections as
  tables.

Every step removes a character, so the length of the text bounds their number.
-/

import Wayfinder.Settings.Tree
import Wayfinder.Text.Blank
import Wayfinder.Text.Numeral

namespace Wayfinder.Ini

/-- The fields of a document or of a section. -/
abbrev Fields := List (String × SettingTree)

/-- Gives a value to a key, in the place of an earlier one. -/
def put (key : String) (value : SettingTree) (fields : Fields) : Fields :=
  SettingTree.change key (fun _ => value) fields

/-- Gives a value to a key of a section, or of none. -/
def assign (section? : Option String) (key : String) (value : SettingTree) (fields : Fields) :
    Fields :=
  match section? with
  | none => put key value fields
  | some name =>
    SettingTree.change name (fun entries => .table (put key value entries.fields)) fields

/-- The character whose code point a text begins with, and what follows: four hexadecimal digits, of
which the first one may be a plus sign instead. -/
def codePoint? (text : List Char) : Option (Char × List Char) :=
  (Numeral.value? 16 (Numeral.dropPlus (text.take 4))).bind fun code =>
    if (text.take 4).length = 4 ∧ code.isValidChar then some (Char.ofNat code, text.drop 4)
    else none

/-- The characters for which an escape after its backslash stands, and what follows. Characters
without a meaning of their own stand for themselves, and an end of line stands for nothing. -/
def escape? : List Char → Option (List Char × List Char)
  | [] => none
  | '0' :: rest => some (['\x00'], rest)
  | 'a' :: rest => some (['\x07'], rest)
  | 'b' :: rest => some (['\x08'], rest)
  | 't' :: rest => some (['\t'], rest)
  | 'r' :: rest => some (['\r'], rest)
  | 'n' :: rest => some (['\n'], rest)
  | '\n' :: rest => some ([], rest)
  | 'x' :: rest => (codePoint? rest).map fun (character, rest) => ([character], rest)
  | character :: rest => some ([character], rest)

/-- The part of a text up to a character that ends it, and the rest from there on. The end of the
text may or may not end it, too. -/
def upTo? (ends : Char → Bool) (mayEnd : Bool) : Nat → List Char → Option (List Char × List Char)
  | 0, _ => none
  | _ + 1, [] => if mayEnd then some ([], []) else none
  | steps + 1, character :: rest =>
    if ends character then some ([], character :: rest)
    else do
      let (taken, rest) ← if character = '\\' then escape? rest else some ([character], rest)
      let (text, rest) ← upTo? ends mayEnd steps rest
      return (taken ++ text, rest)

/-- The part of a text up to one of some characters, which has to come. -/
def before? (ends : List Char) (text : List Char) : Option (List Char × List Char) :=
  upTo? ends.contains false (text.length + 1) text

/-- The part of a text up to the end of its line. -/
def line? (text : List Char) : Option (List Char × List Char) :=
  upTo? ['\n', '\r'].contains true (text.length + 1) text

/-- A value after its sign, and what follows. -/
def value? (text : List Char) : Option (List Char × List Char) :=
  match text.dropWhile fun other => Text.isBlank other && other != '\n' && other != '\r' with
  | [] => some ([], [])
  | first :: rest =>
    if first = '"' ∨ first = '\'' then do
      let (quoted, rest) ← before? [first] rest
      let (line, rest) ← line? (rest.drop 1)
      return (quoted ++ line, rest)
    else line? (first :: rest)

/-- The fields of the lines of a text, after the section, the key and the fields read before.
Whether the text begins at the start of a line is given. -/
def lines? : Nat → Bool → Option String → List Char → Fields → List Char → Option Fields
  | 0, _, _, _, _, _ => none
  | steps + 1, atStart, section?, key, fields, text =>
    let blanks := text.takeWhile Text.isBlank
    let atStart := (blanks.getLast?.map (· == '\n')).getD atStart
    match text.drop blanks.length with
    | [] => some fields
    | first :: rest =>
      if first = ';' ∨ first = '#' then
        if atStart then
          lines? steps true section? key fields ((rest.dropWhile (· != '\n')).drop 1)
        else none
      else if first = '[' then do
        let (name, rest) ← before? [']'] rest
        let name := String.ofList (Text.trim name)
        lines? steps false (some name) key (put name (.table []) fields) (rest.drop 1)
      else if first = '=' ∨ first = ':' then
        if key.isEmpty then none
        else do
          let (value, rest) ← value? rest
          let value := SettingTree.text (String.ofList (Text.trim value))
          lines? steps false section? [] (assign section? (String.ofList key) value fields) rest
      else do
        let (key, rest) ← before? ['=', ':'] (first :: rest)
        lines? steps false section? (Text.trim key) fields rest

/-- The fields of the document of a text. -/
def parse? (text : String) : Option Fields :=
  lines? (text.length + 1) true none [] [] text.toList

example : ((parse? "a = 1 ; 2\n[b]\n; c\nd: \"x\" y\n").bind fun fields =>
    ((fields.lookup "b").bind (SettingTree.get? · "d")).bind SettingTree.text?) = some "x y" := by
  decide +kernel

example : (parse? " ; a").isNone ∧ (parse? "a").isNone ∧ (parse? "= 1").isNone := by decide +kernel

end Wayfinder.Ini
