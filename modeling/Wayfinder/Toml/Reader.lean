/-
**Reading TOML.**

A document is a sequence of lines: blank ones, headers of tables, and values given to names. A
comment reaches from a number sign to the end of the line. Arrays may go over several lines, inline
tables may not.

* `Toml.parse?`: the fields of a document.

Every function with a bound takes one for the number of calls below it. Of two calls in a row at
least one removes a character, so twice the length of the text is enough.
-/

import Wayfinder.Toml.Date
import Wayfinder.Toml.Entry
import Wayfinder.Toml.Number

namespace Wayfinder.Toml

/-- The end of a comment: the end of the line, or of the text. -/
def afterComment? (text : List Char) : Option (List Char) :=
  match text.dropWhile isCommentChar with
  | [] => some []
  | '\n' :: rest => some rest
  | _ => none

/-- The next line, where nothing but blanks and a comment is left of this one. -/
def nextLine? (text : List Char) : Option (List Char) :=
  match skipBlanks text with
  | [] => some []
  | '\n' :: rest => some rest
  | '#' :: rest => afterComment? rest
  | _ => none

/-- Skips blanks, ends of lines and comments. -/
def skipLines? : Nat → List Char → Option (List Char)
  | 0, _ => none
  | steps + 1, text =>
    match skipBlanks text with
    | '\n' :: rest => skipLines? steps rest
    | '#' :: rest => (afterComment? rest).bind (skipLines? steps)
    | rest => some rest

/-- A value that is a word, or begins with one. -/
def bare? (text : List Char) : Option (SettingTree × List Char) :=
  let (name, rest) := word text
  if name.isEmpty then none
  else if name = ['t', 'r', 'u', 'e'] then some (.bool true, rest)
  else if name = ['f', 'a', 'l', 's', 'e'] then some (.bool false, rest)
  else if isDate name rest then (date? name rest).map fun (date, rest) => (.text date, rest)
  else number? name rest

mutual

/-- A value and what follows it. -/
def value? : Nat → List Char → Option (SettingTree × List Char)
  | 0, _ => none
  | steps + 1, text =>
    match text with
    | '"' :: rest => (quoted? '"' rest).map fun (text, _, rest) => (.text text, rest)
    | '\'' :: rest => (quoted? '\'' rest).map fun (text, _, rest) => (.text text, rest)
    | '+' :: rest => number? (word rest).1 (word rest).2
    | '[' :: rest => (items? steps rest).map fun (items, rest) => (.list items, rest)
    | '\x7b' :: rest =>
      match skipBlanks rest with
      | '\x7d' :: rest => some (.table [], rest)
      | rest => (inline? steps [] rest).map fun (entries, rest) => (entries.tree, rest)
    | text => bare? text

/-- The items of an array after its opening bracket. -/
def items? : Nat → List Char → Option (List SettingTree × List Char)
  | 0, _ => none
  | steps + 1, text => do
    let text ← skipLines? (text.length + 1) text
    match text with
    | ']' :: rest => return ([], rest)
    | _ =>
      let (item, rest) ← value? steps text
      match ← skipLines? (rest.length + 1) rest with
      | ',' :: rest =>
        let (items, rest) ← items? steps rest
        return (item :: items, rest)
      | ']' :: rest => return ([item], rest)
      | _ => failure

/-- At least one entry of an inline table, added to those before. -/
def inline? : Nat → Entries → List Char → Option (Entries × List Char)
  | 0, _, _ => none
  | steps + 1, entries, text => do
    let (names, rest) ← keys? (text.length + 1) text
    let (value, rest) ← (mark? '=' rest).bind fun rest => value? steps (skipBlanks rest)
    let entries ← entries.assign? value names
    match skipBlanks rest with
    | ',' :: rest => inline? steps entries (skipBlanks rest)
    | '\x7d' :: rest => return (entries, rest)
    | _ => failure

end

/-- A header after its opening brackets, up to the end of its line. -/
def header? (many : Bool) (text : List Char) : Option (List String × List Char) := do
  let (names, rest) ← keys? (text.length + 1) (skipBlanks text)
  let rest ← Text.dropStart? (if many then [']', ']'] else [']']) rest
  return (names, ← nextLine? rest)

/-- The document of lines, after the header and the entries of those before. -/
def lines? : Nat → List String → Entries → List Char → Option Entries
  | 0, _, _, _ => none
  | steps + 1, header, entries, text =>
    match skipBlanks text with
    | [] => some entries
    | '\n' :: rest => lines? steps header entries rest
    | '#' :: rest => (afterComment? rest).bind (lines? steps header entries)
    | '[' :: '[' :: rest => do
      let (names, rest) ← header? true rest
      lines? steps names (← entries.openTable? true names) rest
    | '[' :: rest => do
      let (names, rest) ← header? false rest
      lines? steps names (← entries.openTable? false names) rest
    | text => do
      let (names, rest) ← keys? (text.length + 1) text
      let rest ← mark? '=' rest
      let (value, rest) ← value? (2 * rest.length + 2) (skipBlanks rest)
      lines? steps header (← entries.within? (Entries.assign? value names) header)
        (← nextLine? rest)

/-- A text in which every line ends in the same way. -/
def unifyLines : List Char → List Char
  | '\r' :: '\n' :: rest => '\n' :: unifyLines rest
  | character :: rest => character :: unifyLines rest
  | [] => []

/-- The fields of the document of a text. A mark of the order of bytes may stand in front. -/
def parse? (text : String) : Option (List (String × SettingTree)) :=
  let characters := unifyLines ((Text.dropStart? ['\ufeff'] text.toList).getD text.toList)
  (lines? (characters.length + 1) [] [] characters).map fields

example : (parse? "a.b = 1\n[a]\n").isNone ∧ (parse? "[a.b]\n[a]\nc = [1, # 2\n]\n").isSome
    ∧ (parse? "[[a]]\n[[a]]\n[a.b]\nc = \x7bd = 1\x7d").isSome ∧ (parse? "[a]\n[a]").isNone := by
  decide +kernel

end Wayfinder.Toml
