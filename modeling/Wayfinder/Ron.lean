/-
**Reading RON.**

A document is a value: a record `(key: value)` that may have a name in front, a table in braces
whose keys are values, too, a list, a tuple, an optional value, a text, a character, a number or a
truth value. Commas may stand behind the last part, and comments may be nested.

* `Ron.parse?`: the fields of a document.

Every function with a bound takes one for the number of calls below it. Of two calls in a row at
least one removes a character, so twice the length of the text is enough.
-/

import Wayfinder.Decimal.Notation
import Wayfinder.Settings.Tree
import Wayfinder.Text.Escape
import Wayfinder.Text.Start

namespace Wayfinder.Ron

/-- The blanks of the format. -/
def isSpace (character : Char) : Bool :=
  character == ' ' || character == '\n' || character == '\t' || character == '\r'

/-- What follows the end of a comment of several lines, in which others may be open. -/
def afterComment? : Nat → List Char → Option (List Char)
  | 0, '*' :: '/' :: rest => some rest
  | depth + 1, '*' :: '/' :: rest => afterComment? depth rest
  | depth, '/' :: '*' :: rest => afterComment? (depth + 1) rest
  | depth, _ :: rest => afterComment? depth rest
  | _, [] => none

/-- Skips blanks and comments. -/
def skipSpace : Nat → List Char → List Char
  | 0, text => text
  | steps + 1, text =>
    match text.dropWhile isSpace with
    | '/' :: '/' :: rest => skipSpace steps (rest.dropWhile (· != '\n'))
    | '/' :: '*' :: rest =>
      match afterComment? 0 rest with
      | some after => skipSpace steps after
      | none => '/' :: '*' :: rest
    | rest => rest

/-- Skips blanks and comments up to the next sign. -/
def next (text : List Char) : List Char := skipSpace (text.length + 1) text

/-! ### Names -/

/-- The characters of names. -/
def isNameChar (character : Char) : Bool := character.isAlphanum || character == '_'

/-- A name, and what follows. A mark may stand in front of a name that would be something else. The
letter of the mark by itself is no name at the end of a text. -/
def name? (text : List Char) : Option (List Char × List Char) :=
  let isMarkedChar (character : Char) : Bool :=
    isNameChar character || character == '.' || character == '+' || character == '-'
  match text with
  | ['r'] | 'r' :: '"' :: _ => none
  | 'r' :: '#' :: rest =>
    let name := rest.takeWhile isMarkedChar
    if name.isEmpty then none else some (name, rest.drop name.length)
  | first :: _ =>
    if first.isAlpha || first == '_' then
      some (text.takeWhile isNameChar, text.dropWhile isNameChar)
    else none
  | [] => none

/-! ### Texts -/

/-- A character by its code point in braces, and what follows. -/
def codePoint? (text : List Char) : Option (Char × List Char) := do
  let rest ← Text.dropStart? ['\x7b'] text
  let places := rest.takeWhile (Numeral.isDigitOf 16)
  if 6 < places.length then failure
  let (character, rest) ← Text.charOfHex? places.length rest
  let rest ← Text.dropStart? ['\x7d'] rest
  return (character, rest)

/-- The character for which an escape after its backslash stands, and what follows. -/
def escape? : List Char → Option (Char × List Char)
  | '\'' :: rest => some ('\'', rest)
  | '"' :: rest => some ('"', rest)
  | '\\' :: rest => some ('\\', rest)
  | 'n' :: rest => some ('\n', rest)
  | 'r' :: rest => some ('\r', rest)
  | 't' :: rest => some ('\t', rest)
  | '0' :: rest => some ('\x00', rest)
  | 'x' :: rest => Text.charOfHex? 2 rest
  | 'u' :: rest => codePoint? rest
  | _ => none

/-- The rest of a text up to its closing quote, and what follows. -/
def body? : Nat → List Char → Option (List Char × List Char)
  | 0, _ => none
  | steps + 1, text =>
    match text with
    | [] => none
    | '"' :: rest => some ([], rest)
    | '\\' :: rest => do
      let (character, rest) ← escape? rest
      let (text, rest) ← body? steps rest
      return (character :: text, rest)
    | character :: rest => (body? steps rest).map fun (text, rest) => (character :: text, rest)

/-- A text without escapes up to a closing mark, and what follows. -/
def rawBody? (close : List Char) : List Char → Option (List Char × List Char)
  | [] => none
  | character :: rest =>
    match Text.dropStart? close (character :: rest) with
    | some after => some ([], after)
    | none => (rawBody? close rest).map fun (text, rest) => (character :: text, rest)

/-- A text without escapes after its mark: the same number of number signs before and behind it. -/
def raw? (text : List Char) : Option (List Char × List Char) :=
  let signs := text.takeWhile (· == '#')
  (Text.dropStart? ['"'] (text.drop signs.length)).bind (rawBody? ('"' :: signs))

/-- A text as a setting. -/
def textOf (found : List Char × List Char) : SettingTree × List Char :=
  (.text (String.ofList found.1), found.2)

/-- A character after its opening quote. -/
def character? (text : List Char) : Option (SettingTree × List Char) := do
  let (character, rest) ← match text with
    | '\\' :: rest => escape? rest
    | character :: rest => if character = '\'' then none else some (character, rest)
    | [] => none
  let rest ← Text.dropStart? ['\''] rest
  return textOf ([character], rest)

/-! ### Numbers -/

/-- The characters of floating-point numbers. -/
def isRealChar (character : Char) : Bool :=
  character.isDigit || character == 'e' || character == 'E' || character == '.' ||
    character == '+' || character == '-'

/-- The characters of integers in all bases. -/
def isIntegerChar (character : Char) : Bool :=
  Numeral.isDigitOf 16 character || character == '_'

/-- A floating-point number, and what follows. -/
def real? (text : List Char) : Option (SettingTree × List Char) :=
  let places := text.takeWhile isRealChar
  (Decimal.double.parse? places).map fun value => (.real value, text.drop places.length)

/-- An integer in a base, without sign, and what follows. Underscores between its digits do not
count. -/
def natural? (base : Nat) (text : List Char) : Option (Nat × List Char) :=
  let places := text.takeWhile isIntegerChar
  if places.head? = some '_' then none
  else
    (Numeral.value? base (places.filter (· != '_'))).map fun value =>
      (value, text.drop places.length)

/-- An integer of 128 bits, with or without a sign, and what follows. One that is too large for a
setting that is an integer becomes a floating-point number. -/
def integer? (text : List Char) : Option (SettingTree × List Char) := do
  let (negative, size) := Decimal.takeSign text
  let (value, rest) ← match size with
    | '0' :: 'x' :: rest => natural? 16 rest
    | '0' :: 'b' :: rest => natural? 2 rest
    | '0' :: 'o' :: rest => natural? 8 rest
    | _ => natural? 10 size
  let limit := if text = size then 0x100000000000000000000000000000000
    else if negative then 0x80000000000000000000000000000001
    else 0x80000000000000000000000000000000
  if limit ≤ value then failure
  let signed : Int := if negative then -(value : Int) else value
  if -0x8000000000000000 ≤ signed ∧ signed < 0x8000000000000000 then
    return (.integer signed, rest)
  else return (.real (Decimal.double.ofScaled negative ⟨value, 0⟩), rest)

/-- Infinity or what is no number, with or without a sign, and what follows. -/
def word? (text : List Char) : Option (SettingTree × List Char) :=
  let (negative, size) := Decimal.takeSign text
  let rest := size.dropWhile isNameChar
  if size.takeWhile isNameChar = "inf".toList then some (.real (.infinite negative), rest)
  else if size.takeWhile isNameChar = "NaN".toList then some (.real .nan, rest)
  else none

/-- A number, and what follows. What cannot be an integer is read as a floating-point number. -/
def number? (text : List Char) : Option (SettingTree × List Char) :=
  let size := (Decimal.takeSign text).2
  let hasMore := decide
    ((size.takeWhile isIntegerChar).length < (size.takeWhile isRealChar).length)
  if hasMore then real? text else (integer? text).or (real? text)

/-! ### Values -/

/-- Whether a record with named parts begins after an opening parenthesis. -/
def isRecord (text : List Char) : Bool :=
  match name? text with
  | some (_, rest) => (next rest).head? = some ':'
  | none => false

/-- A value that is a word, and what follows. -/
def constant? (text : List Char) : Option (SettingTree × List Char) :=
  let name := text.takeWhile isNameChar
  let rest := text.dropWhile isNameChar
  if name = "true".toList then some (.bool true, rest)
  else if name = "false".toList then some (.bool false, rest)
  else if name = "None".toList then some (.missing, rest)
  else word? text

/-- What follows the word of an optional value that is there. -/
def afterSome? (text : List Char) : Option (List Char) :=
  if text.takeWhile isNameChar = "Some".toList then some (text.dropWhile isNameChar) else none

/-- Whether the key of a table is a character. -/
def isCharacterKey (text : List Char) : Bool := text.head? == some '\''

/-- The name that a key of a table stands for, by its text and its value. Only texts and characters
stand for names. -/
def keyName? (text : List Char) : SettingTree → Option String
  | .text name => if (afterSome? text).isSome then none else some name
  | _ => none

/-- The fields of a table, by parts that tell whether their key is a character. Of parts with one
name the last one counts, but a text counts more than a character. -/
def fieldsOf (parts : List (Bool × String × SettingTree)) : List (String × SettingTree) :=
  (parts.filter (·.1) ++ parts.filter (!·.1)).foldl
    (fun fields part => SettingTree.change part.2.1 (fun _ => part.2.2) fields) []

mutual

/-- A value and what follows it. The parentheses around an optional value may be left out if the
document says so. -/
def value? (bare : Bool) : Nat → List Char → Option (SettingTree × List Char)
  | 0, _ => none
  | steps + 1, text =>
    match constant? text, afterSome? text, name? text with
    | some found, _, _ => some found
    | none, some rest, _ =>
      match Text.dropStart? ['('] (next rest) with
      | some rest => do
        let (value, rest) ← value? bare steps (next rest)
        let rest := next rest
        let rest := next ((Text.dropStart? [','] rest).getD rest)
        return (value, ← Text.dropStart? [')'] rest)
      | none => if bare then value? bare steps (next rest) else none
    | none, none, some (_, rest) =>
      match next rest with
      | '(' :: rest => group? bare steps rest
      | rest => some (.missing, rest)
    | none, none, none =>
      match text with
      | '(' :: ')' :: rest => some (.missing, rest)
      | '(' :: rest => group? bare steps rest
      | '[' :: rest =>
        (items? bare ']' steps rest).map fun (items, rest) => (.list items, rest)
      | '\x7b' :: rest =>
        (fields? bare steps rest).map fun (parts, rest) => (.table (fieldsOf parts), rest)
      | '"' :: rest => (body? (rest.length + 1) rest).map textOf
      | 'r' :: rest => (raw? rest).map textOf
      | '\'' :: rest => character? rest
      | text => number? text

/-- A record or a tuple after its opening parenthesis. -/
def group? (bare : Bool) : Nat → List Char → Option (SettingTree × List Char)
  | 0, _ => none
  | steps + 1, text =>
    if isRecord (next text) then
      (parts? bare steps [] text).map fun (fields, rest) => (.table fields, rest)
    else (items? bare ')' steps text).map fun (items, rest) => (.list items, rest)

/-- The items of a list or tuple up to its end. -/
def items? (bare : Bool) (close : Char) : Nat → List Char →
    Option (List SettingTree × List Char)
  | 0, _ => none
  | steps + 1, text =>
    match Text.dropStart? [close] (next text) with
    | some rest => some ([], rest)
    | none => do
      let (item, rest) ← value? bare steps (next text)
      match next rest with
      | ',' :: rest =>
        let (items, rest) ← items? bare close steps rest
        return (item :: items, rest)
      | rest => return ([item], ← Text.dropStart? [close] rest)

/-- The named parts of a record up to its end, after those before. -/
def parts? (bare : Bool) : Nat → List (String × SettingTree) → List Char →
    Option (List (String × SettingTree) × List Char)
  | 0, _, _ => none
  | steps + 1, read, text =>
    match next text with
    | ')' :: rest => some (read, rest)
    | text => do
      let (name, rest) ← name? text
      let rest ← Text.dropStart? [':'] (next rest)
      let (value, rest) ← value? bare steps (next rest)
      let read := SettingTree.change (String.ofList name) (fun _ => value) read
      match next rest with
      | ',' :: rest => parts? bare steps read rest
      | rest => return (read, ← Text.dropStart? [')'] rest)

/-- The parts of a table up to its end, with what tells whether their key is a character. -/
def fields? (bare : Bool) : Nat → List Char →
    Option (List (Bool × String × SettingTree) × List Char)
  | 0, _ => none
  | steps + 1, text =>
    match next text with
    | '\x7d' :: rest => some ([], rest)
    | text => do
      let (key, rest) ← value? bare steps text
      let rest ← Text.dropStart? [':'] (next rest)
      let (value, rest) ← value? bare steps (next rest)
      let part := (isCharacterKey text, ← keyName? text key, value)
      match next rest with
      | ',' :: rest =>
        let (parts, rest) ← fields? bare steps rest
        return (part :: parts, rest)
      | rest => return ([part], ← Text.dropStart? ['\x7d'] rest)

end

/-! ### Documents -/

/-- The names of the extensions of the format. The second one lets parentheses around optional
values be left out; the others change nothing for settings. -/
def extensions : List String := ["unwrap_newtypes", "implicit_some", "unwrap_variant_newtypes"]

/-- Names of extensions with commas between them, up to the end of their list. It is told whether
parentheses around optional values may be left out. -/
def extensions? (bare : Bool) : Nat → List Char → Option (Bool × List Char)
  | 0, _ => none
  | steps + 1, text => do
    let (name, rest) ← name? (next text)
    if extensions.all (·.toList ≠ name) then failure
    let bare := bare || name == "implicit_some".toList
    match next rest with
    | ',' :: rest =>
      match next rest with
      | ')' :: rest => return (bare, rest)
      | rest => extensions? bare steps rest
    | rest => return (bare, ← Text.dropStart? [')'] rest)

/-- Takes lines that turn extensions on off the front, and tells whether parentheses around optional
values may be left out. -/
def preamble? (bare : Bool) : Nat → List Char → Option (Bool × List Char)
  | 0, _ => none
  | steps + 1, text =>
    match next text with
    | '#' :: rest => do
      let rest ← Text.dropStart? ['!'] (next rest)
      let rest ← Text.dropStart? ['['] (next rest)
      let rest ← Text.dropStart? "enable".toList (next rest)
      let rest ← Text.dropStart? ['('] (next rest)
      let (bare, rest) ← extensions? bare (rest.length + 1) rest
      let rest ← Text.dropStart? [']'] (next rest)
      preamble? bare steps rest
    | rest => some (bare, rest)

/-- The fields of the document of a text. What is no table counts as an empty one. -/
def parse? (text : String) : Option (List (String × SettingTree)) := do
  let (bare, rest) ← preamble? false (text.length + 1) text.toList
  let (tree, rest) ← value? bare (2 * text.length + 2) rest
  if (next rest).isEmpty then some tree.fields else none

example : (parse? "Config(a: 1, /* b */ c: Some('d'),) // e").map (·.map (·.1)) =
    some ["a", "c"] := by decide +kernel

example : (parse? "\x7b\"a\": [1_0, 0x1F, -.5e1], \"b\": (1, r#\"x\"#)\x7d").isSome
    ∧ (parse? "(a: null, b)").isNone ∧ (parse? "\x7b1: 2\x7d").isNone := by decide +kernel

example : (parse? "#![enable(implicit_some)] (a: Some 1)").isSome ∧ (parse? "(a: Some 1)").isNone
    := by decide +kernel

end Wayfinder.Ron
