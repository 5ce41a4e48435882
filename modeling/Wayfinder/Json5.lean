/-
**Reading JSON5.**

The format takes JSON documents in and is easier to write by hand: comments, commas at the end, keys
without quotes, single quotes, ends of lines in texts behind a backslash, and more spellings of
numbers.

* `Json5.parse?`: the fields of a document.

Every function with a bound takes one for the number of calls below it. Of two calls in a row at
least one removes a character, so twice the length of the text is enough.
-/

import Wayfinder.Decimal.Notation
import Wayfinder.Settings.Tree
import Wayfinder.Text.Blank
import Wayfinder.Text.Continuing
import Wayfinder.Text.Escape
import Wayfinder.Text.Letter
import Wayfinder.Text.Start

namespace Wayfinder.Json5

/-- The ends of lines. -/
def isBreak (character : Char) : Bool :=
  character == '\n' || character == '\r' || character == '\u2028' || character == '\u2029'

/-- The blanks of the format: white space but for the control character that moves to a next line,
and the mark of the order of bytes. -/
def isSpace (character : Char) : Bool :=
  (Text.isBlank character && character != '\u0085') || character == '\ufeff'

/-- What follows the end of a comment of several lines, if there is one. -/
def afterComment? : List Char → Option (List Char)
  | '*' :: '/' :: rest => some rest
  | _ :: rest => afterComment? rest
  | [] => none

/-- Skips blanks and comments. -/
def skipSpace : Nat → List Char → List Char
  | 0, text => text
  | steps + 1, text =>
    match text.dropWhile isSpace with
    | '/' :: '/' :: rest => skipSpace steps (rest.dropWhile (!isBreak ·))
    | '/' :: '*' :: rest =>
      match afterComment? rest with
      | some after => skipSpace steps after
      | none => '/' :: '*' :: rest
    | rest => rest

/-- Skips blanks and comments up to the next sign. -/
def next (text : List Char) : List Char := skipSpace (text.length + 1) text

/-! ### Texts and keys -/

/-- The character of an escape of one letter. Letters without a meaning of their own stand for
themselves; digits, `x` and `u` do not. -/
def escaped? (letter : Char) : Option Char :=
  match letter with
  | '0' => some '\x00'
  | 'b' => some '\x08'
  | 'f' => some '\x0c'
  | 'n' => some '\n'
  | 'r' => some '\r'
  | 't' => some '\t'
  | 'v' => some '\x0b'
  | _ => if letter.isDigit || letter == 'x' || letter == 'u' then none else some letter

/-- Four hexadecimal digits behind a mark, and what follows them. -/
def unit? (text : List Char) : Option (Nat × List Char) :=
  (Numeral.value? 16 (text.take 4)).bind fun code =>
    if (text.take 4).length = 4 then some (code, text.drop 4) else none

/-- The code point of the two halves of a surrogate pair: the bits of the first half above ten bits
of the second one, with the seventeenth bit set, so that only planes of odd numbers come out. -/
def joined (first second : Nat) : Nat :=
  ((first - 0xD800) * 0x400) ||| (second - 0xDC00 + 0x10000)

/-- Skips ends of lines that stand behind a backslash. -/
def skipBreaks : List Char → List Char
  | '\\' :: '\r' :: '\n' :: rest => skipBreaks rest
  | '\\' :: character :: rest =>
    if isBreak character then skipBreaks rest else '\\' :: character :: rest
  | text => text

/-- A character by its code point, or by the two halves of a surrogate pair. What may stand between
the halves is skipped. -/
def codePoint? (skip : List Char → List Char) (text : List Char) : Option (Char × List Char) := do
  let (first, rest) ← unit? text
  if 0xD800 ≤ first ∧ first < 0xDC00 then
    let (second, rest) ← (Text.dropStart? ['\\', 'u'] (skip rest)).bind unit?
    if 0xDC00 ≤ second ∧ second < 0xE000 then
      return (Char.ofNat (joined first second), rest)
    else failure
  else if first.isValidChar then return (Char.ofNat first, rest)
  else failure

/-- The characters for which an escape after its backslash stands, and what follows. -/
def escape? : List Char → Option (List Char × List Char)
  | '\r' :: '\n' :: rest => some ([], rest)
  | 'x' :: rest => (Text.charOfHex? 2 rest).map fun (character, rest) => ([character], rest)
  | 'u' :: rest => (codePoint? skipBreaks rest).map fun (character, rest) => ([character], rest)
  | letter :: rest =>
    if isBreak letter then some ([], rest)
    else (escaped? letter).map fun character => ([character], rest)
  | [] => none

/-- The rest of a text up to its closing quote, and what follows. -/
def body? (quote : Char) : Nat → List Char → Option (List Char × List Char)
  | 0, _ => none
  | _ + 1, [] => none
  | steps + 1, character :: rest =>
    if character = quote then some ([], rest)
    else if isBreak character then none
    else do
      let (taken, rest) ← if character = '\\' then escape? rest else some ([character], rest)
      let (text, rest) ← body? quote steps rest
      return (taken ++ text, rest)

/-- A text after its opening quote. -/
def quoted? (quote : Char) (text : List Char) : Option (String × List Char) :=
  (body? quote (text.length + 1) text).map fun (text, rest) => (String.ofList text, rest)

/-- The characters with which keys without quotes begin. -/
def isKeyStart (character : Char) : Bool :=
  Text.isLetter character || character == '$' || character == '_'

/-- The rest of a key without quotes, at whose beginning only some characters may stand, and what
follows. An escape stands for any character. -/
def bareKey? (kind : Char → Bool) : Nat → List Char → Option (List Char × List Char)
  | 0, _ => none
  | steps + 1, text =>
    let goOn (character : Char) (rest : List Char) : Option (List Char × List Char) :=
      (bareKey? (fun other => isKeyStart other || Text.isContinuing other) steps rest).map
        fun (key, rest) => (character :: key, rest)
    match text with
    | '\\' :: 'u' :: rest => (codePoint? id rest).bind fun (character, rest) => goOn character rest
    | character :: rest => if kind character then goOn character rest else some ([], text)
    | [] => some ([], [])

/-- A key, and what follows. -/
def key? : List Char → Option (String × List Char)
  | '"' :: rest => quoted? '"' rest
  | '\'' :: rest => quoted? '\'' rest
  | text =>
    ((bareKey? isKeyStart (text.length + 1) text).filter fun (key, _) => !key.isEmpty).map
      fun (key, rest) => (String.ofList key, rest)

/-! ### Numbers -/

/-- Splits digits off the front. -/
def digits (text : List Char) : List Char × List Char :=
  (text.takeWhile Char.isDigit, text.dropWhile Char.isDigit)

/-- The length of an exponent, or zero if there is none. -/
def exponentLength : List Char → Nat
  | mark :: rest =>
    if mark = 'e' ∨ mark = 'E' then
      let sign := if rest.head? = some '+' ∨ rest.head? = some '-' then 1 else 0
      let places := (digits (rest.drop sign)).1.length
      if places = 0 then 0 else 1 + sign + places
    else 0
  | [] => 0

/-- The length of a decimal without sign, or zero if there is none. A whole part has no leading
zeros. -/
def decimalLength (text : List Char) : Nat :=
  let whole := if text.head? = some '0' then 1 else (digits text).1.length
  let rest := text.drop whole
  let places := if rest.head? = some '.' then (digits (rest.drop 1)).1.length + 1 else 0
  if whole = 0 ∧ places ≤ 1 then 0
  else whole + places + exponentLength (rest.drop places)

/-- A decimal with a sign. Without point and exponent it is an integer of 64 bits; otherwise it is a
number within their range. -/
def decimal? (text : List Char) : Option SettingTree :=
  if text.contains '.' || text.contains 'e' || text.contains 'E' then
    ((Decimal.double.parse? text).filter Decimal.Binary.isFinite).map .real
  else (Decimal.integer? 10 text).map .integer

/-- Infinity or what is no number, and what follows. A minus sign may stand in front. -/
def word? (text : List Char) : Option (SettingTree × List Char) :=
  let size := (Text.dropStart? ['-'] text).getD text
  match Text.dropStart? "Infinity".toList size with
  | some rest => some (.real (.infinite (text.head? = some '-')), rest)
  | none => (Text.dropStart? "NaN".toList size).map fun rest => (.real .nan, rest)

/-- A number, and what follows. Hexadecimal integers have 32 bits and no sign. -/
def number? (text : List Char) : Option (SettingTree × List Char) :=
  match word? text with
  | some found => some found
  | none =>
    let size := (Decimal.takeSign text).2
    match text with
    | '0' :: 'x' :: rest | '0' :: 'X' :: rest =>
      let hexadecimal := rest.takeWhile (Numeral.isDigitOf 16)
      ((Numeral.value? 16 hexadecimal).filter (· < UInt32.size)).map fun value =>
        (.integer value, rest.drop hexadecimal.length)
    | _ =>
      let length := decimalLength size
      let whole := text.length - size.length + length
      if length = 0 then none
      else (decimal? (text.take whole)).map fun value => (value, text.drop whole)

/-! ### Documents -/

mutual

/-- A value and what follows it. -/
def value? : Nat → List Char → Option (SettingTree × List Char)
  | 0, _ => none
  | steps + 1, text =>
    match next text with
    | '"' :: rest => (quoted? '"' rest).map fun (text, rest) => (.text text, rest)
    | '\'' :: rest => (quoted? '\'' rest).map fun (text, rest) => (.text text, rest)
    | '[' :: rest => (items? steps rest).map fun (items, rest) => (.list items, rest)
    | '\x7b' :: rest =>
      (fields? steps [] rest).map fun (fields, rest) => (.table fields, rest)
    | 'n' :: rest => (Text.dropStart? ['u', 'l', 'l'] rest).map fun rest => (.missing, rest)
    | 't' :: rest => (Text.dropStart? ['r', 'u', 'e'] rest).map fun rest => (.bool true, rest)
    | 'f' :: rest => (Text.dropStart? ['a', 'l', 's', 'e'] rest).map fun rest => (.bool false, rest)
    | text => number? text

/-- The items of an array up to its end. A comma may stand behind the last one. -/
def items? : Nat → List Char → Option (List SettingTree × List Char)
  | 0, _ => none
  | steps + 1, text =>
    match next text with
    | ']' :: rest => some ([], rest)
    | text => do
      let (item, rest) ← value? steps text
      match next rest with
      | ',' :: rest =>
        let (items, rest) ← items? steps rest
        return (item :: items, rest)
      | ']' :: rest => return ([item], rest)
      | _ => failure

/-- The fields of an object up to its end, after those before. A comma may stand behind the last
one, and of fields with one name the last one counts. -/
def fields? : Nat → List (String × SettingTree) → List Char →
    Option (List (String × SettingTree) × List Char)
  | 0, _, _ => none
  | steps + 1, read, text =>
    match next text with
    | '\x7d' :: rest => some (read, rest)
    | text => do
      let (key, rest) ← key? text
      let rest ← Text.dropStart? [':'] (next rest)
      let (value, rest) ← value? steps rest
      let read := SettingTree.change key (fun _ => value) read
      match next rest with
      | ',' :: rest => fields? steps read rest
      | '\x7d' :: rest => return (read, rest)
      | _ => failure

end

/-- The fields of the document of a text, which has to be an object. -/
def parse? (text : String) : Option (List (String × SettingTree)) :=
  match value? (2 * text.length + 2) text.toList with
  | some (.table fields, rest) => if (next rest).isEmpty then some fields else none
  | _ => none

example : (parse? "\x7ba: 'x', // y\n \"b\": [+1., 0xf,], \x7d").isSome
    ∧ (parse? "\x7ba: 01\x7d").isNone ∧ (parse? "[]").isNone := by decide +kernel

example : (key? "a१\\u00311: 2".toList).map (·.1) = some "a१11" ∧ (key? "1a: 2".toList).isNone
    ∧ (key? "№: 1".toList).isNone := by decide +kernel

end Wayfinder.Json5
