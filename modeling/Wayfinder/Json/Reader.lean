/-
**Reading JSON.**

The reader follows the grammar of the format without extensions: blanks are the four of the
format, numbers have no leading zeros, texts hold no raw control characters, and nothing may
follow the document. Half a surrogate pair is allowed by the grammar; the text that holds it is
kept as `none`.

* `Json.parse?`: the document of a text.

Every function takes a bound on the number of calls below it. Each call removes at least one
character, so the length of the text is enough.
-/

import Wayfinder.Json.Value
import Wayfinder.Text.Start

namespace Wayfinder.Json

/-- The blanks of the format. -/
def isBlank (character : Char) : Bool :=
  character == ' ' || character == '\t' || character == '\n' || character == '\r'

/-- Skips blanks. -/
def skipBlanks (text : List Char) : List Char := text.dropWhile isBlank

/-- Four hexadecimal digits and what follows them. -/
def unit? : List Char → Option (Nat × List Char)
  | first :: second :: third :: fourth :: rest =>
    (Numeral.value? 16 [first, second, third, fourth]).map fun value => (value, rest)
  | _ => none

/-- The character of an escape of one letter. -/
def escaped? : Char → Option Char
  | '"' => some '"'
  | '\\' => some '\\'
  | '/' => some '/'
  | 'b' => some '\x08'
  | 'f' => some '\x0c'
  | 'n' => some '\n'
  | 'r' => some '\r'
  | 't' => some '\t'
  | _ => none

/-- Adds a character to a text that may already be spoilt. -/
def addChar (character : Char) (text : Option (List Char)) : Option (List Char) :=
  text.map (character :: ·)

/-- The rest of a text after its opening quote, and what follows the closing one. -/
def stringBody : Nat → List Char → Option (Option (List Char) × List Char)
  | 0, _ => none
  | _ + 1, '"' :: rest => some (some [], rest)
  | steps + 1, '\\' :: 'u' :: rest => do
    let (unit, rest) ← unit? rest
    if 0xD800 ≤ unit ∧ unit < 0xDC00 then
      match Text.dropStart? ['\\', 'u'] rest with
      | some afterMark =>
        let (second, after) ← unit? afterMark
        if 0xDC00 ≤ second ∧ second < 0xE000 then
          let code := 0x10000 + (unit - 0xD800) * 0x400 + (second - 0xDC00)
          let (text, rest) ← stringBody steps after
          return (addChar (Char.ofNat code) text, rest)
        else
          let (_, rest) ← stringBody steps rest
          return (none, rest)
      | none =>
        let (_, rest) ← stringBody steps rest
        return (none, rest)
    else if 0xDC00 ≤ unit ∧ unit < 0xE000 then
      let (_, rest) ← stringBody steps rest
      return (none, rest)
    else
      let (text, rest) ← stringBody steps rest
      return (addChar (Char.ofNat unit) text, rest)
  | steps + 1, '\\' :: letter :: rest => do
    let character ← escaped? letter
    let (text, rest) ← stringBody steps rest
    return (addChar character text, rest)
  | steps + 1, character :: rest => do
    if character.toNat < 0x20 || character == '\\' then failure
    let (text, rest) ← stringBody steps rest
    return (addChar character text, rest)
  | _ + 1, [] => none

/-- A text after its opening quote. -/
def stringAfterQuote (text : List Char) : Option (Option String × List Char) :=
  (stringBody (text.length + 1) text).map fun (body, rest) => (body.map String.ofList, rest)

/-- Splits the longest run of digits off the front. -/
def digits (text : List Char) : List Char × List Char :=
  (text.takeWhile (Numeral.isDigitOf 10), text.dropWhile (Numeral.isDigitOf 10))

/-- A fraction, if there is a point. -/
def fraction? : List Char → Option (Option (List Char) × List Char)
  | '.' :: rest =>
    let (places, after) := digits rest
    if places.isEmpty then none else some (some places, after)
  | text => some (none, text)

/-- The digits of an exponent. -/
def exponentDigits? (negative : Bool) (text : List Char) : Option (Option Int × List Char) :=
  let (places, after) := digits text
  (Numeral.value? 10 places).map fun value =>
    (some (if negative then -(value : Int) else value), after)

/-- An exponent, if there is a mark for one. -/
def exponent? : List Char → Option (Option Int × List Char)
  | mark :: rest =>
    if mark == 'e' || mark == 'E' then
      match rest with
      | '+' :: after => exponentDigits? false after
      | '-' :: after => exponentDigits? true after
      | after => exponentDigits? false after
    else some (none, mark :: rest)
  | [] => some (none, [])

/-- Takes one minus sign off the front, and tells whether there is one. -/
def takeMinus : List Char → Bool × List Char
  | '-' :: rest => (true, rest)
  | text => (false, text)

/-- A number. -/
def number? (text : List Char) : Option (Number × List Char) := do
  let (negative, text) := takeMinus text
  let (whole, text) := digits text
  if whole.isEmpty || (whole.head? == some '0' && whole.length != 1) then failure
  let (fraction, text) ← fraction? text
  let (exponent, text) ← exponent? text
  return (⟨negative, whole, fraction, exponent⟩, text)

mutual

/-- A document and what follows it. -/
def value? : Nat → List Char → Option (Json × List Char)
  | 0, _ => none
  | steps + 1, text =>
    match skipBlanks text with
    | '"' :: rest => (stringAfterQuote rest).map fun (text, rest) => (.string text, rest)
    | '[' :: rest =>
      match skipBlanks rest with
      | ']' :: after => some (.array [], after)
      | other => (items? steps other).map fun (items, rest) => (.array items, rest)
    | '\x7b' :: rest =>
      match skipBlanks rest with
      | '\x7d' :: after => some (.object [], after)
      | other => (fields? steps other).map fun (fields, rest) => (.object fields, rest)
    | 'n' :: rest => (Text.dropStart? ['u', 'l', 'l'] rest).map fun rest => (.null, rest)
    | 't' :: rest => (Text.dropStart? ['r', 'u', 'e'] rest).map fun rest => (.bool true, rest)
    | 'f' :: rest => (Text.dropStart? ['a', 'l', 's', 'e'] rest).map fun rest => (.bool false, rest)
    | other => (number? other).map fun (numeral, rest) => (.number numeral, rest)

/-- At least one item, up to the end of the array. -/
def items? : Nat → List Char → Option (List Json × List Char)
  | 0, _ => none
  | steps + 1, text => do
    let (item, rest) ← value? steps text
    match skipBlanks rest with
    | ',' :: rest =>
      let (items, rest) ← items? steps rest
      return (item :: items, rest)
    | ']' :: rest => return ([item], rest)
    | _ => failure

/-- At least one field, up to the end of the object. -/
def fields? : Nat → List Char → Option (List (Option String × Json) × List Char)
  | 0, _ => none
  | steps + 1, text =>
    match skipBlanks text with
    | '"' :: rest => do
      let (name, rest) ← stringAfterQuote rest
      match skipBlanks rest with
      | ':' :: rest =>
        let (value, rest) ← value? steps rest
        match skipBlanks rest with
        | ',' :: rest =>
          let (fields, rest) ← fields? steps rest
          return ((name, value) :: fields, rest)
        | '\x7d' :: rest => return ([(name, value)], rest)
        | _ => failure
      | _ => failure
    | _ => none

end

/-- The document of a text, if the text holds exactly one. -/
def parse? (text : String) : Option Json := do
  let characters := text.toList
  let (document, rest) ← value? (characters.length + 1) characters
  if (skipBlanks rest).isEmpty then some document else none

end Wayfinder.Json
