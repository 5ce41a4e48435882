/-
**Writing JSON.**

Documents are written without blanks. A text is quoted with as few escapes as the format allows.

* `Json.write`: the text of a document.
-/

import Wayfinder.Json.Value

namespace Wayfinder.Json

/-- One character of a quoted text. -/
def writeChar (character : Char) : List Char :=
  match character with
  | '"' => ['\\', '"']
  | '\\' => ['\\', '\\']
  | '\x08' => ['\\', 'b']
  | '\x0c' => ['\\', 'f']
  | '\n' => ['\\', 'n']
  | '\r' => ['\\', 'r']
  | '\t' => ['\\', 't']
  | other =>
    if other.toNat < 0x20 then
      let digits := Numeral.ofNat 16 other.toNat
      ['\\', 'u'] ++ List.replicate (4 - digits.length) '0' ++ digits
    else [other]

/-- A quoted text. -/
def writeString (text : String) : List Char :=
  '"' :: (text.toList.flatMap writeChar ++ ['"'])

/-- A number. -/
def Number.write (number : Number) : List Char :=
  (if number.negative then ['-'] else []) ++ number.whole ++
    (match number.fraction with
      | some digits => '.' :: digits
      | none => []) ++
    (match number.exponent with
      | some exponent => 'e' :: (Numeral.signed exponent).toList
      | none => [])

mutual

/-- The characters of a document, in front of those that follow it. -/
def writeBefore : Json → List Char → List Char
  | .null, after => 'n' :: 'u' :: 'l' :: 'l' :: after
  | .bool true, after => 't' :: 'r' :: 'u' :: 'e' :: after
  | .bool false, after => 'f' :: 'a' :: 'l' :: 's' :: 'e' :: after
  | .number value, after => value.write ++ after
  | .string value, after => writeString (value.getD "\ufffd") ++ after
  | .array items, after => '[' :: writeItems items (']' :: after)
  | .object fields, after => '\x7b' :: writeFields fields ('\x7d' :: after)

/-- The items of an array, separated by commas. -/
def writeItems : List Json → List Char → List Char
  | [], after => after
  | [item], after => writeBefore item after
  | item :: rest, after => writeBefore item (',' :: writeItems rest after)

/-- The fields of an object, separated by commas. -/
def writeFields : List (Option String × Json) → List Char → List Char
  | [], after => after
  | [(name, value)], after =>
    writeString (name.getD "\ufffd") ++ ':' :: writeBefore value after
  | (name, value) :: rest, after =>
    writeString (name.getD "\ufffd") ++ ':' :: writeBefore value (',' :: writeFields rest after)

end

/-- The text of a document. -/
def write (document : Json) : String := String.ofList (writeBefore document [])

end Wayfinder.Json
