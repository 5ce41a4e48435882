/-
**Words and texts of TOML.**

Names and numbers are words of letters, digits, hyphens and underscores. Texts stand between quotes:
double ones leave room for escapes, single ones take every character as it is. Three quotes open a
text of several lines, whose first end of line does not count when it comes at once.

* `Toml.word`: the word at the beginning of a text;
* `Toml.quoted?`: a text after its first quote;
* `Toml.key?`, `Toml.keys?`: a name, and several with points between them.

Functions with a bound remove at least one character with every call below them, so the length of
the text is enough.
-/

import Wayfinder.Text.Escape
import Wayfinder.Text.Start

namespace Wayfinder.Toml

/-- The blanks within a line. -/
def isBlank (character : Char) : Bool := character == ' ' || character == '\t'

/-- Skips blanks. -/
def skipBlanks (text : List Char) : List Char := text.dropWhile isBlank

/-- The characters of words. -/
def isWordChar (character : Char) : Bool :=
  character.isAlphanum || character == '-' || character == '_'

/-- The word at the beginning of a text, which may be empty, and what follows. -/
def word (text : List Char) : List Char × List Char :=
  (text.takeWhile isWordChar, text.dropWhile isWordChar)

/-- The characters of comments. -/
def isCommentChar (character : Char) : Bool := character == '\t' || 0x20 ≤ character.toNat

/-- The characters that may stand between quotes as they are. -/
def isTextChar (character : Char) : Bool := isCommentChar character && character.toNat != 0x7f

/-- The characters for which an escape after its backslash stands, and what follows. In a text of
several lines a backslash at the end of a line hides all blanks up to the next character. -/
def escape? (lines : Bool) : List Char → Option (List Char × List Char)
  | '"' :: rest => some (['"'], rest)
  | '\\' :: rest => some (['\\'], rest)
  | 'b' :: rest => some (['\x08'], rest)
  | 'f' :: rest => some (['\x0c'], rest)
  | 'n' :: rest => some (['\n'], rest)
  | 'r' :: rest => some (['\r'], rest)
  | 't' :: rest => some (['\t'], rest)
  | 'u' :: rest => (Text.charOfHex? 4 rest).map fun (character, rest) => ([character], rest)
  | 'U' :: rest => (Text.charOfHex? 8 rest).map fun (character, rest) => ([character], rest)
  | rest =>
    match lines, skipBlanks rest with
    | true, '\n' :: next => some ([], next.dropWhile fun other => isBlank other || other == '\n')
    | _, _ => none

/-- The rest of a text up to its closing quotes, and what follows them. Up to two quotes may stand
right before the three that close a text of several lines. -/
def body? (quote : Char) (lines : Bool) : Nat → List Char → Option (List Char × List Char)
  | 0, _ => none
  | _ + 1, [] => none
  | steps + 1, character :: rest =>
    if character = quote then
      if lines then
        match Text.dropStart? [quote, quote] rest with
        | some after =>
          let more := (after.takeWhile (· = quote)).take 2
          some (more, after.drop more.length)
        | none => (body? quote lines steps rest).map fun (text, rest) => (quote :: text, rest)
      else some ([], rest)
    else if character = '\\' ∧ quote = '"' then do
      let (escaped, rest) ← escape? lines rest
      let (text, rest) ← body? quote lines steps rest
      return (escaped ++ text, rest)
    else if isTextChar character ∨ (lines ∧ character = '\n') then
      (body? quote lines steps rest).map fun (text, rest) => (character :: text, rest)
    else none

/-- A text after its first quote, whether it is one of several lines, and what follows. -/
def quoted? (quote : Char) (text : List Char) : Option (String × Bool × List Char) :=
  match Text.dropStart? [quote, quote] text with
  | some opened =>
    let lines := (Text.dropStart? ['\n'] opened).getD opened
    (body? quote true (lines.length + 1) lines).map fun (text, rest) =>
      (String.ofList text, true, rest)
  | none =>
    (body? quote false (text.length + 1) text).map fun (text, rest) =>
      (String.ofList text, false, rest)

/-- A text in one line as a name. -/
def quotedKey? (quote : Char) (text : List Char) : Option (String × List Char) :=
  (quoted? quote text).bind fun (name, lines, rest) => if lines then none else some (name, rest)

/-- A name: a word, or a text in one line. -/
def key? : List Char → Option (String × List Char)
  | '"' :: rest => quotedKey? '"' rest
  | '\'' :: rest => quotedKey? '\'' rest
  | text =>
    let (name, rest) := word text
    if name.isEmpty then none else some (String.ofList name, rest)

/-- Names with points between them. Blanks around the points and after the last name are skipped. -/
def keys? : Nat → List Char → Option (List String × List Char)
  | 0, _ => none
  | steps + 1, text => do
    let (first, rest) ← key? text
    match skipBlanks rest with
    | '.' :: rest =>
      let (others, rest) ← keys? steps (skipBlanks rest)
      return (first :: others, rest)
    | rest => return ([first], rest)

example : quoted? '"' ['"', '"', '\n', 'a', '\\', ' ', '\n', ' ', '"', '"', '"', '"', '.'] =
    some ("a\"", true, ['.']) := by decide +kernel

example : keys? 9 ['a', ' ', '.', '\'', 'b', '.', 'c', '\'', ' ', '='] =
    some (["a", "b.c"], ['=']) := by decide +kernel

end Wayfinder.Toml
