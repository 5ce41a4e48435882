/-
**Texts of YAML.**

A text is plain, or stands between quotes, or is a block of lines. Over the ends of lines plain and
quoted texts are folded: a single one is a space, and empty lines count. A block keeps its lines, or
folds those that do not begin with a blank; its indentation is that of its first line with content,
if no digit gives it.

* `Yaml.plain?`: a plain text;
* `Yaml.quoted?`: a text between quotes;
* `Yaml.block?`: a block of lines.

Every step removes a character, so the length of the text bounds their number.
-/

import Wayfinder.Text.Escape
import Wayfinder.Yaml.Cursor

namespace Wayfinder.Yaml

/-! ### Plain texts -/

/-- The length of the plain word at the beginning of a text. A colon at its end is no part of it. -/
def wordLength (inFlow : Bool) : List Char → Nat
  | [] => 0
  | character :: rest =>
    if isSpace character || (inFlow && isFlow character) then 0
    else if character = ':' ∧ (endsWord rest ∨ (inFlow ∧ rest.head?.any isFlow)) then 0
    else wordLength inFlow rest + 1

/-- The rest of a plain text behind one of its words, whether lines end behind it, and what
follows. -/
def plainRest? (inFlow : Bool) (indent : Int) : Nat → Cursor → Option (List Char × Bool × Cursor)
  | 0, _ => none
  | steps + 1, cursor => do
    let (gap, next) ← cursor.gap? indent (cursor.rest.length + 1) Gap.none
    let word := next.rest.take (wordLength inFlow next.rest)
    let leaves := !inFlow && decide ((next.column : Int) < indent)
    if leaves || next.atMark || next.rest.head? = some '#' || word.isEmpty then
      return ([], gap.ended, next)
    else
      let (text, ended, final) ← plainRest? inFlow indent steps (next.advance word.length)
      return (gap.text ++ word ++ text, ended, final)

/-- A plain text whose lines begin at a column or behind it. -/
def plain? (inFlow : Bool) (indent : Int) (cursor : Cursor) : Option (List Char × Bool × Cursor) :=
  let word := cursor.rest.take (wordLength inFlow cursor.rest)
  (plainRest? inFlow indent (cursor.rest.length + 1) (cursor.advance word.length)).map
    fun (text, ended, final) => (word ++ text, ended, final)

/-! ### Texts between quotes -/

/-- The character of an escape of one letter. -/
def escaped? : Char → Option Char
  | '0' => some '\x00'
  | 'a' => some '\x07'
  | 'b' => some '\x08'
  | 't' | '\t' => some '\t'
  | 'n' => some '\n'
  | 'v' => some '\x0b'
  | 'f' => some '\x0c'
  | 'r' => some '\r'
  | 'e' => some '\x1b'
  | ' ' => some ' '
  | '"' => some '"'
  | '\'' => some '\''
  | '\\' => some '\\'
  | 'N' => some '\u0085'
  | '_' => some '\u00a0'
  | 'L' => some '\u2028'
  | 'P' => some '\u2029'
  | _ => none

/-- The character for which an escape after its backslash stands, and how long it is. -/
def escape? : List Char → Option (Char × Nat)
  | 'x' :: rest => (Text.charOfHex? 2 rest).map fun (character, _) => (character, 3)
  | 'u' :: rest => (Text.charOfHex? 4 rest).map fun (character, _) => (character, 5)
  | 'U' :: rest => (Text.charOfHex? 8 rest).map fun (character, _) => (character, 9)
  | letter :: _ => (escaped? letter).map fun character => (character, 1)
  | [] => none

/-- The rest of a text up to its closing quote, and what follows. Only double quotes leave room for
escapes; within single ones a quote is written twice. -/
def quoted? (quote : Char) : Nat → Cursor → Option (List Char × Cursor)
  | 0, _ => none
  | steps + 1, cursor =>
    let folded (gap : Gap) (cursor : Cursor) : Option (List Char × Cursor) := do
      let (gap, next) ← cursor.gap? 0 (cursor.rest.length + 1) gap
      let (text, final) ← quoted? quote steps next
      return (gap.text ++ text, final)
    let added (character : Char) (length : Nat) : Option (List Char × Cursor) :=
      (quoted? quote steps (cursor.advance length)).map fun (text, final) =>
        (character :: text, final)
    if cursor.atMark then none
    else
      match cursor.rest with
      | [] => none
      | character :: rest =>
        if isSpace character then folded Gap.none cursor
        else if character = quote then
          if quote = '\'' ∧ rest.head? = some '\'' then added '\'' 2
          else some ([], cursor.advance 1)
        else if character = '\\' ∧ quote = '"' then
          if rest.head?.any isBreak then folded Gap.hiddenEnd (cursor.advance 1).newline
          else (escape? rest).bind fun (character, length) => added character (length + 1)
        else added character 1

/-! ### Blocks of lines -/

/-- What becomes of the ends of lines at the end of a block. -/
inductive Chomping where
  /-- One of them is kept. -/
  | clip
  /-- None is kept. -/
  | strip
  /-- All are kept. -/
  | keep
deriving DecidableEq, Repr

/-- A mark for the end of a block, if there is one. -/
def takeChomping : List Char → Option Chomping × List Char
  | '+' :: rest => (some .keep, rest)
  | '-' :: rest => (some .strip, rest)
  | text => (none, text)

/-- A digit that gives an indentation, or zero if there is none. -/
def takeIncrement? : List Char → Option (Nat × List Char)
  | '0' :: _ => none
  | text =>
    match text.head?.filter (Numeral.isDigitOf 10) with
    | some digit => some (digit.toNat - '0'.toNat, text.drop 1)
    | none => some (0, text)

/-- The marks of a block, in either order. -/
def blockMarks? (text : List Char) : Option (Chomping × Nat × List Char) :=
  match takeChomping text with
  | (some chomping, rest) =>
    (takeIncrement? rest).map fun (increment, rest) => (chomping, increment, rest)
  | (none, text) =>
    (takeIncrement? text).map fun (increment, rest) =>
      if increment = 0 then (.clip, 0, text)
      else ((takeChomping rest).1.getD .clip, increment, (takeChomping rest).2)

/-- Skips empty lines and the indentation of the next line, up to the given one or, if this is zero,
as far as it goes. Gives the count of lines, the greatest column and the place. -/
def margin? (indent : Nat) : Nat → Nat → Nat → Cursor → Option (Nat × Nat × Cursor)
  | 0, _, _, _ => none
  | steps + 1, lines, greatest, cursor =>
    let spaces := (cursor.rest.takeWhile (· == ' ')).length
    let cursor :=
      cursor.advance (if indent = 0 then spaces else min spaces (indent - cursor.column))
    let greatest := max greatest cursor.column
    if (indent = 0 ∨ cursor.column < indent) ∧ cursor.rest.head? = some '\t' then none
    else if cursor.rest.head?.any isBreak then margin? indent steps (lines + 1) greatest
      cursor.newline
    else some (lines, greatest, cursor)

/-- The lines of a block, whether the last of them has an end, how many empty lines follow, and the
place. Between two lines whose beginning is no blank, a folded block has a space instead of an end
of line. -/
def blockLines? (folds : Bool) (indent : Nat) :
    Nat → Bool → Bool → Nat → Cursor → Option (List Char × Bool × Nat × Cursor)
  | 0, _, _, _, _ => none
  | steps + 1, ended, blank, empty, cursor =>
    if cursor.column ≠ indent ∨ cursor.rest.isEmpty then some ([], ended, empty, cursor)
    else do
      let begins := cursor.rest.head?.any isBlank
      let joint :=
        if folds && ended && !blank && !begins then (if empty = 0 then [' '] else [])
        else if ended then ['\n'] else []
      let line := joint ++ List.replicate empty '\n' ++ cursor.rest.takeWhile (!isBreak ·)
      let next := cursor.skipWhile (!isBreak ·)
      if next.rest.isEmpty then return (line, false, 0, next)
      else
        let next := next.newline
        let (empty, _, next) ← margin? indent (next.rest.length + 1) 0 0 next
        let (text, ended, empty, final) ← blockLines? folds indent steps true begins empty next
        return (line ++ text, ended, empty, final)

/-- A block of lines after its first mark, within a structure of some indentation. -/
def block? (folds : Bool) (outer : Int) (cursor : Cursor) : Option (List Char × Cursor) := do
  let (chomping, increment, rest) ← blockMarks? cursor.rest
  let next ← (cursor.advance (cursor.rest.length - rest.length)).nextLine?
  let given := if increment = 0 then 0 else (max outer 0).toNat + increment
  let (empty, greatest, next) ← margin? given (next.rest.length + 1) 0 0 next
  let indent := if given = 0 then max (max greatest (outer + 1).toNat) 1 else given
  let (text, ended, empty, final) ←
    blockLines? folds indent (next.rest.length + 1) false false empty next
  let last := if ended ∧ chomping ≠ .strip then ['\n'] else []
  return (text ++ last ++ (if chomping = .keep then List.replicate empty '\n' else []), final)

example : (plain? false 0 (Cursor.start "a #b: \n c: d".toList)).map (fun found => found.1) =
    some ['a'] := by decide +kernel

example : (plain? false 0 (Cursor.start "a\n b: d".toList)).map (fun found => found.1) =
    some "a b".toList := by decide +kernel

example : (quoted? '"' 9 (Cursor.start "\\x41 \n\n b\"".toList)).map (fun found => found.1) =
    some "A\nb".toList := by decide +kernel

example : (block? true 0 (Cursor.start "\n a\n b\n\n  c\n".toList)).map (fun found => found.1) =
    some "a b\n\n c\n".toList := by decide +kernel

end Wayfinder.Yaml
