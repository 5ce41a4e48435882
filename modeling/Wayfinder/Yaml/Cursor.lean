/-
**Places in a YAML text.**

The structure of a text depends on lines and columns, so the reader keeps count of them. A line ends
in a line feed, with or without a carriage return before it; a carriage return alone ends the line
of a text but is counted as one more column.

* `Cursor`: what is left of a text, and where it begins;
* `Cursor.advance`, `Cursor.newline`: the ways ahead within a line and to the next one;
* `Cursor.atMark`: the marks between documents;
* `Cursor.gap?`: the blanks and ends of lines between two words of a text.
-/

namespace Wayfinder.Yaml

/-- The blanks within a line. -/
def isBlank (character : Char) : Bool := character == ' ' || character == '\t'

/-- The ends of lines. -/
def isBreak (character : Char) : Bool := character == '\n' || character == '\r'

/-- Blanks and ends of lines. -/
def isSpace (character : Char) : Bool := isBlank character || isBreak character

/-- The characters that give their structure to lists and tables in brackets. -/
def isFlow (character : Char) : Bool :=
  character == ',' || character == '[' || character == ']' || character == '\x7b' ||
    character == '\x7d'

/-- The characters of the names of anchors, tags and directives. -/
def isNameChar (character : Char) : Bool :=
  character.isAlphanum || character == '_' || character == '-'

/-- Whether a word is over where a text begins. -/
def endsWord : List Char → Bool
  | [] => true
  | character :: _ => isSpace character

/-- What is left of a text, and where it begins: after how many characters, in which line and
column. -/
structure Cursor where
  rest : List Char
  index : Nat
  line : Nat
  column : Nat
deriving DecidableEq, Repr

namespace Cursor

/-- The beginning of a text. -/
def start (text : List Char) : Cursor := ⟨text, 0, 0, 0⟩

/-- The place some characters ahead in the same line. -/
def advance (cursor : Cursor) (count : Nat) : Cursor :=
  ⟨cursor.rest.drop count, cursor.index + count, cursor.line, cursor.column + count⟩

/-- The place behind an end of line. -/
def newline (cursor : Cursor) : Cursor :=
  match cursor.rest with
  | '\r' :: '\n' :: rest => ⟨rest, cursor.index + 2, cursor.line + 1, 0⟩
  | '\n' :: rest => ⟨rest, cursor.index + 1, cursor.line + 1, 0⟩
  | _ => cursor.advance 1

/-- The place behind all characters of a kind that has no ends of lines. -/
def skipWhile (kind : Char → Bool) (cursor : Cursor) : Cursor :=
  cursor.advance (cursor.rest.takeWhile kind).length

/-- The place behind a comment, if there is one. -/
def skipComment (cursor : Cursor) : Cursor :=
  if cursor.rest.head? = some '#' then cursor.skipWhile (!isBreak ·) else cursor

/-- The beginning of the next line, where nothing but blanks and a comment is left of this one. -/
def nextLine? (cursor : Cursor) : Option Cursor :=
  let cursor := (cursor.skipWhile isBlank).skipComment
  match cursor.rest with
  | [] => some cursor
  | character :: _ => if isBreak character then some cursor.newline else none

/-- Whether a mark between documents begins here: three hyphens or points at the beginning of a
line. -/
def atMark (cursor : Cursor) : Bool :=
  cursor.column == 0 &&
    match cursor.rest with
    | '-' :: '-' :: '-' :: rest | '.' :: '.' :: '.' :: rest => endsWord rest
    | _ => false

end Cursor

/-- What lies between two words of a text: blanks, or an end of line that a backslash may hide, and
a count of empty lines. -/
structure Gap where
  blanks : List Char
  ended : Bool
  hidden : Bool
  empty : Nat
deriving DecidableEq, Repr

namespace Gap

/-- Nothing. -/
def none : Gap := ⟨[], false, false, 0⟩

/-- An end of line that a backslash hides. -/
def hiddenEnd : Gap := ⟨[], true, true, 0⟩

/-- A gap with one more blank. Those behind an end of line do not count. -/
def addBlank (blank : Char) (gap : Gap) : Gap :=
  if gap.ended then gap else { gap with blanks := gap.blanks ++ [blank] }

/-- A gap with one more end of line. Blanks before it do not count. -/
def addEnd (gap : Gap) : Gap :=
  if gap.ended then { gap with empty := gap.empty + 1 } else ⟨[], true, false, 0⟩

/-- What a gap contributes to the text: its blanks, or one line feed for every empty line, or a
space for an end of line by itself. -/
def text (gap : Gap) : List Char :=
  if !gap.ended then gap.blanks
  else if gap.empty = 0 then (if gap.hidden then [] else [' '])
  else List.replicate gap.empty '\n'

end Gap

/-- The gap that begins here, after a part of it, and its end. Behind an end of line no tab may
stand before the given column. Every step removes a character. -/
def Cursor.gap? (column : Int) : Nat → Gap → Cursor → Option (Gap × Cursor)
  | 0, _, _ => none
  | steps + 1, gap, cursor =>
    match cursor.rest with
    | [] => some (gap, cursor)
    | character :: _ =>
      if isBlank character then
        if gap.ended ∧ (cursor.column : Int) < column ∧ character = '\t' then none
        else gap? column steps (gap.addBlank character) (cursor.advance 1)
      else if isBreak character then gap? column steps gap.addEnd cursor.newline
      else some (gap, cursor)

example : ((Cursor.start [' ', '\n', ' ', '\n', 'a']).gap? 0 9 Gap.none).map
    (fun found => (found.1.text, found.2)) = some (['\n'], ⟨['a'], 4, 2, 0⟩) := by
  decide +kernel

end Wayfinder.Yaml
