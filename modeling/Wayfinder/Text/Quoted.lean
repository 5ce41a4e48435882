/-
**Quoted texts.**

Faulty texts are shown between double quotes, so that blanks and invisible characters can be
told apart in a message. Quote and backslash take a backslash, four control characters have a
letter, and every other character that leaves no mark is written by its code point in braces.

* `isVisible`: the characters that stand for themselves;
* `quote`: the quoted form of a text.
-/

import Wayfinder.Text.Extending
import Wayfinder.Text.Glyphless
import Wayfinder.Text.Ignorable
import Wayfinder.Text.Numeral

namespace Wayfinder.Text

/-- The sound marks of the narrow Katakana. They extend the character before them and yet take a
place of their own in a line. -/
def isSoundMark (character : Char) : Bool :=
  character = '\uff9e' || character = '\uff9f'

/-- Whether a character stands for itself inside quotes: it has a glyph with a place of its own. -/
def isVisible (character : Char) : Bool :=
  !(isGlyphless character || (isExtending character && !isSoundMark character) ||
    isIgnorable character)

/-- The code point of a character in braces. -/
def codePoint (character : Char) : List Char :=
  ['\\', 'u', '\x7b'] ++ Numeral.ofNat 16 character.toNat ++ ['\x7d']

/-- One character inside quotes. -/
def quoteChar (character : Char) : List Char :=
  if character = '"' then ['\\', '"']
  else if character = '\\' then ['\\', '\\']
  else if character = '\n' then ['\\', 'n']
  else if character = '\r' then ['\\', 'r']
  else if character = '\t' then ['\\', 't']
  else if character.toNat = 0 then ['\\', '0']
  else if isVisible character then [character]
  else codePoint character

/-- A text between double quotes. -/
def quote (text : String) : String :=
  String.ofList ('"' :: (text.toList.flatMap quoteChar ++ ['"']))

example : quote "a\"\u200b" = "\"a\\\"\\u\x7b200b\x7d\"" := by decide +kernel

example : quote "\uff9e\u3099" = "\"\uff9e\\u\x7b3099\x7d\"" := by decide +kernel

example : quote "e\u0301 \u3164" = "\"e\\u\x7b301\x7d \\u\x7b3164\x7d\"" := by decide +kernel

end Wayfinder.Text
