/-
**Tokens of YAML.**

Tokens tell where lists, tables and their parts begin and end. In brackets characters tell it;
elsewhere it is the indentation: a hyphen, a question mark or the key of a field opens a structure
at its column, and a later line that begins further left closes it. A key is known as such only by
the colon behind it, so the places where a key may have begun are kept in mind.

* `Token`: tokens;
* `Lexer`: the state between two tokens;
* `Lexer.next?`: the next tokens;
* `Token.scan?`: the tokens of a text.
-/

import Wayfinder.Text.Start
import Wayfinder.Yaml.Text

namespace Wayfinder.Yaml

/-- A token. -/
inductive Token where
  /-- A line that begins with a percent sign. -/
  | directive
  | documentStart
  | documentEnd
  /-- A list opens at an indentation. -/
  | sequenceStart
  /-- A table opens at an indentation. -/
  | mappingStart
  /-- The structure of an indentation closes. -/
  | blockEnd
  | flowSequenceStart
  | flowSequenceEnd
  | flowMappingStart
  | flowMappingEnd
  /-- A hyphen before an item. -/
  | item
  | comma
  | key
  | value
  | alias (name : String)
  | anchor (name : String)
  /-- A tag: its handle, and the name behind it. -/
  | tag (handle name : List Char)
  | scalar (plain : Bool) (text : String)
deriving DecidableEq, Repr

/-- A place where a key may have begun: how many tokens were before it, where it is, and whether it
has to be a key. -/
structure PossibleKey where
  number : Nat
  cursor : Cursor
  required : Bool

/-- The state between two tokens: the place, the tokens so far with the latest one first, whether a
key may begin, the places where a key may have begun for every open bracket and one without, the
column of the structure at hand and of those around it, and the place behind the latest quoted
text. -/
structure Lexer where
  cursor : Cursor
  tokens : List Token
  keyAllowed : Bool
  keys : List (Option PossibleKey)
  indent : Int
  outer : List Int
  afterQuote : Nat

namespace Lexer

/-- The state before the first token. -/
def start (text : List Char) : Lexer := ⟨Cursor.start text, [], true, [none], -1, [], 0⟩

/-- Whether a bracket is open. -/
def inFlow (lexer : Lexer) : Bool := decide (1 < lexer.keys.length)

/-- Adds a token. -/
def push (token : Token) (lexer : Lexer) : Lexer := { lexer with tokens := token :: lexer.tokens }

/-- Adds a token that some characters make up. -/
def take (token : Token) (length : Nat) (lexer : Lexer) : Lexer :=
  { lexer with tokens := token :: lexer.tokens, cursor := lexer.cursor.advance length }

/-- Inserts a token behind a number of tokens. -/
def insert (number : Nat) (token : Token) (lexer : Lexer) : Lexer :=
  { lexer with tokens := lexer.tokens.insertIdx (lexer.tokens.length - number) token }

/-- Tells whether a key may begin. -/
def allowKey (allowed : Bool) (lexer : Lexer) : Lexer := { lexer with keyAllowed := allowed }

/-! ### Keys -/

/-- Forgets the places of keys that are in an earlier line or too far back. -/
def dropStale? (lexer : Lexer) : Option Lexer :=
  let isStale (key : PossibleKey) : Bool :=
    decide (key.cursor.line < lexer.cursor.line) ||
      decide (key.cursor.index + 1024 < lexer.cursor.index)
  if lexer.keys.any fun key => key.any fun key => isStale key && key.required then none
  else some { lexer with keys := lexer.keys.map fun key => key.filter fun key => !isStale key }

/-- Forgets the latest place of a key. -/
def dropKey? (lexer : Lexer) : Option Lexer :=
  match lexer.keys with
  | some key :: keys => if key.required then none else some { lexer with keys := none :: keys }
  | _ => some lexer

/-- Keeps this place in mind as one where a key may begin. -/
def saveKey? (lexer : Lexer) : Option Lexer :=
  if lexer.keyAllowed then do
    let required := lexer.inFlow && decide (lexer.indent = (lexer.cursor.column : Int))
    let lexer ← lexer.dropKey?
    let key : PossibleKey := ⟨lexer.tokens.length, lexer.cursor, required⟩
    return { lexer with keys := some key :: lexer.keys.drop 1 }
  else some lexer

/-! ### Indentation -/

/-- Closes the structures whose columns are right of a column. -/
def closeTo (column : Int) (indent : Int) (tokens : List Token) :
    List Int → Int × List Int × List Token
  | [] => (indent, [], tokens)
  | next :: outer =>
    if column < indent then closeTo column next (.blockEnd :: tokens) outer
    else (indent, next :: outer, tokens)

/-- Closes the structures whose columns are right of a column. Brackets keep all of them open. -/
def unroll (column : Int) (lexer : Lexer) : Lexer :=
  if lexer.inFlow then lexer
  else
    let (indent, outer, tokens) := closeTo column lexer.indent lexer.tokens lexer.outer
    { lexer with indent, outer, tokens }

/-- Opens a structure at a column, if the one at hand is left of it. Its token goes behind a number
of tokens. -/
def roll (column number : Nat) (token : Token) (lexer : Lexer) : Lexer :=
  if !lexer.inFlow ∧ lexer.indent < (column : Int) then
    { lexer.insert number token with
      indent := column, outer := lexer.indent :: lexer.outer }
  else lexer

/-! ### Directives, anchors and tags -/

/-- Digits of a number in a version, at most nine. -/
def version? (text : List Char) : Option (List Char) :=
  let digits := text.takeWhile (Numeral.isDigitOf 10)
  if digits.isEmpty || decide (9 < digits.length) then none else some (text.drop digits.length)

/-- The character that octets behind percent signs encode, and what follows. -/
def octets? (text : List Char) : Option (Char × List Char) := do
  let octet? (text : List Char) : Option (Nat × List Char) := match text with
    | '%' :: first :: second :: rest =>
      (Numeral.value? 16 [first, second]).map fun value => (value, rest)
    | _ => none
  let (first, rest) ← octet? text
  if first < 0x80 then return (Char.ofNat first, rest)
  else if first / 0x20 = 6 then
    let (second, rest) ← octet? rest
    if second / 0x40 = 2 ∧ (first * 0x100 + second).isValidChar then
      return (Char.ofNat (first * 0x100 + second), rest)
    else failure
  else failure

/-- The name of a tag, and what follows. -/
def tagName? : Nat → List Char → Option (List Char × List Char)
  | 0, _ => none
  | steps + 1, text =>
    match text with
    | '%' :: _ => do
      let (character, rest) ← octets? text
      let (name, rest) ← tagName? steps rest
      return (character :: name, rest)
    | character :: rest =>
      if isNameChar character || ";/?:@&=+$,.!~*'()[]".toList.contains character then
        (tagName? steps rest).map fun (name, rest) => (character :: name, rest)
      else some ([], text)
    | [] => some ([], [])

/-- The handle of a tag after its first exclamation mark, and what follows: a name that may end in
another exclamation mark. -/
def tagHandle (text : List Char) : List Char × List Char :=
  let name := text.takeWhile isNameChar
  match text.drop name.length with
  | '!' :: rest => ('!' :: name ++ ['!'], rest)
  | rest => ('!' :: name, rest)

/-- A tag after its first exclamation mark, and what follows. -/
def tag? (text : List Char) : Option (Token × List Char) :=
  match text with
  | '<' :: text => do
    let (name, rest) ← tagName? (text.length + 1) text
    let rest ← Text.dropStart? ['>'] rest
    if name.isEmpty then none else some (.tag [] name, rest)
  | _ => do
    let (handle, rest) := tagHandle text
    let (name, rest) ← tagName? (rest.length + 1) rest
    if 2 ≤ handle.length ∧ handle.getLast? = some '!' then
      if name.isEmpty then none else some (.tag handle name, rest)
    else some (.tag ['!'] (handle.drop 1 ++ name), rest)

/-- The rest of a directive that declares a handle of tags. -/
def tagDirective? (text : List Char) : Option (List Char) :=
  match text.dropWhile isBlank with
  | '!' :: text => do
    let (handle, rest) := tagHandle text
    let uri := rest.dropWhile isBlank
    let (name, rest) ← tagName? (uri.length + 1) uri
    if (2 ≤ handle.length ∧ handle.getLast? ≠ some '!') ∨ name.isEmpty ∨ !endsWord rest then none
    else some rest
  | _ => none

/-- The rest of a directive that declares a version. -/
def versionDirective? (text : List Char) : Option (List Char) :=
  ((version? (text.dropWhile isBlank)).bind (Text.dropStart? ['.'])).bind version?

/-- The rest of a directive after its percent sign. Those with other names do not count. -/
def directive? (text : List Char) : Option (List Char) :=
  let name := text.takeWhile isNameChar
  let rest := text.drop name.length
  if name.isEmpty || !endsWord rest then none
  else if name = ['Y', 'A', 'M', 'L'] then versionDirective? rest
  else if name = ['T', 'A', 'G'] then tagDirective? rest
  else some (rest.dropWhile (!isBreak ·))

/-- Whether the name of an anchor may end where a text begins. -/
def endsAnchor : List Char → Bool
  | [] => true
  | character :: _ => isSpace character || "?:,]\x7d%@\x60".toList.contains character

/-- The name of an anchor. -/
def anchor? (text : List Char) : Option String :=
  let name := text.takeWhile isNameChar
  if name.isEmpty || !endsAnchor (text.drop name.length) then none else some (String.ofList name)

/-! ### Tokens -/

/-- Skips blanks, ends of lines and comments. A tab does not count as a blank where a key may
begin. -/
def skipSpace : Nat → Lexer → Lexer
  | 0, lexer => lexer
  | steps + 1, lexer =>
    let ahead (cursor : Cursor) : Lexer := { lexer with cursor }
    match lexer.cursor.rest with
    | ' ' :: _ => skipSpace steps (ahead (lexer.cursor.advance 1))
    | '\t' :: _ =>
      if lexer.inFlow || !lexer.keyAllowed then skipSpace steps (ahead (lexer.cursor.advance 1))
      else lexer
    | '#' :: _ => skipSpace steps (ahead lexer.cursor.skipComment)
    | character :: _ =>
      if isBreak character then
        skipSpace steps { ahead lexer.cursor.newline with
          keyAllowed := lexer.keyAllowed || !lexer.inFlow }
      else lexer
    | [] => lexer

/-- The greatest number of brackets that may be open. -/
def flowLimit : Nat := 255

/-- An opening bracket. -/
def openFlow? (token : Token) (lexer : Lexer) : Option Lexer := do
  let lexer ← lexer.saveKey?
  if flowLimit < lexer.keys.length then none
  else some { (lexer.take token 1).allowKey true with keys := none :: lexer.keys }

/-- A closing bracket. -/
def closeFlow? (token : Token) (lexer : Lexer) : Option Lexer := do
  let lexer ← lexer.dropKey?
  let keys := if lexer.inFlow then lexer.keys.drop 1 else lexer.keys
  return { (lexer.take token 1).allowKey false with keys }

/-- A comma. -/
def comma? (lexer : Lexer) : Option Lexer := do
  let lexer ← lexer.dropKey?
  return (lexer.take .comma 1).allowKey true

/-- A hyphen before an item. -/
def item? (lexer : Lexer) : Option Lexer :=
  if lexer.inFlow || !lexer.keyAllowed then none
  else do
    let lexer ← (lexer.roll lexer.cursor.column lexer.tokens.length .sequenceStart).dropKey?
    return (lexer.take .item 1).allowKey true

/-- A question mark before a key. -/
def key? (lexer : Lexer) : Option Lexer :=
  if !lexer.inFlow && !lexer.keyAllowed then none
  else do
    let lexer ← (lexer.roll lexer.cursor.column lexer.tokens.length .mappingStart).dropKey?
    return (lexer.take .key 1).allowKey !lexer.inFlow

/-- A colon behind a key. If a key may have begun before, it did. -/
def value? (lexer : Lexer) : Option Lexer :=
  match lexer.keys with
  | some key :: keys =>
    let lexer := (lexer.insert key.number .key).roll key.cursor.column key.number .mappingStart
    some { (lexer.take .value 1).allowKey false with keys := none :: keys }
  | _ =>
    if !lexer.inFlow && !lexer.keyAllowed then none
    else
      let lexer := lexer.roll lexer.cursor.column lexer.tokens.length .mappingStart
      some ((lexer.take .value 1).allowKey !lexer.inFlow)

/-- A token at which a key may begin, and which may end a line. -/
def node? (read : Lexer → Option (Token × Cursor × Bool)) (lexer : Lexer) : Option Lexer := do
  let lexer ← lexer.saveKey?
  let (token, cursor, allowed) ← read lexer
  return { (lexer.push token).allowKey allowed with cursor }

/-- The name behind an asterisk or an ampersand. -/
def name? (token : String → Token) (lexer : Lexer) : Option Lexer :=
  lexer.node? fun lexer => (anchor? (lexer.cursor.rest.drop 1)).map fun name =>
    (token name, lexer.cursor.advance (name.length + 1), false)

/-- A tag. -/
def tagged? (lexer : Lexer) : Option Lexer :=
  lexer.node? fun lexer => do
    let (token, rest) ← tag? (lexer.cursor.rest.drop 1)
    if endsWord rest then
      some (token, lexer.cursor.advance (lexer.cursor.rest.length - rest.length), false)
    else none

/-- A block of lines. -/
def blockText? (folds : Bool) (lexer : Lexer) : Option Lexer :=
  lexer.node? fun lexer =>
    (block? folds lexer.indent (lexer.cursor.advance 1)).map fun (text, cursor) =>
      (.scalar false (String.ofList text), cursor, true)

/-- A text between quotes. -/
def quotedText? (quote : Char) (lexer : Lexer) : Option Lexer :=
  (lexer.node? fun lexer =>
    (quoted? quote (lexer.cursor.rest.length + 1) (lexer.cursor.advance 1)).map
      fun (text, cursor) => (.scalar false (String.ofList text), cursor, false)).map
    fun lexer => { lexer with afterQuote := lexer.cursor.index }

/-- A plain text. Behind the ends of lines after it a key may begin. -/
def plainText? (lexer : Lexer) : Option Lexer :=
  lexer.node? fun lexer =>
    (plain? lexer.inFlow (lexer.indent + 1) lexer.cursor).map fun (text, ended, cursor) =>
      (.scalar true (String.ofList text), cursor, ended)

/-- A line of its own between documents: all structures are closed before it. -/
def between? (token : Token) (next : Cursor → Option Cursor) (lexer : Lexer) : Option Lexer := do
  let lexer ← (lexer.unroll (-1)).dropKey?
  let cursor ← next lexer.cursor
  return { (lexer.push token).allowKey false with cursor }

/-- Whether a colon with this text behind it ends a key. In brackets it may follow a quoted text
without a blank behind it. -/
def isValueMark (rest : List Char) (lexer : Lexer) : Bool :=
  endsWord rest ||
    (lexer.inFlow && (rest.head?.any isFlow || lexer.cursor.index == lexer.afterQuote))

/-- The token that begins with a character, before what follows it. -/
def begin? (first : Char) (rest : List Char) (lexer : Lexer) : Option Lexer :=
  if lexer.cursor.column = 0 ∧ first = '%' then
    lexer.between? .directive fun cursor =>
      (directive? rest).bind fun left =>
        (cursor.advance (cursor.rest.length - left.length)).nextLine?
  else if lexer.cursor.atMark then
    let token := if first = '-' then Token.documentStart else .documentEnd
    lexer.between? token fun cursor => some (cursor.advance 3)
  else
    match first with
    | '[' => lexer.openFlow? .flowSequenceStart
    | '\x7b' => lexer.openFlow? .flowMappingStart
    | ']' => lexer.closeFlow? .flowSequenceEnd
    | '\x7d' => lexer.closeFlow? .flowMappingEnd
    | ',' => lexer.comma?
    | '*' => lexer.name? .alias
    | '&' => lexer.name? .anchor
    | '!' => lexer.tagged?
    | '"' => lexer.quotedText? '"'
    | '\'' => lexer.quotedText? '\''
    | '%' | '@' | '\x60' => none
    | '-' => if endsWord rest then lexer.item? else lexer.plainText?
    | '?' => if endsWord rest then lexer.key? else lexer.plainText?
    | ':' => if lexer.isValueMark rest then lexer.value? else lexer.plainText?
    | '|' => if lexer.inFlow then lexer.plainText? else lexer.blockText? false
    | '>' => if lexer.inFlow then lexer.plainText? else lexer.blockText? true
    | _ => lexer.plainText?

/-- The state behind the next token, with all tokens that it brings; at the end of the text the
tokens are complete. -/
def next? (lexer : Lexer) : Option (Lexer ⊕ List Token) := do
  let lexer ← (lexer.skipSpace (lexer.cursor.rest.length + 1)).dropStale?
  let lexer := lexer.unroll lexer.cursor.column
  match lexer.cursor.rest with
  | [] =>
    let lexer ← (lexer.unroll (-1)).dropKey?
    return .inr lexer.tokens.reverse
  | first :: rest => return .inl (← lexer.begin? first rest)

/-- The tokens of the rest of a text. -/
def run? : Nat → Lexer → Option (List Token)
  | 0, _ => none
  | steps + 1, lexer =>
    match lexer.next? with
    | none => none
    | some (.inl lexer) => run? steps lexer
    | some (.inr tokens) => some tokens

end Lexer

/-- The tokens of a text. Every one of them removes a character. -/
def Token.scan? (text : List Char) : Option (List Token) :=
  (Lexer.start text).run? (text.length + 2)

example : Token.scan? "a:\n- b".toList = some [.mappingStart, .key, .scalar true "a", .value,
    .item, .scalar true "b", .blockEnd] := by decide +kernel

example : Token.scan? "\x7b'a':b\x7d".toList = some [.flowMappingStart, .key, .scalar false "a",
    .value, .scalar true "b", .flowMappingEnd] := by decide +kernel

end Wayfinder.Yaml
