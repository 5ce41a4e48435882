/-
**Numbers of TOML.**

Digits may have single underscores between them. Integers have 64 bits and are written in base ten
without leading zeros, or in one of three bases that a mark names. Other numbers have a fraction or
an exponent, or are spelled `inf` and `nan`.

* `Toml.digits?`: digits and what follows them;
* `Toml.number?`: a number that begins with a word.
-/

import Wayfinder.Decimal.Notation
import Wayfinder.Settings.Tree
import Wayfinder.Toml.Text

namespace Wayfinder.Toml

/-- Whether underscores stand singly and only between other characters. -/
def isSpaced : List Char → Bool
  | [] => true
  | '_' :: _ => false
  | _ :: '_' :: rest => !rest.isEmpty && isSpaced rest
  | _ :: rest => isSpaced rest

/-- Digits without the underscores between them, and what follows. -/
def digits? (base : Nat) (text : List Char) : Option (List Char × List Char) :=
  let belongs (character : Char) : Bool := Numeral.isDigitOf base character || character == '_'
  let run := text.takeWhile belongs
  if run.isEmpty || !isSpaced run then none
  else some (run.filter (· != '_'), text.dropWhile belongs)

/-- Digits up to the end of a text. -/
def allDigits? (base : Nat) (text : List Char) : Option (List Char) :=
  (digits? base text).bind fun (digits, rest) => if rest.isEmpty then some digits else none

/-- Takes a minus sign off the front, and tells whether there is one. -/
def takeMinus : List Char → Bool × List Char
  | '-' :: rest => (true, rest)
  | text => (false, text)

/-- Digits of a whole part in base ten, which has no leading zeros, and what follows. -/
def whole? (text : List Char) : Option (List Char × List Char) :=
  (digits? 10 text).filter fun (digits, _) => digits.length = 1 || digits.head? != some '0'

/-- An integer of 64 bits with a sign. -/
def signed? (base : Nat) (negative : Bool) (digits : List Char) : Option SettingTree :=
  (Decimal.integer? base (if negative then '-' :: digits else digits)).map .integer

/-- An integer that makes up a word. -/
def integer? : List Char → Option SettingTree
  | '0' :: 'x' :: rest => (allDigits? 16 rest).bind (signed? 16 false)
  | '0' :: 'o' :: rest => (allDigits? 8 rest).bind (signed? 8 false)
  | '0' :: 'b' :: rest => (allDigits? 2 rest).bind (signed? 2 false)
  | text =>
    let (negative, size) := takeMinus text
    (whole? size).bind fun (digits, rest) =>
      if rest.isEmpty then signed? 10 negative digits else none

/-- An exponent at the end of a word, as sign and digits, and what follows the word. A plus sign is
no part of the word, so that the digits after it make up a word of their own. -/
def exponent? (text rest : List Char) : Option (Bool × List Char × List Char) :=
  match text, rest with
  | [], _ => some (false, ['0'], rest)
  | [mark], '+' :: rest =>
    if mark = 'e' ∨ mark = 'E' then
      (allDigits? 10 (word rest).1).map fun digits => (false, digits, (word rest).2)
    else none
  | mark :: text, _ =>
    if mark = 'e' ∨ mark = 'E' then
      let (negative, size) := takeMinus text
      (allDigits? 10 size).map fun digits => (negative, digits, rest)
    else none

/-- A number with a fraction or an exponent: the word before the point, the one after it if there is
a point, and what follows. It has to be within the range of 64 bits. -/
def real? (text : List Char) (places : Option (List Char)) (rest : List Char) :
    Option (SettingTree × List Char) := do
  let (negative, size) := takeMinus text
  let (whole, left) ← whole? size
  let (fraction, left) ← match places with
    | none => some ([], left)
    | some places => if left.isEmpty then digits? 10 places else none
  let (down, power, rest) ← exponent? left rest
  let digits ← Numeral.value? 10 (whole ++ fraction)
  let size ← Numeral.value? 10 power
  let exponent : Int := (if down then -(size : Int) else size) - fraction.length
  let value := Decimal.double.ofScaled negative ⟨digits, exponent⟩
  if value.isFinite then some (.real value, rest) else none

/-- A number that begins with a word, and what follows it. -/
def number? (text rest : List Char) : Option (SettingTree × List Char) :=
  let whole := (integer? text).map (·, rest)
  if text.head? = some '0' ∧ (text[1]? = some 'x' ∨ text[1]? = some 'o' ∨ text[1]? = some 'b') then
    whole
  else if text.contains 'e' || text.contains 'E' then real? text none rest
  else
    match rest with
    | '.' :: after => real? text (some (word after).1) (word after).2
    | _ =>
      let (negative, size) := takeMinus text
      if size = ['i', 'n', 'f'] then some (.real (.infinite negative), rest)
      else if size = ['n', 'a', 'n'] then some (.real .nan, rest)
      else whole

example : (integer? ['1', '_', '0']).isSome ∧ (integer? ['1', '_', '_', '0']).isNone
    ∧ (integer? ['0', '1']).isNone ∧ (integer? ['0', 'x', '0', '1']).isSome := by decide +kernel

example : (number? ['1', 'e'] ['+', '0', '5', '.']).map (·.2) = some ['.'] := by decide +kernel

end Wayfinder.Toml
