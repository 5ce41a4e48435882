/-
**Texts and numbers come back as they were written.**

A text is read character by character, and none of the characters that stand for themselves begins an
escape; an escape has one letter, or four digits for a control character. The parts of a number are
runs of digits, each up to the mark of the next one or up to a mark that no number goes on with.

* `stringBody_writeChar`, `stringAfterQuote_write`: characters and whole texts;
* `Number.Sound`: numbers in the form of the format;
* `Closes`: what may follow a document;
* `number?_write`: numbers.
-/

import Wayfinder.Json.Reader
import Wayfinder.Json.Writer
import Wayfinder.Proofs.Text.Numerals

namespace Wayfinder.Json

/-! ### Texts -/

section Strings

variable {character : Char} {after : List Char}

/-- Four digits in front of a text are read as one number. -/
theorem unit?_append {digits : List Char} (four : digits.length = 4) (rest : List Char) :
    unit? (digits ++ rest) = (Numeral.value? 16 digits).map fun value => (value, rest) := by
  match digits, four with
  | [_, _, _, _], _ => rfl

/-- The escape of a control character has four digits, which name it. -/
theorem unit?_control {code : Nat} (control : code < 0x20) (rest : List Char) :
    unit? (List.replicate (4 - (Numeral.ofNat 16 code).length) '0' ++ Numeral.ofNat 16 code ++
      rest) = some (code, rest) := by
  have every : ∀ code < 0x20,
      let digits := List.replicate (4 - (Numeral.ofNat 16 code).length) '0' ++ Numeral.ofNat 16 code
      digits.length = 4 ∧ Numeral.value? 16 digits = some code := by
    decide +kernel
  obtain ⟨four, value⟩ := every code control
  rw [unit?_append four, value, Option.map_some]

/-- A character that stands for itself is read as such. -/
theorem stringBody_plain (quote : character ≠ '"') (escape : character ≠ '\\')
    (printable : ¬ character.toNat < 0x20) (steps : Nat) (rest : List Char) :
    stringBody (steps + 1) (character :: rest) =
      (stringBody steps rest).map fun (text, after) => (addChar character text, after) := by
  have itself : (decide (character.toNat < 0x20) || character == '\\') = false := by
    simp [printable, escape]
  rw [stringBody.eq_5 _ _ _ quote (fun _ same => absurd same escape)
    fun _ _ same => absurd same escape, itself]
  cases stringBody steps rest <;> rfl

/-- A character that is escaped by a letter is read as such. -/
theorem stringBody_escape {letter : Char} (apart : letter ≠ 'u')
    (escape : escaped? letter = some character) (steps : Nat) (rest : List Char) :
    stringBody (steps + 1) ('\\' :: letter :: rest) =
      (stringBody steps rest).map fun (text, after) => (addChar character text, after) := by
  rw [stringBody.eq_4 _ _ _ apart, escape]
  cases stringBody steps rest <;> rfl

/-- A character that is given by its number is read as such. -/
theorem stringBody_control (control : character.toNat < 0x20) (steps : Nat) (rest : List Char) :
    stringBody (steps + 1)
        (['\\', 'u'] ++ List.replicate (4 - (Numeral.ofNat 16 character.toNat).length) '0' ++
          Numeral.ofNat 16 character.toNat ++ rest) =
      (stringBody steps rest).map fun (text, after) => (addChar character text, after) := by
  have unit := unit?_control control rest
  have low : ¬ (0xD800 ≤ character.toNat ∧ character.toNat < 0xDC00) := by omega
  have low' : ¬ (0xDC00 ≤ character.toNat ∧ character.toNat < 0xE000) := by omega
  rw [List.append_assoc] at unit
  simp only [List.append_assoc, List.cons_append, List.nil_append, stringBody, unit,
    Option.bind_eq_bind, Option.bind_some, if_neg low, if_neg low', Char.ofNat_toNat]
  cases stringBody steps rest <;> rfl

/-- **A character is read as it was written**, whether it stands for itself or is escaped. -/
theorem stringBody_writeChar (steps : Nat) (character : Char) (rest : List Char) :
    stringBody (steps + 1) (writeChar character ++ rest) =
      (stringBody steps rest).map fun (text, after) => (addChar character text, after) := by
  unfold writeChar
  split
  case h_8 quote escape _ _ _ _ _ =>
    split
    · next control => exact stringBody_control control steps rest
    · next printable => exact stringBody_plain quote escape printable steps rest
  all_goals exact stringBody_escape (by decide) rfl steps rest

theorem writeChar_ne_nil (character : Char) : writeChar character ≠ [] := by
  unfold writeChar
  split
  case h_8 => split <;> simp
  all_goals exact List.cons_ne_nil _ _

/-- **The characters up to the closing quote are those that were written.** -/
theorem stringBody_write {characters : List Char} {steps : Nat} (enough : characters.length < steps)
    (after : List Char) :
    stringBody steps (characters.flatMap writeChar ++ '"' :: after) =
      some (some characters, after) := by
  induction characters generalizing steps with
  | nil =>
    obtain ⟨steps, rfl⟩ := Nat.exists_eq_add_one_of_ne_zero (Nat.ne_of_gt enough)
    rfl
  | cons character rest hypothesis =>
    obtain ⟨steps, rfl⟩ := Nat.exists_eq_add_one_of_ne_zero (Nat.ne_zero_of_lt enough)
    rw [List.flatMap_cons, List.append_assoc, stringBody_writeChar,
      hypothesis (Nat.lt_of_succ_lt_succ enough)]
    rfl

theorem length_le_writeChars (characters : List Char) :
    characters.length ≤ (characters.flatMap writeChar).length := by
  induction characters with
  | nil => exact Nat.le_refl 0
  | cons character rest hypothesis =>
    have some' : 0 < (writeChar character).length :=
      List.length_pos_of_ne_nil (writeChar_ne_nil character)
    rw [List.flatMap_cons, List.length_append, List.length_cons]
    omega

/-- A text is read after its opening quote. -/
theorem stringAfterQuote_write (text : String) (after : List Char) :
    stringAfterQuote (text.toList.flatMap writeChar ++ '"' :: after) = some (some text, after) := by
  have enough : text.toList.length <
      (text.toList.flatMap writeChar ++ '"' :: after).length + 1 := by
    have := length_le_writeChars text.toList
    rw [List.length_append]
    omega
  rw [stringAfterQuote, stringBody_write enough, Option.map_some]
  dsimp only
  rw [Option.map_some, String.ofList_toList]

end Strings

/-! ### Numbers -/

/-- A run of digits. -/
def Places (places : List Char) : Prop :=
  places ≠ [] ∧ ∀ digit ∈ places, Numeral.isDigitOf 10 digit = true

/-- A number in the form of the format: its digits are digits, without a leading zero. -/
structure Number.Sound (number : Number) : Prop where
  whole : Places number.whole
  leading : number.whole.head? ≠ some '0' ∨ number.whole.length = 1
  fraction : ∀ places ∈ number.fraction, Places places

/-- The numeral of a natural number. -/
theorem places_ofNat (number : Nat) : Places (Numeral.ofNat 10 number) :=
  ⟨Numeral.ofNat_ne_nil 10 number, fun _ member =>
    Numeral.isDigitOf_of_mem (by decide) (by decide) member⟩

section Numbers

variable {text after : List Char} {number : Number}

/-- What a text begins with is no digit. -/
def Bare (text : List Char) : Prop :=
  ∀ character ∈ text.head?, Numeral.isDigitOf 10 character = false

/-- What may follow a document: nothing, or a mark after an item or a field. -/
def Closes (text : List Char) : Prop :=
  ∀ mark ∈ text.head?, mark = ',' ∨ mark = ']' ∨ mark = '\x7d'

theorem Closes.bare (closes : Closes text) : Bare text := by
  intro mark head
  rcases closes mark head with rfl | rfl | rfl <;> decide

/-- A run of digits is read up to its end. -/
theorem digits_append {places : List Char} (run : Places places) (bare : Bare text) :
    digits (places ++ text) = (places, text) := by
  have stops : text.takeWhile (Numeral.isDigitOf 10) = [] ∧
      text.dropWhile (Numeral.isDigitOf 10) = text := by
    cases text with
    | nil => exact ⟨rfl, rfl⟩
    | cons character rest =>
      have other : ¬ Numeral.isDigitOf 10 character = true := by simp [bare character rfl]
      exact ⟨List.takeWhile_cons_of_neg other, List.dropWhile_cons_of_neg other⟩
  rw [digits, List.takeWhile_append_of_pos run.2, List.dropWhile_append_of_pos run.2, stops.1,
    stops.2, List.append_nil]

/-- The exponent of a number, as it is written. -/
def writeExponent (exponent : Option Int) : List Char :=
  match exponent with
  | some exponent => 'e' :: (Numeral.signed exponent).toList
  | none => []

/-- The fraction of a number, as it is written. -/
def writeFraction (fraction : Option (List Char)) : List Char :=
  match fraction with
  | some digits => '.' :: digits
  | none => []

theorem exponentDigits?_ofNat (negative : Bool) (value : Nat) (bare : Bare after) :
    exponentDigits? negative (Numeral.ofNat 10 value ++ after) =
      some (some (if negative then -(value : Int) else value), after) := by
  unfold exponentDigits?
  rw [digits_append (places_ofNat value) bare]
  dsimp only
  rw [Numeral.value?_ofNat (by decide) (by decide)]
  rfl

/-- A numeral begins with a digit. -/
theorem Places.head {places : List Char} (run : Places places) :
    ∃ digit rest, places = digit :: rest ∧ Numeral.isDigitOf 10 digit = true := by
  obtain ⟨digit, rest, rfl⟩ := List.exists_cons_of_ne_nil run.1
  exact ⟨digit, rest, rfl, run.2 digit List.mem_cons_self⟩

/-- What is no digit differs from what is one. -/
theorem ne_of_digit {digit other : Char} (isDigit : Numeral.isDigitOf 10 digit = true)
    (isOther : Numeral.isDigitOf 10 other = false) : digit ≠ other := by
  rintro rfl
  rw [isDigit] at isOther
  cases isOther

/-- An exponent is read as it was written. -/
theorem exponent?_write (exponent : Option Int) (closes : Closes after) :
    exponent? (writeExponent exponent ++ after) = some (exponent, after) := by
  cases exponent with
  | none =>
    cases after with
    | nil => rfl
    | cons mark rest =>
      rcases closes mark rfl with rfl | rfl | rfl <;> rfl
  | some value =>
    rw [writeExponent, Numeral.signed]
    by_cases negative : value < 0
    · have written : 'e' :: (String.ofList ('-' :: Numeral.ofNat 10 value.natAbs)).toList ++ after =
          'e' :: '-' :: (Numeral.ofNat 10 value.natAbs ++ after) := by
        rw [String.toList_ofList]
        rfl
      have same : -((value.natAbs : Nat) : Int) = value := by omega
      have read := exponentDigits?_ofNat true value.natAbs closes.bare
      rw [if_pos rfl, same] at read
      rw [if_pos negative, written]
      exact read
    · obtain ⟨digit, rest, digits, isDigit⟩ := (places_ofNat value.natAbs).head
      have same : ((value.natAbs : Nat) : Int) = value := by omega
      have read := exponentDigits?_ofNat false value.natAbs closes.bare
      rw [if_neg Bool.false_ne_true, same, digits, List.cons_append] at read
      rw [if_neg negative, Numeral.decimal, String.toList_ofList, digits, List.cons_append,
        List.cons_append]
      have plus : digit ≠ '+' := ne_of_digit isDigit (by decide)
      have minus : digit ≠ '-' := ne_of_digit isDigit (by decide)
      rw [← read]
      simp [exponent?, plus, minus]

/-- A fraction is read as it was written. -/
theorem fraction?_write {fraction : Option (List Char)}
    (sound : ∀ places ∈ fraction, Places places) (bare : Bare text) (point : text.head? ≠ some '.') :
    fraction? (writeFraction fraction ++ text) = some (fraction, text) := by
  cases fraction with
  | none =>
    cases text with
    | nil => rfl
    | cons mark rest =>
      have other : mark ≠ '.' := fun same => point (same ▸ rfl)
      rw [writeFraction, List.nil_append]
      simp [fraction?, other]
  | some places =>
    have run := sound places rfl
    have any : places.isEmpty = false := List.isEmpty_eq_false_iff.mpr run.1
    rw [writeFraction, List.cons_append, fraction?, digits_append run bare]
    dsimp only
    rw [any]
    rfl

/-- What follows the digits of a number before its exponent. -/
theorem writeExponent_head (exponent : Option Int) (closes : Closes after) :
    Bare (writeExponent exponent ++ after) ∧ (writeExponent exponent ++ after).head? ≠ some '.' := by
  cases exponent with
  | none =>
    refine ⟨closes.bare, fun point => ?_⟩
    rcases closes '.' point with same | same | same <;> cases same
  | some value => exact ⟨fun mark head => by cases head; decide, by simp [writeExponent]⟩

/-- What follows the whole part of a number. -/
theorem writeFraction_bare (fraction : Option (List Char)) (bare : Bare text) :
    Bare (writeFraction fraction ++ text) := by
  cases fraction with
  | none => exact bare
  | some places => exact fun mark head => by cases head; decide

/-- The parts of a number, as they are written. -/
theorem Number.write_append (number : Number) (after : List Char) :
    number.write ++ after = (if number.negative then ['-'] else []) ++ (number.whole ++
      (writeFraction number.fraction ++ (writeExponent number.exponent ++ after))) := by
  obtain ⟨negative, whole, fraction, exponent⟩ := number
  cases fraction <;> cases exponent <;>
    simp [Number.write, writeFraction, writeExponent, List.append_assoc]

/-- **A number is read as it was written**, up to a mark that follows it. -/
theorem number?_write (sound : number.Sound) (closes : Closes after) :
    number? (number.write ++ after) = some (number, after) := by
  rw [Number.write_append]
  obtain ⟨negative, whole, fraction, exponent⟩ := number
  obtain ⟨run, leading, places⟩ := sound
  dsimp only at run leading places ⊢
  obtain ⟨bare, point⟩ := writeExponent_head exponent closes
  have whole' := digits_append run (writeFraction_bare fraction bare)
  have natural : (whole.isEmpty || (whole.head? == some '0' && whole.length != 1)) = false := by
    rw [List.isEmpty_eq_false_iff.mpr run.1]
    rcases leading with head | short
    · simp [head]
    · simp [short]
  have sign (text : List Char) :
      takeMinus ((if negative then ['-'] else []) ++ (whole ++ text)) = (negative, whole ++ text) := by
    cases negative
    · obtain ⟨digit, rest, rfl, isDigit⟩ := run.head
      have minus : digit ≠ '-' := ne_of_digit isDigit (by decide)
      simp [takeMinus, minus]
    · rfl
  simp only [number?, sign, whole', natural, fraction?_write places bare point,
    Option.bind_eq_bind, Option.bind_some, exponent?_write exponent closes]
  rfl

/-- A number begins with a digit or with a minus sign. -/
theorem Number.Sound.head (sound : number.Sound) : ∃ first rest,
    (Numeral.isDigitOf 10 first = true ∨ first = '-') ∧
      ∀ after, number.write ++ after = first :: (rest ++ after) := by
  obtain ⟨digit, rest, whole, isDigit⟩ := sound.whole.head
  simp only [Number.write_append, whole]
  cases number.negative
  · exact ⟨digit, rest ++ (writeFraction number.fraction ++ writeExponent number.exponent),
      Or.inl isDigit, fun after => by simp⟩
  · exact ⟨'-', digit :: rest ++ (writeFraction number.fraction ++ writeExponent number.exponent),
      Or.inr rfl, fun after => by simp⟩

end Numbers

end Wayfinder.Json
