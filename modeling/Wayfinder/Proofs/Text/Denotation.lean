/-
**What numerals denote.**

Which number a text stands for can be said without reading it digit by digit with an accumulator: a
digit stands for its value, and a numeral with one more digit for the base times the numeral plus
that value. The reader finds exactly this number, and nothing in a text that is no numeral.

Among the numerals of one number, which differ by leading zeros and by the case of their letters,
one is plain, and that is the one that is written.

* `Numeral.Digit`, `Numeral.Denotes`: the value of a digit and of a numeral;
* `Numeral.value?_eq_some`, `Numeral.unsigned?_eq_some`: what the readers find;
* `Numeral.plain_iff`: a plain numeral is the one that is written;
* `Text.trim_eq_iff`: a text without blanks is what is left of it between blanks.
-/

import Mathlib.Algebra.Group.Nat.Defs
import Mathlib.Data.List.Induction
import Mathlib.Data.List.TakeWhile
import Wayfinder.Proofs.Text.Numerals

namespace Wayfinder

namespace Numeral

variable {base number value limit : Nat} {character : Char} {text : List Char}

/-! ### Digits -/

/-- The digits in the order of their values, with small letters. -/
def smallDigits : List Char :=
  ['0', '1', '2', '3', '4', '5', '6', '7', '8', '9', 'a', 'b', 'c', 'd', 'e', 'f']

/-- The digits in the order of their values, with capital letters. -/
def capitalDigits : List Char :=
  ['0', '1', '2', '3', '4', '5', '6', '7', '8', '9', 'A', 'B', 'C', 'D', 'E', 'F']

/-- A character is a digit of a base, with its value. -/
def Digit (base : Nat) (character : Char) (value : Nat) : Prop :=
  value < base ∧ (smallDigits[value]? = some character ∨ capitalDigits[value]? = some character)

theorem digitValue?_eq_some : digitValue? character = some value ↔
    smallDigits[value]? = some character ∨ capitalDigits[value]? = some character := by
  constructor
  · intro found
    have bound : character.toNat < 103 := by
      unfold digitValue? at found
      grind
    have every : ∀ code < 103, (digitValue? (Char.ofNat code)).all (fun value =>
        smallDigits[value]? = some (Char.ofNat code) ∨
          capitalDigits[value]? = some (Char.ofNat code)) = true := by decide
    have here := every character.toNat bound
    rw [Char.ofNat_toNat, found] at here
    exact of_decide_eq_true here
  · have small : ∀ value < 16, smallDigits[value]?.bind digitValue? = some value := by decide
    have capital : ∀ value < 16, capitalDigits[value]?.bind digitValue? = some value := by decide
    rintro (found | found)
    · have here := small value (List.getElem?_eq_some_iff.mp found).1
      rwa [found] at here
    · have here := capital value (List.getElem?_eq_some_iff.mp found).1
      rwa [found] at here

theorem digit_iff : Digit base character value ↔
    value < base ∧ digitValue? character = some value := by
  rw [Digit, digitValue?_eq_some]

theorem isDigitOf_iff : isDigitOf base character = true ↔ ∃ value, Digit base character value := by
  simp only [digit_iff, isDigitOf]
  cases digitValue? character with
  | none => simp
  | some value => simp

/-! ### Numerals -/

/-- **A text denotes a number in a base**: the most significant digit comes first. -/
inductive Denotes (base : Nat) : List Char → Nat → Prop
  | digit {character : Char} {value : Nat} (digit : Digit base character value) :
      Denotes base [character] value
  | append {text : List Char} {number value : Nat} {character : Char}
      (denotes : Denotes base text number) (digit : Digit base character value) :
      Denotes base (text ++ [character]) (number * base + value)

theorem valueFrom_concat (digit : Digit base character value) :
    valueFrom base 0 (text ++ [character]) = valueFrom base 0 text * base + value := by
  rw [valueFrom_append, valueFrom, valueFrom, (digit_iff.mp digit).2, Option.getD_some]

/-- A text of digits denotes the number that is found in it. -/
theorem denotes_valueFrom (digits : ∀ character ∈ text, isDigitOf base character = true)
    (any : text ≠ []) : Denotes base text (valueFrom base 0 text) := by
  -- on the last digit: it is the one that a longer numeral adds
  induction text using List.reverseRecOn with
  | nil => exact absurd rfl any
  | append_singleton text character hypothesis =>
    obtain ⟨value, digit⟩ := isDigitOf_iff.mp (digits character (by simp))
    rw [valueFrom_concat digit]
    by_cases empty : text = []
    · rw [empty, valueFrom, Nat.zero_mul, Nat.zero_add]
      exact .digit digit
    · exact .append (hypothesis (fun other member => digits other (by simp [member])) empty) digit

theorem Denotes.ne_nil (denotes : Denotes base text number) : text ≠ [] := by
  cases denotes <;> simp

theorem Denotes.isDigitOf (denotes : Denotes base text number) :
    ∀ character ∈ text, isDigitOf base character = true := by
  induction denotes with
  | digit digit =>
    intro character member
    obtain rfl := List.mem_singleton.mp member
    exact isDigitOf_iff.mpr ⟨_, digit⟩
  | append _ digit hypothesis =>
    intro character member
    rcases List.mem_append.mp member with before | last
    · exact hypothesis character before
    · obtain rfl := List.mem_singleton.mp last
      exact isDigitOf_iff.mpr ⟨_, digit⟩

theorem Denotes.valueFrom_eq (denotes : Denotes base text number) :
    valueFrom base 0 text = number := by
  induction denotes with
  | @digit character value digit =>
    show valueFrom base 0 ([] ++ [character]) = value
    rw [valueFrom_concat digit, valueFrom, Nat.zero_mul, Nat.zero_add]
  | append _ digit hypothesis => rw [valueFrom_concat digit, hypothesis]

/-- A numeral of so many digits is less than that power of the base. -/
theorem Denotes.lt_pow (denotes : Denotes base text number) : number < base ^ text.length := by
  induction denotes with
  | digit digit =>
    rw [List.length_singleton, Nat.pow_one]
    exact digit.1
  | @append text number value character _ digit hypothesis =>
    rw [List.length_append, List.length_singleton, Nat.pow_succ]
    calc number * base + value < number * base + base := Nat.add_lt_add_left digit.1 _
      _ = (number + 1) * base := (Nat.succ_mul number base).symm
      _ ≤ base ^ text.length * base := Nat.mul_le_mul_right base hypothesis

/-- **A reader finds the number that a text denotes**, and none in any other text. -/
theorem value?_eq_some : value? base text = some number ↔ Denotes base text number := by
  constructor
  · intro found
    unfold value? at found
    split at found
    · cases found
    · next digits =>
      rw [Bool.not_eq_true, Bool.or_eq_false_iff, Bool.not_eq_false', List.all_eq_true] at digits
      cases found
      exact denotes_valueFrom digits.2 fun empty => by simp [empty] at digits
  · intro denotes
    have digits : text.all (Numeral.isDigitOf base) = true := List.all_eq_true.mpr denotes.isDigitOf
    have any : text.isEmpty = false := List.isEmpty_eq_false_iff.mpr denotes.ne_nil
    rw [value?, digits, any, denotes.valueFrom_eq]
    rfl

theorem filter_value?_eq_some :
    (value? base text).filter (· < limit) = some number ↔
      Denotes base text number ∧ number < limit := by
  simp [Option.filter_eq_some_iff, value?_eq_some]

/-- A text denotes a number with a plus sign or without. -/
def DenotesUnsigned (text : List Char) (number : Nat) : Prop :=
  Denotes 10 text number ∨ ∃ digits, text = '+' :: digits ∧ Denotes 10 digits number

theorem Denotes.not_mem (denotes : Denotes base text number)
    (other : Numeral.isDigitOf base character = false) : character ∉ text := by
  intro member
  rw [denotes.isDigitOf character member] at other
  cases other

/-- A numeral has no blanks. -/
theorem Denotes.solid (denotes : Denotes base text number) :
    ∀ character ∈ text, Text.isBlank character = false :=
  fun character member => Text.isBlank_of_isDigitOf (denotes.isDigitOf character member)

theorem DenotesUnsigned.solid (denotes : DenotesUnsigned text number) :
    ∀ character ∈ text, Text.isBlank character = false := by
  rcases denotes with bare | ⟨digits, rfl, denotes⟩
  · exact bare.solid
  · intro character member
    rcases List.mem_cons.mp member with rfl | digit
    · decide
    · exact denotes.solid character digit

theorem unsigned?_eq_some : unsigned? limit text = some number ↔
    DenotesUnsigned text number ∧ number < limit := by
  rw [unsigned?, filter_value?_eq_some]
  refine and_congr_left fun _ => ?_
  unfold dropPlus DenotesUnsigned
  split
  · next rest =>
    refine ⟨fun denotes => Or.inr ⟨rest, rfl, denotes⟩, ?_⟩
    rintro (whole | ⟨digits, same, denotes⟩)
    · exact absurd List.mem_cons_self (whole.not_mem (by decide))
    · cases same
      exact denotes
  · next unsigned =>
    refine ⟨Or.inl, ?_⟩
    rintro (whole | ⟨digits, same, _⟩)
    · exact whole
    · exact absurd same (unsigned digits)

/-! ### Plain numerals -/

/-- A text of digits without leading zeros and without capital letters. -/
def Plain (text : List Char) : Prop :=
  (text.head? = some '0' → text = ['0']) ∧ ∀ character ∈ text, character.isUpper = false

theorem Digit.eq_digitChar (digit : Digit base character value) (narrow : base ≤ 16)
    (small : character.isUpper = false) : character = Nat.digitChar value := by
  have every : ∀ value < 16, smallDigits[value]? = some (Nat.digitChar value) ∧
      (capitalDigits[value]?.all fun character =>
        !character.isUpper → character = Nat.digitChar value) = true := by decide
  obtain ⟨same, same'⟩ := every value (Nat.lt_of_lt_of_le digit.1 narrow)
  rcases digit.2 with found | found
  · exact Option.some.inj (found.symm.trans same)
  · rw [found] at same'
    exact of_decide_eq_true same' (by simp [small])

theorem Denotes.pos (denotes : Denotes base text number) (wide : 1 < base)
    (head : text.head? ≠ some '0') : 0 < number := by
  induction denotes with
  | @digit character value digit =>
    refine Nat.pos_of_ne_zero fun zero => head ?_
    rcases digit.2 with found | found
    · rw [zero] at found
      exact found.symm
    · rw [zero] at found
      exact found.symm
  | @append text number value character denotes _ hypothesis =>
    rw [List.head?_append_of_ne_nil _ denotes.ne_nil] at head
    have before := hypothesis head
    have product : 0 < number * base := Nat.mul_pos before (by omega)
    omega

/-- A plain numeral is the one that is written. -/
theorem Denotes.eq_ofNat (denotes : Denotes base text number) (wide : 1 < base)
    (narrow : base ≤ 16) (plain : Plain text) : text = ofNat base number := by
  induction denotes with
  | digit digit =>
    rw [ofNat, Nat.toDigits_of_lt_base digit.1,
      digit.eq_digitChar narrow (plain.2 _ List.mem_cons_self)]
  | @append text number value character denotes digit hypothesis =>
    have head : text.head? ≠ some '0' := by
      intro zero
      have first : (text ++ [character]).head? = some '0' :=
        (List.head?_append_of_ne_nil text denotes.ne_nil).trans zero
      have one := congrArg List.length (plain.1 first)
      rw [List.length_append, List.length_singleton, List.length_singleton] at one
      exact denotes.ne_nil (List.eq_nil_of_length_eq_zero (by omega))
    have before := hypothesis
      ⟨fun zero => absurd zero head, fun other member => plain.2 other (by simp [member])⟩
    have last := digit.eq_digitChar narrow (plain.2 character (by simp))
    have positive := denotes.pos wide head
    have large : base ≤ number * base + value :=
      Nat.le_trans (Nat.le_mul_of_pos_left base positive) (Nat.le_add_right _ _)
    have rest : (number * base + value) / base = number := by
      rw [Nat.mul_comm, Nat.mul_add_div (by omega), Nat.div_eq_of_lt digit.1, Nat.add_zero]
    have digits : (number * base + value) % base = value := by
      rw [Nat.mul_comm, Nat.mul_add_mod, Nat.mod_eq_of_lt digit.1]
    rw [ofNat_eq wide large, rest, digits, ← before, ← last]

theorem denotes_ofNat (wide : 1 < base) (narrow : base ≤ 16) (number : Nat) :
    Denotes base (ofNat base number) number :=
  value?_eq_some.mp (value?_ofNat wide narrow number)

theorem plain_ofNat (wide : 1 < base) (narrow : base ≤ 16) (number : Nat) :
    Plain (ofNat base number) := by
  constructor
  · intro zero
    rcases ofNat_head wide narrow number with head | short
    · exact absurd zero head
    · obtain ⟨character, same⟩ := List.length_eq_one_iff.mp short
      rw [same] at zero ⊢
      rw [Option.some.inj zero]
  · intro character member
    obtain ⟨value, small, rfl⟩ := digitChar_of_mem wide member
    have every : ∀ value < 16, (Nat.digitChar value).isUpper = false := by decide
    exact every value (Nat.lt_of_lt_of_le small narrow)

/-- **Of the numerals of a number one is plain**, the one that is written. -/
theorem plain_iff (wide : 1 < base) (narrow : base ≤ 16) :
    Denotes base text number ∧ Plain text ↔ text = ofNat base number := by
  constructor
  · rintro ⟨denotes, plain⟩
    exact denotes.eq_ofNat wide narrow plain
  · rintro rfl
    exact ⟨denotes_ofNat wide narrow number, plain_ofNat wide narrow number⟩

end Numeral

/-! ### Blanks around a text -/

namespace Text

variable {text core : List Char}

/-- A text with blanks before and behind it. -/
def Padded (text core : List Char) : Prop :=
  ∃ before after, text = before ++ core ++ after ∧
    (∀ character ∈ before, isBlank character = true) ∧
    ∀ character ∈ after, isBlank character = true

theorem dropWhile_solid {first : Char} (solid : isBlank first = false) (rest : List Char) :
    (first :: rest).dropWhile isBlank = first :: rest :=
  List.dropWhile_cons_of_neg (by simp [solid])

/-- What is left between the blanks of a text. -/
theorem padded_trim (text : List Char) : Padded text (trim text) := by
  have front := List.takeWhile_append_dropWhile (p := isBlank) (l := text)
  have back :=
    List.takeWhile_append_dropWhile (p := isBlank) (l := (text.dropWhile isBlank).reverse)
  refine ⟨text.takeWhile isBlank, ((text.dropWhile isBlank).reverse.takeWhile isBlank).reverse,
    ?_, fun _ member => List.mem_takeWhile_imp member,
    fun _ member => List.mem_takeWhile_imp (List.mem_reverse.mp member)⟩
  rw [trim, List.append_assoc, ← List.reverse_append, back, List.reverse_reverse, front]

/-- **A text without blanks is what is left between blanks if it stands between blanks.** -/
theorem trim_eq_iff (solid : ∀ character ∈ core, isBlank character = false) :
    trim text = core ↔ Padded text core := by
  constructor
  · rintro rfl
    exact padded_trim text
  · rintro ⟨before, after, rfl, front, back⟩
    have behind : ∀ character ∈ after.reverse, isBlank character = true :=
      fun character member => back character (List.mem_reverse.mp member)
    rw [trim, List.append_assoc, List.dropWhile_append_of_pos front]
    cases core with
    | nil =>
      rw [List.nil_append, List.dropWhile_eq_nil_iff.mpr back]
      rfl
    | cons first rest =>
      have whole := trim_eq solid
      rw [trim, dropWhile_solid (solid first List.mem_cons_self)] at whole
      rw [List.cons_append, dropWhile_solid (solid first List.mem_cons_self), ← List.cons_append,
        List.reverse_append, List.dropWhile_append_of_pos behind, whole]

end Text

end Wayfinder
