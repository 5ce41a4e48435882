/-
**Numbers come back from their numerals.**

A numeral is read digit by digit, and a number is written with its last digit after the numeral of the
rest, so that reading what was written is an induction on the number. What is written has digits only:
none of the marks that separate numerals in a text, and no blanks.

* `Numeral.value?_ofNat`, `Numeral.unsigned?_ofNat`: what was written is read;
* `Numeral.isDigitOf_of_mem`, `Numeral.not_mem_ofNat`: the characters of a numeral;
* `Numeral.ofNat_head`: there is no leading zero;
* `Text.trim_eq`: a text without blanks is taken as it is.
-/

import Mathlib.Data.List.Basic
import Wayfinder.Text.Blank
import Wayfinder.Text.Numeral

namespace Wayfinder

namespace Numeral

variable {base number value limit : Nat} {character : Char}

/-! ### Digits -/

/-- Every digit has its value. -/
theorem digitValue?_digitChar (small : value < 16) :
    digitValue? (Nat.digitChar value) = some value := by
  have every : ∀ value < 16, digitValue? (Nat.digitChar value) = some value := by decide
  exact every value small

theorem isDigitOf_digitChar (small : value < base) (narrow : base ≤ 16) :
    isDigitOf base (Nat.digitChar value) = true := by
  rw [isDigitOf, digitValue?_digitChar (Nat.lt_of_lt_of_le small narrow)]
  exact decide_eq_true small

/-- A digit has the code of a decimal one or of a letter up to `f`. -/
theorem toNat_of_isDigitOf (digit : isDigitOf base character = true) :
    48 ≤ character.toNat ∧ character.toNat ≤ 102 := by
  unfold isDigitOf digitValue? at digit
  dsimp only at digit
  split at digit
  · next value found =>
    split at found
    · omega
    · split at found
      · omega
      · split at found
        · omega
        · cases found
  · cases digit

/-! ### Numerals -/

theorem valueFrom_append (base number : Nat) (first second : List Char) :
    valueFrom base number (first ++ second) = valueFrom base (valueFrom base number first) second := by
  induction first generalizing number with
  | nil => rfl
  | cons digit rest hypothesis => exact hypothesis _

/-- The digits of a number are those of the rest, then the last one. -/
theorem ofNat_eq (wide : 1 < base) (large : base ≤ number) :
    ofNat base number = ofNat base (number / base) ++ [Nat.digitChar (number % base)] :=
  Nat.toDigits_of_base_le wide large

theorem ofNat_ne_nil (base number : Nat) : ofNat base number ≠ [] := Nat.toDigits_ne_nil

/-- The characters of a numeral are the digits of values. -/
theorem digitChar_of_mem (wide : 1 < base) (member : character ∈ ofNat base number) :
    ∃ value < base, character = Nat.digitChar value := by
  induction number using Nat.strongRecOn with
  | ind number hypothesis =>
    rcases Nat.lt_or_ge number base with small | large
    · rw [ofNat, Nat.toDigits_of_lt_base small] at member
      exact ⟨number, small, List.mem_singleton.mp member⟩
    · rw [ofNat_eq wide large] at member
      rcases List.mem_append.mp member with before | last
      · exact hypothesis (number / base) (Nat.div_lt_self (by omega) wide) before
      · exact ⟨number % base, Nat.mod_lt _ (by omega), List.mem_singleton.mp last⟩

/-- A numeral has digits only. -/
theorem isDigitOf_of_mem (wide : 1 < base) (narrow : base ≤ 16)
    (member : character ∈ ofNat base number) : isDigitOf base character = true := by
  obtain ⟨value, small, rfl⟩ := digitChar_of_mem wide member
  exact isDigitOf_digitChar small narrow

/-- What is no digit does not stand in a numeral. -/
theorem not_mem_ofNat (wide : 1 < base) (narrow : base ≤ 16)
    (other : isDigitOf base character = false) : character ∉ ofNat base number := by
  intro member
  rw [isDigitOf_of_mem wide narrow member] at other
  cases other

theorem valueFrom_ofNat (wide : 1 < base) (narrow : base ≤ 16) (number : Nat) :
    valueFrom base 0 (ofNat base number) = number := by
  induction number using Nat.strongRecOn with
  | ind number hypothesis =>
    rcases Nat.lt_or_ge number base with small | large
    · rw [ofNat, Nat.toDigits_of_lt_base small, valueFrom, valueFrom,
        digitValue?_digitChar (Nat.lt_of_lt_of_le small narrow), Nat.zero_mul, Nat.zero_add,
        Option.getD_some]
    · have last : number % base < 16 := Nat.lt_of_lt_of_le (Nat.mod_lt _ (by omega)) narrow
      rw [ofNat_eq wide large, valueFrom_append,
        hypothesis (number / base) (Nat.div_lt_self (by omega) wide), valueFrom, valueFrom,
        digitValue?_digitChar last, Option.getD_some]
      exact Nat.div_add_mod' number base

/-- **The number of a numeral is the one that was written.** -/
theorem value?_ofNat (wide : 1 < base) (narrow : base ≤ 16) (number : Nat) :
    value? base (ofNat base number) = some number := by
  have digits : (ofNat base number).all (isDigitOf base) = true :=
    List.all_eq_true.mpr fun _ member => isDigitOf_of_mem wide narrow member
  have any : (ofNat base number).isEmpty = false :=
    List.isEmpty_eq_false_iff.mpr (ofNat_ne_nil base number)
  rw [value?, digits, any, valueFrom_ofNat wide narrow]
  rfl

theorem dropPlus_ofNat (number : Nat) : dropPlus (ofNat 10 number) = ofNat 10 number := by
  unfold dropPlus
  split
  · next rest written =>
    have plus : '+' ∈ ofNat 10 number := written ▸ List.mem_cons_self
    exact absurd plus (not_mem_ofNat (by decide) (by decide) (by decide))
  · rfl

theorem unsigned?_ofNat (small : number < limit) :
    unsigned? limit (ofNat 10 number) = some number := by
  rw [unsigned?, dropPlus_ofNat, value?_ofNat (by decide) (by decide)]
  exact Option.filter_some_pos (decide_eq_true small)

/-- A numeral begins with a zero only if it is one. -/
theorem ofNat_head (wide : 1 < base) (narrow : base ≤ 16) (number : Nat) :
    (ofNat base number).head? ≠ some '0' ∨ (ofNat base number).length = 1 := by
  induction number using Nat.strongRecOn with
  | ind number hypothesis =>
    rcases Nat.lt_or_ge number base with small | large
    · rw [ofNat, Nat.toDigits_of_lt_base small]
      exact Or.inr rfl
    · left
      have first : (ofNat base number).head? = (ofNat base (number / base)).head? := by
        rw [ofNat_eq wide large]
        exact List.head?_append_of_ne_nil _ (ofNat_ne_nil base _)
      rw [first]
      rcases hypothesis (number / base) (Nat.div_lt_self (by omega) wide) with head | short
      · exact head
      · have below : number / base < base := by
          have bound := (Nat.length_toDigits_le_iff wide Nat.one_pos).mp (Nat.le_of_eq short)
          rwa [Nat.pow_one] at bound
        have every : ∀ value < 16, 0 < value → Nat.digitChar value ≠ '0' := by decide
        have positive : 0 < number / base := Nat.div_pos large (by omega)
        rw [ofNat, Nat.toDigits_of_lt_base below]
        exact fun zero => every (number / base) (by omega) positive (Option.some.inj zero)

end Numeral

/-! ### Blanks -/

namespace Text

/-- A printable character of seven bits is no blank. -/
theorem isBlank_of_printable {character : Char} (above : 0x20 < character.toNat)
    (below : character.toNat < 0x7F) : isBlank character = false := by
  have outside : ¬ character.toNat < 0x09 ∧ ¬ character.toNat ≤ 0x0D ∧ ¬ character.toNat < 0x20 ∧
      ¬ character.toNat ≤ 0x20 ∧ character.toNat < 0x85 := by omega
  simp [isBlank, blankRanges, Ranges.covers, outside]

theorem isBlank_of_isDigitOf {base : Nat} {character : Char}
    (digit : Numeral.isDigitOf base character = true) : isBlank character = false := by
  have bounds := Numeral.toNat_of_isDigitOf digit
  exact isBlank_of_printable (by omega) (by omega)

/-- **A text without blanks is taken as it is.** -/
theorem trim_eq {text : List Char} (solid : ∀ character ∈ text, isBlank character = false) :
    trim text = text := by
  have front {text : List Char} (solid : ∀ character ∈ text, isBlank character = false) :
      text.dropWhile isBlank = text := by
    cases text with
    | nil => rfl
    | cons character rest =>
      exact List.dropWhile_cons_of_neg (by simp [solid character List.mem_cons_self])
  rw [trim, front solid, front fun character member => solid character (List.mem_reverse.mp member),
    List.reverse_reverse]

end Text

end Wayfinder
