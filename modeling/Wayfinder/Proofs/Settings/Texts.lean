/-
**What the texts of settings stand for.**

A text is taken for a truth value, an integer of 64 bits or another number if it can be read as one,
and only else for itself. A setting that wants a text has such a value written out again, so that it
is the text that was given only if the text was nothing of the sort, or was written in just this way.
A setting that wants a natural number takes an integer as it is and other numbers rounded; a few
words count as one and zero, and no other text will do.

* `integer?_eq_some`: integers as they are spelled, without the reader;
* `Truth`, `Affirms`, `Whole`, `Real`: what a text can be read as;
* `Stands`, `stands_valueOf`: the one value that a text is taken for;
* `Written`, `text?_valueOf`: what a setting makes of a text that wants a text;
* `Counted`, `natural?_valueOf`: what one makes of it that wants a natural number.
-/

import Wayfinder.Proofs.Text.Denotation
import Wayfinder.Settings.Layers

namespace Wayfinder

open Numeral (Denotes)

/-! ### Integers -/

namespace Decimal

/-- A text spells an integer: digits, perhaps behind a sign. -/
inductive Spells : List Char → Int → Prop
  | bare {digits : List Char} {number : Nat} (denotes : Denotes 10 digits number) :
      Spells digits number
  | plus {digits : List Char} {number : Nat} (denotes : Denotes 10 digits number) :
      Spells ('+' :: digits) number
  | minus {digits : List Char} {number : Nat} (denotes : Denotes 10 digits number) :
      Spells ('-' :: digits) (-number)

section

variable {text : List Char} {value : Int}

/-- A text that begins with no sign has none. -/
theorem takeSign_of_ne (minus : text.head? ≠ some '-') (plus : text.head? ≠ some '+') :
    takeSign text = (false, text) := by
  unfold takeSign
  split
  · exact absurd rfl minus
  · exact absurd rfl plus
  · rfl

theorem takeSign_of_denotes {number : Nat} (denotes : Denotes 10 text number) :
    takeSign text = (false, text) := by
  refine takeSign_of_ne ?_ ?_ <;>
    exact fun head => denotes.not_mem (by decide) (List.mem_of_mem_head? head)

theorem spells_iff : Spells text value ↔
    (Numeral.value? 10 (takeSign text).2).map (fun number : Nat =>
      if (takeSign text).1 then -(number : Int) else (number : Int)) = some value := by
  constructor
  · intro spells
    cases spells with
    | bare denotes =>
      rw [takeSign_of_denotes denotes, Numeral.value?_eq_some.mpr denotes]
      rfl
    | plus denotes | minus denotes =>
      rw [takeSign, Numeral.value?_eq_some.mpr denotes]
      rfl
  · intro read
    obtain ⟨number, found, same⟩ := Option.map_eq_some_iff.mp read
    have denotes := Numeral.value?_eq_some.mp found
    subst same
    unfold takeSign at denotes ⊢
    split at denotes
    · exact .minus denotes
    · exact .plus denotes
    · exact .bare denotes

/-- **The reader finds the integer that a text spells**, if it has 64 bits. -/
theorem integer?_eq_some : integer? 10 text = some value ↔
    Spells text value ∧ -0x8000000000000000 ≤ value ∧ value < 0x8000000000000000 := by
  rw [spells_iff, integer?]
  simp only [Option.filter_eq_some_iff, decide_eq_true_eq]
  cases Numeral.value? 10 (takeSign text).2 with
  | none | some => rfl

end

/-! ### Words -/

/-- The words that count as a truth value where a number is wanted. -/
def Affirms (text : List Char) (value : Bool) : Prop :=
  isWord (if value then ["true", "on", "yes"] else ["false", "off", "no"]) text = true

section

variable {text : List Char} {value : Bool}

theorem isWord_iff {words : List String} :
    isWord words text = true ↔ ∃ word ∈ words, text.map Char.toLower = word.toList := by
  rw [isWord, List.any_eq_true]
  simp only [beq_iff_eq]
  exact ⟨fun ⟨word, member, same⟩ => ⟨word, member, same.symm⟩,
    fun ⟨word, member, same⟩ => ⟨word, member, same.symm⟩⟩

/-- A word counts as one truth value. -/
theorem Affirms.unique {other : Bool} (affirms : Affirms text value)
    (affirms' : Affirms text other) : value = other := by
  obtain ⟨word, member, same⟩ := isWord_iff.mp affirms
  obtain ⟨word', member', same'⟩ := isWord_iff.mp affirms'
  have known : ∀ value other : Bool,
      ∀ word ∈ (if value = true then ["true", "on", "yes"] else ["false", "off", "no"]),
      ∀ word' ∈ (if other = true then ["true", "on", "yes"] else ["false", "off", "no"]),
        word.toList = word'.toList → value = other := by decide
  exact known value other word member word' member' (same.symm.trans same')

/-- A character before the capital letters is none of them. -/
theorem toLower_of_lt {character : Char} (small : character.toNat < 65) :
    character.toLower = character := by
  unfold Char.toLower
  refine dif_neg fun ⟨low, _⟩ => ?_
  have bound : 65 ≤ character.toNat := low
  omega

/-- The characters with which a numeral may begin. -/
def isMark (character : Char) : Bool :=
  Numeral.isDigitOf 10 character || character == '+' || character == '-' || character == '.'

theorem toNat_of_isMark {character : Char} (mark : isMark character = true) :
    character.toNat < 65 := by
  simp only [isMark, Bool.or_eq_true, beq_iff_eq] at mark
  rcases mark with ((digit | rfl) | rfl) | rfl
  · unfold Numeral.isDigitOf Numeral.digitValue? at digit
    grind
  · decide
  · decide
  · decide

/-- A text that does not begin like a numeral is none. -/
theorem no_number_of_head {first : Char} {rest : List Char} (mark : isMark first = false)
    (odd : isWord ["inf", "infinity", "nan"] (first :: rest) = false) :
    integer? 10 (first :: rest) = none ∧ double.parse? (first :: rest) = none := by
  simp only [isMark, Bool.or_eq_false_iff, beq_eq_false_iff_ne] at mark
  obtain ⟨⟨⟨digit, plus⟩, minus⟩, point⟩ := mark
  have unsigned : takeSign (first :: rest) = (false, first :: rest) :=
    takeSign_of_ne (fun head => minus (Option.some.inj head)) fun head => plus (Option.some.inj head)
  constructor
  · have wrong : Numeral.value? 10 (first :: rest) = none := by
      rw [Numeral.value?, List.all_cons, digit]
      rfl
    rw [integer?, unsigned]
    dsimp only
    rw [wrong]
    rfl
  · have apart : isWord ["inf", "infinity"] (first :: rest) = false ∧
        isWord ["nan"] (first :: rest) = false := by
      simp only [isWord, List.any_cons, List.any_nil, Bool.or_false, Bool.or_eq_false_iff] at odd ⊢
      exact ⟨⟨odd.1, odd.2.1⟩, odd.2.2⟩
    have places : places (first :: rest) = ([], first :: rest) := by
      unfold Decimal.places
      split
      · next same =>
        cases same
        exact absurd rfl point
      · rfl
    have wrong : scaled? (first :: rest) = none := by
      rw [scaled?, List.takeWhile_cons_of_neg (by rw [digit]; exact Bool.false_ne_true),
        List.dropWhile_cons_of_neg (by rw [digit]; exact Bool.false_ne_true), places]
      rfl
    rw [Format.parse?, unsigned]
    dsimp only
    rw [apart.1, apart.2, wrong]
    rfl

/-- **A word is no number.** -/
theorem Affirms.no_number (affirms : Affirms text value) :
    integer? 10 text = none ∧ double.parse? text = none := by
  obtain ⟨word, member, same⟩ := isWord_iff.mp affirms
  have known : ∀ value : Bool, ∀ word ∈ (if value = true then ["true", "on", "yes"] else
      ["false", "off", "no"]), word.toList.head?.any (fun first => !isMark first) = true ∧
        ["inf", "infinity", "nan"].any (·.toList == word.toList) = false := by decide
  obtain ⟨begins, apart⟩ := known value word member
  cases text with
  | nil =>
    rw [← same] at begins
    cases begins
  | cons first rest =>
    have odd : isWord ["inf", "infinity", "nan"] (first :: rest) = false := by
      rw [isWord, same]
      exact apart
    refine no_number_of_head ?_ odd
    rw [← same, List.map_cons, List.head?_cons, Option.any_some, Bool.not_eq_true'] at begins
    cases mark : isMark first with
    | false => rfl
    | true => rwa [toLower_of_lt (toNat_of_isMark mark), mark] at begins

theorem isSome_scaled? {number : Nat} (denotes : Denotes 10 text number) :
    (scaled? text).isSome = true := by
  have digits : ∀ character ∈ text, Numeral.isDigitOf 10 character = true := denotes.isDigitOf
  rw [scaled?, List.takeWhile_eq_self_iff.mpr digits, List.dropWhile_eq_nil_iff.mpr digits, places]
  · show (((Numeral.value? 10 (text ++ [])).bind _ : Option Scaled)).isSome = true
    rw [List.append_nil, Numeral.value?_eq_some.mpr denotes]
    rfl
  · exact nofun

/-- A natural number is read as a number of some kind. -/
theorem isSome_parse? {limit number : Nat} (read : Numeral.unsigned? limit text = some number) :
    (double.parse? text).isSome = true := by
  obtain ⟨digits, sign, denotes⟩ : ∃ digits, takeSign text = (false, digits) ∧
      Denotes 10 digits number := by
    rcases (Numeral.unsigned?_eq_some.mp read).1 with bare | ⟨digits, rfl, denotes⟩
    · exact ⟨text, takeSign_of_denotes bare, bare⟩
    · exact ⟨digits, rfl, denotes⟩
  rw [Format.parse?, sign]
  dsimp only
  split
  · rfl
  · split
    · rfl
    · rw [Option.isSome_map]
      exact isSome_scaled? denotes

end

end Decimal

/-! ### Texts as values -/

section

open Decimal

variable {text written : String} {number : Nat}

/-- The text reads as a truth value. -/
def Truth (text : String) (value : Bool) : Prop :=
  isWord [if value then "true" else "false"] text.toList = true

/-- The text spells an integer of 64 bits. -/
def Whole (text : String) (value : Int) : Prop :=
  Spells text.toList value ∧ -0x8000000000000000 ≤ value ∧ value < 0x8000000000000000

/-- The text reads as a floating-point number. -/
def Real (text : String) (value : Binary) : Prop := double.parse? text.toList = some value

/-- **What is made of a text where a text is wanted.** -/
inductive Written (text : String) : String → Prop
  | truth {value : Bool} (truth : Truth text value) :
      Written text (if value then "true" else "false")
  | whole {value : Int} (whole : Whole text value) : Written text (Numeral.signed value)
  | real {value : Binary} (whole : ∀ value, ¬ Whole text value) (real : Real text value) :
      Written text (double.write value)
  /-- What can be read in none of these ways is left as it is. -/
  | verbatim (truth : ∀ value, ¬ Truth text value) (whole : ∀ value, ¬ Whole text value)
      (real : ∀ value, ¬ Real text value) : Written text text

/-- **What is made of a text where a natural number is wanted.** -/
inductive Counted (text : String) : Nat → Prop
  | truth {value : Bool} (affirms : Affirms text.toList value) : Counted text value.toNat
  | whole {value : Nat} (whole : Whole text value) : Counted text value
  | real {value : Binary} (whole : ∀ value, ¬ Whole text value) (real : Real text value) :
      Counted text (SettingTree.roundedWord value)

theorem whole_iff {value : Int} : Whole text value ↔ integer? 10 text.toList = some value :=
  integer?_eq_some.symm

theorem Truth.affirms {value : Bool} (truth : Truth text value) : Affirms text.toList value := by
  obtain ⟨word, member, same⟩ := isWord_iff.mp truth
  refine isWord_iff.mpr ⟨word, ?_, same⟩
  cases value with
  | true | false => exact List.mem_cons.mpr (.inl (List.mem_singleton.mp member))

/-- The value that a text stands for: the first one that it can be read as. -/
inductive Stands (text : String) : SettingTree → Prop
  | truth {value : Bool} (truth : Truth text value) : Stands text (.bool value)
  | whole {value : Int} (whole : Whole text value) : Stands text (.integer value)
  | real {value : Binary} (whole : ∀ value, ¬ Whole text value) (real : Real text value) :
      Stands text (.real value)
  | itself (truth : ∀ value, ¬ Truth text value) (whole : ∀ value, ¬ Whole text value)
      (real : ∀ value, ¬ Real text value) : Stands text (.text text)

theorem stands_valueOf (text : String) : Stands text (Layers.valueOf text) := by
  unfold Layers.valueOf
  dsimp only
  split
  · next word => exact @Stands.truth text true word
  · next noTruth =>
    split
    · next word => exact @Stands.truth text false word
    · next noFalsehood =>
      split
      · next value found => exact .whole (whole_iff.mpr found)
      · next noWhole =>
        have noWhole (value : Int) : ¬ Whole text value := fun whole => by
          rw [whole_iff, noWhole] at whole
          cases whole
        split
        · next value found => exact .real noWhole found
        · next noReal =>
          refine .itself (fun value => ?_) noWhole fun value real => ?_
          · cases value with
            | true => exact noTruth
            | false => exact noFalsehood
          · rw [Real, noReal] at real
            cases real

/-- **A text stands for one value.** -/
theorem Stands.eq {tree tree' : SettingTree} (stands : Stands text tree)
    (stands' : Stands text tree') : tree = tree' := by
  have truthful {value : Bool} (truth : Truth text value) :
      (∀ value, ¬ Whole text value) ∧ ∀ value, ¬ Real text value := by
    obtain ⟨noWhole, noReal⟩ := truth.affirms.no_number
    refine ⟨fun value whole => ?_, fun value real => ?_⟩
    · rw [whole_iff, noWhole] at whole
      cases whole
    · rw [Real, noReal] at real
      cases real
  cases stands with
  | truth truth =>
    cases stands' with
    | truth truth' => rw [truth.affirms.unique truth'.affirms]
    | whole whole => exact absurd whole ((truthful truth).1 _)
    | real _ real => exact absurd real ((truthful truth).2 _)
    | itself noTruth => exact absurd truth (noTruth _)
  | whole whole =>
    cases stands' with
    | truth truth => exact absurd whole ((truthful truth).1 _)
    | whole whole' =>
      rw [whole_iff] at whole whole'
      rw [Option.some.inj (whole.symm.trans whole')]
    | real noWhole | itself _ noWhole => exact absurd whole (noWhole _)
  | real noWhole real =>
    cases stands' with
    | truth truth => exact absurd real ((truthful truth).2 _)
    | whole whole => exact absurd whole (noWhole _)
    | real _ real' => rw [Option.some.inj (real.symm.trans real')]
    | itself _ _ noReal => exact absurd real (noReal _)
  | itself noTruth noWhole noReal =>
    cases stands' with
    | truth truth => exact absurd truth (noTruth _)
    | whole whole => exact absurd whole (noWhole _)
    | real _ real => exact absurd real (noReal _)
    | itself => rfl

/-- **A setting that wants a text is given what is written.** -/
theorem text?_valueOf : (Layers.valueOf text).text? = some written ↔ Written text written := by
  constructor
  · intro given
    have stands := stands_valueOf text
    generalize Layers.valueOf text = tree at given stands
    cases stands with
    | truth truth =>
      cases given
      exact .truth truth
    | whole whole =>
      cases given
      exact .whole whole
    | real noWhole real =>
      cases given
      exact .real noWhole real
    | itself noTruth noWhole noReal =>
      cases given
      exact .verbatim noTruth noWhole noReal
  · intro given
    cases given with
    | truth truth => rw [(stands_valueOf text).eq (.truth truth), SettingTree.text?]
    | whole whole => rw [(stands_valueOf text).eq (.whole whole), SettingTree.text?]
    | real noWhole real => rw [(stands_valueOf text).eq (.real noWhole real), SettingTree.text?]
    | verbatim noTruth noWhole noReal =>
      rw [(stands_valueOf text).eq (.itself noTruth noWhole noReal), SettingTree.text?]

theorem word?_eq_some {value : Bool} :
    SettingTree.word? text = some value ↔ Affirms text.toList value := by
  unfold SettingTree.word?
  dsimp only
  split
  · next yes =>
    have yes : Affirms text.toList true := yes
    exact ⟨fun same => Option.some.inj same ▸ yes, fun affirms => congrArg some (yes.unique affirms)⟩
  · next noYes =>
    split
    · next no =>
      have no : Affirms text.toList false := no
      exact ⟨fun same => Option.some.inj same ▸ no, fun affirms => congrArg some (no.unique affirms)⟩
    · next noNo =>
      refine ⟨nofun, fun affirms => ?_⟩
      cases value with
      | true => exact absurd affirms noYes
      | false => exact absurd affirms noNo

/-- A word that is no truth value where a text is wanted stands for itself. -/
theorem natural?_of_affirms {value : Bool} (affirms : Affirms text.toList value) :
    (Layers.valueOf text).natural? = some value.toNat := by
  obtain ⟨noWhole, noReal⟩ := affirms.no_number
  have stands := stands_valueOf text
  generalize Layers.valueOf text = tree at stands ⊢
  cases stands with
  | truth truth => rw [SettingTree.natural?, truth.affirms.unique affirms]
  | whole whole =>
    rw [whole_iff, noWhole] at whole
    cases whole
  | real _ real =>
    rw [Real, noReal] at real
    cases real
  | itself => rw [SettingTree.natural?, word?_eq_some.mpr affirms]

/-- **A setting that wants a natural number is given what is counted.** -/
theorem natural?_valueOf : (Layers.valueOf text).natural? = some number ↔ Counted text number := by
  constructor
  · intro given
    have stands := stands_valueOf text
    generalize Layers.valueOf text = tree at given stands
    cases stands with
    | truth truth =>
      cases given
      exact .truth truth.affirms
    | @whole value whole =>
      rw [SettingTree.natural?] at given
      split at given
      · next positive =>
        cases given
        refine .whole ?_
        rwa [Int.toNat_of_nonneg positive]
      · cases given
    | real noWhole real =>
      cases given
      exact .real noWhole real
    | itself noTruth noWhole noReal =>
      rw [SettingTree.natural?] at given
      split at given
      · next word =>
        cases given
        exact .truth (word?_eq_some.mp word)
      · obtain ⟨value, real⟩ := Option.isSome_iff_exists.mp (isSome_parse? given)
        exact absurd real (noReal value)
  · intro counted
    cases counted with
    | truth affirms => exact natural?_of_affirms affirms
    | whole whole =>
      rw [(stands_valueOf text).eq (.whole whole), SettingTree.natural?,
        if_pos (Int.natCast_nonneg number), Int.toNat_natCast]
    | real noWhole real =>
      rw [(stands_valueOf text).eq (.real noWhole real), SettingTree.natural?]

end

end Wayfinder
