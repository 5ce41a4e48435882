/-
**Names of nodes.**

A name has a domain and a system, with a hyphen between them. The domain is a decimal numeral, the
system a decimal numeral or three groups of hexadecimal digits between colons. Leading zeros and
capital letters make no difference to what is named; only systems whose numbers fit 32 bits have
both kinds of names.

A text is a name of one node, or there is one reason why it is none: the texts that are names and
the three kinds that are not leave nothing out. So it is enough that each of them is read as it
should be. No digit is a hyphen or a colon, and therefore the marks are found where they are.

* `Names`, `Misnamed`: the names of a node, and why a text is none;
* `Names.parse`, `Misnamed.parse`, `names_or_misnamed`: what is read of a text;
* `canonical_iff`: of the names of a node one is canonical, the one that is written;
* `parse_exact`: all of it together.
-/

import Wayfinder.Proofs.Message.Records
import Wayfinder.Proofs.Text.Denotation

namespace Wayfinder.Node

open Numeral

variable {text : String} {node : Node} {characters : List Char} {number : Nat}

/-! ### What is a name -/

/-- A name of a domain: a decimal numeral of sixteen bits. -/
def NamesDomain (characters : List Char) (isd : Nat) : Prop :=
  Denotes 10 characters isd ∧ isd < 2 ^ 16

/-- A group of one to four hexadecimal digits. -/
def NamesGroup (characters : List Char) (number : Nat) : Prop :=
  Denotes 16 characters number ∧ characters.length ≤ 4

/-- A name of a system: a decimal numeral of 32 bits, or three groups of sixteen bits each. -/
inductive NamesSystem : List Char → Nat → Prop
  | decimal {characters : List Char} {number : Nat} (denotes : Denotes 10 characters number)
      (fits : number < 2 ^ 32) : NamesSystem characters number
  | grouped {high middle low : List Char} {first second third : Nat}
      (one : NamesGroup high first) (two : NamesGroup middle second)
      (three : NamesGroup low third) :
      NamesSystem (high ++ ':' :: middle ++ ':' :: low)
        (first * 2 ^ 32 + second * 2 ^ 16 + third)

/-- **A name of a node.** -/
inductive Names (text : String) (node : Node) : Prop
  | intro {domain system : List Char} (whole : text.toList = domain ++ '-' :: system)
      (names : NamesDomain domain node.isd) (names' : NamesSystem system node.asn)

/-- **Why a text is no name**: it has no hyphen, or what stands before the first one names no
domain, or else what stands behind it names no system. -/
inductive Misnamed (text : String) : NodeFault → Prop
  | missingSeparator (missing : '-' ∉ text.toList) : Misnamed text (.missingSeparator text)
  | malformedDomain {before after : List Char} (whole : text.toList = before ++ '-' :: after)
      (first : '-' ∉ before) (malformed : ∀ isd, ¬ NamesDomain before isd) :
      Misnamed text (.malformedDomain text)
  | malformedSystem {before after : List Char} {isd : Nat}
      (whole : text.toList = before ++ '-' :: after) (first : '-' ∉ before)
      (names : NamesDomain before isd) (malformed : ∀ asn, ¬ NamesSystem after asn) :
      Misnamed text (.malformedSystem text)

theorem NamesGroup.lt (group : NamesGroup characters number) : number < 2 ^ 16 :=
  calc number < 16 ^ characters.length := group.1.lt_pow
    _ ≤ 16 ^ 4 := Nat.pow_le_pow_right (by decide) group.2

/-- The number of a system has 48 bits. -/
theorem NamesSystem.lt (system : NamesSystem characters number) : number < 2 ^ 48 := by
  cases system with
  | decimal _ fits => omega
  | grouped one two three =>
    have high := one.lt
    have middle := two.lt
    have low := three.lt
    omega

theorem NamesSystem.solid (system : NamesSystem characters number) :
    ∀ character ∈ characters, Text.isBlank character = false := by
  intro character member
  cases system with
  | decimal denotes => exact denotes.solid character member
  | grouped one two three =>
    simp only [List.mem_append, List.mem_cons] at member
    rcases member with (high | rfl | middle) | rfl | low
    · exact one.1.solid character high
    · decide
    · exact two.1.solid character middle
    · decide
    · exact three.1.solid character low

/-- A name has no blanks. -/
theorem Names.solid (names : Names text node) :
    ∀ character ∈ text.toList, Text.isBlank character = false := by
  obtain ⟨whole, domain, system⟩ := names
  rw [whole]
  intro character member
  rcases List.mem_append.mp member with front | rest
  · exact domain.1.solid character front
  · rcases List.mem_cons.mp rest with rfl | back
    · decide
    · exact system.solid character back

/-! ### What is read -/

/-- A text has no mark, or a first one. -/
theorem span_cases (mark : Char) (characters : List Char) :
    (mark ∉ characters ∧ characters.span (· ≠ mark) = (characters, [])) ∨
      ∃ before after, mark ∉ before ∧ characters = before ++ mark :: after := by
  by_cases marked : mark ∈ characters
  · obtain ⟨before, after, whole, first⟩ := List.eq_append_cons_of_mem marked
    exact Or.inr ⟨before, after, first, whole⟩
  · refine Or.inl ⟨marked, ?_⟩
    have others : ∀ character ∈ characters, decide (character ≠ mark) = true :=
      fun character member => decide_eq_true fun same => marked (same ▸ member)
    rw [List.span_eq_takeWhile_dropWhile, List.takeWhile_eq_self_iff.mpr others,
      List.dropWhile_eq_nil_iff.mpr others]

theorem domain?_eq_some : domain? characters = some number ↔ NamesDomain characters number :=
  filter_value?_eq_some

theorem group?_eq_some : group? characters = some number ↔ NamesGroup characters number := by
  unfold group? NamesGroup
  split
  · next long => exact iff_of_false (Option.some_ne_none _).symm fun group => by omega
  · next short => rw [value?_eq_some, and_iff_left (by omega)]

/-- Three groups are read as one number. -/
theorem grouped?_of_groups {high middle low : List Char} {first second third : Nat}
    (one : NamesGroup high first) (two : NamesGroup middle second) (three : NamesGroup low third) :
    grouped? (high ++ ':' :: middle ++ ':' :: low) =
      some (first * 2 ^ 32 + second * 2 ^ 16 + third) := by
  have apart : ':' ∉ high := one.1.not_mem (by decide)
  have apart' : ':' ∉ middle := two.1.not_mem (by decide)
  have number : (first * UInt16.size + second) * UInt16.size + third =
      first * 2 ^ 32 + second * 2 ^ 16 + third := by
    show (first * 65536 + second) * 65536 + third = _
    omega
  rw [List.append_assoc, List.cons_append]
  simp only [grouped?, span_of_mark apart, span_of_mark apart', group?_eq_some.mpr one,
    group?_eq_some.mpr two, group?_eq_some.mpr three, ← number]
  rfl

theorem groups_of_grouped? (found : grouped? characters = some number) :
    NamesSystem characters number := by
  unfold grouped? at found
  rcases span_cases ':' characters with ⟨_, bare⟩ | ⟨high, rest, apart, rfl⟩
  · rw [bare] at found
    cases found
  · rcases span_cases ':' rest with ⟨_, bare⟩ | ⟨middle, low, apart', rfl⟩
    · simp only [span_of_mark apart, bare] at found
      cases found
    · simp only [span_of_mark apart, span_of_mark apart', Option.bind_eq_bind,
        Option.bind_eq_some_iff, group?_eq_some] at found
      obtain ⟨first, one, second, two, third, three, same⟩ := found
      have number : number = first * 2 ^ 32 + second * 2 ^ 16 + third := by
        rw [← Option.some.inj same]
        show (first * 65536 + second) * 65536 + third = _
        omega
      have groups := NamesSystem.grouped one two three
      rwa [List.append_assoc, List.cons_append, ← number] at groups

/-- **What is read as a system is what is named.** -/
theorem system?_eq_some : system? characters = some number ↔ NamesSystem characters number := by
  unfold system?
  constructor
  · intro found
    split at found
    · exact groups_of_grouped? found
    · obtain ⟨denotes, fits⟩ := filter_value?_eq_some.mp found
      exact .decimal denotes fits
  · intro system
    cases system with
    | decimal denotes fits =>
      have apart : ':' ∉ characters := denotes.not_mem (by decide)
      rw [if_neg (by simp [apart])]
      exact filter_value?_eq_some.mpr ⟨denotes, fits⟩
    | grouped one two three => rw [if_pos (by simp), grouped?_of_groups one two three]

/-- What stands before the first hyphen is read as a domain, what stands behind it as a system. -/
theorem parse_of_split {before after : List Char} (whole : text.toList = before ++ '-' :: after)
    (first : '-' ∉ before) :
    parse text = (domain? before).elim (.error (.malformedDomain text)) fun isd =>
      ((system? after).bind (ofPair? isd)).elim (.error (.malformedSystem text)) .ok := by
  unfold parse
  rw [whole, span_of_mark first]
  cases known : domain? before with
  | none => simp only [known, Option.elim_none]
  | some isd =>
    cases found : (system? after).bind (ofPair? isd) with
    | none => simp only [known, found, Option.elim_some, Option.elim_none]
    | some node => simp only [known, found, Option.elim_some]

/-- **A name is read as its node.** -/
theorem Names.parse (names : Names text node) : parse text = .ok node := by
  obtain ⟨whole, domain, system⟩ := names
  have pair : ofPair? node.isd node.asn = some node := dif_pos ⟨node.isd_lt, node.asn_lt⟩
  simp only [parse_of_split whole (domain.1.not_mem (by decide)), domain?_eq_some.mpr domain,
    system?_eq_some.mpr system, Option.elim_some, Option.bind_some, pair]

/-- **A text that is no name is refused for its reason.** -/
theorem Misnamed.parse {fault : NodeFault} (misnamed : Misnamed text fault) :
    parse text = .error fault := by
  cases misnamed with
  | missingSeparator missing =>
    rcases span_cases '-' text.toList with ⟨_, bare⟩ | ⟨before, after, _, whole⟩
    · simp only [Node.parse, bare]
    · exact absurd (whole ▸ List.mem_append_right _ List.mem_cons_self) missing
  | malformedDomain whole first malformed =>
    have unread := Option.eq_none_iff_forall_ne_some.mpr fun isd found =>
      malformed isd (domain?_eq_some.mp found)
    simp only [parse_of_split whole first, unread, Option.elim_none]
  | malformedSystem whole first names malformed =>
    have unread := Option.eq_none_iff_forall_ne_some.mpr fun asn found =>
      malformed asn (system?_eq_some.mp found)
    simp only [parse_of_split whole first, domain?_eq_some.mpr names, unread, Option.elim_some,
      Option.bind_none, Option.elim_none]

/-- **Every text is a name, or there is a reason why it is none.** -/
theorem names_or_misnamed (text : String) :
    (∃ node, Names text node) ∨ ∃ fault, Misnamed text fault := by
  rcases span_cases '-' text.toList with ⟨missing, _⟩ | ⟨before, after, first, whole⟩
  · exact Or.inr ⟨_, .missingSeparator missing⟩
  · by_cases domain : ∃ isd, NamesDomain before isd
    · obtain ⟨isd, domain⟩ := domain
      by_cases system : ∃ asn, NamesSystem after asn
      · obtain ⟨asn, system⟩ := system
        exact Or.inl ⟨⟨isd, asn, domain.2, system.lt⟩, .intro whole domain system⟩
      · exact Or.inr ⟨_, .malformedSystem whole first domain (not_exists.mp system)⟩
    · exact Or.inr ⟨_, .malformedDomain whole first (not_exists.mp domain)⟩

theorem parse_eq_ok : parse text = .ok node ↔ Names text node := by
  refine ⟨fun reads => ?_, Names.parse⟩
  rcases names_or_misnamed text with ⟨other, names⟩ | ⟨fault, misnamed⟩
  · rw [names.parse] at reads
    cases reads
    exact names
  · rw [misnamed.parse] at reads
    cases reads

theorem parse_eq_error {fault : NodeFault} : parse text = .error fault ↔ Misnamed text fault := by
  refine ⟨fun reads => ?_, Misnamed.parse⟩
  rcases names_or_misnamed text with ⟨other, names⟩ | ⟨fault, misnamed⟩
  · rw [names.parse] at reads
    cases reads
  · rw [misnamed.parse] at reads
    cases reads
    exact misnamed

/-! ### The canonical name -/

/-- The canonical name of a system: a plain numeral if the number fits 32 bits, and plain groups
otherwise. -/
inductive CanonicalSystem : List Char → Nat → Prop
  | decimal {characters : List Char} {number : Nat} (denotes : Denotes 10 characters number)
      (plain : Plain characters) (fits : number < 2 ^ 32) : CanonicalSystem characters number
  | grouped {high middle low : List Char} {first second third : Nat}
      (one : NamesGroup high first) (two : NamesGroup middle second)
      (three : NamesGroup low third) (plain : Plain high) (plain' : Plain middle)
      (plain'' : Plain low) (large : 2 ^ 32 ≤ first * 2 ^ 32 + second * 2 ^ 16 + third) :
      CanonicalSystem (high ++ ':' :: middle ++ ':' :: low)
        (first * 2 ^ 32 + second * 2 ^ 16 + third)

/-- **The canonical name of a node.** -/
inductive Canonical (text : String) (node : Node) : Prop
  | intro {domain system : List Char} (whole : text.toList = domain ++ '-' :: system)
      (names : NamesDomain domain node.isd) (plain : Plain domain)
      (names' : CanonicalSystem system node.asn)

theorem CanonicalSystem.names (system : CanonicalSystem characters number) :
    NamesSystem characters number := by
  cases system with
  | decimal denotes _ fits => exact .decimal denotes fits
  | grouped one two three => exact .grouped one two three

/-- A canonical name is a name. -/
theorem Canonical.names (canonical : Canonical text node) : Names text node := by
  obtain ⟨whole, domain, _, system⟩ := canonical
  exact .intro whole domain system.names

theorem namesGroup_ofNat (small : number < 2 ^ 16) : NamesGroup (ofNat 16 number) number :=
  ⟨denotes_ofNat (by decide) (by decide) number,
    (Nat.length_toDigits_le_iff (by decide) (by decide)).mpr small⟩

/-- **The canonical name of a system is the one that is written.** -/
theorem canonicalSystem_iff (fits : number < 2 ^ 48) :
    CanonicalSystem characters number ↔ characters = systemText number := by
  have decimal {characters : List Char} {number : Nat} :
      Denotes 10 characters number ∧ Plain characters ↔ characters = ofNat 10 number :=
    plain_iff (by decide) (by decide)
  have sizes : UInt16.size = 2 ^ 16 ∧ UInt32.size = 2 ^ 32 := ⟨rfl, rfl⟩
  unfold systemText
  rw [sizes.1, sizes.2]
  constructor
  · intro system
    cases system with
    | decimal denotes plain small => rw [if_pos small, ← decimal.mp ⟨denotes, plain⟩]
    | @grouped high middle low first second third one two three plain plain' plain'' large =>
      have high := one.lt
      have middle := two.lt
      have low := three.lt
      have upper : (first * 2 ^ 32 + second * 2 ^ 16 + third) / 2 ^ 32 = first := by omega
      have central : (first * 2 ^ 32 + second * 2 ^ 16 + third) / 2 ^ 16 % 2 ^ 16 = second := by
        omega
      have lower : (first * 2 ^ 32 + second * 2 ^ 16 + third) % 2 ^ 16 = third := by omega
      rw [if_neg (by omega), upper, central, lower, ← one.1.eq_ofNat (by decide) (by decide) plain,
        ← two.1.eq_ofNat (by decide) (by decide) plain',
        ← three.1.eq_ofNat (by decide) (by decide) plain'']
  · rintro rfl
    have plain (number : Nat) : Plain (ofNat 16 number) :=
      plain_ofNat (by decide) (by decide) number
    split
    · next small =>
      obtain ⟨denotes, plain⟩ := decimal.mpr rfl
      exact .decimal denotes plain small
    · next large =>
      have parts : number / 2 ^ 32 * 2 ^ 32 + number / 2 ^ 16 % 2 ^ 16 * 2 ^ 16 +
          number % 2 ^ 16 = number := by omega
      have high : number / 2 ^ 32 < 2 ^ 16 := by omega
      have system := CanonicalSystem.grouped (namesGroup_ofNat high)
        (namesGroup_ofNat (Nat.mod_lt (number / 2 ^ 16) (by decide)))
        (namesGroup_ofNat (Nat.mod_lt number (by decide))) (plain _) (plain _) (plain _) (by omega)
      rwa [parts] at system

/-- **Of the names of a node one is canonical**, the one that is written. -/
theorem canonical_iff : Canonical text node ↔ text = node.text := by
  have domain {characters : List Char} :
      Denotes 10 characters node.isd ∧ Plain characters ↔ characters = ofNat 10 node.isd :=
    plain_iff (by decide) (by decide)
  constructor
  · rintro ⟨whole, names, plain, system⟩
    rw [← String.ofList_toList (s := text), whole, domain.mp ⟨names.1, plain⟩,
      (canonicalSystem_iff node.asn_lt).mp system]
    rfl
  · rintro rfl
    obtain ⟨denotes, plain⟩ := domain.mpr rfl
    exact .intro String.toList_ofList ⟨denotes, node.isd_lt⟩ plain
      ((canonicalSystem_iff node.asn_lt).mpr rfl)

/-! ### All of it together -/

theorem ofNumbers_eq_ok {isd asn : Nat} {small : isd < UInt16.size} :
    ofNumbers isd asn small = .ok node ↔ node.isd = isd ∧ node.asn = asn := by
  obtain ⟨isd', asn', small', fits⟩ := node
  unfold ofNumbers
  split
  · simp [eq_comm]
  · next large => exact iff_of_false (by simp) fun ⟨_, same⟩ => large (same ▸ fits)

/-- **A text is read if and only if it is a name, as what it names, and is refused otherwise for the
first reason that there is.** The nodes are those that can be made of a domain and a system, and each
is read from what is written of it, its only canonical name. -/
theorem parse_exact :
    (∀ text node, parse text = .ok node ↔ Names text node) ∧
    (∀ text fault, parse text = .error fault ↔ Misnamed text fault) ∧
    (∀ isd asn small node,
      ofNumbers isd asn small = .ok node ↔ node.isd = isd ∧ node.asn = asn) ∧
    ∀ node, parse node.text = .ok node ∧ ∀ text, Canonical text node ↔ text = node.text :=
  ⟨fun _ _ => parse_eq_ok, fun _ _ => parse_eq_error, fun _ _ _ _ => ofNumbers_eq_ok,
    fun node => ⟨parse_text node, fun _ => canonical_iff⟩⟩

end Wayfinder.Node
