/-
**Bundles come back from their records.**

In a record nodes and interfaces are spelled out, and the value of an attribute fills one of three
slots. What is spelled out is read as what it was: the marks between the numerals of a name do not
stand in numerals, a system whose number fits 32 bits is written without colons, and the groups of a
greater one have four digits at most.

* `Node.parse_text`: a node is read from its name;
* `Node.parseTrimmed_text`, `readInterface_text`: so it is from a field, and an interface as well;
* `LinkRecord.read_ofLink`, `ValueSlots.value_ofValue`: links and values;
* `MetadataRecord.read_ofMetadata`: whole bundles, in their order.
-/

import Mathlib.Data.List.TakeDrop
import Wayfinder.Message
import Wayfinder.Proofs.Text.Numerals

namespace Wayfinder

/-! ### Names of nodes -/

namespace Node

/-- What stands before a mark and what follows it. -/
theorem span_of_mark {mark : Char} {before : List Char} (apart : mark ∉ before)
    (after : List Char) :
    (before ++ mark :: after).span (· ≠ mark) = (before, mark :: after) := by
  have whole : ∀ character ∈ before, decide (character ≠ mark) = true := by
    intro character member
    exact decide_eq_true fun same => apart (same ▸ member)
  rw [List.span_eq_takeWhile_dropWhile, List.takeWhile_append_of_pos whole,
    List.dropWhile_append_of_pos whole, List.takeWhile_cons_of_neg (by simp),
    List.dropWhile_cons_of_neg (by simp), List.append_nil]

/-- A number of sixteen bits is read from its group. -/
theorem group?_ofNat {number : Nat} (small : number < UInt16.size) :
    group? (Numeral.ofNat 16 number) = some number := by
  have short : (Numeral.ofNat 16 number).length ≤ 4 :=
    (Nat.length_toDigits_le_iff (by decide) (by decide)).mpr small
  rw [group?, if_neg (by omega), Numeral.value?_ofNat (by decide) (by decide)]

/-- Three groups are read as one number. -/
theorem grouped?_ofNat {high middle low : Nat} (fits : high < UInt16.size)
    (fits' : middle < UInt16.size) (fits'' : low < UInt16.size) :
    grouped? (Numeral.ofNat 16 high ++ ':' :: Numeral.ofNat 16 middle ++
        ':' :: Numeral.ofNat 16 low) =
      some ((high * UInt16.size + middle) * UInt16.size + low) := by
  have apart (number : Nat) : ':' ∉ Numeral.ofNat 16 number :=
    Numeral.not_mem_ofNat (by decide) (by decide) (by decide)
  rw [List.append_assoc, List.cons_append]
  simp only [grouped?, span_of_mark (apart high), span_of_mark (apart middle), group?_ofNat fits,
    group?_ofNat fits', group?_ofNat fits'']
  rfl

/-- **The number of a system is read in the notation in which it is written.** -/
theorem system?_systemText {asn : Nat} (fits : asn < systemCount) :
    system? (systemText asn) = some asn := by
  unfold systemText system?
  by_cases small : asn < UInt32.size
  · have apart : ':' ∉ Numeral.ofNat 10 asn :=
      Numeral.not_mem_ofNat (by decide) (by decide) (by decide)
    have unmarked : (Numeral.ofNat 10 asn).contains ':' = false := by simp [apart]
    rw [if_pos small, unmarked, if_neg Bool.false_ne_true,
      Numeral.value?_ofNat (by decide) (by decide)]
    exact Option.filter_some_pos (decide_eq_true small)
  · have marked : (Numeral.ofNat 16 (asn / UInt32.size) ++
        ':' :: Numeral.ofNat 16 (asn / UInt16.size % UInt16.size) ++
        ':' :: Numeral.ofNat 16 (asn % UInt16.size)).contains ':' = true := by
      simp
    have high : asn / UInt32.size < UInt16.size := by
      rw [Nat.div_lt_iff_lt_mul (by decide)]
      exact fits
    rw [if_neg small, if_pos marked, grouped?_ofNat high (Nat.mod_lt _ (by decide))
      (Nat.mod_lt _ (by decide))]
    congr 1
    have sizes : UInt16.size = 65536 ∧ UInt32.size = 4294967296 := ⟨rfl, rfl⟩
    rw [sizes.1, sizes.2]
    omega

theorem domain?_ofNat {isd : Nat} (fits : isd < UInt16.size) :
    domain? (Numeral.ofNat 10 isd) = some isd := by
  rw [domain?, Numeral.value?_ofNat (by decide) (by decide)]
  exact Option.filter_some_pos (decide_eq_true fits)

/-- **A node is read from its name.** -/
theorem parse_text (node : Node) : parse node.text = .ok node := by
  have apart : '-' ∉ Numeral.ofNat 10 node.isd :=
    Numeral.not_mem_ofNat (by decide) (by decide) (by decide)
  have pair : ofPair? node.isd node.asn = some node := dif_pos ⟨node.isd_lt, node.asn_lt⟩
  simp only [parse, text, String.toList_ofList, characters, span_of_mark apart,
    domain?_ofNat node.isd_lt, system?_systemText node.asn_lt, Option.bind_some, pair]

/-- A name consists of digits and of the two marks. -/
theorem mem_characters {node : Node} {character : Char} (member : character ∈ node.characters) :
    Numeral.isDigitOf 16 character = true ∨ character = '-' ∨ character = ':' := by
  have digit {base number : Nat} (wide : 1 < base) (narrow : base ≤ 16)
      (member : character ∈ Numeral.ofNat base number) :
      Numeral.isDigitOf 16 character = true := by
    obtain ⟨value, small, rfl⟩ := Numeral.digitChar_of_mem wide member
    exact Numeral.isDigitOf_digitChar (Nat.lt_of_lt_of_le small narrow) (Nat.le_refl 16)
  have decimal {number : Nat} (member : character ∈ Numeral.ofNat 10 number) :
      Numeral.isDigitOf 16 character = true := digit (by decide) (by decide) member
  have group {number : Nat} (member : character ∈ Numeral.ofNat 16 number) :
      Numeral.isDigitOf 16 character = true := digit (by decide) (by decide) member
  rcases List.mem_append.mp member with domain | rest
  · exact Or.inl (decimal domain)
  · rcases List.mem_cons.mp rest with rfl | system
    · exact Or.inr (Or.inl rfl)
    · unfold systemText at system
      split at system
      · exact Or.inl (decimal system)
      · simp only [List.mem_append, List.mem_cons] at system
        rcases system with (high | rfl | middle) | rfl | low
        · exact Or.inl (group high)
        · exact Or.inr (Or.inr rfl)
        · exact Or.inl (group middle)
        · exact Or.inr (Or.inr rfl)
        · exact Or.inl (group low)

/-- A name has no blanks. -/
theorem isBlank_of_mem_characters {node : Node} {character : Char}
    (member : character ∈ node.characters) : Text.isBlank character = false := by
  rcases mem_characters member with digit | rfl | rfl
  · exact Text.isBlank_of_isDigitOf digit
  · decide
  · decide

theorem parseTrimmed_text (node : Node) : parseTrimmed node.text = .ok node := by
  have solid : Text.trim node.text.toList = node.text.toList := by
    rw [text, String.toList_ofList]
    exact Text.trim_eq fun _ member => isBlank_of_mem_characters member
  rw [parseTrimmed, solid, String.ofList_toList, parse_text]

end Node

/-! ### Fields -/

theorem readNode_text (field : String) (node : Node) : readNode field node.text = .ok node := by
  rw [readNode, Node.parseTrimmed_text]

theorem readInterface_text (field : String) (interface : InterfaceId) :
    readInterface field (InterfaceId.text interface) = .ok interface := by
  have solid : Text.trim (InterfaceId.text interface).toList =
      Numeral.ofNat 10 interface.toNat := by
    rw [InterfaceId.text, Numeral.decimal, String.toList_ofList]
    exact Text.trim_eq fun _ member =>
      Text.isBlank_of_isDigitOf (Numeral.isDigitOf_of_mem (by decide) (by decide) member)
  have fits : interface.toNat < UInt64.size := interface.toNat_lt_size
  rw [readInterface, solid, Numeral.unsigned?_ofNat fits]
  exact congrArg Except.ok (UInt64.ofNat_toNat)

/-! ### Records -/

/-- **A link is read from its record.** -/
theorem LinkRecord.read_ofLink (link : Link) : (LinkRecord.ofLink link).read = .ok link := by
  simp only [LinkRecord.read, LinkRecord.ofLink, readNode_text, readInterface_text]
  rfl

/-- **A value is read from its slots**, and whatever the attribute is called. -/
theorem ValueSlots.value_ofValue (name : String) (value : AttributeValue) :
    (ValueSlots.ofValue value).value name = .ok value := by
  cases value <;> rfl

theorem NodeAttributeRecord.read_ofAttribute (entry : NodeAttribute) :
    (NodeAttributeRecord.ofAttribute entry).read = .ok entry := by
  simp only [NodeAttributeRecord.read, NodeAttributeRecord.ofAttribute, readNode_text,
    ValueSlots.value_ofValue]
  rfl

theorem LinkAttributeRecord.read_ofAttribute (entry : LinkAttribute) :
    (LinkAttributeRecord.ofAttribute entry).read = .ok entry := by
  simp only [LinkAttributeRecord.read, LinkAttributeRecord.ofAttribute, LinkRecord.read_ofLink,
    ValueSlots.value_ofValue]
  rfl

/-- What is read of each of the records that were written of a list. -/
theorem mapM_map_of_inverse {α β ε : Type} {write : α → β} {read : β → Except ε α}
    (inverse : ∀ entry, read (write entry) = .ok entry) (entries : List α) :
    (entries.map write).mapM read = .ok entries := by
  induction entries with
  | nil => rfl
  | cons entry rest hypothesis =>
    rw [List.map_cons, List.mapM_cons, inverse, hypothesis]
    rfl

/-- **A bundle is read from its record**: every attribute, in its order and as often as it stands in
the bundle. -/
theorem MetadataRecord.read_ofMetadata (bundle : Metadata) :
    (MetadataRecord.ofMetadata bundle).read = .ok bundle := by
  simp only [MetadataRecord.read, MetadataRecord.ofMetadata,
    mapM_map_of_inverse NodeAttributeRecord.read_ofAttribute,
    mapM_map_of_inverse LinkAttributeRecord.read_ofAttribute]
  rfl

end Wayfinder
