/-
**Bundles come back from the bodies of answers.**

The fields of a record have names of their own, so that each is found again in the object that was
written. The slots of an attribute stand among its other fields; those that are empty are left out,
and what is filled is plain and not nested, so that nothing keeps the reader from passing over it.

* `LinkRecord.ofJson?_toJson`: links;
* `slotted?_slots`: records with slots;
* `MetadataRecord.ofJson?_toJson`, `MetadataRecord.sound_toJson`: bundles, and their documents;
* `MetadataRecord.read?_write`: a bundle is read from the text of its document.
-/

import Wayfinder.Message.Forms
import Wayfinder.Proofs.Json.Documents
import Wayfinder.Proofs.Message.Records

namespace Wayfinder

open Json

/-! ### Links -/

/-- A link is read from its document. -/
theorem LinkRecord.ofJson?_toJson (record : LinkRecord) :
    LinkRecord.ofJson? record.toJson = some record := by
  simp [LinkRecord.ofJson?, LinkRecord.toJson, Json.ofFields, record?, named?, Field.select?,
    required, present?, text?, Json.ofString]

theorem LinkRecord.sound_toJson (record : LinkRecord) : record.toJson.Sound := by
  refine .ofFields fun field member => ?_
  simp only [List.mem_cons, List.not_mem_nil, or_false] at member
  rcases member with rfl | rfl | rfl | rfl <;> exact .string _

/-! ### Attributes -/

/-- An integer of 64 bits is read from its document. -/
theorem integer?_ofInt {value : Int} (above : -0x8000000000000000 ≤ value)
    (below : value < UInt64.size) : (Json.ofInt value).integer? = some value := by
  have size : UInt64.size = 0x10000000000000000 := rfl
  simp only [Json.ofInt, Json.integer?, Number.integer?, Option.isSome_none, Bool.or_false,
    Bool.false_eq_true, if_false]
  rw [Numeral.value?_ofNat (by decide) (by decide)]
  dsimp only
  by_cases negative : value < 0
  · rw [decide_eq_true negative, if_pos rfl, if_pos (by omega)]
    congr 1
    omega
  · rw [decide_eq_false negative, if_neg Bool.false_ne_true, if_pos (by omega)]
    congr 1
    omega

theorem integer?_ofInt32 (value : Int32) :
    (Json.ofInt value.toInt).integer? = some value.toInt := by
  have above := value.le_toInt
  have below := value.toInt_lt
  have size : UInt64.size = 0x10000000000000000 := rfl
  exact integer?_ofInt (by omega) (by omega)

/-- A number of 32 bits is read from its document. -/
theorem int32?_ofInt (value : Int32) : int32? (Json.ofInt value.toInt) = some value := by
  have above : -0x80000000 ≤ value.toInt := value.le_toInt
  have below : value.toInt < 0x80000000 := value.toInt_lt
  rw [int32?, integer?_ofInt32]
  simp [above, below]

theorem isPlain_ofInt (value : Int32) : (Json.ofInt value.toInt).isPlain = true := by
  have integer := integer?_ofInt32 value
  simp only [Json.ofInt, Json.integer?] at integer
  simp [Json.ofInt, isPlain, integer]

/-- What is filled is plain and not nested. -/
theorem ValueSlots.plain_fields {slots : ValueSlots} {field : String × Json}
    (member : field ∈ slots.fields) : field.2.isPlain = true ∧ field.2.depth = 0 := by
  simp only [ValueSlots.fields, List.mem_append, List.mem_map] at member
  obtain (⟨value, _, rfl⟩ | ⟨value, _, rfl⟩) | ⟨value, _, rfl⟩ := member
  · exact ⟨rfl, rfl⟩
  · exact ⟨isPlain_ofInt value, rfl⟩
  · exact ⟨rfl, rfl⟩

/-- The documents of the slots, those of empty ones left out. -/
def ValueSlots.documents (slots : ValueSlots) : List (Option Json) :=
  [slots.bool.map Json.bool, slots.int32.map fun value => Json.ofInt value.toInt,
    slots.string.map Json.ofString]

/-- The slots are read from their documents. -/
theorem ValueSlots.ofDocuments?_documents (slots : ValueSlots) :
    ofDocuments? slots.documents = some slots := by
  have number (value : Int32) :
      maybe? int32? (some (Json.ofInt value.toInt)) = some (some value) := by
    show (int32? (Json.ofInt value.toInt)).map some = some (some value)
    rw [int32?_ofInt, Option.map_some]
  obtain ⟨bool, int32, string⟩ := slots
  have filled : maybe? int32? (int32.map fun value => Json.ofInt value.toInt) = some int32 := by
    cases int32 with
    | none => rfl
    | some value => exact number value
  simp only [documents, ofDocuments?, filled]
  cases bool <;> cases string <;> rfl

section Slotted

variable {other : String} {name document : Json} {slots : ValueSlots}

/-- The fields of a record that has slots beside its name and another field. -/
def slottedFields (other : String) (name document : Json) (slots : ValueSlots) :
    List (String × Json) :=
  [("name", name), (other, document)] ++ slots.fields

/-- A name that neither the name of an attribute nor a slot has. -/
def Apart (other : String) : Prop := other ∉ "name" :: ValueSlots.declared.map (·.name)

/-- The fields that are no slots are found. -/
theorem named?_own (apart : Apart other) :
    named? [required "name", required other]
        ((slottedFields other name document slots).map fun field => (some field.1, field.2)) =
      some [some name, some document] := by
  simp only [Apart, ValueSlots.declared, List.map_cons, List.map_nil, List.mem_cons,
    List.not_mem_nil, or_false, not_or, Json.optional] at apart
  obtain ⟨named, bool, int32, string⟩ := apart
  obtain ⟨_ | _, _ | _, _ | _⟩ := slots <;>
    simp [slottedFields, ValueSlots.fields, named?, Field.select?, required, named, Ne.symm named,
      Ne.symm bool, Ne.symm int32, Ne.symm string]

/-- The slots are found, and none of those that are left out. -/
theorem named?_slots (apart : Apart other) :
    named? ValueSlots.declared
        ((slottedFields other name document slots).map fun field => (some field.1, field.2)) =
      some slots.documents := by
  simp only [Apart, ValueSlots.declared, List.map_cons, List.map_nil, List.mem_cons,
    List.not_mem_nil, or_false, not_or, Json.optional] at apart
  obtain ⟨named, bool, int32, string⟩ := apart
  obtain ⟨_ | _, _ | _, _ | _⟩ := slots <;>
    simp [slottedFields, ValueSlots.fields, ValueSlots.documents, named?, Field.select?,
      ValueSlots.declared, Json.optional, bool, int32, string]

/-- **The slots of a record are read beside its own fields.** What stands beside those are the slots
alone, which are plain. -/
theorem slotted?_fields (apart : Apart other) :
    slotted? 3 [required "name", required other]
        (Json.ofFields (slottedFields other name document slots)) =
      some ([some name, some document], slots) := by
  have plain : ∀ field ∈ (slottedFields other name document slots).map fun field =>
        (some field.1, field.2),
      (!([required "name", required other].any fun known => field.1 == some known.name)) = true →
        (field.2.isPlain && decide (3 + field.2.depth ≤ nestingLimit)) = true := by
    intro field member foreign
    obtain ⟨entry, there, rfl⟩ := List.mem_map.mp member
    rcases List.mem_append.mp there with own | slot
    · simp only [List.mem_cons, List.not_mem_nil, or_false] at own
      rcases own with rfl | rfl <;> simp [required] at foreign
    · obtain ⟨plain, flat⟩ := ValueSlots.plain_fields slot
      simp [plain, flat, nestingLimit]
  rw [Json.ofFields, slotted?]
  rw [if_pos (List.all_eq_true.mpr fun field member =>
    plain field (List.mem_filter.mp member).1 (List.mem_filter.mp member).2)]
  simp only [named?_own apart, named?_slots apart, Option.bind_eq_bind, Option.bind_some,
    ValueSlots.ofDocuments?_documents]
  rfl

end Slotted

/-- An attribute of a node is read from its document. -/
theorem NodeAttributeRecord.ofJson?_toJson (record : NodeAttributeRecord) :
    NodeAttributeRecord.ofJson? 3 record.toJson = some record := by
  have read : slotted? 3 [required "name", required "as"] record.toJson =
      some ([some (Json.ofString record.name), some (Json.ofString record.node)], record.value) :=
    slotted?_fields (by simp [Apart, ValueSlots.declared, Json.optional])
  rw [NodeAttributeRecord.ofJson?, read]
  rfl

/-- An attribute of a link is read from its document. -/
theorem LinkAttributeRecord.ofJson?_toJson (record : LinkAttributeRecord) :
    LinkAttributeRecord.ofJson? 3 record.toJson = some record := by
  have read : slotted? 3 [required "name", required "link"] record.toJson =
      some ([some (Json.ofString record.name), some record.link.toJson], record.value) :=
    slotted?_fields (by simp [Apart, ValueSlots.declared, Json.optional])
  have link : present? LinkRecord.ofJson? (some record.link.toJson) = some record.link :=
    LinkRecord.ofJson?_toJson record.link
  rw [LinkAttributeRecord.ofJson?, read]
  simp only [Option.bind_eq_bind, Option.bind_some, link]
  rfl

/-- The document of a record with slots can be written. -/
theorem sound_slottedFields {other : String} {name document : Json} (sound : name.Sound)
    (sound' : document.Sound) (slots : ValueSlots) :
    (Json.ofFields (slottedFields other name document slots)).Sound := by
  refine .ofFields fun field member => ?_
  rcases List.mem_append.mp member with own | slot
  · simp only [List.mem_cons, List.not_mem_nil, or_false] at own
    rcases own with rfl | rfl
    · exact sound
    · exact sound'
  · simp only [ValueSlots.fields, List.mem_append, List.mem_map] at slot
    obtain (⟨value, _, rfl⟩ | ⟨value, _, rfl⟩) | ⟨value, _, rfl⟩ := slot
    · exact .bool value
    · exact .ofInt value.toInt
    · exact .string value

/-! ### Bundles -/

/-- What is read of each of the documents that were written of a list. -/
theorem list?_ofList {α : Type} {write : α → Json} {read : Json → Option α}
    (inverse : ∀ item, read (write item) = some item) (items : List α) :
    list? read (Json.ofList write items) = some items := by
  rw [Json.ofList, list?]
  induction items with
  | nil => rfl
  | cons item rest hypothesis =>
    rw [List.map_cons, List.mapM_cons, inverse, hypothesis]
    rfl

/-- **A bundle is read from its document.** -/
theorem MetadataRecord.ofJson?_toJson (record : MetadataRecord) :
    MetadataRecord.ofJson? record.toJson = some record := by
  have fields : record.toJson.record? [Json.optional "node_info", Json.optional "link_info"] =
      some [some (Json.ofList NodeAttributeRecord.toJson record.nodes),
        some (Json.ofList LinkAttributeRecord.toJson record.links)] := by
    simp [toJson, Json.ofFields, record?, named?, Field.select?, Json.optional]
  rw [MetadataRecord.ofJson?, fields]
  simp only [Option.bind_eq_bind, Option.bind_some, orElse?,
    list?_ofList NodeAttributeRecord.ofJson?_toJson, list?_ofList LinkAttributeRecord.ofJson?_toJson]
  rfl

theorem MetadataRecord.sound_toJson (record : MetadataRecord) : record.toJson.Sound := by
  refine .ofFields fun field member => ?_
  simp only [List.mem_cons, List.not_mem_nil, or_false] at member
  rcases member with rfl | rfl
  · exact .ofList fun entry _ =>
      sound_slottedFields (.string entry.name) (.string entry.node) entry.value
  · exact .ofList fun entry _ =>
      sound_slottedFields (.string entry.name) entry.link.sound_toJson entry.value

/-- **A bundle is read from the text of its document.** -/
theorem MetadataRecord.read?_write (record : MetadataRecord) :
    Json.read? MetadataRecord.ofJson? record.toJson.write = some record := by
  rw [Json.read?, parse?_write record.sound_toJson, Option.bind_some, ofJson?_toJson]

end Wayfinder
