/-
**Records are validated exactly.**

A record of a bundle is checked text by text: the node of an attribute, or the two ends of a link,
and then that one slot is filled; the attributes of nodes come before those of links. Reading carries
these checks out in this order and stops at the first one that fails. So it succeeds if and only if
every check passes, and the fault it gives is that of the first check that fails. This is shown for
single checks, for what is read one after another and for lists.

* `SaysNode`, `SaysInterface`, `ValueSlots.values`: what a text and the slots of a record say;
* `Check`, `MetadataRecord.checks`: the checks of a record, in their order;
* `FirstFault`: the fault of the first check that fails;
* `Judged`, `Judged.bind`, `Judged.mapM`: a result that is in keeping with the checks;
* `MetadataRecord.read_eq_ok`: what is read is what the record says;
* `MetadataRecord.read_exact`: all of it together.
-/

import Mathlib.Data.List.Forall2
import Wayfinder.Proofs.Message.Forms
import Wayfinder.Proofs.Node.Names

namespace Wayfinder

/-! ### What texts and slots say -/

/-- A text says which node is meant: it is a name of the node between blanks. -/
def SaysNode (text : String) (node : Node) : Prop :=
  ∃ name, Text.Padded text.toList name ∧ Node.Names (String.ofList name) node

/-- A text says which interface is meant: it is a numeral of its number between blanks. -/
def SaysInterface (text : String) (interface : InterfaceId) : Prop :=
  ∃ numeral, Text.Padded text.toList numeral ∧ Numeral.DenotesUnsigned numeral interface.toNat

/-- The values in the slots that are filled. -/
def ValueSlots.values (slots : ValueSlots) : List AttributeValue :=
  slots.bool.toList.map .bool ++ slots.int32.toList.map .int32 ++ slots.string.toList.map .string

/-- What a record of a link says. -/
def LinkRecord.Says (record : LinkRecord) (link : Link) : Prop :=
  SaysNode record.nodeA link.origin.node ∧ SaysInterface record.interfaceA link.origin.interface ∧
    SaysNode record.nodeB link.target.node ∧ SaysInterface record.interfaceB link.target.interface

/-- What a record of an attribute of a node says. -/
def NodeAttributeRecord.Says (record : NodeAttributeRecord) (entry : NodeAttribute) : Prop :=
  entry.name = record.name ∧ SaysNode record.node entry.node ∧ record.value.values = [entry.value]

/-- What a record of an attribute of a link says. -/
def LinkAttributeRecord.Says (record : LinkAttributeRecord) (entry : LinkAttribute) : Prop :=
  entry.name = record.name ∧ record.link.Says entry.link ∧ record.value.values = [entry.value]

/-- **What a record of a bundle says**: one attribute for each record, in the same order. -/
def MetadataRecord.Says (record : MetadataRecord) (bundle : Metadata) : Prop :=
  List.Forall₂ NodeAttributeRecord.Says record.nodes bundle.nodes ∧
    List.Forall₂ LinkAttributeRecord.Says record.links bundle.links

/-! ### Checks -/

/-- What is checked of a record. -/
inductive Check where
  /-- The text of a field names a node. -/
  | node (field text : String)
  /-- The text of a field is the number of an interface. -/
  | interface (field text : String)
  /-- One slot of the attribute with a name is filled. -/
  | value (name : String) (slots : ValueSlots)

/-- A check passes. -/
def Check.Passes : Check → Prop
  | .node _ text => ∃ node, SaysNode text node
  | .interface _ text => ∃ interface, SaysInterface text interface
  | .value _ slots => slots.values.length = 1

/-- The fault of a check that fails: it has the text as it stands in the record, or the number of
slots that are filled. -/
def Check.fault : Check → PayloadFault
  | .node field text => .invalidNode field text
  | .interface field text => .invalidInterface field text
  | .value name slots => .ambiguousValue name slots.values.length

/-- The checks of a link. -/
def LinkRecord.checks (record : LinkRecord) : List Check :=
  [.node "as_a" record.nodeA, .interface "if_a" record.interfaceA,
    .node "as_b" record.nodeB, .interface "if_b" record.interfaceB]

/-- The checks of an attribute of a node. -/
def NodeAttributeRecord.checks (record : NodeAttributeRecord) : List Check :=
  [.node "as" record.node, .value record.name record.value]

/-- The checks of an attribute of a link. -/
def LinkAttributeRecord.checks (record : LinkAttributeRecord) : List Check :=
  record.link.checks ++ [.value record.name record.value]

/-- **The checks of a bundle**: all those of nodes, then all those of links. -/
def MetadataRecord.checks (record : MetadataRecord) : List Check :=
  record.nodes.flatMap NodeAttributeRecord.checks ++
    record.links.flatMap LinkAttributeRecord.checks

/-- **The fault of the first check that fails.** -/
inductive FirstFault : List Check → PayloadFault → Prop
  | here {check : Check} {rest : List Check} (fails : ¬ check.Passes) :
      FirstFault (check :: rest) check.fault
  | later {check : Check} {rest : List Check} {fault : PayloadFault} (passes : check.Passes)
      (first : FirstFault rest fault) : FirstFault (check :: rest) fault

section

variable {checks later : List Check} {fault other : PayloadFault}

theorem FirstFault.append (first : FirstFault checks fault) :
    FirstFault (checks ++ later) fault := by
  induction first with
  | here fails => exact .here fails
  | later passes _ hypothesis => exact .later passes hypothesis

theorem FirstFault.behind (pass : ∀ check ∈ checks, check.Passes) (first : FirstFault later fault) :
    FirstFault (checks ++ later) fault := by
  induction checks with
  | nil => exact first
  | cons check rest hypothesis =>
    exact .later (pass check List.mem_cons_self)
      (hypothesis fun other member => pass other (List.mem_cons_of_mem _ member))

/-- If a check fails first, not all pass. -/
theorem FirstFault.fails (first : FirstFault checks fault) : ¬ ∀ check ∈ checks, check.Passes := by
  induction first with
  | here fails => exact fun pass => fails (pass _ List.mem_cons_self)
  | later _ _ hypothesis =>
    exact fun pass => hypothesis fun check member => pass check (List.mem_cons_of_mem _ member)

/-- There is one first fault. -/
theorem FirstFault.unique (first : FirstFault checks fault) (first' : FirstFault checks other) :
    fault = other := by
  induction first with
  | here fails =>
    cases first' with
    | here => rfl
    | later passes => exact absurd passes fails
  | later passes _ hypothesis =>
    cases first' with
    | here fails => exact absurd passes fails
    | later _ rest => exact hypothesis rest

end

/-! ### Results in keeping with checks -/

/-- **A result is in keeping with checks**: it is there if all pass, and otherwise there is the fault
of the first one that fails. -/
inductive Judged {α : Type} (checks : List Check) : Except PayloadFault α → Prop
  | ok {value : α} (pass : ∀ check ∈ checks, check.Passes) : Judged checks (.ok value)
  | error {fault : PayloadFault} (first : FirstFault checks fault) : Judged checks (.error fault)

namespace Judged

variable {α β : Type} {checks later : List Check} {result : Except PayloadFault α}

/-- A step with one check. -/
theorem single {check : Check} (passes : (∃ value, result = .ok value) ↔ check.Passes)
    (faulty : ∀ fault, result = .error fault → fault = check.fault) : Judged [check] result := by
  cases result with
  | error fault =>
    rw [faulty fault rfl]
    exact .error (.here fun pass => nomatch passes.mpr pass)
  | ok value =>
    refine .ok fun other member => ?_
    obtain rfl := List.mem_singleton.mp member
    exact passes.mp ⟨value, rfl⟩

theorem done (value : α) : Judged [] (pure value : Except PayloadFault α) :=
  .ok fun _ member => absurd member List.not_mem_nil

/-- What is done in two steps makes the checks of the first step and then those of the second. -/
theorem bind {next : α → Except PayloadFault β} (first : Judged checks result)
    (second : ∀ value, Judged later (next value)) : Judged (checks ++ later) (result >>= next) := by
  cases first with
  | error first => exact .error first.append
  | @ok value pass =>
    show Judged _ (next value)
    have rest := second value
    generalize next value = outcome at rest ⊢
    cases rest with
    | error first => exact .error (first.behind pass)
    | ok pass' =>
      refine .ok fun check member => ?_
      rcases List.mem_append.mp member with before | after
      · exact pass check before
      · exact pass' check after

/-- A first step with one check. -/
theorem cons {check : Check} {next : α → Except PayloadFault β} (first : Judged [check] result)
    (second : ∀ value, Judged later (next value)) : Judged (check :: later) (result >>= next) :=
  first.bind second

/-- A last step that cannot fail makes no checks. -/
theorem map {next : α → β} (first : Judged checks result) :
    Judged checks (result >>= fun value => pure (next value)) := by
  have both := first.bind fun value => done (next value)
  rwa [List.append_nil] at both

/-- **What is done for every element of a list makes the checks of each in turn.** -/
theorem mapM {read : α → Except PayloadFault β} {checks : α → List Check}
    (each : ∀ entry, Judged (checks entry) (read entry)) (entries : List α) :
    Judged (entries.flatMap checks) (entries.mapM read) := by
  induction entries with
  | nil => exact done []
  | cons entry rest hypothesis =>
    rw [List.mapM_cons, List.flatMap_cons]
    exact (each entry).bind fun value => hypothesis.map

theorem ok_iff (judged : Judged checks result) :
    (∃ value, result = .ok value) ↔ ∀ check ∈ checks, check.Passes := by
  cases judged with
  | error first => exact iff_of_false (fun ⟨_, same⟩ => by cases same) first.fails
  | ok pass => exact iff_of_true ⟨_, rfl⟩ pass

theorem error_iff (judged : Judged checks result) {fault : PayloadFault} :
    result = .error fault ↔ FirstFault checks fault := by
  cases judged with
  | error first =>
    refine ⟨?_, fun first' => ?_⟩
    · rintro ⟨⟩
      exact first
    · rw [first.unique first']
  | ok pass => exact iff_of_false (fun same => by cases same) fun first => first.fails pass

end Judged

/-! ### Fields and slots -/

section

variable {field text name : String} {node : Node} {interface : InterfaceId} {slots : ValueSlots}
  {value : AttributeValue}

theorem parseTrimmed_eq_ok : Node.parseTrimmed text = .ok node ↔ SaysNode text node := by
  rw [Node.parseTrimmed, Node.parse_eq_ok]
  constructor
  · exact fun names => ⟨_, Text.padded_trim text.toList, names⟩
  · rintro ⟨core, padded, names⟩
    have solid := names.solid
    rw [String.toList_ofList] at solid
    rwa [(Text.trim_eq_iff solid).mpr padded]

/-- **The node of a field is the one that its text says.** -/
theorem readNode_eq_ok : readNode field text = .ok node ↔ SaysNode text node := by
  rw [← parseTrimmed_eq_ok, readNode]
  cases Node.parseTrimmed text with
  | error | ok => simp

/-- **The interface of a field is the one that its text says.** -/
theorem readInterface_eq_ok :
    readInterface field text = .ok interface ↔ SaysInterface text interface := by
  have small : interface.toNat < UInt64.size := interface.toNat_lt_size
  have number : SaysInterface text interface ↔
      Numeral.unsigned? UInt64.size (Text.trim text.toList) = some interface.toNat := by
    rw [Numeral.unsigned?_eq_some, and_iff_left small]
    constructor
    · rintro ⟨core, padded, denotes⟩
      rwa [(Text.trim_eq_iff denotes.solid).mpr padded]
    · exact fun denotes => ⟨_, Text.padded_trim text.toList, denotes⟩
  rw [number, readInterface]
  cases found : Numeral.unsigned? UInt64.size (Text.trim text.toList) with
  | none => simp
  | some number =>
    have fits := (Numeral.unsigned?_eq_some.mp found).2
    simp only [Except.ok.injEq, Option.some.injEq]
    constructor
    · rintro rfl
      exact (UInt64.toNat_ofNat_of_lt' fits).symm
    · rintro rfl
      exact UInt64.ofNat_toNat

/-- **The value of an attribute is the only one in its slots.** -/
theorem value_eq_ok : slots.value name = .ok value ↔ slots.values = [value] := by
  obtain ⟨_ | _, _ | _, _ | _⟩ := slots <;> simp [ValueSlots.value, ValueSlots.values]

theorem ValueSlots.populated_eq (slots : ValueSlots) : slots.populated = slots.values.length := by
  obtain ⟨_ | _, _ | _, _ | _⟩ := slots <;> rfl

theorem judged_readNode (field text : String) :
    Judged [.node field text] (readNode field text) := by
  refine .single (exists_congr fun _ => readNode_eq_ok) fun fault read => ?_
  unfold readNode at read
  split at read <;> cases read
  rfl

theorem judged_readInterface (field text : String) :
    Judged [.interface field text] (readInterface field text) := by
  refine .single (exists_congr fun _ => readInterface_eq_ok) fun fault read => ?_
  unfold readInterface at read
  split at read <;> cases read
  rfl

theorem judged_value (name : String) (slots : ValueSlots) :
    Judged [.value name slots] (slots.value name) := by
  refine .single ?_ fun fault read => ?_
  · rw [Check.Passes, List.length_eq_one_iff]
    exact exists_congr fun _ => value_eq_ok
  · rw [Check.fault, ← slots.populated_eq]
    unfold ValueSlots.value at read
    split at read <;> cases read
    rfl

end

/-! ### Records -/

theorem LinkRecord.judged_read (record : LinkRecord) : Judged record.checks record.read := by
  unfold checks read
  refine (judged_readNode "as_a" record.nodeA).cons fun nodeA => ?_
  refine (judged_readInterface "if_a" record.interfaceA).cons fun interfaceA => ?_
  refine (judged_readNode "as_b" record.nodeB).cons fun nodeB => ?_
  exact (judged_readInterface "if_b" record.interfaceB).map

theorem NodeAttributeRecord.judged_read (record : NodeAttributeRecord) :
    Judged record.checks record.read := by
  unfold checks read
  refine (judged_readNode "as" record.node).cons fun node => ?_
  exact (judged_value record.name record.value).map

theorem LinkAttributeRecord.judged_read (record : LinkAttributeRecord) :
    Judged record.checks record.read := by
  unfold checks read
  refine record.link.judged_read.bind fun link => ?_
  exact (judged_value record.name record.value).map

/-- **Reading a bundle is in keeping with its checks.** -/
theorem MetadataRecord.judged_read (record : MetadataRecord) :
    Judged record.checks record.read := by
  unfold checks read
  refine (Judged.mapM NodeAttributeRecord.judged_read record.nodes).bind fun nodes => ?_
  exact (Judged.mapM LinkAttributeRecord.judged_read record.links).map

/-! ### What is read -/

section

variable {α β : Type}

theorem bind_eq_ok {first : Except PayloadFault α} {next : α → Except PayloadFault β} {found : β} :
    (first >>= next) = .ok found ↔ ∃ value, first = .ok value ∧ next value = .ok found := by
  cases first with
  | error fault => exact iff_of_false (fun same => by cases same) fun ⟨_, same, _⟩ => by cases same
  | ok value =>
    refine ⟨fun same => ⟨value, rfl, same⟩, fun ⟨_, same, done⟩ => ?_⟩
    cases same
    exact done

theorem pure_eq_ok {value found : α} :
    (pure value : Except PayloadFault α) = .ok found ↔ value = found :=
  ⟨Except.ok.inj, congrArg Except.ok⟩

/-- What is read of a list is what is read of each of its elements. -/
theorem mapM_eq_ok {read : α → Except PayloadFault β} {entries : List α} {found : List β} :
    entries.mapM read = .ok found ↔
      List.Forall₂ (fun entry value => read entry = .ok value) entries found := by
  induction entries generalizing found with
  | nil => rw [List.mapM_nil, List.forall₂_nil_left_iff, pure_eq_ok, eq_comm]
  | cons entry rest hypothesis =>
    simp only [List.mapM_cons, bind_eq_ok, pure_eq_ok, List.forall₂_cons_left_iff, hypothesis]
    constructor
    · rintro ⟨value, here, others, there, rfl⟩
      exact ⟨value, others, here, there, rfl⟩
    · rintro ⟨value, others, here, there, rfl⟩
      exact ⟨value, here, others, there, rfl⟩

end

/-- **The link of a record is the one that it says.** -/
theorem LinkRecord.read_eq_ok {record : LinkRecord} {link : Link} :
    record.read = .ok link ↔ record.Says link := by
  simp only [read, bind_eq_ok, pure_eq_ok, readNode_eq_ok, readInterface_eq_ok]
  constructor
  · rintro ⟨nodeA, one, interfaceA, two, nodeB, three, interfaceB, four, rfl⟩
    exact ⟨one, two, three, four⟩
  · rintro ⟨one, two, three, four⟩
    exact ⟨_, one, _, two, _, three, _, four, rfl⟩

theorem NodeAttributeRecord.read_eq_ok {record : NodeAttributeRecord} {entry : NodeAttribute} :
    record.read = .ok entry ↔ record.Says entry := by
  obtain ⟨name, node, value⟩ := entry
  simp only [read, bind_eq_ok, pure_eq_ok, readNode_eq_ok, value_eq_ok]
  constructor
  · rintro ⟨_, meant, _, only, ⟨⟩⟩
    exact ⟨rfl, meant, only⟩
  · rintro ⟨rfl, meant, only⟩
    exact ⟨_, meant, _, only, rfl⟩

theorem LinkAttributeRecord.read_eq_ok {record : LinkAttributeRecord} {entry : LinkAttribute} :
    record.read = .ok entry ↔ record.Says entry := by
  obtain ⟨name, link, value⟩ := entry
  simp only [read, bind_eq_ok, pure_eq_ok, LinkRecord.read_eq_ok, value_eq_ok]
  constructor
  · rintro ⟨_, meant, _, only, ⟨⟩⟩
    exact ⟨rfl, meant, only⟩
  · rintro ⟨rfl, meant, only⟩
    exact ⟨_, meant, _, only, rfl⟩

/-- **The bundle of a record is what it says.** -/
theorem MetadataRecord.read_eq_ok {record : MetadataRecord} {bundle : Metadata} :
    record.read = .ok bundle ↔ record.Says bundle := by
  simp only [read, bind_eq_ok, pure_eq_ok, mapM_eq_ok, NodeAttributeRecord.read_eq_ok,
    LinkAttributeRecord.read_eq_ok]
  constructor
  · rintro ⟨_, nodes, _, links, rfl⟩
    exact ⟨nodes, links⟩
  · rintro ⟨nodes, links⟩
    exact ⟨_, nodes, _, links, rfl⟩

/-- **A record is read if and only if all its checks pass, as what it says, and refused otherwise
with the fault of the first check that fails.** A bundle that was read is written in a document from
which it is read again. -/
theorem MetadataRecord.read_exact (record : MetadataRecord) :
    ((∃ bundle, record.read = .ok bundle) ↔ ∀ check ∈ record.checks, check.Passes) ∧
    (∀ bundle, record.read = .ok bundle ↔ record.Says bundle) ∧
    (∀ fault, record.read = .error fault ↔ FirstFault record.checks fault) ∧
    ∀ bundle, record.read = .ok bundle → (ofMetadata bundle).read = .ok bundle ∧
      Json.read? ofJson? (ofMetadata bundle).toJson.write = some (ofMetadata bundle) :=
  ⟨record.judged_read.ok_iff, fun _ => read_eq_ok, fun _ => record.judged_read.error_iff,
    fun bundle _ => ⟨read_ofMetadata bundle, read?_write _⟩⟩

end Wayfinder
