/-
**Requests that are at fault.**

A request is at fault if there is no such method, if its body is no document of a record, or if a
text that should name a node or number an interface does not. Nothing else is ever wrong with a
request. Each fault is found before anything is done for the request: when its body is read, when a
call for routes begins, or when a call for metadata looks for the nodes that it is about.

* `Malformed`: what can be wrong with a request;
* `Failed`, `failed_bind`, `failed_mapM`: where reading fails;
* `Refused`: what a request is refused with;
* `refused_iff`, `Refused.code`: a request is refused if and only if it is at fault, and the refusal
  says so.
-/

import Wayfinder.Service

namespace Wayfinder

/-! ### What can be wrong -/

/-- Whether a text names no node, blanks around it aside. -/
def Nameless (text : String) : Prop := ∀ node, Node.parseTrimmed text ≠ .ok node

/-- Whether a text is no number of an interface, blanks around it aside. -/
def Numberless (text : String) : Prop :=
  Numeral.unsigned? UInt64.size (Text.trim text.toList) = none

/-- Whether a text of a link does not say what it should. -/
def LinkRecord.Malformed (record : LinkRecord) : Prop :=
  Nameless record.nodeA ∨ Numberless record.interfaceA ∨
    Nameless record.nodeB ∨ Numberless record.interfaceB

/-- The methods that there are. -/
def methodNames : List String := ["ResolvePaths", "RefreshPathCache", "GetMetadata"]

/-- **What can be wrong with the request of a method and a body.** -/
inductive Malformed : String → String → Prop
  | method {method body : String} (unknown : method ∉ methodNames) : Malformed method body
  | routes {body : String} (undecodable : Json.read? RouteQuery.ofJson? body = none) :
      Malformed "ResolvePaths" body
  | destination {body : String} {query : RouteQuery}
      (decodes : Json.read? RouteQuery.ofJson? body = some query)
      (nameless : Nameless query.destination) : Malformed "ResolvePaths" body
  | metadata {body : String} (undecodable : Json.read? MetadataQueryRecord.ofJson? body = none) :
      Malformed "GetMetadata" body
  | link {body : String} {record : MetadataQueryRecord} {entry : LinkRecord}
      (decodes : Json.read? MetadataQueryRecord.ofJson? body = some record)
      (member : entry ∈ record.topology) (malformed : entry.Malformed) :
      Malformed "GetMetadata" body
  | source {body : String} {record : MetadataQueryRecord}
      (decodes : Json.read? MetadataQueryRecord.ofJson? body = some record)
      (nameless : Nameless record.src) : Malformed "GetMetadata" body
  | target {body : String} {record : MetadataQueryRecord}
      (decodes : Json.read? MetadataQueryRecord.ofJson? body = some record)
      (nameless : Nameless record.dst) : Malformed "GetMetadata" body

/-! ### Where reading fails -/

/-- Whether something has failed. -/
def Failed {ε α : Type} (result : Except ε α) : Prop := ∃ fault, result = .error fault

section

variable {ε α β : Type}

@[simp] theorem failed_error (fault : ε) : Failed (.error fault : Except ε α) := ⟨fault, rfl⟩

@[simp] theorem not_failed_ok (value : α) : ¬ Failed (.ok value : Except ε α) :=
  fun ⟨_, same⟩ => by cases same

@[simp] theorem not_failed_pure (value : α) : ¬ Failed (pure value : Except ε α) :=
  not_failed_ok value

/-- What is done in two steps fails in the first or in the second, if the second fails whatever the
first has found. -/
theorem failed_bind {first : Except ε α} {next : α → Except ε β} {fails : Prop}
    (same : ∀ value, Failed (next value) ↔ fails) :
    Failed (first >>= next) ↔ Failed first ∨ fails := by
  cases first with
  | error fault => exact ⟨fun _ => Or.inl (failed_error fault), fun _ => ⟨fault, rfl⟩⟩
  | ok value => exact (same value).trans (by simp)

/-- What is done for every element of a list fails if it fails for one of them. -/
theorem failed_mapM (read : α → Except ε β) (entries : List α) :
    Failed (entries.mapM read) ↔ ∃ entry ∈ entries, Failed (read entry) := by
  induction entries with
  | nil => simp
  | cons entry rest hypothesis =>
    have others (first : β) : Failed (rest.mapM read >>= fun found => pure (first :: found)) ↔
        ∃ entry ∈ rest, Failed (read entry) := by
      rw [failed_bind fun _ => iff_of_false (not_failed_pure _) id, or_false, hypothesis]
    rw [List.mapM_cons, failed_bind others]
    simp

end

section

variable {field text : String}

theorem nameless_iff : Nameless text ↔ Failed (Node.parseTrimmed text) := by
  rw [Nameless]
  cases Node.parseTrimmed text with
  | error | ok => simp

theorem failed_readNode : Failed (readNode field text) ↔ Nameless text := by
  rw [nameless_iff, readNode]
  cases Node.parseTrimmed text with
  | error | ok => simp

theorem failed_readInterface : Failed (readInterface field text) ↔ Numberless text := by
  rw [Numberless, readInterface]
  cases Numeral.unsigned? UInt64.size (Text.trim text.toList) with
  | none | some => simp

/-- **A link cannot be read if and only if one of its texts does not say what it should.** -/
theorem LinkRecord.failed_read (record : LinkRecord) : Failed record.read ↔ record.Malformed := by
  unfold LinkRecord.read LinkRecord.Malformed
  rw [← @failed_readNode "as_a", ← @failed_readInterface "if_a", ← @failed_readNode "as_b",
    ← @failed_readInterface "if_b"]
  refine failed_bind fun _ => failed_bind fun _ => failed_bind fun _ => ?_
  rw [failed_bind fun _ => iff_of_false (not_failed_pure _) id, or_false]

theorem MetadataQueryRecord.failed_read (record : MetadataQueryRecord) :
    Failed record.read ↔ ∃ entry ∈ record.topology, entry.Malformed := by
  unfold MetadataQueryRecord.read
  rw [failed_bind fun _ => iff_of_false (not_failed_pure _) id, or_false, failed_mapM]
  simp only [LinkRecord.failed_read]

/-- The nodes of a request cannot be found if and only if one of its texts names none. -/
theorem MetadataQuery.failed_endpoints (query : MetadataQuery) :
    Failed query.endpoints ↔ Nameless query.src ∨ Nameless query.dst := by
  rw [nameless_iff, nameless_iff, MetadataQuery.endpoints]
  cases Node.parseTrimmed query.src with
  | error => simp
  | ok =>
    cases Node.parseTrimmed query.dst with
    | error | ok => simp

end

/-! ### What a request is refused with -/

/-- What a request is refused with, if it has been read at all. -/
inductive Refused : Except ServiceFault Request → ServiceFault → Prop
  | unread (fault : ServiceFault) : Refused (.error fault) fault
  | destination {text : String} {fault : NodeFault}
      (nameless : Node.parseTrimmed text = .error fault) :
      Refused (.ok (.resolve text)) (.resolving (.invalidDestination fault.message))
  | endpoints {query : MetadataQuery} {fault : MetadataFault}
      (nameless : query.endpoints = .error fault) :
      Refused (.ok (.fetch query)) (.metadata fault)

/-- The nodes of a request stay what they were in its record. -/
theorem MetadataQueryRecord.read_ok {record : MetadataQueryRecord} {query : MetadataQuery}
    (reads : record.read = .ok query) : query.src = record.src ∧ query.dst = record.dst := by
  unfold MetadataQueryRecord.read at reads
  cases links : record.topology.mapM LinkRecord.read with
  | error fault =>
    rw [links] at reads
    cases reads
  | ok found =>
    rw [links] at reads
    cases reads
    exact ⟨rfl, rfl⟩

theorem MetadataQuery.code_of_endpoints {query : MetadataQuery} {fault : MetadataFault}
    (nameless : query.endpoints = .error fault) : fault.code = .invalidArgument := by
  unfold MetadataQuery.endpoints at nameless
  split at nameless
  · cases nameless
    rfl
  · cases nameless
    rfl
  · cases nameless

/-- What the methods want. -/
theorem Request.of_method {method body : String} {request : Request}
    (taken : Request.ofMethod method body = .ok request) :
    (∃ text, request = .resolve text) ∨ request = .purge ∨ ∃ query, request = .fetch query := by
  unfold Request.ofMethod at taken
  split at taken
  · split at taken
    · cases taken
      exact Or.inl ⟨_, rfl⟩
    · cases taken
  · cases taken
    exact Or.inr (Or.inl rfl)
  · split at taken
    · split at taken
      · cases taken
        exact Or.inr (Or.inr ⟨_, rfl⟩)
      · cases taken
    · cases taken
  · cases taken

section

variable {method body : String} {fault : ServiceFault}

theorem Refused.malformed (refused : Refused (Request.ofMethod method body) fault) :
    Malformed method body := by
  unfold Request.ofMethod at refused
  split at refused
  · split at refused
    · next query decodes =>
      cases refused with
      | destination nameless => exact .destination decodes (nameless_iff.mpr ⟨_, nameless⟩)
    · next undecodable => exact .routes undecodable
  · cases refused
  · split at refused
    · next record decodes =>
      split at refused
      · next query reads =>
        obtain ⟨src, dst⟩ := MetadataQueryRecord.read_ok reads
        cases refused with
        | endpoints nameless =>
          rcases query.failed_endpoints.mp ⟨_, nameless⟩ with source | target
          · exact .source decodes (src ▸ source)
          · exact .target decodes (dst ▸ target)
      · next fault reads =>
        obtain ⟨entry, member, malformed⟩ := record.failed_read.mp ⟨_, reads⟩
        exact .link decodes member malformed
    · next undecodable => exact .metadata undecodable
  · next other routes purge metadata =>
    refine .method fun known => ?_
    simp only [methodNames, List.mem_cons, List.not_mem_nil, or_false] at known
    rcases known with same | same | same
    · exact routes same
    · exact purge same
    · exact metadata same

/-- A request for metadata whose nodes have no names is refused, if its links can be read. -/
theorem refused_of_nameless {record : MetadataQueryRecord}
    (decodes : Json.read? MetadataQueryRecord.ofJson? body = some record)
    (nameless : Nameless record.src ∨ Nameless record.dst) :
    ∃ fault, Refused (Request.ofMethod "GetMetadata" body) fault := by
  simp only [Request.ofMethod, decodes]
  cases reads : record.read with
  | error fault => exact ⟨_, .unread _⟩
  | ok query =>
    obtain ⟨src, dst⟩ := MetadataQueryRecord.read_ok reads
    rw [← src, ← dst] at nameless
    obtain ⟨fault, failed⟩ := query.failed_endpoints.mpr nameless
    exact ⟨_, .endpoints failed⟩

theorem Malformed.refused (malformed : Malformed method body) :
    ∃ fault, Refused (Request.ofMethod method body) fault := by
  cases malformed with
  | method unknown =>
    simp only [methodNames, List.mem_cons, List.not_mem_nil, or_false, not_or] at unknown
    obtain ⟨routes, purge, metadata⟩ := unknown
    have refused : Request.ofMethod method body = .error (.unknownMethod method) := by
      unfold Request.ofMethod
      split
      · exact absurd rfl routes
      · exact absurd rfl purge
      · exact absurd rfl metadata
      · rfl
    rw [refused]
    exact ⟨_, .unread _⟩
  | routes undecodable =>
    simp only [Request.ofMethod, undecodable]
    exact ⟨_, .unread _⟩
  | destination decodes nameless =>
    obtain ⟨fault, failed⟩ := nameless_iff.mp nameless
    simp only [Request.ofMethod, decodes]
    exact ⟨_, .destination failed⟩
  | metadata undecodable =>
    simp only [Request.ofMethod, undecodable]
    exact ⟨_, .unread _⟩
  | @link _ record _ decodes member malformed =>
    obtain ⟨fault, failed⟩ := record.failed_read.mpr ⟨_, member, malformed⟩
    simp only [Request.ofMethod, decodes, failed]
    exact ⟨_, .unread _⟩
  | source decodes nameless => exact refused_of_nameless decodes (Or.inl nameless)
  | target decodes nameless => exact refused_of_nameless decodes (Or.inr nameless)

/-- **A request is refused if and only if it is at fault.** -/
theorem refused_iff :
    (∃ fault, Refused (Request.ofMethod method body) fault) ↔ Malformed method body :=
  ⟨fun ⟨_, refused⟩ => refused.malformed, Malformed.refused⟩

/-- **A refusal says that the request is at fault.** -/
theorem Refused.code (refused : Refused (Request.ofMethod method body) fault) :
    fault.code = .invalidArgument := by
  generalize same : Request.ofMethod method body = request at refused
  cases refused with
  | destination => rfl
  | endpoints nameless => exact MetadataQuery.code_of_endpoints nameless
  | unread =>
    unfold Request.ofMethod at same
    split at same
    · split at same
      · cases same
      · cases same
        rfl
    · cases same
    · split at same
      · split at same
        · cases same
        · cases same
          rfl
      · cases same
        rfl
    · cases same
      rfl

end

end Wayfinder
