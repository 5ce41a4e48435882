/-
**What the answer to a fetching call holds.**

A bundle is read back from the body of the answer in which it was written. So a caller who asks for
metadata and gets an answer finds in it what the sources have told the call: the bundle of the atlas,
from its cache or just collected, and behind it what the archive has loaded, if there is one.

* `decodeMetadata?`, `decodeMetadata?_body`: what is read in the body of an answer;
* `Collected.length_le`, `Collected.of_singleton`, `Collected.of_pair`: who has told what;
* `Assembled`: how the bundle of a call has come about;
* `Run.answers`: what is read in the answer to a call, in every run.
-/

import Wayfinder.Proofs.Message.Forms
import Wayfinder.Proofs.Resolver.Replay
import Wayfinder.Proofs.Service.Fetching

namespace Wayfinder

/-! ### Bodies of answers -/

namespace Metadata

theorem append_empty (bundle : Metadata) : bundle ++ empty = bundle := by
  show Metadata.mk (bundle.nodes ++ []) (bundle.links ++ []) = bundle
  rw [List.append_nil, List.append_nil]

theorem concat_singleton (bundle : Metadata) : concat [bundle] = bundle := append_empty bundle

theorem concat_pair (first second : Metadata) : concat [first, second] = first ++ second := by
  rw [concat, concat_singleton]

end Metadata

/-- The bundle in the body of an answer, if the body is the document of a record. -/
def decodeMetadata? (body : String) : Option (Except PayloadFault Metadata) :=
  (Json.read? MetadataRecord.ofJson? body).map MetadataRecord.read

/-- **A bundle is read back from the body of an answer.** -/
theorem decodeMetadata?_body (bundle : Metadata) :
    decodeMetadata? (Response.metadata bundle).body = some (.ok bundle) := by
  rw [decodeMetadata?, Response.body, Response.toJson, MetadataRecord.read?_write, Option.map_some,
    MetadataRecord.read_ofMetadata]

/-- A request for metadata that is taken on has a body that can be read. -/
theorem Request.of_getMetadata {body : String} {request : Request}
    (taken : Request.ofMethod "GetMetadata" body = .ok request) :
    ∃ record query, Json.read? MetadataQueryRecord.ofJson? body = some record ∧
      record.read = .ok query ∧ request = .fetch query := by
  simp only [Request.ofMethod] at taken
  split at taken
  · next record here =>
    split at taken
    · next query reads =>
      cases taken
      exact ⟨record, query, here, reads, rfl⟩
    · cases taken
  · cases taken

namespace Service

open Panel (Kind)

/-! ### Who has told what -/

section

variable {id : CallId} {query : MetadataQuery} {kinds : List Kind} {history : List Occurrence}
  {start last : Nat} {collected : List Metadata} {found : Metadata}

theorem Supplies.lt_length {position : Nat} {taken : Occurrence}
    (supplies : Supplies id query kinds position found taken) : position < kinds.length := by
  cases supplies with
  | atlas kind | archive kind => exact (List.getElem?_eq_some_iff.mp kind).1

/-- Every source tells a call at most one bundle. -/
theorem Collected.length_le (told : Collected id query kinds history start last collected) :
    collected.length ≤ kinds.length := by
  cases told with
  | nothing => exact Nat.zero_le _
  | more _ _ supplies =>
    obtain ⟨_, _, supplies⟩ := supplies
    rw [List.length_append]
    exact supplies.lt_length

theorem Collected.of_concat
    (told : Collected id query kinds history start last (collected ++ [found])) :
    ∃ earlier < last, Collected id query kinds history start earlier collected ∧
      At history last (Supplies id query kinds collected.length found) := by
  generalize same : collected ++ [found] = whole at told
  cases told with
  | nothing => exact absurd same (by simp)
  | more earlier later supplies =>
    obtain ⟨rfl, rfl⟩ := List.append_singleton_inj.mp same
    exact ⟨_, later, earlier, supplies⟩

theorem Collected.of_nil (told : Collected id query kinds history start last []) :
    last = start := by
  generalize same : [] = whole at told
  cases told with
  | nothing => rfl
  | more => exact absurd same (by simp)

theorem Collected.of_singleton (told : Collected id query kinds history start last [found]) :
    start < last ∧ At history last (Supplies id query kinds 0 found) := by
  obtain ⟨earlier, before, told, supplies⟩ := @Collected.of_concat _ _ _ _ _ _ [] _ told
  exact ⟨told.of_nil ▸ before, supplies⟩

end

/-! ### Answers -/

/-- The step in which the atlas of a service gives a call a bundle. -/
structure Delivers (id : CallId) (pair : Atlas.Pair) (bundle : Atlas.Bundle) (taken : Occurrence) :
    Prop where
  turn : taken.event = .proceed (.panel (.atlas 0 (.call id)))
  /-- The bundle is in the cache, or has just been collected, and it is the answer of the atlas. -/
  source : ∃ atlas, taken.before.service.panel.sources[0]? = some (.atlas atlas) ∧
    atlas.Gives taken.now id pair (.ok bundle) ∧
    .finish id (.ok (some bundle)) ∈ (Atlas.step taken.now (.proceed (.call id)) atlas).2

/-- The step in which a call takes what the archive of a service has loaded. -/
structure Reads (id : CallId) (loaded : Metadata) (taken : Occurrence) : Prop where
  turn : taken.event = .proceed (.panel (.call id))
  source : ∃ archive, taken.before.service.panel.sources[1]? = some (.archive archive) ∧
    archive.loaded = loaded

/-- **How the bundle of a call has come about** that has begun and ended at two positions. -/
inductive Assembled (directory : Option String) (id : CallId) (pair : Atlas.Pair)
    (history : List Occurrence) (start finished : Nat) : Metadata → Prop
  /-- Without a directory it is what the atlas has given. -/
  | alone {bundle : Atlas.Bundle} (unset : directory = none) (told : Nat) (after : start < told)
      (before : told < finished) (delivers : At history told (Delivers id pair bundle)) :
      Assembled directory id pair history start finished bundle.metadata
  /-- With a directory, what the archive has loaded follows. -/
  | joined {bundle : Atlas.Bundle} {loaded : Metadata} {path : String}
      (given : directory = some path) (told : Nat) (after : start < told)
      (delivers : At history told (Delivers id pair bundle)) (read : Nat) (later : told < read)
      (before : read < finished) (reads : At history read (Reads id loaded)) :
      Assembled directory id pair history start finished (bundle.metadata ++ loaded)

section

variable {id : CallId} {query : MetadataQuery} {kinds : List Kind} {found : Metadata}
  {taken : Occurrence}

/-- The atlas of a service tells a call what it gives it. -/
theorem Supplies.delivers (supplies : Supplies id query (.atlas :: kinds) 0 found taken) :
    ∃ pair bundle, query.endpoints = .ok pair ∧ bundle.metadata = found ∧
      Delivers id pair bundle taken := by
  cases supplies with
  | atlas kind turn endpoints here gives =>
    exact ⟨_, _, endpoints, rfl, turn, _, here, gives, gives.finish_mem⟩
  | archive kind => cases kind

/-- The archive of a service tells a call what it has loaded. -/
theorem Supplies.reads (supplies : Supplies id query [.atlas, .archive] 1 found taken) :
    Reads id found taken := by
  cases supplies with
  | atlas kind => cases kind
  | archive _ turn here => exact ⟨turn, _, here, rfl⟩

/-- **A call that has heard every source has the bundle of the atlas, and what the archive has loaded
behind it.** -/
theorem Collected.assembled {directory : Option String} {history : List Occurrence}
    {start last finished : Nat} {collected : List Metadata}
    (told : Collected id query (.atlas :: directory.toList.map fun _ => .archive)
      (history.take finished) start last collected)
    (all : (Kind.atlas :: directory.toList.map fun _ => Kind.archive)[collected.length]? = none) :
    ∃ pair, query.endpoints = .ok pair ∧
      Assembled directory id pair history start finished (Metadata.concat collected) := by
  have length : collected.length = directory.toList.length + 1 := by
    refine Nat.le_antisymm ?_ ?_
    · simpa using told.length_le
    · simpa using List.getElem?_eq_none_iff.mp all
  cases directory with
  | none =>
    obtain ⟨found, rfl⟩ := List.length_eq_one_iff.mp length
    obtain ⟨after, supplies⟩ := told.of_singleton
    obtain ⟨before, taken, here, supplies⟩ := supplies.of_take
    obtain ⟨pair, bundle, endpoints, rfl, delivers⟩ := supplies.delivers
    rw [Metadata.concat_singleton]
    exact ⟨pair, endpoints, .alone rfl last after before ⟨taken, here, delivers⟩⟩
  | some path =>
    obtain ⟨found, loaded, rfl⟩ := List.length_eq_two.mp length
    obtain ⟨earlier, later, told, reads⟩ := @Collected.of_concat _ _ _ _ _ _ [found] _ told
    obtain ⟨after, supplies⟩ := told.of_singleton
    obtain ⟨_, taken, here, supplies⟩ := supplies.of_take
    obtain ⟨pair, bundle, endpoints, rfl, delivers⟩ := supplies.delivers
    obtain ⟨before, reads⟩ := reads.of_take
    rw [Metadata.concat_pair]
    exact ⟨pair, endpoints, .joined rfl earlier after ⟨taken, here, delivers⟩ last later before
      (reads.mono fun _ reads => reads.reads)⟩

end

/-- **The answer to a call that fetches metadata holds what the atlas has given it, and behind that
what the archive has loaded**: in every run of a service that has been set up by settings, of every
call that gets an answer, for what the caller reads in it. And every bundle is read back from its
record. -/
theorem Run.answers :
    (∀ bundle : Metadata, (MetadataRecord.ofMetadata bundle).read = .ok bundle) ∧
    ∀ {settings : Settings} {geolocator : Bool} {directory : String → Option Directory}
      {history : List Occurrence} {desk : Desk},
      Run ⟨ofSettings settings geolocator directory, {}⟩ history desk →
      ∀ {id : CallId} {body : String} {start : Nat},
      At history start (·.event = .method id "GetMetadata" body) →
      ∀ {finished : Nat} {answer : String},
      At history finished (fun taken =>
        ∃ outcome, .finish id outcome ∈ taken.effects ∧ render outcome = .ok answer) →
      ∃ record query pair bundle, Json.read? MetadataQueryRecord.ofJson? body = some record ∧
        record.read = .ok query ∧ query.endpoints = .ok pair ∧
        Assembled settings.metadata.directory id pair history start finished bundle ∧
        decodeMetadata? answer = some (.ok bundle) := by
  refine ⟨MetadataRecord.read_ofMetadata, ?_⟩
  intro settings geolocator directory history desk run id body start begun finished answer succeeds
  obtain ⟨taken, here, outcome, ended, rendered⟩ := succeeds
  have idle := idle_ofSettings settings geolocator directory
  have begins : At history start (Begins id (Request.ofMethod "GetMetadata" body)) :=
    begun.mono fun _ event => by
      rw [Begins, event]
      exact ⟨rfl, rfl⟩
  cases requested : Request.ofMethod "GetMetadata" body with
  | error fault =>
    rw [requested] at begins
    have concludes := (Run.begins_gone run idle begins).mono fun _ ⟨begins, gone⟩ =>
      (gone.refuse begins).2
    obtain ⟨_, rfl⟩ := Run.concludes run idle concludes ⟨taken, here, ended⟩
    cases rendered
  | ok request =>
    obtain ⟨record, query, decodes, reads, rfl⟩ := Request.of_getMetadata requested
    rw [requested] at begins
    obtain ⟨_, leg, last, told, _, _, ends⟩ := Run.fetch_ends run idle
      (external_not_mem_kinds settings geolocator directory) begins ⟨taken, here, ended⟩
    rw [kinds_ofSettings] at told ends
    cases ends with
    | complete all =>
      obtain ⟨pair, endpoints, assembled⟩ := Collected.assembled told all
      cases rendered
      exact ⟨record, query, pair, _, decodes, reads, endpoints, assembled,
        decodeMetadata?_body _⟩
    | refused | failed => cases rendered

/-! ### An answer from both sources -/

/-- Settings with a directory of metadata. -/
def shelved : Settings :=
  { endless with
    metadata := { endless.metadata with refreshSeconds := 60, directory := some "metadata" } }

/-- A file in which the same attribute stands twice. -/
def tiers : String :=
  "\x7b\"node_info\":[\x7b\"name\":\"tier\",\"node\":\"7-71\",\"value\":\x7b\"int32\":-1\x7d\x7d," ++
    "\x7b\"name\":\"tier\",\"node\":\"7-71\",\"value\":\x7b\"int32\":-1\x7d\x7d]\x7d"

/-- Every directory holds this file alone. -/
def shelf (_ : String) : Option Directory := some [("tiers.json", .file tiers.toUTF8)]

/-- The service with these settings and this file. -/
def shelvedService : State := ofSettings shelved false shelf

/-- A request for metadata, with a blank before the name of a node. -/
def inquiry : String := "\x7b\"src\":\"7-70\",\"dst\":\" 7-71\"\x7d"

/-- The service begins and loads the file; then a call asks for metadata, and the oracle knows the
bandwidth of a link. -/
def inquired : List Occurrence :=
  automaton.replay ⟨shelvedService, {}⟩
    [(0, .start 0 .begin), (1, .answer (.session 0) (.done (.ok ()))),
      (1, .proceed (.panel (.call 0))), (1, .proceed (.panel (.call 0))),
      (1, .proceed (.panel (.call 0))), (2, .method 1 "GetMetadata" inquiry),
      (2, .proceed (.panel (.call 1))), (2, .proceed (.panel (.atlas 0 (.call 1)))),
      (2, .proceed (.panel (.atlas 0 (.call 1)))),
      (3, .answer (.panel (.atlas 0 (.call 1))) (.candidates (.ok
        [{ hops := [⟨Resolver.sampleSrc, 1⟩, ⟨Resolver.sampleDst, 2⟩]
           expiry := ⟨0, false⟩
           bandwidth := [some 800] }]))),
      (3, .proceed (.panel (.atlas 0 (.survey 0 0)))),
      (3, .proceed (.panel (.atlas 0 (.call 1)))), (3, .proceed (.panel (.atlas 0 (.call 1)))),
      (3, .proceed (.panel (.atlas 0 (.call 1)))), (3, .proceed (.panel (.atlas 0 (.call 1)))),
      (4, .proceed (.panel (.call 1))), (4, .proceed (.panel (.call 1)))]

/-- What the atlas has found out and the archive has loaded. -/
def inquiredBundle : Metadata where
  nodes :=
    [⟨"tier", Resolver.sampleDst, .int32 (-1)⟩, ⟨"tier", Resolver.sampleDst, .int32 (-1)⟩]
  links :=
    [⟨Metadata.bandwidthName, ⟨⟨Resolver.sampleSrc, 1⟩, ⟨Resolver.sampleDst, 2⟩⟩, .int32 800⟩]

/-- In that run the caller reads the bandwidth of the link, and the attribute of the file twice. -/
theorem answers_inquired : ∃ desk, Run ⟨shelvedService, {}⟩ inquired desk ∧
    At inquired 5 (·.event = .method 1 "GetMetadata" inquiry) ∧
    At inquired 16 (.finish 1 (.ok (.metadata inquiredBundle)) ∈ ·.effects) ∧
    ∃ pair, Assembled (some "metadata") 1 pair inquired 5 16 inquiredBundle := by
  have run : Run ⟨shelvedService, {}⟩ inquired _ := Automaton.Run.of_replay automaton _ _ (by decide)
  have begun : At inquired 5 (·.event = .method 1 "GetMetadata" inquiry) := ⟨_, rfl, rfl⟩
  have finished : At inquired 16 (.finish 1 (.ok (.metadata inquiredBundle)) ∈ ·.effects) := by
    decide +kernel
  have succeeds := finished.mono fun taken ends =>
    (⟨.ok (.metadata inquiredBundle), ends, rfl⟩ : ∃ outcome, .finish 1 outcome ∈ taken.effects ∧
      render outcome = .ok (Response.metadata inquiredBundle).body)
  obtain ⟨_, _, pair, bundle, _, _, _, assembled, decodes⟩ := Run.answers.2 run begun succeeds
  rw [decodeMetadata?_body] at decodes
  obtain rfl : inquiredBundle = bundle := Except.ok.inj (Option.some.inj decodes)
  exact ⟨_, run, begun, finished, pair, assembled⟩

end Service

end Wayfinder
