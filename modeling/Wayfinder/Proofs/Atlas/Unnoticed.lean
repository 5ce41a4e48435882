/-
**Passes go unnoticed.**

A pass changes what is cached for a pair, and only if its own collection for it has succeeded while
the pair was still cached. It never adds or removes a pair, and it leaves the order of uses alone. So
requests see nothing of it: two courses with the same steps of requests, however many passes there
are in them and however these go, have the same hits, evictions and cached pairs.

* `Sight`, `sights`: what shows in the steps of requests;
* `Course.outlined`: what shows follows from the steps of requests alone;
* `Renews`: the step in which a pass changes what is cached;
* `Unnoticed`, `Course.unnoticed`: the whole of it;
* `Run.course`: every run is a course.
-/

import Wayfinder.Proofs.Atlas.Outline
import Wayfinder.Proofs.Atlas.Passes
import Wayfinder.Proofs.Lru.Items

namespace Wayfinder.Atlas

/-! ### What shows -/

/-- The step of a request that happens, if one does. -/
def asked? (happening : Happening) : Option Request := (taken? happening).bind request?

/-- The steps of requests in a course, each with whether its collection has succeeded. -/
def requests (history : List Happening) : List Request := history.filterMap asked?

/-- What shows in a step of a request. -/
structure Sight where
  request : Request
  /-- Whether the pair is found, if it is looked up. -/
  found : Option Bool
  evicted : List Pair
  /-- The pairs that are cached afterwards. -/
  cached : List Pair
deriving DecidableEq, Repr

/-- The keys that are not there any more. -/
def gone (before after : List Pair) : List Pair := before.filter fun pair => !decide (pair ∈ after)

def sight? (happening : Happening) : Option Sight :=
  (asked? happening).map fun request =>
    { request
      found := (taken? happening).bind hit?
      evicted := gone happening.before.cache.keys happening.after.cache.keys
      cached := happening.after.cache.keys }

/-- What shows in the steps of requests in a course. -/
def sights (history : List Happening) : List Sight := history.filterMap sight?

theorem requests_append (history : List Happening) (happening : Happening) :
    requests (history ++ [happening]) = requests history ++ (asked? happening).toList := by
  rw [requests, requests, List.filterMap_append, List.filterMap_cons, List.filterMap_nil]
  cases asked? happening <;> rfl

theorem sights_append (history : List Happening) (happening : Happening) :
    sights (history ++ [happening]) = sights history ++ (sight? happening).toList := by
  rw [sights, sights, List.filterMap_append, List.filterMap_cons, List.filterMap_nil]
  cases sight? happening <;> rfl

namespace Outline

/-- The outline of an atlas without bundles. -/
def initial (capacity : Nat) : Outline where
  cache := { capacity }
  calls := fun _ => none
  markers := {}
  channels := fun _ => none

def sight (outline : Outline) (request : Request) : Sight where
  request
  found := outline.hit? request
  evicted := gone outline.cache.keys (outline.step request).cache.keys
  cached := (outline.step request).cache.keys

def arrive (outline : Outline) (requests : List Request) : Outline := requests.foldl step outline

/-- What shows when requests take their steps one after the other. -/
def sights (outline : Outline) : List Request → List Sight
  | [] => []
  | request :: rest => outline.sight request :: (outline.step request).sights rest

theorem arrive_append (outline : Outline) (requests : List Request) (request : Request) :
    outline.arrive (requests ++ [request]) = (outline.arrive requests).step request :=
  List.foldl_append

theorem sights_append (outline : Outline) (requests : List Request) (request : Request) :
    outline.sights (requests ++ [request]) =
      outline.sights requests ++ [(outline.arrive requests).sight request] := by
  induction requests generalizing outline with
  | nil => rfl
  | cons first rest hypothesis =>
    rw [List.cons_append, sights, hypothesis]
    rfl

end Outline

/-! ### One step -/

theorem outline_keys (state : State) : state.outline.cache.keys = state.cache.keys :=
  Lru.keys_bare state.cache

/-- A pass that is put into another order does not show. -/
theorem outline_shuffle (state : State) (owner : Owner) (order : List Pair) :
    (state.shuffle owner order).outline = state.outline := by
  rcases state.shuffle_cases owner order with same | ⟨pass, making, _, same⟩
  · rw [same]
  · rw [same]
    exact outline_setPass making _

/-- **What is no step of a request does not show.** -/
theorem outline_of_unasked {happening : Happening}
    (fresh : ∀ id, happening.event.beginning? = some id → happening.before.calls.get? id = none)
    (unasked : asked? happening = none) : happening.after.outline = happening.before.outline := by
  obtain ⟨before, now, choice⟩ := happening
  cases choice with
  | step event =>
    exact outline_unasked ⟨before, now, event⟩ fresh unasked
  | shuffle owner order => exact outline_shuffle before owner order

/-- **What shows in a step of a request follows from the outline.** -/
theorem sight_of_asked {happening : Happening} {request : Request}
    (lasting : ∀ pair entry, happening.before.cache.slot? pair = some entry →
      entry.expires = none)
    (asks : asked? happening = some request) :
    happening.after.outline = happening.before.outline.step request ∧
      sight? happening = some (happening.before.outline.sight request) := by
  obtain ⟨before, now, choice⟩ := happening
  cases choice with
  | step event =>
    let taken : Occurrence := ⟨before, now, event⟩
    have asks' : request? taken = some request := asks
    obtain ⟨outline, found⟩ := outlined asks' lasting
    refine ⟨outline, ?_⟩
    have after : taken.after.cache.keys = (before.outline.step request).cache.keys := by
      rw [← outline_keys, outline]
    rw [sight?, asks, Outline.sight, outline_keys, ← after, ← found]
    rfl
  | shuffle owner order => cases asks

/-! ### What passes change -/

/-- The step in which a pass changes what is cached: its collection for the pair has come to a good
end, and the pair is cached. -/
def Renews (pair : Pair) (bundle : Bundle) (happening : Happening) : Prop :=
  ∃ owner remaining, happening.event = .step (.proceed owner.task) ∧
    happening.before.pass? owner = some ⟨remaining, some (pair, bundle.collection)⟩ ∧
    happening.before.outcome? bundle.collection = some (.ok bundle.metadata) ∧
    happening.before.bundle? pair ≠ none

theorem mem_keys_iff {state : State} {pair : Pair} :
    pair ∈ state.cache.keys ↔ state.bundle? pair ≠ none :=
  Table.mem_keys_iff.trans (not_congr State.bundle?_eq_none.symm)

/-- What is no step of a request leaves the cached pairs as they are. -/
theorem keys_of_unasked {happening : Happening}
    (fresh : ∀ id, happening.event.beginning? = some id → happening.before.calls.get? id = none)
    (unasked : asked? happening = none) :
    happening.after.cache.keys = happening.before.cache.keys := by
  rw [← outline_keys, ← outline_keys, outline_of_unasked fresh unasked]

/-- **What is cached changes in a step of a request, or because a pass renews it.** -/
theorem renews_of_changed {happening : Happening} {pair : Pair}
    (fresh : ∀ id, happening.event.beginning? = some id → happening.before.calls.get? id = none)
    (unasked : asked? happening = none)
    (changed : happening.after.bundle? pair ≠ happening.before.bundle? pair) :
    ∃ bundle, happening.after.bundle? pair = some bundle ∧ Renews pair bundle happening := by
  have keys := keys_of_unasked fresh unasked
  obtain ⟨before, now, choice⟩ := happening
  cases found : State.bundle? (freely.step now choice before).1 pair with
  | none =>
    have gone : pair ∉ before.cache.keys := by
      rw [← keys, mem_keys_iff]
      exact not_not_intro found
    have absent : before.bundle? pair = none := Decidable.not_not.mp (mt mem_keys_iff.mpr gone)
    exact absurd (found.trans absent.symm) changed
  | some bundle =>
    refine ⟨bundle, found, ?_⟩
    have differs : before.bundle? pair ≠ some bundle := fun old => changed (found.trans old.symm)
    cases choice with
    | step event =>
      let taken : Occurrence := ⟨before, now, event⟩
      have puts : Puts pair bundle taken := puts_of_new found differs
      cases puts with
      | @store id turn here =>
        have none : request? taken = none := unasked
        rw [request?_of_fetch turn here] at none
        cases none
      | @renew owner remaining turn here outcome present =>
        exact ⟨owner, remaining, congrArg Choice.step turn, here, outcome, present⟩
    | shuffle owner order =>
      have same : (before.shuffle owner order).cache = before.cache := before.shuffle_cache ..
      have found : (before.shuffle owner order).bundle? pair = some bundle := found
      rw [State.bundle?, same] at found
      exact absurd found differs

/-! ### Whole courses -/

/-- Of the passes of a course nothing shows. -/
structure Unnoticed (history history' : List Happening) (state state' : State) : Prop where
  /-- The steps of requests show the same: what is found, evicted and cached. -/
  sights : sights history = sights history'
  cached : state.cache.keys = state'.cache.keys
  /-- Whatever happens between the steps of requests adds and removes no pair. -/
  between : ∀ happening ∈ history, asked? happening = none →
    happening.after.cache.keys = happening.before.cache.keys
  /-- What is cached for a pair changes only if the collection of a pass for it has succeeded and the
  pair is cached at that moment. -/
  renewed : ∀ happening ∈ history, asked? happening = none → ∀ pair,
    happening.after.bundle? pair ≠ happening.before.bundle? pair →
      ∃ bundle, happening.after.bundle? pair = some bundle ∧ Renews pair bundle happening
  /-- The collection of a pass is its own, for the very pair. -/
  own : ∀ happening ∈ history, ∀ owner pair id remaining collection,
    happening.before.pass? owner = some ⟨remaining, some (pair, id)⟩ →
    happening.before.collections.get? id = some collection →
      collection.pair = pair ∧ collection.owner = owner
  /-- A pass that comes to its end is counted for each pair that it has begun with. -/
  passed : ∀ finish owner, At history finish (Completes owner) →
    ∃ start pairs, start < finish ∧ Passed owner pairs history start finish

namespace Course

variable {capacity : Nat} {geolocating geolocating' : Bool}
  {timeout timeout' interval interval' : Duration} {history history' : List Happening}
  {state state' : State}

/-- **What shows follows from the steps of requests alone.** -/
theorem outlined (course : Course capacity geolocating timeout interval history state) :
    state.outline = (Outline.initial capacity).arrive (requests history) ∧
      Atlas.sights history = (Outline.initial capacity).sights (requests history) := by
  induction course with
  | initial => exact ⟨rfl, rfl⟩
  | @step history state course now choice fresh hypothesis =>
    obtain ⟨outline, seen⟩ := hypothesis
    have unused := free (course.step now choice fresh) List.getElem?_concat_length
    rw [requests_append, sights_append]
    cases asks : asked? ⟨state, now, choice⟩ with
    | none =>
      have unseen : sight? ⟨state, now, choice⟩ = none := by rw [sight?, asks, Option.map_none]
      rw [unseen, Option.toList_none, Option.toList_none, List.append_nil, List.append_nil]
      exact ⟨(outline_of_unasked unused asks).trans outline, seen⟩
    | some request =>
      obtain ⟨stepped, sight⟩ := sight_of_asked (fun _ _ here => lasting course here) asks
      rw [sight, Option.toList_some, Option.toList_some, Outline.arrive_append,
        Outline.sights_append, seen, ← outline]
      exact ⟨stepped, rfl⟩

/-- **Of passes nothing shows.** Two courses with the same steps of requests, in which the same
collections succeed, have the same hits, the same evictions and the same cached pairs. -/
theorem unnoticed (course : Course capacity geolocating timeout interval history state)
    (course' : Course capacity geolocating' timeout' interval' history' state')
    (same : requests history = requests history') :
    Unnoticed history history' state state' := by
  have fresh {happening : Happening} (member : happening ∈ history) :
      ∀ id, happening.event.beginning? = some id → happening.before.calls.get? id = none := by
    obtain ⟨position, here⟩ := List.mem_iff_getElem?.mp member
    exact course.free here
  obtain ⟨outline, seen⟩ := course.outlined
  obtain ⟨outline', seen'⟩ := course'.outlined
  exact {
    sights := by rw [seen, seen', same]
    cached := by rw [← outline_keys, ← outline_keys, outline, outline', same]
    between := fun happening member unasked => keys_of_unasked (fresh member) unasked
    renewed := fun happening member unasked pair => renews_of_changed (fresh member) unasked
    own := fun happening member owner pair id remaining collection making here => by
      obtain ⟨position, found⟩ := List.mem_iff_getElem?.mp member
      have owned := Course.owned (course.take found)
      exact owned.own owner pair id collection (State.errand?_of_pass? making) here
    passed := fun finish owner completes => course.passed completes }

end Course

/-- **Every run is a course.** -/
theorem Run.course {capacity : Nat} {geolocating : Bool} {timeout interval : Duration}
    {history : List Occurrence} {state : State}
    (run : Run capacity geolocating timeout interval history state) :
    Course capacity geolocating timeout interval
      (history.map fun taken => ⟨taken.before, taken.now, .step taken.event⟩) state := by
  induction run with
  | initial => exact .initial
  | @step history state run now event fresh hypothesis =>
    rw [List.map_append]
    refine hypothesis.step now (.step event) fun id begins happening member same => ?_
    obtain ⟨taken, here, rfl⟩ := List.mem_map.mp member
    exact fresh id begins taken here same

/-! ### A pass that is overtaken -/

/-- A pair other than the one of `racePair`. -/
def otherPair : Pair :=
  (Resolver.sampleSrc, { Resolver.sampleDst with asn := 74, asn_lt := by decide })

/-- The steps of a call that finds nothing, leads and stores. -/
def fetchAlone (id : CallId) (dst : String) : List (Timestamp × Choice) :=
  [.fetch id { src := "7-70", dst }, .proceed (.call id), .proceed (.call id),
    .answer (.call id) (.candidates (.ok [])), .proceed (.call id), .proceed (.call id),
    .proceed (.call id), .proceed (.call id)].map fun event => (0, .step event)

/-- Two pairs are cached, of three that are wanted. -/
def undisturbed : List Happening :=
  freely.replay (.initial 2 false 1000 60000)
    (fetchAlone 0 "7-71" ++ fetchAlone 1 "7-74" ++ fetchAlone 2 "7-73")

/-- The same, with a pass over the first two pairs in reverse order. It fails for one of them, and
the other one leaves the cache while the pass collects for it. -/
def disturbed : List Happening :=
  freely.replay (.initial 2 true 500 60000)
    (fetchAlone 0 "7-71" ++ fetchAlone 1 "7-74" ++
      [.step (.refresh 3),
        .shuffle (.call 3) [otherPair, racePair],
        .step (.proceed (.call 3)),
        .step (.answer (.call 3) (.candidates (.error (.timeout "oracle" 500)))),
        .step (.proceed (.call 3)), .step (.proceed (.call 3))].map (fun choice => (900, choice)) ++
      fetchAlone 2 "7-73" ++
      [.answer (.call 3) (.candidates (.ok [])), .proceed (.call 3), .proceed (.call 3)].map
        (fun event => (900, .step event)))

set_option maxRecDepth 4096 in
/-- The pass does not show. It has reported on two pairs, a failure first. -/
theorem unnoticed_disturbed :
    sights disturbed = sights undisturbed ∧
      (sights disturbed).flatMap (·.evicted) = [racePair] ∧
      (reports disturbed).map (·.succeeded) = [false, true] ∧
      ∃ start pairs, start < 32 ∧ Passed (.call 3) pairs disturbed start 32 := by
  have course : Course 2 true 500 60000 disturbed _ := Automaton.Run.of_replay freely _ _ (by decide)
  have course' : Course 2 false 1000 60000 undisturbed _ :=
    Automaton.Run.of_replay freely _ _ (by decide)
  have same : requests disturbed = requests undisturbed := by decide +kernel
  have unnoticed := course.unnoticed course' same
  have completes : At disturbed 32 (Completes (.call 3)) := ⟨_, rfl, rfl, rfl⟩
  exact ⟨unnoticed.sights, by decide +kernel, by decide +kernel,
    unnoticed.passed 32 (.call 3) completes⟩

end Wayfinder.Atlas
