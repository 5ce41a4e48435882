/-
**What is put into the cache.**

A leading call stores its bundle, and a pass puts its bundle in the place of the one that is cached.
Whatever changes in the cache changes in such a step, and whoever takes it has come to the end of a
collection for the very pair. So a collection that the oracle refuses, or whose call is given up,
changes nothing; and what a look-up finds is what was put there last.

* `Puts`, `Puts.cached`: the step in which a bundle is put into the cache for a pair, and held there;
* `Run.puts_of_changed`: every change of the cache is made by such a step;
* `Run.refused_unput`, `Run.cancelled_unput`: collections that fail or are given up put nothing;
* `Run.last_put`: a hit finds the bundle that was put last.
-/

import Wayfinder.Proofs.Atlas.Access
import Wayfinder.Proofs.Atlas.Owners

namespace Wayfinder.Atlas

/-- The step in which a bundle is put into the cache for a pair: a leading call stores it, or a pass
replaces the one that is there. -/
inductive Puts (pair : Pair) (bundle : Bundle) (taken : Occurrence) : Prop
  | store {id : CallId} (turn : taken.event = .proceed (.call id))
      (here : taken.before.calls.get? id = some (.fetch pair (.storing bundle)))
  | renew {owner : Owner} {remaining : List Pair} (turn : taken.event = .proceed owner.task)
      (here : taken.before.pass? owner = some ⟨remaining, some (pair, bundle.collection)⟩)
      (found : taken.before.outcome? bundle.collection = some (.ok bundle.metadata))
      (present : taken.before.bundle? pair ≠ none)

/-- The step in which the oracle refuses a collection its candidates. -/
def Refuses (id : CollectionId) (taken : Occurrence) : Prop :=
  ∃ task fault, taken.event = .answer task (.candidates (.error fault)) ∧
    taken.before.awaited? task = some id ∧ taken.before.Exploring id

/-- The step in which a call is given up while it works on a collection. -/
def Cancels (id : CollectionId) (taken : Occurrence) : Prop :=
  ∃ call pair, taken.event = .cancel call ∧
    taken.before.errand? (.call call) = some (pair, id)

section

variable {now : Timestamp} {state : State} {id : CallId} {pair : Pair} {bundle : Bundle}
  {taken : Occurrence}

/-! ### One step that puts a bundle -/

theorem State.bundle?_eq_none : state.bundle? pair = none ↔ state.cache.slot? pair = none :=
  Option.map_eq_none_iff

theorem step_store (here : state.calls.get? id = some (.fetch pair (.storing bundle))) :
    (step now (.proceed (.call id)) state).1 =
      (state.store pair bundle).moveTo id pair (.releasing (.ok bundle)) := by
  simp only [step, proceed, here, Option.bind_some, proceedCall, proceedFetch, Option.getD_some]

theorem step_renew {owner : Owner} {remaining : List Pair} {collection : CollectionId}
    {metadata : Metadata}
    (here : state.pass? owner = some ⟨remaining, some (pair, collection)⟩)
    (found : state.outcome? collection = some (.ok metadata)) :
    (step now (.proceed owner.task) state).1 =
      (((state.forget collection).replace pair ⟨metadata, collection⟩).countRefresh
        true).setPass owner ⟨remaining, none⟩ := by
  rcases State.pass?_eq_some here with ⟨id, rfl, calling⟩ | ⟨id, loop, rfl, looping, passing⟩
  · simp only [step, Owner.task, proceed, calling, Option.bind_some, proceedCall, proceedPass,
      found, Option.map_some, Option.getD_some, State.setPass]
  · have kept : (((state.forget collection).replace pair ⟨metadata, collection⟩).countRefresh
        true).loops.get? id = some loop := looping
    simp only [step, Owner.task, proceed, looping, Option.bind_some, proceedLoop, passing,
      proceedPass, found, Option.map_some, Option.getD_some, State.setPass, kept]

/-- **Whoever puts a bundle has worked on its collection for the very pair**, and quits it. -/
theorem Puts.quits (puts : Puts pair bundle taken) :
    ∃ owner : Owner, taken.event = .proceed owner.task ∧
      Quits owner (pair, bundle.collection) taken := by
  cases puts with
  | @store id turn here =>
    refine ⟨.call id, turn, State.errand?_of_get? here, ?_⟩
    show (step taken.now taken.event taken.before).1.errand? (.call id) = none
    have released : ((taken.before.store pair bundle).moveTo id pair
        (.releasing (.ok bundle))).calls.get? id =
          some (.fetch pair (.releasing (.ok bundle))) := Table.get?_put_self ..
    rw [turn, step_store here]
    exact State.errand?_of_get? released
  | @renew owner remaining turn here found present =>
    refine ⟨owner, turn, State.errand?_of_pass? here, ?_⟩
    show (step taken.now taken.event taken.before).1.errand? owner = none
    rw [turn, step_renew here found]
    exact State.errand?_of_pass? (State.pass?_setPass here)

/-- **A bundle that is put is cached afterwards**, if the cache holds anything at all. -/
theorem Puts.cached (puts : Puts pair bundle taken) (room : taken.before.cache.capacity ≠ 0) :
    taken.after.bundle? pair = some bundle := by
  show (step taken.now taken.event taken.before).1.bundle? pair = some bundle
  cases puts with
  | store turn here =>
    rw [turn, step_store here]
    exact Lru.value_insert_self room pair bundle none
  | renew turn here found present =>
    rw [turn, step_renew here found]
    exact Lru.value_update_self (fun absent => present (State.bundle?_eq_none.mpr absent)) bundle

/-! ### A collection that is refused -/

theorem step_refuse {task : Task} {collection : CollectionId} {exploring : Collection}
    {fault : CallFault} (awaited : state.awaited? task = some collection)
    (here : state.collections.get? collection = some exploring)
    (waits : exploring.progress = .exploring) :
    (step now (.answer task (.candidates (.error fault))) state).1.collections =
      state.collections.put collection { exploring with progress := .refused fault } := by
  cases task with
  | call call => simp only [step, answer, awaited, deliver, here, waits]
  | loop loop => simp only [step, answer, awaited, deliver, here, waits]
  | survey other position => cases awaited

/-- A collection that is refused does not wait for the oracle any more. -/
theorem Refuses.settles {capacity : Nat} {geolocating : Bool} {timeout interval : Duration}
    {history : List Occurrence} {collection : CollectionId} (refuses : Refuses collection taken)
    (run : Run capacity geolocating timeout interval history taken.before) :
    Settles collection taken := by
  obtain ⟨task, fault, event, awaited, exploring, here, waits⟩ := refuses
  have given := Nat.lt_of_lt_of_le (Run.collection_lt run here) (move_taken taken).nextCollection_le
  refine ⟨⟨exploring, here, waits⟩, given, fun evolved found => ?_⟩
  have stepped : taken.after = (step taken.now taken.event taken.before).1 := rfl
  rw [stepped, event, step_refuse awaited here waits, Table.get?_put_self] at found
  cases found
  exact Progress.noConfusion

/-! ### Where bundles are put -/

/-- No move changes the capacity of the cache. -/
theorem Move.capacity_eq {after : State} {event : Event} {effects : Effects}
    (move : Move now state event after effects) : after.cache.capacity = state.cache.capacity := by
  cases move with
  | hit | miss => exact Lru.get_capacity ..
  | store => exact Lru.insert_capacity ..
  | renew => exact Lru.update_capacity ..
  | _ => rfl

/-- A bundle that is cached after a step but not before is put in the step. -/
theorem puts_of_new (new : taken.after.bundle? pair = some bundle)
    (old : taken.before.bundle? pair ≠ some bundle) : Puts pair bundle taken := by
  have move := move_taken taken
  generalize turn : taken.event = event at move
  generalize taken.after = after at move new
  generalize taken.effects = effects at move
  cases move with
  | hit | miss => exact absurd (bundle_of_get rfl new) old
  | @store id place stored here =>
    obtain ⟨entry, there, rfl⟩ := Option.map_eq_some_iff.mp new
    rcases Lru.slot?_of_insert there with kept | ⟨rfl, same, _⟩
    · exact absurd (State.bundle?_of_slot? kept) old
    · rw [same]
      exact .store turn here
  | @renew owner place collection remaining metadata here found =>
    obtain ⟨entry, there, rfl⟩ := Option.map_eq_some_iff.mp new
    rcases Lru.slot?_of_update there with kept | ⟨rfl, same, present⟩
    · exact absurd (State.bundle?_of_slot? kept) old
    · rw [same]
      exact .renew turn here found fun absent => present (State.bundle?_eq_none.mp absent)
  | _ => exact absurd new old

end

namespace Run

variable {capacity : Nat} {geolocating : Bool} {timeout interval : Duration}
  {history : List Occurrence} {state : State}

/-! ### Every change of the cache -/

/-- The capacity of the cache never changes. -/
theorem capacity_eq (run : Run capacity geolocating timeout interval history state) :
    state.cache.capacity = capacity := by
  induction run with
  | initial => rfl
  | @step history state run now event fresh hypothesis =>
    exact (move_step now event state).capacity_eq.trans hypothesis

/-- **A bundle that is put is cached afterwards**, if the cache holds anything at all. -/
theorem cached_of_puts (run : Run capacity geolocating timeout interval history state)
    (room : capacity ≠ 0) {position : Nat} {pair : Pair} {bundle : Bundle}
    (puts : At history position (Puts pair bundle)) :
    At history position (·.after.bundle? pair = some bundle) := by
  obtain ⟨taken, here, puts⟩ := puts
  have same := capacity_eq (run.take here)
  exact ⟨taken, here, puts.cached (same.symm ▸ room)⟩

/-- A cache without capacity holds nothing. -/
theorem vacant (run : Run capacity geolocating timeout interval history state)
    (full : state.cache.capacity = 0) (pair : Pair) : state.bundle? pair = none := by
  induction run with
  | initial => rfl
  | @step history state run now event fresh hypothesis =>
    have bare : state.cache.capacity = 0 := (move_step now event state).capacity_eq.symm.trans full
    cases found : (step now event state).1.bundle? pair with
    | none => exact found
    | some bundle =>
      have absent := hypothesis bare
      have puts : Puts pair bundle ⟨state, now, event⟩ := by
        refine puts_of_new found fun old => ?_
        rw [absent] at old
        cases old
      cases puts with
      | store turn here =>
        cases turn
        rw [step_store here] at found
        have unchanged : (state.cache.insert pair bundle none).2 = state.cache :=
          Lru.insert_of_full bare pair bundle none
        have same : state.bundle? pair = some bundle := by
          rw [State.bundle?, ← unchanged]
          exact found
        rw [absent] at same
        cases same
      | renew turn here outcome present => exact absurd absent present

/-- **Whatever changes in the cache changes because a bundle is put there.** -/
theorem puts_of_changed (run : Run capacity geolocating timeout interval history state)
    {position : Nat} {taken : Occurrence} (here : history[position]? = some taken) {pair : Pair}
    (changed : taken.after.bundle? pair ≠ taken.before.bundle? pair) :
    ∃ pair' bundle, Puts pair' bundle taken := by
  have earlier := run.take here
  have looked (place : Pair) (now : Timestamp) :
      ((taken.before.cache.get place now).2.slot? pair).map (·.value) =
        taken.before.bundle? pair :=
    Lru.value_get_of_live (fun _ cached => live earlier cached now) pair
  have move := move_taken taken
  generalize turn : taken.event = event at move
  generalize taken.after = after at move changed
  generalize taken.effects = effects at move
  cases move with
  | hit | miss => exact absurd (looked _ _) changed
  | store here => exact ⟨_, _, .store turn here⟩
  | @renew owner place collection remaining metadata here found =>
    refine ⟨place, ⟨metadata, collection⟩, .renew turn here found fun absent => changed ?_⟩
    have unchanged := Lru.update_of_absent (State.bundle?_eq_none.mp absent) ⟨metadata, collection⟩
    exact congrArg (fun cache : Lru Pair Bundle => (cache.slot? pair).map (·.value)) unchanged
  | _ => exact absurd rfl changed

/-! ### Collections that put something -/

/-- Before a bundle is put, everything that its collection has found is joined in it. -/
theorem gathered (run : Run capacity geolocating timeout interval history state)
    {position : Nat} {pair : Pair} {bundle : Bundle}
    (puts : At history position (Puts pair bundle)) :
    ∃ gathered, gathered ≤ position ∧ At history gathered fun taken =>
      (∃ owner, taken.before.errand? owner = some (pair, bundle.collection)) ∧
        taken.before.outcome? bundle.collection = some (.ok bundle.metadata) := by
  obtain ⟨taken, here, puts⟩ := puts
  cases puts with
  | renew turn making found present =>
    exact ⟨position, Nat.le_refl _, taken, here, ⟨_, State.errand?_of_pass? making⟩, found⟩
  | @store id turn calling =>
    -- the call has got its bundle in an earlier step
    let holds : State → Prop := fun state =>
      state.calls.get? id = some (.fetch pair (.storing bundle))
    have none : ¬ holds (.initial capacity geolocating timeout interval) := by
      intro found
      cases found
    have held : holds taken.before := calling
    obtain ⟨gathered, began, _⟩ := (run.take here).brought_about none held
    obtain ⟨before, other, there, idle, storing⟩ := began.of_take
    rcases (move_taken other).storing_cases storing with old | ⟨working, found⟩
    · exact absurd old idle
    · exact ⟨gathered, Nat.le_of_lt before, other, there, ⟨_, working⟩, found⟩

/-- Before a bundle is put its collection has heard of the candidates. -/
theorem received_of_puts (run : Run capacity geolocating timeout interval history state)
    {position : Nat} {pair : Pair} {bundle : Bundle}
    (puts : At history position (Puts pair bundle)) :
    ∃ heard candidates, heard < position ∧
      At history heard (Receives pair bundle.collection candidates) := by
  obtain ⟨gathered, before, taken, here, ⟨owner, working⟩, found⟩ := run.gathered puts
  obtain ⟨collection, fragments, there, surveying, _⟩ := State.surveying_of_outcome found
  have heard : taken.before.Heard pair bundle.collection :=
    Or.inl ⟨collection, fragments, there, errand_pair (run.take here) working there, surveying⟩
  obtain ⟨heard, candidates, sooner, receives⟩ := run.received_earlier here heard
  exact ⟨heard, candidates, Nat.lt_of_lt_of_le sooner before, receives⟩

/-- **A collection that the oracle refuses puts nothing.** -/
theorem refused_unput (run : Run capacity geolocating timeout interval history state)
    {refused position : Nat} {pair : Pair} {bundle : Bundle}
    (refuses : At history refused (Refuses bundle.collection)) :
    ¬ At history position (Puts pair bundle) := by
  intro puts
  obtain ⟨heard, candidates, _, receives⟩ := run.received_of_puts puts
  have settles : At history refused (Settles bundle.collection) := by
    obtain ⟨taken, here, refused⟩ := refuses
    exact ⟨taken, here, refused.settles (run.take here)⟩
  have same : refused = heard := run.settles_unique settles (run.settles_of_receives receives)
  subst same
  -- the oracle does not both refuse and answer
  obtain ⟨taken, _, ⟨_, _, refused, _⟩, ⟨_, _, answered, _⟩⟩ := refuses.and receives
  rw [refused] at answered
  cases answered

/-- **A collection whose call is given up puts nothing.** -/
theorem cancelled_unput (run : Run capacity geolocating timeout interval history state)
    {dropped position : Nat} {pair : Pair} {bundle : Bundle}
    (cancels : At history dropped (Cancels bundle.collection)) :
    ¬ At history position (Puts pair bundle) := by
  rintro ⟨taken, here, puts⟩
  obtain ⟨owner, turn, quits⟩ := puts.quits
  obtain ⟨other, there, call, place, event, working⟩ := cancels
  have same : position = dropped :=
    run.quit_unique ⟨taken, here, quits⟩ ⟨other, there, quits_of_cancel event working⟩ rfl
  subst same
  rw [there] at here
  cases here
  rw [event] at turn
  cases turn

/-! ### What was put last -/

/-- **A call that is answered from the cache gets the bundle that was put last for its pair.** -/
theorem last_put (run : Run capacity geolocating timeout interval history state) {position : Nat}
    {id : CallId} {pair : Pair} {outcome : Outcome}
    (hits : At history position fun taken =>
      LooksUp id pair taken ∧ .finish id outcome ∈ taken.effects) :
    ∃ bundle put, outcome = .ok (some bundle) ∧ put < position ∧
      At history put (Puts pair bundle) ∧
      ∀ later bundle', put < later → later < position → ¬ At history later (Puts pair bundle') := by
  obtain ⟨taken, here, looks, finished⟩ := hits
  rcases run.hits_or_misses here looks with ⟨bundle, _, cached, ends⟩ | ⟨_, _, _, silent⟩
  · rw [ends] at finished
    cases List.mem_singleton.mp finished
    let holds : State → Prop := fun state => state.bundle? pair = some bundle
    have none : ¬ holds (.initial capacity geolocating timeout interval) := by
      intro found
      cases found
    have held : holds taken.before := cached
    obtain ⟨put, began, since⟩ := (run.take here).brought_about none held
    obtain ⟨before, other, there, old, new⟩ := began.of_take
    have puts : At history put (Puts pair bundle) := ⟨other, there, puts_of_new new old⟩
    refine ⟨bundle, put, rfl, before, puts, ?_⟩
    rintro later bundle' after sooner ⟨next, at_, again⟩
    have within : (history.take position)[later]? = some next := by
      rw [List.getElem?_take_of_lt sooner, at_]
    obtain ⟨still, kept⟩ := since later next after within
    have room : next.before.cache.capacity ≠ 0 := by
      intro full
      have absent := vacant (run.take at_) full pair
      rw [show next.before.bundle? pair = some bundle from still] at absent
      cases absent
    -- the same bundle would have been put twice
    have same : bundle = bundle' :=
      Option.some.inj (kept.symm.trans (again.cached room))
    subst same
    obtain ⟨_, _, quits⟩ := again.quits
    obtain ⟨_, there', puts'⟩ := puts
    obtain ⟨_, _, quits'⟩ := puts'.quits
    exact absurd (run.quit_unique ⟨_, there', quits'⟩ ⟨_, at_, quits⟩ rfl) (Nat.ne_of_lt after)
  · rw [silent] at finished
    cases finished

end Run

end Wayfinder.Atlas
