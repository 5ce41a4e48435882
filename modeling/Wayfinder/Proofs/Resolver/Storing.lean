/-
**What a leading call stores.**

A leading call that has heard all three answers comes to store what it has found, once. Whatever it
tells has been through that step, whether or not the cache has taken it; and whatever the cache holds
was taken before the first of the candidates behind it expired.

* `Occurrence.Stores`, `Trip.Stored`: the step in which a leading call comes to store its routes;
* `Stage.outcome?`: the outcome of a call that has one;
* `Run.concluding`, `Run.stores_unique`: a call that has come to store has an outcome, and does not
  store again;
* `Held`, `Run.held`: outcomes and entries are traced back to that step;
* `Run.never_cached`: routes that had expired by then are in no cache.
-/

import Wayfinder.Proofs.Resolver.Provenance

namespace Wayfinder

/-- Routes that have expired are not stored. -/
theorem RouteCache.insert_of_le {ν : Type} {cache : RouteCache ν} {dst : Node} {value : ν}
    {expiry : Timestamp} {generation : UInt64} {now : Timestamp} (late : expiry ≤ now) :
    cache.insert dst value expiry generation now = (.expired, cache) := if_pos late

namespace Resolver

/-! ### Coming to store -/

/-- The step in which a leading call comes to store the routes that it has found. -/
def Occurrence.Stores (occurrence : Occurrence) (id : CallId) (dst : Node) (lead : Lead)
    (routes : List Route) (expiry : Option Timestamp) : Prop :=
  occurrence.event = .proceed (.call id) ∧
    occurrence.before.calls.get? id = some ⟨dst, .storing lead routes expiry⟩

/-- The outcome of a leading call that has not told it yet. -/
def Stage.outcome? : Stage → Option Outcome
  | .releasing _ outcome | .publishing _ outcome => some outcome
  | _ => none

/-- A concluded trip whose leader has come to store its routes in some step. -/
structure Trip.Stored (trip : Trip) (history : List Occurrence) (stored : Nat) : Prop extends
    Concluded trip history where
  stores : At history stored (·.Stores trip.leader trip.dst trip.lead trip.routes
    (earliestExpiry trip.candidates))
  concluded_lt : trip.concluded < stored

namespace Trip.Stored

variable {trip : Trip} {history : List Occurrence} {stored : Nat}

theorem append (kept : trip.Stored history stored) (later : List Occurrence) :
    trip.Stored (history ++ later) stored :=
  ⟨kept.toConcluded.append later, kept.stores.append later, kept.concluded_lt⟩

theorem of_take {count : Nat} (kept : trip.Stored (history.take count) stored) :
    trip.Stored history stored := by
  have whole := kept.append (history.drop count)
  rwa [List.take_append_drop] at whole

end Trip.Stored

section Step

variable {now : Timestamp} {state after : State} {event : Event} {effects : Effects} {id : CallId}
  {dst : Node} {lead : Lead} {routes : List Route} {expiry : Option Timestamp}

theorem step_storing (here : state.calls.get? id = some ⟨dst, .storing lead routes expiry⟩)
    (now : Timestamp) :
    (step now (.proceed (.call id)) state).1 =
      { state with cache := storedCache now id dst lead routes expiry state.cache }.moveTo id
        ⟨dst, .storing lead routes expiry⟩ (.releasing lead (.ok ⟨routes, id⟩)) := by
  rw [step_proceed here]
  exact store_state ..

/-- **Routes that have expired leave the cache as it was.** -/
theorem Occurrence.Stores.cache_of_le {occurrence : Occurrence} {deadline : Timestamp}
    (stores : occurrence.Stores id dst lead routes (some deadline))
    (late : deadline ≤ occurrence.now) : occurrence.after.cache = occurrence.before.cache := by
  rw [Occurrence.after_eq, stores.1, step_storing stores.2, State.moveTo_cache, storedCache,
    RouteCache.insert_of_le late]

/-- A call that has an outcome keeps having one until it ends. -/
theorem Move.outcome_stays (move : Move now state event after effects)
    (running : ∀ destination, event ≠ .start id destination) {call call' : Call}
    (here : state.calls.get? id = some call) (some' : call.stage.outcome? ≠ none)
    (there : after.calls.get? id = some call') : call'.stage.outcome? ≠ none := by
  cases move.call_change there with
  | kept old =>
    rw [here] at old
    cases old
    exact some'
  | begun starts => exact absurd starts (running _)
  | onward before goes =>
    rw [here] at before
    cases before
    cases goes with
    | miss | read | follow | lead | retry | locate | explore | consult => exact absurd rfl some'
    | fail | store | release => exact Option.some_ne_none _

end Step

/-! ### Storing once -/

namespace Run

variable {capacity : Nat} {timeout : Duration} {history : List Occurrence} {state : State}
  {id : CallId} {dst dst' : Node} {lead lead' : Lead} {routes routes' : List Route}
  {expiry expiry' : Option Timestamp}

/-- A call that was under way does not start afterwards. -/
theorem not_start_of_le (run : Run capacity timeout history state) {earlier position : Nat}
    {call : Call} {occurrence : Occurrence}
    (calling : At history earlier (·.before.calls.get? id = some call)) (later : earlier ≤ position)
    (here : history[position]? = some occurrence) (destination : String) :
    occurrence.event ≠ .start id destination := by
  intro start
  obtain ⟨before, _⟩ := run.started_before ⟨occurrence, here, destination, start⟩ calling
  omega

/-- **A call that has come to store has an outcome** until it ends. -/
theorem concluding (run : Run capacity timeout history state) {stored : Nat} {call : Call}
    (stores : At history stored (·.Stores id dst lead routes expiry))
    (here : state.calls.get? id = some call) : call.stage.outcome? ≠ none := by
  let holds : State → Prop := fun state =>
    ∀ call, state.calls.get? id = some call → call.stage.outcome? ≠ none
  have found : At history stored (holds ·.after) := by
    obtain ⟨occurrence, here, event, calling⟩ := stores
    refine ⟨occurrence, here, fun call after => ?_⟩
    rw [Occurrence.after_eq, event, step_storing calling, State.moveTo_calls,
      Table.get?_put_self] at after
    cases after
    exact Option.some_ne_none _
  refine (run.stays found fun later taken after here before call calling => ?_).2 call here
  have running := run.not_start_of_le (stores.mono fun _ stores => stores.2) (Nat.le_of_lt after) here
  have move := Occurrence.move taken
  rcases move.call_before calling with ⟨stage, earlier⟩ | ⟨destination, start, _⟩
  · exact move.outcome_stays running earlier (before _ earlier) calling
  · exact absurd start (running destination)

/-- **A call comes to store once.** -/
theorem stores_unique (run : Run capacity timeout history state) {first second : Nat}
    (one : At history first (·.Stores id dst lead routes expiry))
    (two : At history second (·.Stores id dst' lead' routes' expiry')) :
    first = second ∧ dst = dst' ∧ lead = lead' ∧ routes = routes' ∧ expiry = expiry' := by
  -- whoever stores has no outcome, and so has not stored before
  have last {dst dst' : Node} {lead lead' : Lead} {routes routes' : List Route}
      {expiry expiry' : Option Timestamp} {first second : Nat}
      (one : At history first (·.Stores id dst lead routes expiry))
      (two : At history second (·.Stores id dst' lead' routes' expiry')) : second ≤ first := by
    obtain ⟨occurrence, earlier, _, _, calling⟩ := run.take_of_at two
    refine Nat.le_of_not_lt fun before => ?_
    exact absurd rfl (earlier.concluding (one.take before) calling)
  have same : first = second := Nat.le_antisymm (last two one) (last one two)
  subst same
  obtain ⟨occurrence, _, ⟨_, calling⟩, _, calling'⟩ := one.and two
  rw [calling] at calling'
  cases calling'
  exact ⟨rfl, rfl, rfl, rfl, rfl⟩

end Run

/-! ### What has been stored -/

/-- Outcomes and entries stem from trips whose leaders have come to store their routes. -/
structure Held (history : List Occurrence) (state : State) : Prop where
  calls : ∀ id call finding, state.calls.get? id = some call →
    call.stage.outcome? = some (.ok finding) →
    ∃ trip stored, Trip.Stored trip history stored ∧ trip.leader = id ∧ trip.dst = call.dst ∧
      finding = ⟨trip.routes, trip.leader⟩
  entries : ∀ dst entry, state.cache.slot? dst = some entry →
    ∃ trip stored deadline, Trip.Stored trip history stored ∧
      entry.value = ⟨trip.routes, trip.leader⟩ ∧ trip.dst = dst ∧
      earliestExpiry trip.candidates = some deadline ∧ entry.expires = some deadline ∧
      At history stored (·.now < deadline)

namespace Held

variable {history : List Occurrence} {state : State} {now : Timestamp} {event : Event}
  {after : State} {effects : Effects}

/-- The step in which a leader comes to store the routes of its trip. -/
theorem stored_last {trip : Trip} {expiry : Option Timestamp} {stage : Stage}
    (concluded : trip.Concluded history) (expiring : earliestExpiry trip.candidates = expiry)
    (staged : stage = .storing trip.lead trip.routes expiry)
    (here : state.calls.get? trip.leader = some ⟨trip.dst, stage⟩) :
    trip.Stored (history ++ [⟨state, now, .proceed (.call trip.leader)⟩]) history.length := by
  subst expiring
  subst staged
  exact ⟨concluded.append _, At.last ⟨rfl, here⟩, concluded.concludes.lt_length⟩

/-- **After a step every outcome stems from a trip again.** A new one with routes is that of a call
that has just come to store them. -/
theorem calls_step (held : Held history state) (documented : Documented history state)
    (move : Move now state event after effects) (other : CallId) (call : Call) (finding : Finding)
    (found : after.calls.get? other = some call)
    (outcome : call.stage.outcome? = some (.ok finding)) :
    ∃ trip stored, Trip.Stored trip (history ++ [⟨state, now, event⟩]) stored ∧
      trip.leader = other ∧ trip.dst = call.dst ∧ finding = ⟨trip.routes, trip.leader⟩ := by
  have old {dst : Node} {stage : Stage} (found : state.calls.get? other = some ⟨dst, stage⟩)
      (outcome : stage.outcome? = some (.ok finding)) :
      ∃ trip stored, Trip.Stored trip (history ++ [⟨state, now, event⟩]) stored ∧
        trip.leader = other ∧ trip.dst = dst ∧ finding = ⟨trip.routes, trip.leader⟩ := by
    obtain ⟨trip, stored, kept, rest⟩ := held.calls other _ finding found outcome
    exact ⟨trip, stored, kept.append _, rest⟩
  cases move.call_change found with
  | kept here => exact old here outcome
  | begun => cases outcome
  | onward here goes =>
    cases goes with
    | miss | read | follow | lead | retry | locate | explore | consult | fail => cases outcome
    | store =>
      cases outcome
      obtain ⟨trip, ⟨rfl, rfl, rfl⟩, rfl, expiring, concluded⟩ := documented.calls other _ here
      exact ⟨trip, history.length, stored_last concluded expiring rfl here, rfl, rfl, rfl⟩
    | release => exact old here outcome

/-- **After a step every entry stems from a trip again**, and was stored in time. -/
theorem entries_step (held : Held history state) (documented : Documented history state)
    (move : Move now state event after effects) (place : Node) (entry : Lru.Entry Finding)
    (found : after.cache.slot? place = some entry) :
    ∃ trip stored deadline, Trip.Stored trip (history ++ [⟨state, now, event⟩]) stored ∧
      entry.value = ⟨trip.routes, trip.leader⟩ ∧ trip.dst = place ∧
      earliestExpiry trip.candidates = some deadline ∧ entry.expires = some deadline ∧
      At (history ++ [⟨state, now, event⟩]) stored (·.now < deadline) := by
  have old {entry : Lru.Entry Finding} (found : state.cache.slot? place = some entry) :
      ∃ trip stored deadline, Trip.Stored trip (history ++ [⟨state, now, event⟩]) stored ∧
        entry.value = ⟨trip.routes, trip.leader⟩ ∧ trip.dst = place ∧
        earliestExpiry trip.candidates = some deadline ∧ entry.expires = some deadline ∧
        At (history ++ [⟨state, now, event⟩]) stored (·.now < deadline) := by
    obtain ⟨trip, stored, deadline, kept, valued, toward, expiring, ends, early⟩ :=
      held.entries place entry found
    exact ⟨trip, stored, deadline, kept.append _, valued, toward, expiring, ends, early.append _⟩
  cases move with
  | hit | miss =>
    obtain ⟨before, here, same⟩ := RouteCache.slot?_of_get found
    have kept := old here
    rw [same]
    exact kept
  | @store id dst led routes expiry effects here quiet =>
    rw [State.moveTo_cache] at found
    cases expiry with
    | none => exact old found
    | some deadline =>
      simp only [storedCache] at found
      rcases Int.lt_or_le now deadline with early | late
      · rcases RouteCache.slot?_of_insert found with before | ⟨rfl, valued, ends, _⟩
        · exact old before
        · obtain ⟨trip, ⟨rfl, rfl, rfl⟩, rfl, expiring, concluded⟩ := documented.calls id _ here
          exact ⟨trip, history.length, deadline, stored_last concluded expiring rfl here, valued,
            rfl, expiring, ends, At.last early⟩
      · rw [RouteCache.insert_of_le late] at found
        exact old found
  | release =>
    rw [State.moveTo_cache, State.unmark_cache] at found
    exact old found
  | abandon =>
    rw [State.announce_cache, State.dismiss_cache, State.unmark_cache] at found
    exact old found
  | fire => exact old (RouteCache.slot?_of_fire found)
  | purge =>
    rw [RouteCache.slot?_purge] at found
    cases found
  | _ => exact old found

end Held

namespace Run

variable {capacity : Nat} {timeout : Duration} {history : List Occurrence} {state : State}

/-- **In every run outcomes and entries stem from trips whose leaders have come to store.** -/
theorem held (run : Run capacity timeout history state) : Held history state := by
  induction run with
  | initial =>
    refine ⟨fun id call finding found => ?_, fun dst entry found => ?_⟩
    · cases found
    · cases found
  | @step history state run now event fresh held =>
    have move := move_step now event state
    exact ⟨held.calls_step (documented run) move, held.entries_step (documented run) move⟩

/-- **Routes that had expired when their leader came to store them are in no cache**, at any time of
the run. -/
theorem never_cached (run : Run capacity timeout history state) {trip : Trip} {stored : Nat}
    {deadline : Timestamp} (kept : trip.Stored history stored)
    (expiring : earliestExpiry trip.candidates = some deadline)
    (late : At history stored (deadline ≤ ·.now)) {count : Nat} {state' : State}
    (earlier : Run capacity timeout (history.take count) state') {dst : Node}
    {entry : Lru.Entry Finding} (found : state'.cache.slot? dst = some entry) :
    entry.value.leader ≠ trip.leader := by
  intro same
  obtain ⟨other, stored', deadline', kept', valued, _, expiring', _, early⟩ :=
    earlier.held.entries dst entry found
  have leader : other.leader = trip.leader := by rw [← same, valued]
  have stores := kept'.of_take.stores
  rw [leader] at stores
  -- a call comes to store once, so that the entry was stored in that very step
  obtain ⟨rfl, _, _, _, expiry⟩ := run.stores_unique stores kept.stores
  rw [expiring, expiring'] at expiry
  cases expiry
  obtain ⟨occurrence, _, before, after⟩ := early.of_take.2.and late
  exact Int.not_lt.mpr after before

end Run

end Resolver

end Wayfinder
