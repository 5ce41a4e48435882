/-
**Routes that have expired.**

Routes end with the first of the candidates behind them. The cache never hands them out from that
instant on. A leading call that has heard all answers, though, returns what it has found, and so do
those who have joined it: when the candidates have expired in the meantime, the routes are returned
but not stored. Between the step in which a leader comes to store its routes and the one in which
they are returned nobody waits for a collaborator, so that no time passes where time passes only
while everyone waits.

* `Prompt`: histories in which time passes only while no call can go on;
* `Run.instant_of_stores`, `Run.instant_of_tells`: what a leader has come to store is returned at
  that instant;
* `Run.finish_after_expiry`: how a call can end with routes that have expired;
* `answer_after_expiry`: it can.
-/

import Wayfinder.Proofs.Resolver.Followers
import Wayfinder.Proofs.Resolver.Storing

namespace Wayfinder

/-- The instant at which candidates end is that of the first of them. -/
theorem earliestExpiry_of_least {candidates : List Candidate} {deadline : Timestamp}
    (attained : ∃ candidate ∈ candidates, candidate.expiry.nanos = deadline)
    (least : ∀ candidate ∈ candidates, deadline ≤ candidate.expiry.nanos) :
    earliestExpiry candidates = some deadline := by
  obtain ⟨candidate, member, same⟩ := attained
  cases earliest : earliestExpiry candidates with
  | none =>
    rw [earliestExpiry_eq_none.mp earliest] at member
    cases member
  | some found =>
    obtain ⟨⟨other, member', same'⟩, least'⟩ := earliestExpiry_eq_some earliest
    have below : deadline ≤ found := same' ▸ least other member'
    have above : found ≤ deadline := same ▸ least' candidate member
    rw [Int.le_antisymm above below]

namespace Resolver

/-! ### Time that passes while everyone waits -/

/-- Time passes from one step to the next only while no call can go on without an answer. -/
def Prompt (history : List Occurrence) : Prop :=
  ∀ (position : Nat) (first second : Occurrence), history[position]? = some first →
    history[position + 1]? = some second → second.now ≠ first.now →
    ∀ id, proceed second.now (.call id) second.before = none

/-- A call that has an outcome can go on. -/
theorem proceed_of_outcome {state : State} {id : CallId} {call : Call}
    (here : state.calls.get? id = some call) (concluding : call.stage.outcome? ≠ none)
    (now : Timestamp) : proceed now (.call id) state ≠ none := by
  obtain ⟨dst, stage⟩ := call
  rw [proceed, here, Option.bind_some]
  cases stage with
  | releasing | publishing => simp [proceedCall]
  | _ => exact absurd rfl concluding

/-- A call that has joined can go on when the call that it follows has told its outcome. -/
theorem proceed_of_told {state : State} {id leader : CallId} {dst : Node} {generation : UInt64}
    {outcome : Outcome} (here : state.calls.get? id = some ⟨dst, .following leader generation⟩)
    (told : state.channels.get? leader = some (.published outcome)) (now : Timestamp) :
    proceed now (.call id) state ≠ none := by
  rw [proceed, here, Option.bind_some]
  simp [proceedCall, told]

/-- While some call can go on no time passes. -/
theorem Prompt.now_eq {history : List Occurrence} (prompt : Prompt history) {position : Nat}
    {first second : Occurrence} (here : history[position]? = some first)
    (there : history[position + 1]? = some second) {id : CallId}
    (ready : proceed second.now (.call id) second.before ≠ none) : second.now = first.now := by
  by_cases same : second.now = first.now
  · exact same
  · exact absurd (prompt position first second here there same id) ready

/-- A call that follows another one did so before, or finds its mark. -/
theorem Move.following_before {now : Timestamp} {state after : State} {event : Event}
    {effects : Effects} (move : Move now state event after effects) {id leader : CallId}
    {dst : Node} {generation : UInt64}
    (found : after.calls.get? id = some ⟨dst, .following leader generation⟩) :
    state.calls.get? id = some ⟨dst, .following leader generation⟩ ∨
      state.markers.get? dst = some ⟨generation, leader⟩ := by
  cases move.call_change found with
  | kept here => exact Or.inl here
  | onward here goes =>
    cases goes with
    | follow marked => exact Or.inr marked

/-- The step in which a call tells its outcome publishes it. -/
theorem Occurrence.Tells.publishes {occurrence : Occurrence} {id : CallId} {dst : Node}
    {lead : Lead} {outcome : Outcome} (tells : occurrence.Tells id dst lead outcome) :
    occurrence.after.channels.get? id = some (.published outcome) := by
  rw [Occurrence.after_eq, tells.1, step_proceed tells.2.1]
  exact Table.get?_put_self ..

namespace Run

variable {capacity : Nat} {timeout : Duration} {history : List Occurrence} {state : State}
  {first next : Occurrence} {id leader : CallId} {dst dst' : Node} {lead : Lead}

/-- **From the step in which a call comes to store its routes to its last step no time passes.** By
induction on the steps in between: in each of them the call has an outcome. -/
theorem instant_of_stores (run : Run capacity timeout history state) (prompt : Prompt history)
    {routes : List Route} {expiry : Option Timestamp} {stored later : Nat}
    (here : history[stored]? = some first) (stores : first.Stores id dst lead routes expiry)
    (there : history[later]? = some next) (after : stored < later) {call : Call}
    (calling : next.before.calls.get? id = some call) : next.now = first.now := by
  induction later generalizing next call with
  | zero => omega
  | succ later hypothesis =>
    have bound : later < history.length := by
      have := (List.getElem?_eq_some_iff.mp there).1
      omega
    obtain ⟨middle, between⟩ : ∃ middle, history[later]? = some middle :=
      ⟨_, List.getElem?_eq_getElem bound⟩
    have stores' : At history stored (·.Stores id dst lead routes expiry) := ⟨first, here, stores⟩
    have concluding := (run.take there).concluding (stores'.take after) calling
    have still := prompt.now_eq between there (proceed_of_outcome calling concluding next.now)
    rcases Nat.lt_succ_iff_lt_or_eq.mp after with earlier | rfl
    · rw [run.before_eq_after between there] at calling
      rcases middle.move.call_before calling with ⟨stage, before⟩ | ⟨destination, start, _⟩
      · rw [still, hypothesis between earlier before]
      · exact absurd start (run.not_start_of_le (stores'.mono fun _ stores => stores.2)
          (Nat.le_of_lt earlier) between destination)
    · rw [here] at between
      cases between
      exact still

/-- **From the step in which a call tells its outcome until those who have joined it hear of it no
time passes.** By induction on the steps in between: nobody joins a call that has told its
outcome. -/
theorem instant_of_tells (run : Run capacity timeout history state) (prompt : Prompt history)
    {outcome : Outcome} {generation : UInt64} {told later : Nat}
    (here : history[told]? = some first) (tells : first.Tells leader dst lead outcome)
    (there : history[later]? = some next) (after : told < later)
    (following : next.before.calls.get? id = some ⟨dst', .following leader generation⟩) :
    next.now = first.now := by
  induction later generalizing next with
  | zero => omega
  | succ later hypothesis =>
    have bound : later < history.length := by
      have := (List.getElem?_eq_some_iff.mp there).1
      omega
    obtain ⟨middle, between⟩ : ∃ middle, history[later]? = some middle :=
      ⟨_, List.getElem?_eq_getElem bound⟩
    have publishes : At history told (·.after.channels.get? leader = some (.published outcome)) :=
      ⟨first, here, tells.publishes⟩
    have published := (run.take there).channel_stays (publishes.take after) (by simp)
    have still := prompt.now_eq between there (proceed_of_told following published next.now)
    rcases Nat.lt_succ_iff_lt_or_eq.mp after with earlier | rfl
    · rw [run.before_eq_after between there] at following
      rcases middle.move.following_before following with before | marked
      · rw [still, hypothesis between earlier before]
      · -- the mark belongs to a call whose channel is open
        have linked := (run.take between).linked
        obtain ⟨led, marking, _⟩ := linked.marked dst' _ marked
        have opened := (linked.open_iff leader).mpr ⟨_, _, State.telling?_of_marking? marking⟩
        have shut := (run.take between).channel_stays (publishes.take earlier) (by simp)
        rw [opened] at shut
        cases shut
    · rw [here] at between
      cases between
      exact still

/-- What a call tells stems from a trip whose leader it is, and has come to be stored at that
instant. -/
theorem stored_of_tells (run : Run capacity timeout history state) {told : Nat}
    {finding : Finding} (here : history[told]? = some first)
    (tells : first.Tells id dst lead (.ok finding)) :
    ∃ (trip : Trip) (stored : Nat), trip.Stored (history.take told) stored ∧ trip.leader = id ∧
      trip.dst = dst ∧ finding = ⟨trip.routes, trip.leader⟩ ∧
      At history stored fun store => Prompt history → store.now = first.now := by
  obtain ⟨trip, stored, kept, rfl, toward, rfl⟩ :=
    (run.take here).held.calls id _ finding tells.2.1 rfl
  obtain ⟨store, earlier, stores⟩ := kept.of_take.stores
  refine ⟨trip, stored, kept, rfl, toward, rfl, store, earlier, fun prompt => ?_⟩
  obtain ⟨before, _⟩ := kept.stores.of_take
  exact (run.instant_of_stores prompt earlier stores here before tells.2.1).symm

end Run

/-! ### How a call ends with routes -/

/-- A call that is about to return the routes of a trip: its leader, or a call that has joined the
leader. -/
def State.Shares (state : State) (id : CallId) (trip : Trip) : Prop :=
  (id = trip.leader ∧ ∃ outcome,
    state.calls.get? id = some ⟨trip.dst, .publishing trip.lead outcome⟩) ∨
    ∃ generation, state.calls.get? id = some ⟨trip.dst, .following trip.leader generation⟩

/-- The routes of a trip are not in the cache at any time of a history, nor at its end. -/
def Trip.Uncached (trip : Trip) (history : List Occurrence) (state : State) : Prop :=
  (∀ occurrence ∈ history, ∀ dst entry, occurrence.before.cache.slot? dst = some entry →
    entry.value.leader ≠ trip.leader) ∧
    ∀ dst entry, state.cache.slot? dst = some entry → entry.value.leader ≠ trip.leader

/-- The step in which the leader of a trip has come to store its routes, seen from an instant at
which they are returned. Where time passes only while everyone waits the two instants are the same;
and routes that have expired by then are not stored. -/
def Trip.StoredBy (trip : Trip) (history : List Occurrence) (state : State) (stored : Nat)
    (returned deadline : Timestamp) : Prop :=
  At history stored fun store =>
    (Prompt history → store.now = returned) ∧
      (deadline ≤ store.now →
        store.after.cache = store.before.cache ∧ trip.Uncached history state)

namespace Run

variable {capacity : Nat} {timeout : Duration} {history : List Occurrence} {state : State}

theorem uncached (run : Run capacity timeout history state) {trip : Trip} {stored : Nat}
    {deadline : Timestamp} (kept : trip.Stored history stored)
    (expiring : earliestExpiry trip.candidates = some deadline)
    (late : At history stored (deadline ≤ ·.now)) : trip.Uncached history state := by
  refine ⟨fun occurrence member dst entry found => ?_, fun dst entry found => ?_⟩
  · obtain ⟨position, here⟩ := List.getElem?_of_mem member
    exact run.never_cached kept expiring late (run.take here) found
  · have whole : Run capacity timeout (history.take history.length) state := by
      rw [List.take_length]
      exact run
    exact run.never_cached kept expiring late whole found

/-- What is returned at the instant at which it came to be stored. -/
theorem storedBy (run : Run capacity timeout history state) {trip : Trip} {stored : Nat}
    {returned deadline : Timestamp} (kept : trip.Stored history stored)
    (ends : trip.EndsAt deadline)
    (instant : At history stored fun store => Prompt history → store.now = returned) :
    trip.StoredBy history state stored returned deadline := by
  have expiring := earliestExpiry_of_least ends.1 ends.2
  obtain ⟨store, here, same, stores⟩ := instant.and kept.stores
  refine ⟨store, here, same, fun late => ⟨?_, run.uncached kept expiring ⟨store, here, late⟩⟩⟩
  rw [expiring] at stores
  exact stores.cache_of_le late

/-- **How a call can end with routes that have expired.** Whoever ends with routes ends with those of
a concluded trip whose leader has come to store them, and

* a call that is answered from the cache gets them before the first of their candidates expires;
* another one is the leader or has joined it. If time passes only while everyone waits, it gets them
  at the instant at which the leader came to store them. If they had expired by then, they were not
  stored, and nobody is ever answered with them from the cache. -/
theorem finish_after_expiry (run : Run capacity timeout history state) {position : Nat}
    {occurrence : Occurrence} (here : history[position]? = some occurrence) {id : CallId}
    {finding : Finding} (finished : .finish id (.ok finding) ∈ occurrence.effects) :
    ∃ (trip : Trip) (stored : Nat), trip.Stored (history.take position) stored ∧
      finding = ⟨trip.routes, trip.leader⟩ ∧
      ∀ deadline, trip.EndsAt deadline →
        (occurrence.before.calls.get? id = some ⟨trip.dst, .lookingUp⟩ ∧
            occurrence.now < deadline) ∨
          (occurrence.before.Shares id trip ∧
            trip.StoredBy history state stored occurrence.now deadline) := by
  have earlier := run.take here
  rcases occurrence.move.finish_cases finished with
    ⟨_, _, _, _, refused⟩ | ⟨event, ⟨dst, found, calling, hit, same⟩ |
      ⟨dst, leader, generation, calling, _⟩ | ⟨dst, led, calling⟩⟩
  · cases refused
  · -- it finds an entry that is not stale
    cases same
    obtain ⟨entry, slot, rfl, live⟩ := RouteCache.get_eq_some hit
    obtain ⟨trip, stored, expiry, kept, valued, rfl, expiring, ends, _⟩ :=
      earlier.held.entries dst entry slot
    refine ⟨trip, stored, kept, valued, fun deadline least => Or.inl ⟨calling, ?_⟩⟩
    rw [earliestExpiry_of_least least.1 least.2] at expiring
    cases expiring
    rw [Lru.Entry.isStale, ends] at live
    exact Int.not_le.mp (of_decide_eq_false live)
  · -- it hears the outcome of the call that it has joined
    have hears : At history position fun occurrence =>
        occurrence.before.calls.get? id = some ⟨dst, .following leader generation⟩ ∧
          .finish id (.ok finding) ∈ occurrence.effects := ⟨occurrence, here, calling, finished⟩
    obtain ⟨told, lead, before, _, telling, there, tells⟩ := run.heard hears
    obtain ⟨trip, stored, kept, rfl, rfl, rfl, instant⟩ := run.stored_of_tells there tells
    have shorter : history.take told = (history.take position).take told := by
      rw [List.take_take, Nat.min_eq_left (Nat.le_of_lt before)]
    refine ⟨trip, stored, (shorter ▸ kept).of_take, rfl, fun deadline ends =>
      Or.inr ⟨Or.inr ⟨generation, calling⟩, run.storedBy kept.of_take ends ?_⟩⟩
    refine instant.mono fun store same prompt => ?_
    rw [same prompt, run.instant_of_tells prompt there tells here before calling]
  · -- it tells its own outcome
    have tells : occurrence.Tells id dst led (.ok finding) := ⟨event, calling, finished⟩
    obtain ⟨trip, stored, kept, rfl, rfl, rfl, instant⟩ := run.stored_of_tells here tells
    obtain ⟨⟨other, ⟨leader, _, rfl⟩, begun⟩, _⟩ := earlier.documented.calls _ _ calling
    obtain ⟨_, _, led⟩ := earlier.begun_unique begun kept.toBegun leader
    refine ⟨trip, stored, kept, rfl, fun deadline ends =>
      Or.inr ⟨Or.inl ⟨rfl, _, led ▸ calling⟩, run.storedBy kept.of_take ends instant⟩⟩

end Run

/-! ### Routes that expire on the way -/

/-- Whether time passes only while no call can go on can be checked on the entries of the tables. -/
theorem prompt_of_entries {history : List Occurrence}
    (still : ∀ pair ∈ history.zip history.tail, pair.2.now = pair.1.now ∨
      ∀ entry ∈ pair.2.before.calls.entries,
        (proceed pair.2.now (.call entry.1) pair.2.before).isNone) : Prompt history := by
  intro position first second here there differs id
  have paired : (history.zip history.tail)[position]? = some (first, second) :=
    List.getElem?_zip_eq_some.mpr ⟨here, by rw [List.getElem?_tail, there]⟩
  rcases still _ (List.mem_of_getElem? paired) with same | waiting
  · exact absurd same differs
  · cases calling : second.before.calls.get? id with
    | none => rw [proceed, calling, Option.bind_none]
    | some call =>
      exact Option.isNone_iff_eq_none.mp (waiting _ (Table.mem_entries_of_get? calling))

/-- The call that hears an answer. -/
def Event.answered? : Event → Option CallId
  | .answer id _ => some id
  | _ => none

/-- The calls that ask a question in a step. -/
def Occurrence.asking (occurrence : Occurrence) : List CallId :=
  occurrence.effects.filterMap fun effect =>
    match effect with
    | .ask (.call id) _ _ => some id
    | _ => none

/-- Every answer comes to a call that has asked less than the timeout before. -/
def Swift (timeout : Duration) (history : List Occurrence) : Prop :=
  ∀ position < history.length, At history position fun occurrence =>
    ∀ id ∈ occurrence.event.answered?, ∃ question ∈ history.take position,
      id ∈ question.asking ∧ occurrence.now < question.now + (timeout : Int)

/-- A candidate that expires while the policy engine is asked about its link. -/
def briefCandidate : Candidate where
  hops := [⟨sampleSrc, 1⟩, ⟨sampleDst, 1⟩]
  expiry := ⟨7, false⟩

/-- A leader hears of its candidate at the second instant and of its link at the ninth, when the
candidate has expired. Another call has joined it. -/
def briefSteps : List (Timestamp × Event) :=
  turns 0 0 "7-71" ++ turns 0 1 "7-71" ++
    [(1, .answer 0 (.node (.ok sampleSrc))), (2, .answer 0 (.candidates (.ok [briefCandidate]))),
      (9, .answer 0 (.compliant (.ok [briefCandidate.links]))), (9, .proceed (.call 0)),
      (9, .proceed (.call 0)), (9, .proceed (.call 0)), (9, .proceed (.call 1))]

/-- The history of those steps. -/
def brief : List Occurrence := automaton.replay (.initial 4 100) briefSteps

/-- The round trip of that leader. -/
def briefTrip : Trip where
  leader := 0
  dst := sampleDst
  lead := ⟨0, 0⟩
  src := sampleSrc
  candidates := [briefCandidate]
  answers := [briefCandidate.links]
  read := 2
  located := 3
  explored := 8
  consulted := 9
  concluded := 10

/-- What the leader returns. -/
def briefFinding : Finding :=
  ⟨[⟨sampleSrc, sampleDst, [⟨sampleSrc, 1⟩, ⟨sampleDst, 1⟩]⟩], 0⟩

theorem brief_run : Run 4 100 brief (automaton.arrive (.initial 4 100) briefSteps) :=
  Run.of_replay 4 100 briefSteps (by decide)

theorem brief_prompt : Prompt brief := prompt_of_entries (by decide +kernel)

theorem brief_concluded : briefTrip.Concluded (brief.take 13) where
  reads := ⟨_, rfl, rfl, by decide +kernel, by decide +kernel⟩
  leads := ⟨_, rfl, rfl, by decide +kernel, rfl, by decide +kernel⟩
  read_lt := by decide
  explores := ⟨_, rfl, rfl, some 100, by decide +kernel⟩
  located_lt := by decide
  consults := ⟨_, rfl, rfl, some 100, by decide +kernel⟩
  explored_lt := by decide
  concludes := ⟨_, rfl, rfl, some 7, by decide +kernel⟩
  consulted_lt := by decide

theorem brief_endsAt : briefTrip.EndsAt 7 := by
  refine ⟨⟨briefCandidate, List.mem_singleton_self _, rfl⟩, fun candidate member => ?_⟩
  obtain rfl := List.mem_singleton.mp member
  exact Int.le_refl _

/-- No other candidates are heard of in those steps. -/
theorem candidates_of_brief {occurrence : Occurrence} (member : occurrence ∈ brief) {id : CallId}
    {candidates : List Candidate}
    (heard : occurrence.event = .answer id (.candidates (.ok candidates))) :
    candidates = [briefCandidate] := by
  have taken := Automaton.mem_of_mem_replay member
  rw [heard] at taken
  have named : occurrence.now = 2 ∧ id = 0 ∧ candidates = [briefCandidate] := by
    simpa [briefSteps, turns] using taken
  exact named.2.2

/-- At the ninth instant that leader and the call that has joined it are answered with routes that
have ended at the seventh. They are in the cache at no time. -/
theorem finish_after_expiry_brief :
    briefTrip.Concluded (brief.take 13) ∧ briefTrip.EndsAt 7 ∧
      (At brief 13 fun occurrence => occurrence.now = 9 ∧
        .finish 0 (.ok briefFinding) ∈ occurrence.effects) ∧
      (At brief 14 fun occurrence => occurrence.now = 9 ∧
        .finish 1 (.ok briefFinding) ∈ occurrence.effects) ∧
      briefTrip.Uncached brief (automaton.arrive (.initial 4 100) briefSteps) := by
  have joined : At brief 14 fun occurrence => occurrence.now = 9 ∧
      .finish 1 (.ok briefFinding) ∈ occurrence.effects := by decide +kernel
  refine ⟨brief_concluded, brief_endsAt, by decide +kernel, joined, ?_⟩
  obtain ⟨occurrence, here, now, finished⟩ := joined
  obtain ⟨trip, stored, kept, same, ends⟩ := brief_run.finish_after_expiry here finished
  -- only one answer names candidates, so that this trip has ended with those of the leader
  obtain ⟨hearing, there, heard, _⟩ := kept.of_take.consults
  have candidates := candidates_of_brief (List.mem_of_getElem? there) heard
  have endsAt : trip.EndsAt 7 := by
    rw [Trip.EndsAt, candidates]
    exact brief_endsAt
  have leader : trip.leader = 0 := (congrArg Finding.leader same).symm
  rcases ends 7 endsAt with ⟨_, early⟩ | ⟨_, store, _, instant, unstored⟩
  · rw [now] at early
    exact absurd early (by decide)
  · have late : 7 ≤ store.now := by
      rw [instant brief_prompt, now]
      decide
    have uncached := (unstored late).2
    rw [Trip.Uncached, leader] at uncached
    exact uncached

/-- **A leader can return routes that have expired**, even where all answers come in time and time
passes only while everyone waits. -/
theorem answer_after_expiry :
    ¬ ∀ history state, Run 4 100 history state → Prompt history → Swift 100 history →
      ∀ position occurrence id finding, history[position]? = some occurrence →
        .finish id (.ok finding) ∈ occurrence.effects → finding.routes ≠ [] →
        ∀ (trip : Trip) (deadline : Timestamp), trip.Concluded (history.take position) →
          trip.leader = finding.leader → trip.EndsAt deadline → occurrence.now < deadline := by
  intro alive
  have swift : Swift 100 brief := by
    unfold Swift
    decide +kernel
  have led : At brief 13 fun occurrence => occurrence.now = 9 ∧
      .finish 0 (.ok briefFinding) ∈ occurrence.effects := by decide +kernel
  obtain ⟨occurrence, here, now, finished⟩ := led
  have early := alive _ _ brief_run brief_prompt swift 13 occurrence 0 briefFinding here finished
    (by decide) briefTrip 7 brief_concluded rfl brief_endsAt
  rw [now] at early
  exact absurd early (by decide)

end Resolver

end Wayfinder
