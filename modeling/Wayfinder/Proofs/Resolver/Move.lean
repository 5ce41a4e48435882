/-
**What a step of the resolver can do.**

The machine's step is a function of the event, the stage of the call and the tables. Here it is
taken apart once: each way in which a step can change the state is a case of `Move`, with the
conditions under which the step takes it.

* `Move`: the cases, with the state and the effects after each;
* `move_step`: every step is one of them;
* `Stage.marking?`, `Stage.telling?`: the lead of a call that has its mark, and of one whose channel
  is still open;
* `Move.finish_cases`, `Move.ask_cases`: how a call ends, and who asks questions.
-/

import Wayfinder.Resolver

namespace Wayfinder.Resolver

/-! ### The parts of a state after its operations -/

namespace State

variable (state : State) (id other : CallId) (call : Call) (stage : Stage)

@[simp] theorem moveTo_calls :
    (state.moveTo id call stage).calls = state.calls.put id ⟨call.dst, stage⟩ := rfl

@[simp] theorem moveTo_markers : (state.moveTo id call stage).markers = state.markers := rfl

@[simp] theorem moveTo_channels : (state.moveTo id call stage).channels = state.channels := rfl

@[simp] theorem moveTo_cache : (state.moveTo id call stage).cache = state.cache := rfl

@[simp] theorem dismiss_calls : (state.dismiss id).calls = state.calls.erase id := rfl

@[simp] theorem dismiss_markers : (state.dismiss id).markers = state.markers := rfl

@[simp] theorem dismiss_channels : (state.dismiss id).channels = state.channels := rfl

@[simp] theorem dismiss_cache : (state.dismiss id).cache = state.cache := rfl

variable (dst : Node) (generation : UInt64)

@[simp] theorem unmark_calls : (state.unmark dst generation).calls = state.calls := by
  unfold unmark
  split
  · split <;> rfl
  · rfl

@[simp] theorem unmark_channels : (state.unmark dst generation).channels = state.channels := by
  unfold unmark
  split
  · split <;> rfl
  · rfl

@[simp] theorem unmark_cache : (state.unmark dst generation).cache = state.cache := by
  unfold unmark
  split
  · split <;> rfl
  · rfl

/-- Only a mark of the destination and of the generation goes. -/
theorem get?_unmark_markers (place : Node) :
    (state.unmark dst generation).markers.get? place =
      if dst = place ∧ (state.markers.get? place).map (·.generation) = some generation then none
      else state.markers.get? place := by
  unfold unmark
  by_cases same : dst = place
  · subst same
    cases found : state.markers.get? dst with
    | none => simp [found]
    | some marker =>
      by_cases matching : marker.generation = generation
      · simp [matching]
      · simp [matching, found]
  · split
    · split <;> simp [same]
    · simp [same]

variable (channel : Channel)

@[simp] theorem announce_calls : (state.announce id channel).1.calls = state.calls := rfl

@[simp] theorem announce_markers : (state.announce id channel).1.markers = state.markers := rfl

@[simp] theorem announce_channels :
    (state.announce id channel).1.channels = state.channels.put id channel := rfl

@[simp] theorem announce_cache : (state.announce id channel).1.cache = state.cache := rfl

end State

section Lead

variable (now : Timestamp) (id : CallId) (call : Call) (generation : UInt64) (state : State)

@[simp] theorem lead_calls : (lead now id call generation state).1.calls =
    state.calls.put id ⟨call.dst, .locating ⟨generation, now⟩⟩ := rfl

@[simp] theorem lead_markers : (lead now id call generation state).1.markers =
    state.markers.put call.dst ⟨generation, id⟩ := rfl

@[simp] theorem lead_channels :
    (lead now id call generation state).1.channels = state.channels.put id .open := rfl

@[simp] theorem lead_cache : (lead now id call generation state).1.cache = state.cache := rfl

end Lead

/-- The cache after a leading call has stored what it found. -/
def storedCache (now : Timestamp) (id : CallId) (dst : Node) (led : Lead) (routes : List Route)
    (expiry : Option Timestamp) (cache : RouteCache Finding) : RouteCache Finding :=
  match expiry with
  | none => cache
  | some expiry => (cache.insert dst ⟨routes, id⟩ expiry led.generation now).2

theorem store_state (now : Timestamp) (id : CallId) (call : Call) (led : Lead)
    (routes : List Route) (expiry : Option Timestamp) (state : State) :
    (store now id call led routes expiry state).1 =
      { state with cache := storedCache now id call.dst led routes expiry state.cache }.moveTo id
        call (.releasing led (.ok ⟨routes, id⟩)) := by
  unfold store storedCache
  cases expiry with
  | none => rfl
  | some expiry =>
    simp only
    split <;> rfl

/-! ### The leads of a call -/

/-- The lead of a call that holds its end of an open channel: one that leads, or is about to tell
its outcome. -/
def Stage.telling? : Stage → Option Lead
  | .publishing lead _ => some lead
  | stage => stage.lead?

/-- A call that has its mark holds its end of the channel. -/
theorem Stage.telling?_of_lead? {stage : Stage} {lead : Lead} (leading : stage.lead? = some lead) :
    stage.telling? = some lead := by
  cases stage <;> first | exact leading | cases leading

/-! ### The moves -/

/-- Whether an event is a purge. -/
def Event.isPurge : Event → Bool
  | .purge => true
  | _ => false

/-- How an answer fails a call at a stage, if it does. Answers that come too late are among those that
a collaborator refuses. -/
def Stage.failure? : Stage → Reply → Option ResolveFault
  | .locating _, .node (.error fault) => some (.oracle fault)
  | .exploring _ _, .candidates (.error fault) => some (.oracle fault)
  | .consulting _ _ _, .compliant (.error fault) => some (.policy fault)
  | _, _ => none

/-- The ways in which a step can change a state. -/
inductive Move (now : Timestamp) (state : State) : Event → State → Effects → Prop
  /-- A destination that names no node is refused. -/
  | refuse {id : CallId} {destination : String} {fault : NodeFault}
      (parsed : Node.parseTrimmed destination = .error fault) :
      Move now state (.start id destination) state
        [.finish id (.error (.invalidDestination fault.message))]
  | begin {id : CallId} {destination : String} {dst : Node}
      (parsed : Node.parseTrimmed destination = .ok dst) :
      Move now state (.start id destination)
        { state with calls := state.calls.put id ⟨dst, .lookingUp⟩ } [.resume (.call id)]
  | hit {id : CallId} {dst : Node} {finding : Finding}
      (here : state.calls.get? id = some ⟨dst, .lookingUp⟩)
      (found : (state.cache.get dst now).1 = some finding) :
      Move now state (.proceed (.call id))
        ({ state with cache := (state.cache.get dst now).2 }.dismiss id) [.finish id (.ok finding)]
  | miss {id : CallId} {dst : Node} (here : state.calls.get? id = some ⟨dst, .lookingUp⟩)
      (found : (state.cache.get dst now).1 = none) :
      Move now state (.proceed (.call id))
        ({ state with cache := (state.cache.get dst now).2 }.moveTo id ⟨dst, .lookingUp⟩
          .readingGeneration) []
  | read {id : CallId} {dst : Node}
      (here : state.calls.get? id = some ⟨dst, .readingGeneration⟩) :
      Move now state (.proceed (.call id))
        (state.moveTo id ⟨dst, .readingGeneration⟩ (.joining state.cache.generation)) []
  | follow {id leader : CallId} {dst : Node} {generation : UInt64}
      (here : state.calls.get? id = some ⟨dst, .joining generation⟩)
      (marked : state.markers.get? dst = some ⟨generation, leader⟩) :
      Move now state (.proceed (.call id))
        (state.moveTo id ⟨dst, .joining generation⟩ (.following leader generation)) []
  | lead {id : CallId} {dst : Node} {generation : UInt64}
      (here : state.calls.get? id = some ⟨dst, .joining generation⟩)
      (unmarked : ∀ leader, state.markers.get? dst ≠ some ⟨generation, leader⟩) :
      Move now state (.proceed (.call id))
        (lead now id ⟨dst, .joining generation⟩ generation state).1
        [.ask (.call id) .localNode (some state.timeout)]
  | hear {id leader : CallId} {dst : Node} {generation : UInt64} {outcome : Outcome}
      (here : state.calls.get? id = some ⟨dst, .following leader generation⟩)
      (told : state.channels.get? leader = some (.published outcome)) :
      Move now state (.proceed (.call id)) (state.dismiss id) [.finish id outcome]
  /-- The call that was followed has been given up. -/
  | retry {id leader : CallId} {dst : Node} {generation : UInt64}
      (here : state.calls.get? id = some ⟨dst, .following leader generation⟩)
      (lost : state.channels.get? leader = some .closed ∨ state.channels.get? leader = none) :
      Move now state (.proceed (.call id))
        (state.moveTo id ⟨dst, .following leader generation⟩ .lookingUp) []
  | locate {id : CallId} {dst src : Node} {led : Lead}
      (here : state.calls.get? id = some ⟨dst, .locating led⟩) :
      Move now state (.answer id (.node (.ok src)))
        (state.moveTo id ⟨dst, .locating led⟩ (.exploring led src))
        [.ask (.call id) (.candidates dst src true) (some state.timeout)]
  | explore {id : CallId} {dst src : Node} {led : Lead} {candidates : List Candidate}
      (here : state.calls.get? id = some ⟨dst, .exploring led src⟩) :
      Move now state (.answer id (.candidates (.ok candidates)))
        (state.moveTo id ⟨dst, .exploring led src⟩
          (.consulting led src (earliestExpiry candidates)))
        [.ask (.call id) (.compliant src dst (candidates.flatMap Candidate.links))
          (some state.timeout)]
  | consult {id : CallId} {dst src : Node} {led : Lead} {expiry : Option Timestamp}
      {answers : List (List Link)} (tally : Tally)
      (here : state.calls.get? id = some ⟨dst, .consulting led src expiry⟩) :
      Move now state (.answer id (.compliant (.ok answers)))
        ({ state with cache := { state.cache with tally } }.moveTo id
          ⟨dst, .consulting led src expiry⟩
          (.storing led (answers.flatMap (reconstruct src dst)) expiry)) []
  /-- A collaborator has failed a leading call. -/
  | fail {id : CallId} {dst : Node} {stage : Stage} {led : Lead} {reply : Reply}
      (fault : ResolveFault) (here : state.calls.get? id = some ⟨dst, stage⟩)
      (leading : stage.lead? = some led) (failing : stage.failure? reply = some fault) :
      Move now state (.answer id reply)
        (state.moveTo id ⟨dst, stage⟩ (.releasing led (.error fault))) []
  | store {id : CallId} {dst : Node} {led : Lead} {routes : List Route}
      {expiry : Option Timestamp} {effects : Effects}
      (here : state.calls.get? id = some ⟨dst, .storing led routes expiry⟩)
      (quiet : ∀ effect ∈ effects, ∃ timer due, effect = .spawn (.timer timer) due) :
      Move now state (.proceed (.call id))
        ({ state with cache := storedCache now id dst led routes expiry state.cache }.moveTo id
          ⟨dst, .storing led routes expiry⟩ (.releasing led (.ok ⟨routes, id⟩))) effects
  | release {id : CallId} {dst : Node} {led : Lead} {outcome : Outcome}
      (here : state.calls.get? id = some ⟨dst, .releasing led outcome⟩) :
      Move now state (.proceed (.call id))
        ((state.unmark dst led.generation).moveTo id ⟨dst, .releasing led outcome⟩
          (.publishing led outcome)) []
  | publish {id : CallId} {dst : Node} {led : Lead} {outcome : Outcome}
      (here : state.calls.get? id = some ⟨dst, .publishing led outcome⟩) :
      Move now state (.proceed (.call id))
        ((state.announce id (.published outcome)).1.dismiss id)
        ((state.announce id (.published outcome)).2 ++ [.finish id outcome])
  /-- A leading call that has its mark is given up. -/
  | abandon {id : CallId} {dst : Node} {stage : Stage} {led : Lead}
      (here : state.calls.get? id = some ⟨dst, stage⟩) (leading : stage.lead? = some led) :
      Move now state (.cancel id)
        (((state.unmark dst led.generation).dismiss id).announce id .closed).1
        (((state.unmark dst led.generation).dismiss id).announce id .closed).2
  /-- A call is given up before it has told its outcome. -/
  | withhold {id : CallId} {dst : Node} {led : Lead} {outcome : Outcome}
      (here : state.calls.get? id = some ⟨dst, .publishing led outcome⟩) :
      Move now state (.cancel id) ((state.dismiss id).announce id .closed).1
        ((state.dismiss id).announce id .closed).2
  /-- A call that does not lead is given up. -/
  | leave {id : CallId} {dst : Node} {stage : Stage}
      (here : state.calls.get? id = some ⟨dst, stage⟩) (silent : stage.telling? = none) :
      Move now state (.cancel id) (state.dismiss id) []
  | fire {timer : TimerId} {due : RouteCache.Timer}
      (pending : state.cache.timers.get? timer = some due)
      (ripe : due.deadline ≤ now) :
      Move now state (.proceed (.timer timer)) { state with cache := state.cache.fire timer } []
  | purge : Move now state .purge { state with cache := state.cache.purge } []
  /-- Nothing changes. -/
  | idle {event : Event} (kept : event.isPurge = false) : Move now state event state []

/-! ### Every step is a move -/

variable {now : Timestamp} {state : State}

theorem move_start (id : CallId) (destination : String) :
    Move now state (.start id destination) (start id destination state).1
      (start id destination state).2 := by
  unfold start
  split
  · next fault parsed => exact .refuse parsed
  · next dst parsed => exact .begin parsed

theorem join_of_marked {id leader : CallId} {call : Call} {generation : UInt64}
    (marked : state.markers.get? call.dst = some ⟨generation, leader⟩) :
    join now id call generation state = (state.moveTo id call (.following leader generation), []) := by
  simp only [join, marked, if_pos]

theorem join_of_unmarked {id : CallId} {call : Call} {generation : UInt64}
    (unmarked : ∀ leader, state.markers.get? call.dst ≠ some ⟨generation, leader⟩) :
    join now id call generation state = lead now id call generation state := by
  unfold join
  split
  · next marker found =>
    refine if_neg fun same => unmarked marker.leader ?_
    rw [found, ← same]
  · rfl

/-- A call that joins follows a mark of its generation and leads without one. -/
theorem move_join {id : CallId} {dst : Node} {generation : UInt64}
    (here : state.calls.get? id = some ⟨dst, .joining generation⟩) :
    Move now state (.proceed (.call id)) (join now id ⟨dst, .joining generation⟩ generation state).1
      (join now id ⟨dst, .joining generation⟩ generation state).2 := by
  by_cases marked : ∃ leader, state.markers.get? dst = some ⟨generation, leader⟩
  · obtain ⟨leader, marked⟩ := marked
    rw [join_of_marked marked]
    exact .follow here marked
  · have unmarked : ∀ leader, state.markers.get? dst ≠ some ⟨generation, leader⟩ :=
      fun leader found => marked ⟨leader, found⟩
    rw [join_of_unmarked unmarked]
    exact .lead here unmarked

theorem move_store {id : CallId} {dst : Node} {led : Lead} {routes : List Route}
    {expiry : Option Timestamp}
    (here : state.calls.get? id = some ⟨dst, .storing led routes expiry⟩) :
    Move now state (.proceed (.call id))
      (store now id ⟨dst, .storing led routes expiry⟩ led routes expiry state).1
      (store now id ⟨dst, .storing led routes expiry⟩ led routes expiry state).2 := by
  rw [store_state]
  refine .store here fun effect asked => ?_
  unfold store at asked
  split at asked
  · cases asked
  · simp only at asked
    split at asked
    · next timer _ => exact ⟨timer, _, List.mem_singleton.mp asked⟩
    · cases asked

theorem move_proceedCall {id : CallId} {call : Call} (here : state.calls.get? id = some call)
    {result : State × Effects} (stepped : proceedCall now id call state = some result) :
    Move now state (.proceed (.call id)) result.1 result.2 := by
  obtain ⟨dst, stage⟩ := call
  cases stage with
  | lookingUp =>
    simp only [proceedCall] at stepped
    split at stepped
    · next finding cache looked =>
      cases stepped
      have found : (state.cache.get dst now).1 = some finding := by rw [looked]
      rw [show cache = (state.cache.get dst now).2 by rw [looked]]
      exact .hit here found
    · next cache looked =>
      cases stepped
      have found : (state.cache.get dst now).1 = none := by rw [looked]
      rw [show cache = (state.cache.get dst now).2 by rw [looked]]
      exact .miss here found
  | readingGeneration =>
    cases stepped
    exact .read here
  | joining generation =>
    cases stepped
    exact move_join here
  | following leader generation =>
    simp only [proceedCall] at stepped
    split at stepped
    · cases stepped
    · next outcome told =>
      cases stepped
      exact .hear here told
    · next notOpen notTold =>
      cases stepped
      refine .retry here ?_
      cases channel : state.channels.get? leader with
      | none => exact Or.inr rfl
      | some channel' =>
        cases channel' with
        | «open» => exact absurd channel notOpen
        | published outcome => exact absurd channel (notTold outcome)
        | closed => exact Or.inl rfl
  | locating led => cases stepped
  | exploring led src => cases stepped
  | consulting led src expiry => cases stepped
  | storing led routes expiry =>
    cases stepped
    exact move_store here
  | releasing led outcome =>
    cases stepped
    exact .release here
  | publishing led outcome =>
    cases stepped
    exact .publish here

theorem move_answerCall {id : CallId} {call : Call} (here : state.calls.get? id = some call)
    (reply : Reply) :
    Move now state (.answer id reply) (answerCall now id call reply state).1
      (answerCall now id call reply state).2 := by
  obtain ⟨dst, stage⟩ := call
  unfold answerCall
  split
  · next led src staged =>
    cases staged
    exact .locate here
  · next led fault staged =>
    cases staged
    exact .fail (.oracle fault) here rfl rfl
  · next led src candidates staged =>
    cases staged
    exact .explore here
  · next led src fault staged =>
    cases staged
    exact .fail (.oracle fault) here rfl rfl
  · next led src expiry answers staged =>
    cases staged
    exact .consult _ here
  · next led src expiry fault staged =>
    cases staged
    exact .fail (.policy fault) here rfl rfl
  · exact .idle rfl

theorem move_cancelCall {id : CallId} {call : Call} (here : state.calls.get? id = some call) :
    Move now state (.cancel id) (cancelCall id call state).1 (cancelCall id call state).2 := by
  obtain ⟨dst, stage⟩ := call
  unfold cancelCall
  split
  · next led leading => exact .abandon here leading
  · next led outcome _ staged =>
    simp only at staged
    subst staged
    exact .withhold here
  · next silent unpublished =>
    refine .leave here ?_
    cases stage with
    | publishing led outcome => exact absurd rfl (unpublished led outcome)
    | _ => exact silent

/-- **Every step is a move.** -/
theorem move_step (now : Timestamp) (event : Event) (state : State) :
    Move now state event (step now event state).1 (step now event state).2 := by
  cases event with
  | start id destination => exact move_start id destination
  | proceed task =>
    cases stepped : proceed now task state with
    | none =>
      simp only [step, stepped, Option.getD_none]
      exact .idle rfl
    | some result =>
      simp only [step, stepped, Option.getD_some]
      cases task with
      | call id =>
        simp only [proceed, Option.bind_eq_some_iff] at stepped
        obtain ⟨call, here, stepped⟩ := stepped
        exact move_proceedCall here stepped
      | timer timer =>
        simp only [proceed] at stepped
        split at stepped
        · next due pending =>
          split at stepped
          · next ripe =>
            cases stepped
            exact .fire pending ripe
          · cases stepped
        · cases stepped
  | answer id reply =>
    simp only [step]
    split
    · next call here => exact move_answerCall here reply
    · exact .idle rfl
  | cancel id =>
    simp only [step]
    split
    · next call here => exact move_cancelCall here
    · exact .idle rfl
  | purge => exact .purge

/-! ### The steps of a call that is under way -/

theorem step_proceed {id : CallId} {call : Call} (here : state.calls.get? id = some call)
    (now : Timestamp) : step now (.proceed (.call id)) state =
      (proceedCall now id call state).getD (state, []) := by
  rw [step, proceed, here, Option.bind_some]

section Turn

variable {id leader : CallId} {dst : Node} {generation : UInt64} {finding : Finding}

theorem step_hit (here : state.calls.get? id = some ⟨dst, .lookingUp⟩)
    (found : (state.cache.get dst now).1 = some finding) :
    step now (.proceed (.call id)) state =
      ({ state with cache := (state.cache.get dst now).2 }.dismiss id,
        [.finish id (.ok finding)]) := by
  rw [step_proceed here]
  simp only [proceedCall]
  generalize state.cache.get dst now = looked at found ⊢
  obtain ⟨first, cache⟩ := looked
  cases found
  rfl

theorem step_miss (here : state.calls.get? id = some ⟨dst, .lookingUp⟩)
    (found : (state.cache.get dst now).1 = none) :
    step now (.proceed (.call id)) state =
      ({ state with cache := (state.cache.get dst now).2 }.moveTo id ⟨dst, .lookingUp⟩
        .readingGeneration, []) := by
  rw [step_proceed here]
  simp only [proceedCall]
  generalize state.cache.get dst now = looked at found ⊢
  obtain ⟨first, cache⟩ := looked
  cases found
  rfl

theorem step_read (here : state.calls.get? id = some ⟨dst, .readingGeneration⟩) :
    step now (.proceed (.call id)) state =
      (state.moveTo id ⟨dst, .readingGeneration⟩ (.joining state.cache.generation), []) := by
  rw [step_proceed here]
  rfl

theorem step_follow (here : state.calls.get? id = some ⟨dst, .joining generation⟩)
    (marked : state.markers.get? dst = some ⟨generation, leader⟩) :
    step now (.proceed (.call id)) state =
      (state.moveTo id ⟨dst, .joining generation⟩ (.following leader generation), []) := by
  rw [step_proceed here]
  exact join_of_marked marked

theorem step_lead (here : state.calls.get? id = some ⟨dst, .joining generation⟩)
    (unmarked : ∀ leader, state.markers.get? dst ≠ some ⟨generation, leader⟩) :
    step now (.proceed (.call id)) state =
      lead now id ⟨dst, .joining generation⟩ generation state := by
  rw [step_proceed here]
  exact join_of_unmarked unmarked

theorem step_retry (here : state.calls.get? id = some ⟨dst, .following leader generation⟩)
    (lost : state.channels.get? leader = some .closed) :
    step now (.proceed (.call id)) state =
      (state.moveTo id ⟨dst, .following leader generation⟩ .lookingUp, []) := by
  rw [step_proceed here]
  simp only [proceedCall, lost, Option.getD_some]

end Turn

theorem step_cancel {id : CallId} {call : Call} (here : state.calls.get? id = some call)
    (now : Timestamp) : step now (.cancel id) state = cancelCall id call state := by
  rw [step, here]

/-! ### What the effects of a move tell -/

/-- Whoever tells an outcome only rouses those who joined. -/
theorem State.mem_announce {state : State} {leader : CallId} {channel : Channel}
    {effect : Effect Task Query Outcome} (told : effect ∈ (state.announce leader channel).2) :
    ∃ follower, effect = .rouse (.call follower) := by
  obtain ⟨follower, _, same⟩ := List.mem_map.mp told
  exact ⟨follower, same.symm⟩

variable {event : Event} {after : State} {effects : Effects}

/-- **A call ends in four ways**: it is refused, it hits the cache, it hears the outcome of the call
that it follows, or it tells its own. -/
theorem Move.finish_cases (move : Move now state event after effects) {id : CallId}
    {outcome : Outcome} (finished : .finish id outcome ∈ effects) :
    (∃ destination fault, event = .start id destination ∧
        Node.parseTrimmed destination = .error fault ∧
        outcome = .error (.invalidDestination fault.message)) ∨
      event = .proceed (.call id) ∧
        ((∃ dst finding, state.calls.get? id = some ⟨dst, .lookingUp⟩ ∧
            (state.cache.get dst now).1 = some finding ∧ outcome = .ok finding) ∨
          (∃ dst leader generation,
            state.calls.get? id = some ⟨dst, .following leader generation⟩ ∧
            state.channels.get? leader = some (.published outcome)) ∨
          ∃ dst led, state.calls.get? id = some ⟨dst, .publishing led outcome⟩) := by
  cases move with
  | refuse parsed =>
    cases List.mem_singleton.mp finished
    exact Or.inl ⟨_, _, rfl, parsed, rfl⟩
  | hit here found =>
    cases List.mem_singleton.mp finished
    exact Or.inr ⟨rfl, Or.inl ⟨_, _, here, found, rfl⟩⟩
  | hear here told =>
    cases List.mem_singleton.mp finished
    exact Or.inr ⟨rfl, Or.inr (Or.inl ⟨_, _, _, here, told⟩)⟩
  | publish here =>
    rcases List.mem_append.mp finished with roused | last
    · obtain ⟨follower, same⟩ := State.mem_announce roused
      cases same
    · cases List.mem_singleton.mp last
      exact Or.inr ⟨rfl, Or.inr (Or.inr ⟨_, _, here⟩)⟩
  | store here quiet =>
    obtain ⟨timer, due, same⟩ := quiet _ finished
    cases same
  | abandon | withhold =>
    obtain ⟨follower, same⟩ := State.mem_announce finished
    cases same
  | _ => simp at finished

/-- **A question is asked by a call that begins to lead, or by one that leads.** A call begins to
lead where no mark of its generation stands, and asks for the node of the service. -/
theorem Move.ask_cases (move : Move now state event after effects) {id : CallId} {query : Query}
    {limit : Option Duration} (asked : .ask (.call id) query limit ∈ effects) :
    (query = .localNode ∧ limit = some state.timeout ∧ event = .proceed (.call id) ∧
        ∃ dst generation, state.calls.get? id = some ⟨dst, .joining generation⟩ ∧
          (∀ leader, state.markers.get? dst ≠ some ⟨generation, leader⟩) ∧
          after = (Resolver.lead now id ⟨dst, .joining generation⟩ generation state).1) ∨
      query ≠ .localNode ∧ ∃ dst stage lead, state.calls.get? id = some ⟨dst, stage⟩ ∧
        stage.telling? = some lead := by
  cases move with
  | lead here unmarked =>
    cases List.mem_singleton.mp asked
    exact Or.inl ⟨rfl, rfl, rfl, _, _, here, unmarked, rfl⟩
  | locate here | explore here =>
    cases List.mem_singleton.mp asked
    exact Or.inr ⟨by simp, _, _, _, here, rfl⟩
  | publish here =>
    rcases List.mem_append.mp asked with roused | last
    · obtain ⟨follower, same⟩ := State.mem_announce roused
      cases same
    · cases List.mem_singleton.mp last
  | store here quiet =>
    obtain ⟨timer, due, same⟩ := quiet _ asked
    cases same
  | abandon | withhold =>
    obtain ⟨follower, same⟩ := State.mem_announce asked
    cases same
  | _ => simp at asked

end Wayfinder.Resolver
