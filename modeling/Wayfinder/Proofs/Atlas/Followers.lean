/-
**Calls that have joined.**

A call that has joined waits at the channel of the call that it follows. That call tells its result,
or it is given up; either way everyone who waits is roused, and then hears the result or starts over.

* `Run.served`: a channel at which somebody waits is shut, or its call has yet to tell;
* `proceed_of_shut`: who waits at a channel that is shut can go on;
* `Move.rouses`: when a channel is shut, everyone who waits at it is roused;
* `Run.heard`: what a call hears has been told by the call that it has joined;
* `Run.starts_over`: who followed a call that was given up starts over.
-/

import Wayfinder.Proofs.Atlas.Channels

namespace Wayfinder.Atlas

/-! ### Those who wait -/

theorem State.mem_followers {state : State} {id leader : CallId} {pair : Pair}
    (following : state.calls.get? id = some (.fetch pair (.following leader))) :
    id ∈ state.followers leader :=
  List.mem_filterMap.mpr ⟨_, Table.mem_entries_of_get? following, if_pos rfl⟩

/-- Whoever waits when a channel is shut is roused. -/
theorem State.rouse_mem_announce {state : State} {id leader : CallId} {pair : Pair}
    {channel : Channel}
    (following : state.calls.get? id = some (.fetch pair (.following leader))) :
    .rouse (.call id) ∈ (state.announce leader channel).2 :=
  List.mem_map.mpr ⟨id, State.mem_followers following, rfl⟩

section

variable {now : Timestamp} {state after : State} {event : Event} {effects : Effects}
  {id leader : CallId} {pair : Pair}

/-- **Who waits at a channel that is shut can go on.** -/
theorem proceed_of_shut
    (following : state.calls.get? id = some (.fetch pair (.following leader))) {channel : Channel}
    (here : state.channels.get? leader = some channel) (shut : channel ≠ .open)
    (now : Timestamp) : proceed now (.call id) state ≠ none := by
  rw [proceed, following, Option.bind_some]
  cases channel with
  | «open» => exact absurd rfl shut
  | published result => simp [proceedCall, proceedFetch, here]
  | closed => simp [proceedCall, proceedFetch, here]

/-- A call that leads does not follow; when it is given up, those who follow stay. -/
theorem following_of_erase {call call' : Call} (here : state.calls.get? leader = some call)
    (telling : call.telling? ≠ none) (following : state.calls.get? id = some call')
    (silent : call'.telling? = none) : (state.calls.erase leader).get? id = some call' := by
  refine Table.get?_erase_of_differs following fun same => telling ?_
  rw [here] at same
  rw [Option.some.inj same, silent]

/-- **When a channel is shut, everyone who waits at it is roused.** -/
theorem Move.rouses (move : Move now state event after effects)
    (following : state.calls.get? id = some (.fetch pair (.following leader)))
    (opened : state.channels.get? leader = some .open)
    (shut : after.channels.get? leader ≠ some .open) : .rouse (.call id) ∈ effects := by
  -- only the channel of the call that ends is put shut
  have ends {other : CallId} {channel : Channel}
      (differs : (state.channels.put other channel).get? leader ≠ some .open) :
      other = leader := by
    refine Classical.byContradiction fun apart => differs ?_
    rw [Table.get?_put, if_neg apart, opened]
  cases move with
  | @lead other place here unmarked =>
    have same : other = leader := ends shut
    subst same
    exact absurd (Table.get?_put_self ..) shut
  | @publish other place result here =>
    have same : other = leader := ends shut
    subst same
    exact List.mem_append_left _ (State.rouse_mem_announce following)
  | @abandon other place stage here leading =>
    have same : other = leader := ends shut
    subst same
    have telling : (Call.fetch place stage).telling? ≠ none := by
      rw [Stage.telling?_of_isLeading leading]
      exact Option.some_ne_none _
    have stays := following_of_erase here telling following rfl
    exact State.rouse_mem_announce stays
  | @withhold other place result here =>
    have same : other = leader := ends shut
    subst same
    have stays := following_of_erase here (Option.some_ne_none _) following rfl
    exact State.rouse_mem_announce stays
  | _ => exact absurd opened shut

/-- A call that follows another one ends with what is published. -/
theorem Move.finish_following (move : Move now state event after effects)
    (running : event.beginning? ≠ some id)
    (following : state.calls.get? id = some (.fetch pair (.following leader))) {outcome : Outcome}
    (finished : .finish id outcome ∈ effects) :
    ∃ result, state.channels.get? leader = some (.published result) ∧
      outcome = result.map some := by
  -- a call that ends at another stage is another one
  have another {other : CallId} {call : Call} (here : state.calls.get? other = some call)
      (differs : call ≠ .fetch pair (.following leader)) (same : id = other) : False := by
    subst same
    rw [following] at here
    exact differs (Option.some.inj here).symm
  cases move with
  | refuse =>
    cases List.mem_singleton.mp finished
    exact absurd rfl running
  | hit here | complete here | giveUp here | closed here =>
    cases List.mem_singleton.mp finished
    exact (another here (fun same => by cases same) rfl).elim
  | hear here told =>
    cases List.mem_singleton.mp finished
    rw [following] at here
    cases here
    exact ⟨_, told, rfl⟩
  | publish here =>
    rcases List.mem_append.mp finished with roused | last
    · exact (not_finish_of_map roused).elim
    · cases List.mem_singleton.mp last
      exact (another here (fun same => by cases same) rfl).elim
  | abandon => exact (not_finish_of_map finished).elim
  | withhold => exact (not_finish_of_map finished).elim
  | stop => exact (not_finish_of_map finished).elim
  | receive => exact (not_finish_of_map finished).elim
  | survey here surveying found turn =>
    rcases List.mem_append.mp finished with roused | question
    · unfold settle at roused
      simp only at roused
      split at roused
      · cases List.mem_singleton.mp roused
      · cases roused
    · cases turn with
      | ask => cases List.mem_singleton.mp question
      | finish | learn | breakDown => cases question
  | _ => simp at finished

end

/-! ### The end of a leading call -/

/-- The step in which a call that has yet to tell its result is given up. -/
def Drops (id : CallId) (taken : Occurrence) : Prop :=
  taken.event = .cancel id ∧ ∃ pair, taken.before.telling? id = some pair

/-- A leading call that is given up closes its channel. -/
theorem Drops.closes {id : CallId} {taken : Occurrence} (drops : Drops id taken) :
    taken.after.channels.get? id = some .closed := by
  obtain ⟨event, pair, telling⟩ := drops
  obtain ⟨stage, here, loud⟩ := State.telling?_eq_some telling
  have stepped : taken.after = (cancelFetch id pair stage taken.before).1 := by
    show (step taken.now taken.event taken.before).1 = _
    simp only [event, step, cancel, here]
  rw [stepped]
  cases stage with
  | lookingUp | joining | following => cases loud
  | collecting | storing | releasing | publishing => exact Table.get?_put_self ..

namespace Run

variable {capacity : Nat} {geolocating : Bool} {timeout interval : Duration}
  {history : List Occurrence} {state : State}

/-- **A channel at which a call waits is shut, or the call that holds its other end has yet to tell
its result for the same pair.** -/
theorem served (run : Run capacity geolocating timeout interval history state) {id leader : CallId}
    {pair : Pair} (following : state.calls.get? id = some (.fetch pair (.following leader))) :
    ∃ channel, state.channels.get? leader = some channel ∧
      (channel = .open → state.telling? leader = some pair) := by
  have linked := linked run
  obtain ⟨some', position, requests⟩ := linked.followed id leader pair following
  obtain ⟨channel, here⟩ := Option.ne_none_iff_exists'.mp some'
  refine ⟨channel, here, fun opened => ?_⟩
  subst opened
  obtain ⟨place, telling⟩ := (linked.open_iff leader).mp here
  obtain ⟨stage, calling, _⟩ := State.telling?_eq_some telling
  obtain ⟨position', requests'⟩ := linked.requested leader place stage calling
  rw [telling, pair_unique run requests' requests]

/-- **What a call hears has been told** by the call that it has joined, for the same pair. -/
theorem heard (run : Run capacity geolocating timeout interval history state) {position : Nat}
    {id leader : CallId} {pair : Pair} {outcome : Outcome}
    (hears : At history position fun taken =>
      taken.before.calls.get? id = some (.fetch pair (.following leader)) ∧
        .finish id outcome ∈ taken.effects) :
    ∃ told result, told < position ∧ At history told (Tells leader pair result) ∧
      outcome = result.map some := by
  obtain ⟨taken, here, following, finished⟩ := hears
  have earlier := run.take here
  have linked := linked earlier
  have running : taken.event.beginning? ≠ some id := by
    intro begins
    have free := Run.free earlier (run.take_and_fresh here).2 begins
    rw [following] at free
    cases free
  obtain ⟨result, published, same⟩ :=
    (move_taken taken).finish_following running following finished
  obtain ⟨told, place, tells⟩ := linked.told leader result published
  obtain ⟨_, position', requests⟩ := linked.followed id leader pair following
  obtain ⟨before, tells⟩ := tells.of_take
  -- the call that tells is for the pair for which it has begun
  obtain ⟨telling, there, turn, calling, finishes⟩ := tells
  obtain ⟨position'', requests'⟩ :=
    (Run.linked (run.take there)).requested leader place _ calling
  have toward : place = pair :=
    pair_unique run requests'.of_take.2 requests.of_take.2
  subst toward
  exact ⟨told, result, before, ⟨telling, there, turn, calling, finishes⟩, same⟩

/-- **Who followed a call that was given up starts over** when its turn comes. -/
theorem starts_over (run : Run capacity geolocating timeout interval history state)
    {dropped position : Nat} {id leader : CallId} {pair : Pair}
    (drops : At history dropped (Drops leader)) (after : dropped < position)
    (turn : At history position fun taken => taken.event = .proceed (.call id) ∧
      taken.before.calls.get? id = some (.fetch pair (.following leader))) :
    At history position fun taken =>
      taken.after.calls.get? id = some (.fetch pair .lookingUp) ∧ taken.effects = [] := by
  obtain ⟨taken, here, event, following⟩ := turn
  have closed : taken.before.channels.get? leader = some .closed :=
    channel_stays (run.take here) ((drops.take after).mono fun _ drops => drops.closes)
      Channel.noConfusion
  have stepped : automaton.step taken.now taken.event taken.before =
      (taken.before.moveTo id pair .lookingUp, []) := by
    show step taken.now taken.event taken.before = _
    simp only [event, step, proceed, following, Option.bind_some, proceedCall, proceedFetch,
      closed, Option.getD_some]
  refine ⟨taken, here, ?_⟩
  show (automaton.step taken.now taken.event taken.before).1.calls.get? id = _ ∧
    (automaton.step taken.now taken.event taken.before).2 = []
  rw [stepped]
  exact ⟨Table.get?_put_self .., rfl⟩

end Run

end Wayfinder.Atlas
