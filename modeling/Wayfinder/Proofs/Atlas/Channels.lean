/-
**Channels.**

A leading call holds its end of a channel from the step in which it begins to lead until it tells its
result or is given up; then the channel is shut and stays so. Calls that have joined it wait at the
other end. A call that has joined another one is for the same pair, since it has found its mark.

* `State.telling?`: the pair for which a call holds its end of an open channel;
* `Move.channelChange`: what a move does to the channels and to those who tell;
* `Requests`, `Run.pair_unique`: the pair of a call;
* `Linked`, `Run.linked`: what ties calls and channels together, and to what has happened;
* `Run.channel_stays`: a channel that is shut stays as it is.
-/

import Wayfinder.Proofs.Atlas.Leads

namespace Wayfinder.Atlas

/-- The pair for which a call holds its end of an open channel: it leads, or is about to tell. -/
def Call.telling? : Call → Option Pair
  | .fetch pair stage => if stage.isSilent then none else some pair
  | _ => none

/-- The pair for which a call holds its end of an open channel, among the calls under way. -/
def State.telling? (state : State) (id : CallId) : Option Pair :=
  (state.calls.get? id).bind Call.telling?

/-- What a move does to the channels and to those who tell. -/
inductive ChannelChange (state after : State) : Prop
  | kept (telling : ∀ id, after.telling? id = state.telling? id)
      (channels : after.channels = state.channels)
  | opened {id : CallId} {pair : Pair} (here : state.calls.get? id = some (.fetch pair .joining))
      (telling : ∀ other, after.telling? other =
        if id = other then some pair else state.telling? other)
      (channels : after.channels = state.channels.put id .open)
  | shut {id : CallId} {pair : Pair} {channel : Channel} (told : state.telling? id = some pair)
      (closing : channel ≠ .open) (gone : after.calls.get? id = none)
      (telling : ∀ other, after.telling? other =
        if id = other then none else state.telling? other)
      (channels : after.channels = state.channels.put id channel)

section

variable {now : Timestamp} {state after : State} {event : Event} {effects : Effects}
  {id leader : CallId} {pair : Pair} {result : Result}

theorem State.telling?_of_get? {call : Call} (here : state.calls.get? id = some call) :
    state.telling? id = call.telling? := by
  rw [telling?, here, Option.bind_some]

theorem State.telling?_eq_some (telling : state.telling? id = some pair) :
    ∃ stage, state.calls.get? id = some (.fetch pair stage) ∧ stage.isSilent = false := by
  obtain ⟨call, here, tells⟩ := Option.bind_eq_some_iff.mp telling
  cases call with
  | fetch place stage =>
    rw [Call.telling?] at tells
    split at tells
    · cases tells
    · next loud =>
      cases tells
      exact ⟨stage, here, Bool.eq_false_iff.mpr loud⟩
  | refresh pass => cases tells
  | close stage => cases tells

theorem Stage.telling?_of_isLeading {stage : Stage} (leading : stage.isLeading = true) :
    (Call.fetch pair stage).telling? = some pair := by
  cases stage <;> first | rfl | cases leading

/-- A call that leads has its result to tell. -/
theorem State.telling?_of_leading? (leading : state.leading? id = some pair) :
    state.telling? id = some pair := by
  obtain ⟨call, here, leads⟩ := Option.bind_eq_some_iff.mp leading
  rw [State.telling?_of_get? here]
  cases call with
  | fetch place stage =>
    rw [Call.leading?] at leads
    split at leads
    · next marked =>
      cases leads
      exact Stage.telling?_of_isLeading marked
    · cases leads
  | refresh pass => cases leads
  | close stage => cases leads

theorem Stage.telling?_of_isSilent {stage : Stage} (silent : stage.isSilent = true) :
    (Call.fetch pair stage).telling? = none := by
  rw [Call.telling?, if_pos silent]

theorem telling?_put {call : Call} {told : Option Pair}
    (calls : after.calls = state.calls.put id call) (tells : call.telling? = told)
    (other : CallId) :
    after.telling? other = if id = other then told else state.telling? other := by
  rw [State.telling?, State.telling?, calls, Table.bind_get?_put, tells]

theorem telling?_erase (calls : after.calls = state.calls.erase id) (other : CallId) :
    after.telling? other = if id = other then none else state.telling? other := by
  rw [State.telling?, State.telling?, calls, Table.bind_get?_erase]

/-- A call that tells as much as before, if at all. -/
theorem ChannelChange.of_put {call : Call} (calls : after.calls = state.calls.put id call)
    (channels : after.channels = state.channels) (same : call.telling? = state.telling? id) :
    ChannelChange state after := by
  refine .kept (fun other => ?_) channels
  rw [State.telling?, calls]
  exact Table.bind_get?_put_same same other

/-- A call that has nothing to tell is taken out. -/
theorem ChannelChange.of_erase (calls : after.calls = state.calls.erase id)
    (channels : after.channels = state.channels) (idle : state.telling? id = none) :
    ChannelChange state after := by
  refine .kept (fun other => ?_) channels
  rw [State.telling?, calls]
  exact Table.bind_get?_erase_silent idle other

theorem ChannelChange.of_setPass {before : State} {owner : Owner} {old pass : Pass}
    (making : before.pass? owner = some old) (calls : before.calls = state.calls)
    (channels : before.channels = state.channels) :
    ChannelChange state (before.setPass owner pass) := by
  rcases State.setPass_cases pass making with ⟨id, rfl, here, same⟩ | ⟨id, loop, rfl, _, _, same⟩
  · rw [same]
    rw [calls] at here
    refine .of_put (congrArg (·.put id (.refresh pass)) calls) channels ?_
    exact (State.telling?_of_get? here).symm
  · rw [same]
    exact .kept (fun other => by rw [State.telling?, State.telling?, ← calls]) channels

/-- **A move leaves the channels and those who tell as they are, or one call opens its channel, or
one shuts it.** -/
theorem Move.channelChange (move : Move now state event after effects)
    (free : ∀ id, event.beginning? = some id → state.calls.get? id = none) :
    ChannelChange state after := by
  have unknown {id : CallId} (begins : event.beginning? = some id) : none = state.telling? id := by
    rw [State.telling?, free id begins, Option.bind_none]
  have gone {id : CallId} : (state.calls.erase id).get? id = none :=
    Table.get?_erase_self ..
  cases move with
  | request | refresh | close => exact .of_put rfl rfl (unknown rfl)
  | miss here | follow here | retry here | gather here | fail here | store here | release here
  | detach here | closeAtOnce here | closeAfter here =>
    exact .of_put rfl rfl (State.telling?_of_get? here).symm
  | hit here | hear here | complete here | giveUp here | closed here | abort here | resign here =>
    exact .of_erase rfl rfl (State.telling?_of_get? here)
  | lead here unmarked => exact .opened here (telling?_put rfl rfl) rfl
  | publish here =>
    exact .shut (State.telling?_of_get? here) Channel.noConfusion gone (telling?_erase rfl) rfl
  | withhold here =>
    exact .shut (State.telling?_of_get? here) Channel.noConfusion gone (telling?_erase rfl) rfl
  | abandon here leading =>
    have told := (State.telling?_of_get? here).trans (Stage.telling?_of_isLeading leading)
    exact .shut told Channel.noConfusion gone (telling?_erase rfl) rfl
  | leave here silent =>
    refine .of_erase rfl rfl ?_
    rw [State.telling?_of_get? here]
    exact Stage.telling?_of_isSilent silent
  | revisit making => exact .of_setPass making rfl rfl
  | renew making => exact .of_setPass making rfl rfl
  | skip making => exact .of_setPass making rfl rfl
  | _ => exact .kept (fun _ => rfl) rfl

/-- A new channel belongs to a fetching call that was under way. -/
theorem ChannelChange.channel_before (change : ChannelChange state after)
    (found : after.channels.get? id ≠ none) :
    (∃ pair stage, state.calls.get? id = some (.fetch pair stage)) ∨
      state.channels.get? id ≠ none := by
  cases change with
  | kept telling channels =>
    rw [channels] at found
    exact Or.inr found
  | @opened other pair here telling channels =>
    rw [channels, Table.get?_put] at found
    by_cases same : other = id
    · exact Or.inl ⟨_, _, same ▸ here⟩
    · rw [if_neg same] at found
      exact Or.inr found
  | @shut other pair channel told closing gone telling channels =>
    rw [channels, Table.get?_put] at found
    by_cases same : other = id
    · obtain ⟨stage, here, _⟩ := State.telling?_eq_some told
      exact Or.inl ⟨_, _, same ▸ here⟩
    · rw [if_neg same] at found
      exact Or.inr found

/-! ### The pair of a call -/

/-- The step in which a call for a pair begins. -/
def Requests (id : CallId) (pair : Pair) (taken : Occurrence) : Prop :=
  ∃ query, taken.event = .fetch id query ∧ query.endpoints = .ok pair

/-- A fetching call was under way for the same pair before a move, or begins with it. -/
theorem Move.fetch_before (move : Move now state event after effects) {stage : Stage}
    (found : after.calls.get? id = some (.fetch pair stage)) :
    (∃ old, state.calls.get? id = some (.fetch pair old)) ∨
      ∃ query, event = .fetch id query ∧ query.endpoints = .ok pair := by
  cases move with
  | request endpoints =>
    rcases Table.get?_of_put found with ⟨rfl, same⟩ | old
    · cases same
      exact Or.inr ⟨_, rfl, endpoints⟩
    · exact Or.inl ⟨_, old⟩
  | refresh | close | detach | closeAtOnce | closeAfter =>
    rcases Table.get?_of_put found with ⟨_, same⟩ | old
    · cases same
    · exact Or.inl ⟨_, old⟩
  | miss here | follow here | lead here | retry here | gather here | fail here | store here
  | release here =>
    rcases Table.get?_of_put found with ⟨rfl, same⟩ | old
    · cases same
      exact Or.inl ⟨_, here⟩
    · exact Or.inl ⟨_, old⟩
  | hit | hear | publish | complete | giveUp | closed | abandon | withhold | leave | abort
  | resign =>
    exact Or.inl ⟨_, Table.get?_of_erase found⟩
  | revisit | renew | skip => exact Or.inl ⟨_, kept_of_setPass found fun _ => Call.noConfusion⟩
  | _ => exact Or.inl ⟨_, found⟩

/-! ### Beginning to wait -/

/-- A call that has joined another one had joined it before a move, or finds its mark. -/
theorem Move.following_before (move : Move now state event after effects)
    (found : after.calls.get? id = some (.fetch pair (.following leader))) :
    state.calls.get? id = some (.fetch pair (.following leader)) ∨
      state.markers.get? pair = some leader ∧ after.channels = state.channels := by
  cases move with
  | follow here marked =>
    rcases Table.get?_of_put found with ⟨_, same⟩ | old
    · cases same
      exact Or.inr ⟨marked, rfl⟩
    · exact Or.inl old
  | request | refresh | close | miss | lead | retry | gather | fail | store | release | detach
  | closeAtOnce | closeAfter =>
    rcases Table.get?_of_put found with ⟨_, same⟩ | old
    · cases same
    · exact Or.inl old
  | hit | hear | publish | complete | giveUp | closed | abandon | withhold | leave | abort
  | resign =>
    exact Or.inl (Table.get?_of_erase found)
  | revisit | renew | skip => exact Or.inl (kept_of_setPass found fun _ => Call.noConfusion)
  | _ => exact Or.inl found

/-- The step in which a leading call tells its result. -/
def Tells (id : CallId) (pair : Pair) (result : Result) (taken : Occurrence) : Prop :=
  taken.event = .proceed (.call id) ∧
    taken.before.calls.get? id = some (.fetch pair (.publishing result)) ∧
    .finish id (result.map some) ∈ taken.effects

/-- A result that is published after a move was so before, or its call tells it in the move. -/
theorem Move.published_before (move : Move now state event after effects)
    (found : after.channels.get? id = some (.published result)) :
    state.channels.get? id = some (.published result) ∨
      ∃ pair, event = .proceed (.call id) ∧
        state.calls.get? id = some (.fetch pair (.publishing result)) ∧
        .finish id (result.map some) ∈ effects := by
  cases move with
  | lead =>
    rcases Table.get?_of_put found with ⟨_, same⟩ | old
    · cases same
    · exact Or.inl old
  | publish here =>
    rcases Table.get?_of_put found with ⟨rfl, same⟩ | old
    · cases same
      exact Or.inr ⟨_, rfl, here, List.mem_append_right _ (List.mem_singleton_self _)⟩
    · exact Or.inl old
  | abandon | withhold =>
    rcases Table.get?_of_put found with ⟨_, same⟩ | old
    · cases same
    · exact Or.inl old
  | revisit making | renew making | skip making => exact Or.inl found
  | _ => exact Or.inl found

end

/-! ### What ties calls and channels together -/

/-- What ties calls and channels together, and to what has happened. -/
structure Linked (history : List Occurrence) (state : State) : Prop where
  /-- A fetching call has begun, for its pair. -/
  requested : ∀ id pair stage, state.calls.get? id = some (.fetch pair stage) →
    ∃ position, At history position (Requests id pair)
  /-- A channel is open exactly while its call has yet to tell its result. -/
  open_iff : ∀ id, state.channels.get? id = some .open ↔ ∃ pair, state.telling? id = some pair
  /-- A call that has nothing to tell has never had a channel. -/
  silent : ∀ id call, state.calls.get? id = some call → call.telling? = none →
    state.channels.get? id = none
  /-- A channel belongs to a call that has begun. -/
  known : ∀ id, state.channels.get? id ≠ none →
    ∃ taken ∈ history, taken.event.beginning? = some id
  /-- A call that is followed has a channel, and has begun for the pair of the one who follows. -/
  followed : ∀ id leader pair, state.calls.get? id = some (.fetch pair (.following leader)) →
    state.channels.get? leader ≠ none ∧ ∃ position, At history position (Requests leader pair)
  /-- What can be heard over a channel has been told by the call that it belongs to. -/
  told : ∀ id result, state.channels.get? id = some (.published result) →
    ∃ position pair, At history position (Tells id pair result)

namespace Linked

variable {history : List Occurrence} {state after : State} {now : Timestamp} {event : Event}
  {effects : Effects} {id : CallId}

/-- A channel that is there stays, and one that is shut stays as it is. -/
theorem channels_grow (linked : Linked history state) (change : ChannelChange state after)
    {channel : Channel} (here : state.channels.get? id = some channel) :
    after.channels.get? id ≠ none ∧
      (channel ≠ .open → after.channels.get? id = some channel) := by
  cases change with
  | kept telling channels =>
    rw [channels, here]
    exact ⟨Option.some_ne_none _, fun _ => rfl⟩
  | @opened other pair joining telling channels =>
    -- the call that opens its channel has had none
    have none := linked.silent other _ joining rfl
    have differs : other ≠ id := by
      rintro rfl
      rw [here] at none
      cases none
    rw [channels, Table.get?_put, if_neg differs, here]
    exact ⟨Option.some_ne_none _, fun _ => rfl⟩
  | @shut other pair closing told differs gone telling channels =>
    rw [channels, Table.get?_put]
    by_cases same : other = id
    · subst same
      rw [if_pos rfl]
      refine ⟨Option.some_ne_none _, fun shut => ?_⟩
      have opened := (linked.open_iff other).mpr ⟨pair, told⟩
      rw [here] at opened
      exact absurd (Option.some.inj opened) shut
    · rw [if_neg same, here]
      exact ⟨Option.some_ne_none _, fun _ => rfl⟩

/-- **After a move a channel is open exactly while its call has yet to tell.** -/
theorem open_step (linked : Linked history state) (change : ChannelChange state after)
    (other : CallId) :
    after.channels.get? other = some .open ↔ ∃ pair, after.telling? other = some pair := by
  cases change with
  | kept telling channels =>
    rw [channels, telling]
    exact linked.open_iff other
  | @opened id pair joining telling channels =>
    rw [channels, telling, Table.get?_put]
    by_cases same : id = other
    · rw [if_pos same, if_pos same]
      exact iff_of_true rfl ⟨pair, rfl⟩
    · rw [if_neg same, if_neg same]
      exact linked.open_iff other
  | @shut id pair channel told closing gone telling channels =>
    rw [channels, telling, Table.get?_put]
    by_cases same : id = other
    · rw [if_pos same, if_pos same]
      refine iff_of_false (fun found => closing (Option.some.inj found)) ?_
      rintro ⟨pair, found⟩
      cases found
    · rw [if_neg same, if_neg same]
      exact linked.open_iff other

/-- After a move a call that has nothing to tell has no channel. -/
theorem silent_step (linked : Linked history state) (move : Move now state event after effects)
    (change : ChannelChange state after)
    (unheard : ∀ id, event.beginning? = some id → state.channels.get? id = none)
    {call : Call} (here : after.calls.get? id = some call) (quiet : call.telling? = none) :
    after.channels.get? id = none := by
  have hushed : after.telling? id = none := (State.telling?_of_get? here).trans quiet
  have under : after.calls.get? id ≠ none := by
    rw [here]
    exact Option.some_ne_none _
  have before : state.telling? id = none → state.channels.get? id = none := by
    intro idle
    rcases move.call_before under with old | begins
    · cases there : state.calls.get? id with
      | none => exact absurd there old
      | some call =>
        exact linked.silent id call there ((State.telling?_of_get? there).symm.trans idle)
    · exact unheard id begins
  cases change with
  | kept telling channels =>
    rw [channels]
    exact before ((telling id).symm.trans hushed)
  | @opened other pair joining telling channels =>
    rw [telling] at hushed
    by_cases same : other = id
    · rw [if_pos same] at hushed
      cases hushed
    · rw [if_neg same] at hushed
      rw [channels, Table.get?_put, if_neg same]
      exact before hushed
  | @shut other pair channel told closing gone telling channels =>
    rw [telling] at hushed
    by_cases same : other = id
    · -- the call that shuts its channel is gone
      subst same
      exact absurd gone under
    · rw [if_neg same] at hushed
      rw [channels, Table.get?_put, if_neg same]
      exact before hushed

end Linked

namespace Run

variable {capacity : Nat} {geolocating : Bool} {timeout interval : Duration}
  {history : List Occurrence} {state : State}

/-- The next step of a run changes channels in one of those ways. -/
theorem channelChange (run : Run capacity geolocating timeout interval history state)
    {event : Event} (fresh : Automaton.Fresh history event) (now : Timestamp) :
    ChannelChange state (step now event state).1 :=
  (move_step now event state).channelChange fun _ begins => Run.free run fresh begins

/-- The mark of a pair is that of a call whose channel is open. -/
theorem open_of_marked (run : Run capacity geolocating timeout interval history state)
    (linked : Linked history state) {pair : Pair} {id : CallId}
    (marked : state.markers.get? pair = some id) :
    state.telling? id = some pair ∧ state.channels.get? id = some .open := by
  have leading := (run.marked_iff pair id).mp marked
  have telling := State.telling?_of_leading? leading
  exact ⟨telling, (linked.open_iff id).mpr ⟨pair, telling⟩⟩

/-- **In every run calls and channels are linked.** -/
theorem linked (run : Run capacity geolocating timeout interval history state) :
    Linked history state := by
  induction run with
  | initial =>
    refine ⟨fun id pair stage found => ?_, fun id => ⟨fun found => ?_, ?_⟩,
      fun id call here => ?_, fun id found => ?_, fun id leader pair found => ?_,
      fun id result found => ?_⟩
    · cases found
    · cases found
    · rintro ⟨pair, found⟩
      cases found
    · cases here
    · exact absurd rfl found
    · cases found
    · cases found
  | @step history state run now event fresh linked =>
    have move := move_step now event state
    have change := channelChange run fresh now
    have unheard : ∀ id, event.beginning? = some id → state.channels.get? id = none := by
      intro id begins
      refine Classical.byContradiction fun found => ?_
      obtain ⟨taken, member, same⟩ := linked.known id found
      exact fresh id begins taken member same
    have older {id : CallId} {pair : Pair} {stage : Stage}
        (found : state.calls.get? id = some (.fetch pair stage)) :
        ∃ position, At (history ++ [⟨state, now, event⟩]) position (Requests id pair) := by
      obtain ⟨position, requests⟩ := linked.requested id pair stage found
      exact ⟨position, requests.append _⟩
    refine ⟨fun id pair stage found => ?_, linked.open_step change,
      fun id call here quiet => linked.silent_step move change unheard here quiet,
      fun id found => ?_, fun id leader pair found => ?_, fun id result found => ?_⟩
    · rcases move.fetch_before found with ⟨old, before⟩ | ⟨query, begins, endpoints⟩
      · exact older before
      · exact ⟨history.length, At.last ⟨query, begins, endpoints⟩⟩
    · rcases change.channel_before found with ⟨pair, stage, here⟩ | old
      · obtain ⟨position, taken, there, query, begins, _⟩ := linked.requested id pair stage here
        refine ⟨taken, List.mem_append_left _ (List.mem_of_getElem? there), ?_⟩
        rw [begins]
        rfl
      · obtain ⟨taken, member, begins⟩ := linked.known id old
        exact ⟨taken, List.mem_append_left _ member, begins⟩
    · rcases move.following_before found with before | ⟨marked, channels⟩
      · obtain ⟨some', position, requests⟩ := linked.followed id leader pair before
        obtain ⟨channel, here⟩ := Option.ne_none_iff_exists'.mp some'
        exact ⟨(linked.channels_grow change here).1, position, requests.append _⟩
      · obtain ⟨telling, opened⟩ := open_of_marked run linked marked
        obtain ⟨stage, here, _⟩ := State.telling?_eq_some telling
        refine ⟨?_, older here⟩
        show (step now event state).1.channels.get? leader ≠ none
        rw [channels, opened]
        exact Option.some_ne_none _
    · rcases move.published_before found with old | ⟨pair, turn, here, finished⟩
      · obtain ⟨position, pair, tells⟩ := linked.told id result old
        exact ⟨position, pair, tells.append _⟩
      · exact ⟨history.length, pair, At.last ⟨turn, here, finished⟩⟩

/-- **A channel that is shut stays as it is.** -/
theorem channel_stays (run : Run capacity geolocating timeout interval history state) {id : CallId}
    {channel : Channel} {position : Nat}
    (found : At history position (·.after.channels.get? id = some channel))
    (shut : channel ≠ .open) : state.channels.get? id = some channel := by
  induction run with
  | initial => exact absurd found.lt_length (Nat.not_lt_zero _)
  | @step history state run now event fresh hypothesis =>
    rcases found.append_singleton with old | ⟨_, new⟩
    · exact ((linked run).channels_grow (channelChange run fresh now) (hypothesis old)).2 shut
    · exact new

/-- **A call is for one pair.** -/
theorem pair_unique (run : Run capacity geolocating timeout interval history state) {id : CallId}
    {pair pair' : Pair} {first second : Nat} (one : At history first (Requests id pair))
    (two : At history second (Requests id pair')) : pair = pair' := by
  have begins {pair : Pair} {taken : Occurrence} (requests : Requests id pair taken) :
      taken.event.beginning? = some id := by
    obtain ⟨query, event, _⟩ := requests
    rw [event]
    rfl
  have same : first = second :=
    run.beginning_unique (one.mono fun _ => begins) (two.mono fun _ => begins)
  subst same
  obtain ⟨taken, _, ⟨query, event, endpoints⟩, ⟨query', event', endpoints'⟩⟩ := one.and two
  rw [event] at event'
  obtain ⟨_, rfl⟩ := Event.fetch.inj event'
  rw [endpoints] at endpoints'
  exact Except.ok.inj endpoints'

end Run

end Wayfinder.Atlas
