/-
**Calls that have joined.**

A call that has joined waits at the channel of the call that it follows. That call tells its outcome,
or it is given up; either way everyone who waits is roused, and then hears the outcome or starts over.

* `Run.served`: a channel at which somebody waits is shut, or its call has yet to tell;
* `Move.rouses`: when a channel is shut, everyone who waits at it is roused;
* `Run.heard`: what a call hears has been told by the call that it has joined;
* `Run.starts_over`: who followed a call that was given up starts over.
-/

import Wayfinder.Proofs.Resolver.Trip

namespace Wayfinder.Resolver

/-! ### Those who wait -/

theorem State.mem_followers {state : State} {id leader : CallId} {dst : Node} {generation : UInt64}
    (following : state.calls.get? id = some ⟨dst, .following leader generation⟩) :
    id ∈ state.followers leader :=
  List.mem_filterMap.mpr ⟨_, Table.mem_entries_of_get? following, if_pos rfl⟩

/-- Whoever waits when a channel is shut is roused. -/
theorem State.rouse_mem_announce {state : State} {id leader : CallId} {dst : Node}
    {generation : UInt64} {channel : Channel}
    (following : state.calls.get? id = some ⟨dst, .following leader generation⟩) :
    .rouse (.call id) ∈ (state.announce leader channel).2 :=
  List.mem_map.mpr ⟨id, State.mem_followers following, rfl⟩

/-- A call that leads does not follow; when it is given up, those who follow stay. -/
theorem following_of_dismiss {state : State} {id leader : CallId} {call call' : Call}
    (here : state.calls.get? leader = some call) (telling : ∃ lead, call.stage.telling? = some lead)
    (following : state.calls.get? id = some call') (silent : call'.stage.telling? = none) :
    (state.calls.erase leader).get? id = some call' := by
  refine Table.get?_erase_of_differs following fun same => ?_
  rw [here] at same
  obtain ⟨lead, telling⟩ := telling
  rw [Option.some.inj same, silent] at telling
  cases telling

/-- **When a channel is shut, everyone who waits at it is roused.** -/
theorem Move.rouses {now : Timestamp} {state after : State} {event : Event} {effects : Effects}
    (move : Move now state event after effects) {id leader : CallId} {dst : Node}
    {generation : UInt64}
    (following : state.calls.get? id = some ⟨dst, .following leader generation⟩)
    (opened : state.channels.get? leader = some .open)
    (shut : after.channels.get? leader ≠ some .open) : .rouse (.call id) ∈ effects := by
  cases move with
  | lead =>
    rw [lead_channels, Table.get?_put] at shut
    split at shut
    · exact absurd rfl shut
    · exact absurd opened shut
  | publish =>
    rw [State.dismiss_channels, State.announce_channels, Table.get?_put] at shut
    split at shut
    · next same =>
      subst same
      exact List.mem_append_left _ (State.rouse_mem_announce following)
    · exact absurd opened shut
  | abandon here leading =>
    rw [State.announce_channels, State.dismiss_channels, State.unmark_channels,
      Table.get?_put] at shut
    split at shut
    · next same =>
      subst same
      have stays := following_of_dismiss here ⟨_, Stage.telling?_of_lead? leading⟩ following rfl
      rw [← State.unmark_calls state _ _, ← State.dismiss_calls] at stays
      exact State.rouse_mem_announce stays
    · exact absurd opened shut
  | withhold here =>
    rw [State.announce_channels, State.dismiss_channels, Table.get?_put] at shut
    split at shut
    · next same =>
      subst same
      exact State.rouse_mem_announce (following_of_dismiss here ⟨_, rfl⟩ following rfl)
    · exact absurd opened shut
  | release =>
    rw [State.moveTo_channels, State.unmark_channels] at shut
    exact absurd opened shut
  | _ => exact absurd opened shut

/-! ### The end of a leading call -/

/-- The step in which a call that has yet to tell its outcome is given up. -/
def Occurrence.Drops (occurrence : Occurrence) (id : CallId) : Prop :=
  occurrence.event = .cancel id ∧ ∃ dst lead, occurrence.before.telling? id = some (dst, lead)

/-- A leading call that is given up closes its channel. -/
theorem cancelCall_channels {id : CallId} {call : Call} {lead : Lead}
    (telling : call.stage.telling? = some lead) (state : State) :
    (cancelCall id call state).1.channels = state.channels.put id .closed := by
  obtain ⟨dst, stage⟩ := call
  cases stage with
  | lookingUp | readingGeneration | joining | following => cases telling
  | publishing => rfl
  | locating | exploring | consulting | storing | releasing =>
    simp only [cancelCall, Stage.lead?]
    rw [State.announce_channels, State.dismiss_channels, State.unmark_channels]

theorem Occurrence.Drops.closes {occurrence : Occurrence} {id : CallId}
    (drops : occurrence.Drops id) : occurrence.after.channels.get? id = some .closed := by
  obtain ⟨event, dst, lead, telling⟩ := drops
  obtain ⟨stage, here, telling⟩ := leadOf_eq_some.mp telling
  rw [Occurrence.after_eq, event, step_cancel here, cancelCall_channels telling, Table.get?_put]
  exact if_pos rfl

namespace Run

variable {capacity : Nat} {timeout : Duration} {history : List Occurrence} {state : State}

/-- **A channel at which a call waits is shut, or the call that holds its other end leads to the
same destination in the generation that the one who waits has read.** -/
theorem served (run : Run capacity timeout history state) {id leader : CallId} {dst : Node}
    {generation : UInt64}
    (following : state.calls.get? id = some ⟨dst, .following leader generation⟩) :
    ∃ channel, state.channels.get? leader = some channel ∧ (channel = .open →
      ∃ lead, state.telling? leader = some (dst, lead) ∧ lead.generation = generation) := by
  obtain ⟨_, trip, lead, ⟨rfl, rfl, rfl⟩, same, begun⟩ := run.documented.calls id _ following
  obtain ⟨channel, here⟩ := run.linked.led trip.leader _ _ _ begun.leads
  refine ⟨channel, here, fun opened => ?_⟩
  subst opened
  obtain ⟨place, led, telling⟩ := (run.linked.open_iff trip.leader).mp here
  obtain ⟨stage, calling, told⟩ := leadOf_eq_some.mp telling
  obtain ⟨other, ⟨leader, rfl, rfl⟩, begun'⟩ := (run.documented.calls _ _ calling).begun told
  obtain ⟨_, toward, led⟩ := run.begun_unique begun' begun leader
  rw [toward, led] at telling
  exact ⟨trip.lead, telling, same⟩

/-- **What a call hears has been told** by the call that it has joined, which leads to the same
destination in the same generation. -/
theorem heard (run : Run capacity timeout history state) {position : Nat}
    {id leader : CallId} {dst : Node} {generation : UInt64} {outcome : Outcome}
    (hears : At history position fun occurrence =>
      occurrence.before.calls.get? id = some ⟨dst, .following leader generation⟩ ∧
        .finish id outcome ∈ occurrence.effects) :
    ∃ told lead, told < position ∧ lead.generation = generation ∧
      At history told (·.Tells leader dst lead outcome) := by
  obtain ⟨occurrence, earlier, here, following, finished⟩ := run.take_of_at hears
  have told : occurrence.before.channels.get? leader = some (.published outcome) := by
    rcases occurrence.move.finish_cases finished with
      ⟨_, _, start, _⟩ | ⟨_, ⟨_, _, calling, _⟩ | ⟨_, _, _, calling, told⟩ | ⟨_, _, calling⟩⟩
    · exact absurd start (run.not_start_of_calling here following _)
    · rw [following] at calling
      cases calling
    · rw [following] at calling
      cases calling
      exact told
    · rw [following] at calling
      cases calling
  obtain ⟨position', place, lead, tells⟩ := earlier.documented.channels leader outcome told
  obtain ⟨_, trip, led, ⟨rfl, rfl, rfl⟩, same, begun⟩ :=
    earlier.documented.calls id _ following
  obtain ⟨telling, before, _, _, calling, _⟩ := earlier.take_of_at tells
  obtain ⟨other, ⟨leader, rfl, rfl⟩, begun'⟩ := (before.documented.calls _ _ calling).begun rfl
  obtain ⟨_, toward, led⟩ := earlier.begun_unique begun'.of_take begun leader
  obtain ⟨sooner, tells⟩ := tells.of_take
  exact ⟨position', other.lead, sooner, led ▸ same, toward ▸ tells⟩

/-- **Who followed a call that was given up starts over** when its turn comes. -/
theorem starts_over (run : Run capacity timeout history state) {dropped position : Nat}
    {id leader : CallId} {dst : Node} {generation : UInt64}
    (drops : At history dropped (·.Drops leader)) (after : dropped < position)
    (turn : At history position fun occurrence => occurrence.event = .proceed (.call id) ∧
      occurrence.before.calls.get? id = some ⟨dst, .following leader generation⟩) :
    At history position fun occurrence =>
      occurrence.after.calls.get? id = some ⟨dst, .lookingUp⟩ ∧ occurrence.effects = [] := by
  obtain ⟨occurrence, earlier, here, event, following⟩ := run.take_of_at turn
  have closed : occurrence.before.channels.get? leader = some .closed :=
    earlier.channel_stays ((drops.take after).mono fun _ drops => drops.closes) (by simp)
  refine ⟨occurrence, here, ?_⟩
  simp only [Occurrence.after_eq, Occurrence.effects_eq, event, step_retry following closed]
  exact ⟨Table.get?_put_self .., trivial⟩

end Run

end Wayfinder.Resolver
