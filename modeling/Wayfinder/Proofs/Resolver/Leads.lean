/-
**Leading calls, their marks and their channels.**

A call leads from the step in which it puts its mark up to the step in which it tells its outcome or
is given up. These facts hold in every run, in whatever order the steps come.

* `leadOf`: the destination and the lead of a call, through a view of its stage;
* `LeadChange`, `Move.leadChange`: the few ways in which a step changes marks, channels and leads;
* `Linked`, `Run.linked`: every mark belongs to a call that leads, a channel is open exactly while
  its call leads, and no channel is ever opened again;
* `Run.channel_stays`: what can be heard over a channel never changes;
* `Run.leads_unique`: a call begins to lead at most once.
-/

import Wayfinder.Proofs.Resolver.Run

namespace Wayfinder.Resolver

/-! ### Leads -/

/-- The destination and the lead of a call, as far as a view of its stage shows one. -/
def leadOf (view : Stage → Option Lead) (calls : Table CallId Call) (id : CallId) :
    Option (Node × Lead) :=
  (calls.get? id).bind fun call => (view call.stage).map fun lead => (call.dst, lead)

section LeadOf

variable {view : Stage → Option Lead} {calls : Table CallId Call} {id other : CallId} {dst : Node}
  {stage stage' : Stage} {lead : Lead}

theorem leadOf_eq_some :
    leadOf view calls id = some (dst, lead) ↔
      ∃ stage, calls.get? id = some ⟨dst, stage⟩ ∧ view stage = some lead := by
  unfold leadOf
  constructor
  · intro shown
    obtain ⟨⟨place, stage⟩, here, shown⟩ := Option.bind_eq_some_iff.mp shown
    obtain ⟨led, viewed, same⟩ := Option.map_eq_some_iff.mp shown
    cases same
    exact ⟨stage, here, viewed⟩
  · rintro ⟨stage, here, viewed⟩
    rw [here]
    simp [viewed]

theorem leadOf_of_get? (here : calls.get? id = some ⟨dst, stage⟩) :
    leadOf view calls id = (view stage).map fun lead => (dst, lead) := by
  rw [leadOf, here, Option.bind_some]

theorem leadOf_put :
    leadOf view (calls.put id ⟨dst, stage⟩) other =
      if id = other then (view stage).map fun lead => (dst, lead)
      else leadOf view calls other :=
  Table.bind_get?_put ..

theorem leadOf_erase :
    leadOf view (calls.erase id) other = if id = other then none else leadOf view calls other :=
  Table.bind_get?_erase ..

/-- A move to a stage with the same lead shows in no call. -/
theorem leadOf_put_same (here : calls.get? id = some ⟨dst, stage⟩) (same : view stage' = view stage) :
    leadOf view (calls.put id ⟨dst, stage'⟩) other = leadOf view calls other := by
  refine Table.bind_get?_put_same ?_ other
  rw [here, Option.bind_some, same]

/-- A new call without a lead does not show. -/
theorem leadOf_put_free (free : calls.get? id = none) (silent : view stage = none) :
    leadOf view (calls.put id ⟨dst, stage⟩) other = leadOf view calls other := by
  refine Table.bind_get?_put_same ?_ other
  rw [free, Option.bind_none, silent, Option.map_none]

/-- A call without a lead is not missed. -/
theorem leadOf_erase_silent (here : calls.get? id = some ⟨dst, stage⟩) (silent : view stage = none) :
    leadOf view (calls.erase id) other = leadOf view calls other := by
  refine Table.bind_get?_erase_silent ?_ other
  rw [here, Option.bind_some, silent, Option.map_none]

end LeadOf

/-- The destination and the lead of a call that has its mark. -/
abbrev State.marking? (state : State) (id : CallId) : Option (Node × Lead) :=
  leadOf Stage.lead? state.calls id

/-- The destination and the lead of a call that holds its end of an open channel. -/
abbrev State.telling? (state : State) (id : CallId) : Option (Node × Lead) :=
  leadOf Stage.telling? state.calls id

theorem State.telling?_of_marking? {state : State} {id : CallId} {dst : Node} {lead : Lead}
    (marking : state.marking? id = some (dst, lead)) : state.telling? id = some (dst, lead) := by
  obtain ⟨stage, here, leading⟩ := leadOf_eq_some.mp marking
  exact leadOf_eq_some.mpr ⟨stage, here, Stage.telling?_of_lead? leading⟩

/-! ### How a step changes them -/

/-- The ways in which a step changes marks, channels and leads. -/
inductive LeadChange (now : Timestamp) (state : State) : State → Prop
  | keep {after : State} (markers : after.markers = state.markers)
      (channels : after.channels = state.channels)
      (marking : ∀ id, after.marking? id = state.marking? id)
      (telling : ∀ id, after.telling? id = state.telling? id) : LeadChange now state after
  | lead {id : CallId} {dst : Node} {generation : UInt64}
      (here : state.calls.get? id = some ⟨dst, .joining generation⟩)
      (unmarked : ∀ leader, state.markers.get? dst ≠ some ⟨generation, leader⟩) :
      LeadChange now state (lead now id ⟨dst, .joining generation⟩ generation state).1
  | release {id : CallId} {dst : Node} {led : Lead} {outcome : Outcome}
      (here : state.calls.get? id = some ⟨dst, .releasing led outcome⟩) :
      LeadChange now state ((state.unmark dst led.generation).moveTo id
        ⟨dst, .releasing led outcome⟩ (.publishing led outcome))
  | settle {id : CallId} {dst : Node} {led : Lead} {outcome : Outcome} {channel : Channel}
      (here : state.calls.get? id = some ⟨dst, .publishing led outcome⟩)
      (shut : channel ≠ .open) :
      LeadChange now state ((state.announce id channel).1.dismiss id)
  | abandon {id : CallId} {dst : Node} {stage : Stage} {led : Lead}
      (here : state.calls.get? id = some ⟨dst, stage⟩) (leading : stage.lead? = some led) :
      LeadChange now state (((state.unmark dst led.generation).dismiss id).announce id .closed).1

/-- A move of one call to a stage with the same leads keeps marks, channels and leads. -/
theorem LeadChange.of_put {now : Timestamp} {state after : State} {id : CallId} {dst : Node}
    {stage stage' : Stage} (here : state.calls.get? id = some ⟨dst, stage⟩)
    (calls : after.calls = state.calls.put id ⟨dst, stage'⟩)
    (markers : after.markers = state.markers) (channels : after.channels = state.channels)
    (marking : stage'.lead? = stage.lead?) (telling : stage'.telling? = stage.telling?) :
    LeadChange now state after :=
  .keep markers channels (fun _ => by rw [State.marking?, calls, leadOf_put_same here marking])
    fun _ => by rw [State.telling?, calls, leadOf_put_same here telling]

/-- The end of a call that does not lead keeps marks, channels and leads. -/
theorem LeadChange.of_erase {now : Timestamp} {state after : State} {id : CallId} {dst : Node}
    {stage : Stage} (here : state.calls.get? id = some ⟨dst, stage⟩)
    (calls : after.calls = state.calls.erase id) (markers : after.markers = state.markers)
    (channels : after.channels = state.channels) (silent : stage.telling? = none) :
    LeadChange now state after := by
  have unmarked : stage.lead? = none := by
    cases leading : stage.lead? with
    | none => rfl
    | some lead =>
      rw [Stage.telling?_of_lead? leading] at silent
      cases silent
  exact .keep markers channels
    (fun _ => by rw [State.marking?, calls, leadOf_erase_silent here unmarked])
    fun _ => by rw [State.telling?, calls, leadOf_erase_silent here silent]

/-- **Marks, channels and leads change in five ways only**, provided that the number of a call that
starts is free. -/
theorem Move.leadChange {now : Timestamp} {state after : State} {event : Event} {effects : Effects}
    (move : Move now state event after effects)
    (free : ∀ id destination, event = .start id destination → state.calls.get? id = none) :
    LeadChange now state after := by
  cases move with
  | begin parsed =>
    have none := free _ _ rfl
    exact .keep rfl rfl (fun _ => leadOf_put_free none rfl) fun _ => leadOf_put_free none rfl
  | hit here | hear here => exact .of_erase here rfl rfl rfl rfl
  | leave here silent => exact .of_erase here rfl rfl rfl silent
  | miss here | read here | follow here | retry here | locate here | explore here
  | consult _ here | store here => exact .of_put here rfl rfl rfl rfl rfl
  | fail _ here leading =>
    refine .of_put here rfl rfl rfl leading.symm ?_
    rw [Stage.telling?_of_lead? leading]
    rfl
  | lead here unmarked => exact .lead here unmarked
  | release here => exact .release here
  | publish here => exact .settle here (by simp)
  | withhold here => exact .settle here (by simp : Channel.closed ≠ .open)
  | abandon here leading => exact .abandon here leading
  | refuse | fire | purge | idle => exact .keep rfl rfl (fun _ => rfl) fun _ => rfl

/-! ### Beginning to lead -/

/-- The step at which a call begins to lead. -/
def Occurrence.Leads (occurrence : Occurrence) (id : CallId) (dst : Node) (lead : Lead) : Prop :=
  occurrence.event = .proceed (.call id) ∧
    occurrence.before.calls.get? id = some ⟨dst, .joining lead.generation⟩ ∧
    occurrence.now = lead.began ∧
    .ask (.call id) .localNode (some occurrence.before.timeout) ∈ occurrence.effects

/-- What ties marks, channels and leads together, and to what has happened. -/
structure Linked (history : List Occurrence) (state : State) : Prop where
  /-- A mark belongs to a call that leads to its destination in its generation. -/
  marked : ∀ dst marker, state.markers.get? dst = some marker →
    ∃ lead, state.marking? marker.leader = some (dst, lead) ∧ lead.generation = marker.generation
  /-- A channel is open exactly while its call has yet to tell its outcome. -/
  open_iff : ∀ id, state.channels.get? id = some .open ↔
    ∃ dst lead, state.telling? id = some (dst, lead)
  /-- A call that does not lead has never had a channel. -/
  silent : ∀ id call, state.calls.get? id = some call → call.stage.telling? = none →
    state.channels.get? id = none
  /-- A channel belongs to a call that has started. -/
  known : ∀ id channel, state.channels.get? id = some channel →
    ∃ position, At history position (·.Starts id)
  /-- A call that has begun to lead has a channel. -/
  led : ∀ id dst lead position, At history position (·.Leads id dst lead) →
    ∃ channel, state.channels.get? id = some channel

namespace Linked

variable {history : List Occurrence} {state : State}

/-- A channel that is there stays, and one that is shut stays as it is. -/
theorem channels_grow (linked : Linked history state) {now : Timestamp} {after : State}
    (change : LeadChange now state after) {id : CallId} {channel : Channel}
    (here : state.channels.get? id = some channel) :
    (∃ channel', after.channels.get? id = some channel') ∧
      (channel ≠ .open → after.channels.get? id = some channel) := by
  -- the call whose channel is put shut has an open one
  have shut {other : CallId} {channel' : Channel} (open' : state.channels.get? other = some .open) :
      (∃ found, (state.channels.put other channel').get? id = some found) ∧
        (channel ≠ .open → (state.channels.put other channel').get? id = some channel) := by
    rw [Table.get?_put]
    split
    · next same =>
      subst same
      rw [here] at open'
      exact ⟨⟨_, rfl⟩, fun differs => absurd (Option.some.inj open') differs⟩
    · exact ⟨⟨_, here⟩, fun _ => here⟩
  cases change with
  | keep markers channels marking telling =>
    rw [channels]
    exact ⟨⟨_, here⟩, fun _ => here⟩
  | @lead other dst generation joining unmarked =>
    have none := linked.silent other _ joining rfl
    have differs : other ≠ id := by
      rintro rfl
      rw [here] at none
      cases none
    have kept : (lead now other ⟨dst, .joining generation⟩ generation state).1.channels.get? id =
        some channel := by
      show (state.channels.put other .open).get? id = some channel
      rw [Table.get?_put, if_neg differs, here]
    exact ⟨⟨_, kept⟩, fun _ => kept⟩
  | release releasing =>
    rw [State.moveTo_channels, State.unmark_channels]
    exact ⟨⟨_, here⟩, fun _ => here⟩
  | settle publishing _ =>
    exact shut ((linked.open_iff _).mpr ⟨_, _, leadOf_eq_some.mpr ⟨_, publishing, rfl⟩⟩)
  | abandon leading marked =>
    rw [State.announce_channels, State.dismiss_channels, State.unmark_channels]
    exact shut ((linked.open_iff _).mpr
      ⟨_, _, leadOf_eq_some.mpr ⟨_, leading, Stage.telling?_of_lead? marked⟩⟩)

/-- When a leading call gives its mark back, the marks that stay belong to other calls. -/
theorem marked_of_unmark (linked : Linked history state) {id : CallId} {dst place : Node}
    {led : Lead} {marker : Marker} (leading : state.marking? id = some (dst, led))
    (found : (state.unmark dst led.generation).markers.get? place = some marker) :
    ∃ lead, state.marking? marker.leader = some (place, lead) ∧
      lead.generation = marker.generation ∧ id ≠ marker.leader := by
  rw [State.get?_unmark_markers] at found
  split at found
  · cases found
  · next kept =>
    obtain ⟨lead, marking, same⟩ := linked.marked place marker found
    refine ⟨lead, marking, same, fun equal => kept ?_⟩
    rw [← equal, leading] at marking
    cases marking
    exact ⟨rfl, by rw [found, Option.map_some, same]⟩

/-- **After a step every mark belongs to a call that leads.** -/
theorem marked_step (linked : Linked history state) {now : Timestamp} {after : State}
    (change : LeadChange now state after) (place : Node) (marker : Marker)
    (found : after.markers.get? place = some marker) :
    ∃ lead, after.marking? marker.leader = some (place, lead) ∧
      lead.generation = marker.generation := by
  cases change with
  | keep markers channels marking telling =>
    rw [markers] at found
    rw [marking]
    exact linked.marked place marker found
  | @lead id dst generation joining unmarked =>
    rw [State.marking?, lead_calls, leadOf_put]
    rw [lead_markers] at found
    rcases Table.get?_of_put found with ⟨rfl, rfl⟩ | old
    · exact ⟨⟨generation, now⟩, if_pos rfl, rfl⟩
    · obtain ⟨led, marking, same⟩ := linked.marked place marker old
      have differs : id ≠ marker.leader := by
        intro equal
        rw [← equal, State.marking?, leadOf_of_get? joining] at marking
        cases marking
      exact ⟨led, (if_neg differs).trans marking, same⟩
  | release releasing =>
    obtain ⟨led, marking, same, differs⟩ :=
      linked.marked_of_unmark (leadOf_eq_some.mpr ⟨_, releasing, rfl⟩) found
    refine ⟨led, ?_, same⟩
    rw [State.marking?, State.moveTo_calls, State.unmark_calls, leadOf_put, if_neg differs,
      ← marking]
  | settle publishing shut =>
    obtain ⟨led, marking, same⟩ := linked.marked place marker found
    refine ⟨led, ?_, same⟩
    rw [State.marking?, State.dismiss_calls, State.announce_calls,
      leadOf_erase_silent publishing rfl, ← marking]
  | abandon here leading =>
    obtain ⟨led, marking, same, differs⟩ :=
      linked.marked_of_unmark (leadOf_eq_some.mpr ⟨_, here, leading⟩) found
    refine ⟨led, ?_, same⟩
    rw [State.marking?, State.announce_calls, State.dismiss_calls, State.unmark_calls,
      leadOf_erase, if_neg differs, ← marking]

/-- **After a step a channel is open exactly while its call has yet to tell.** -/
theorem open_step (linked : Linked history state) {now : Timestamp} {after : State}
    (change : LeadChange now state after) (other : CallId) :
    after.channels.get? other = some .open ↔ ∃ dst lead, after.telling? other = some (dst, lead) := by
  cases change with
  | keep markers channels marking telling =>
    rw [channels, telling]
    exact linked.open_iff other
  | @lead id dst generation joining unmarked =>
    show (state.channels.put id .open).get? other = some .open ↔ ∃ place led,
      leadOf Stage.telling? (state.calls.put id ⟨dst, .locating ⟨generation, now⟩⟩) other =
        some (place, led)
    rw [Table.get?_put, leadOf_put]
    by_cases same : id = other
    · rw [if_pos same, if_pos same]
      exact ⟨fun _ => ⟨_, _, rfl⟩, fun _ => rfl⟩
    · rw [if_neg same, if_neg same]
      exact linked.open_iff other
  | @release id dst led outcome releasing =>
    have same : Stage.telling? (.publishing led outcome) = Stage.telling? (.releasing led outcome) :=
      rfl
    rw [State.moveTo_channels, State.unmark_channels, State.telling?, State.moveTo_calls,
      State.unmark_calls, leadOf_put_same releasing same]
    exact linked.open_iff other
  | @settle id dst led outcome channel publishing shut =>
    rw [State.dismiss_channels, State.announce_channels, Table.get?_put, State.telling?,
      State.dismiss_calls, State.announce_calls, leadOf_erase]
    by_cases same : id = other
    · rw [if_pos same, if_pos same]
      exact ⟨fun found => absurd (Option.some.inj found) shut, by rintro ⟨_, _, found⟩; cases found⟩
    · rw [if_neg same, if_neg same]
      exact linked.open_iff other
  | @abandon id dst stage led leading marking =>
    rw [State.announce_channels, State.dismiss_channels, State.unmark_channels, Table.get?_put,
      State.telling?, State.announce_calls, State.dismiss_calls, State.unmark_calls, leadOf_erase]
    by_cases same : id = other
    · rw [if_pos same, if_pos same]
      constructor
      · intro found
        cases found
      · rintro ⟨_, _, found⟩
        cases found
    · rw [if_neg same, if_neg same]
      exact linked.open_iff other

/-- After a step a call that does not lead has no channel. -/
theorem silent_step (linked : Linked history state) {now : Timestamp} {event : Event}
    {after : State} {effects : Effects} (move : Move now state event after effects)
    (change : LeadChange now state after)
    (free : ∀ id destination, event = .start id destination → state.channels.get? id = none)
    (other : CallId) (call : Call) (here : after.calls.get? other = some call)
    (quiet : call.stage.telling? = none) : after.channels.get? other = none := by
  cases change with
  | keep markers channels marking telling =>
    rw [channels]
    rcases move.call_before here with ⟨stage, before⟩ | ⟨destination, started, _⟩
    · have same := telling other
      rw [State.telling?, State.telling?, leadOf_of_get? here,
        quiet, leadOf_of_get? before] at same
      exact linked.silent other _ before (Option.map_eq_none_iff.mp same.symm)
    · exact free other destination started
  | @lead id dst generation joining unmarked =>
    show (state.channels.put id .open).get? other = none
    change (state.calls.put id ⟨dst, .locating ⟨generation, now⟩⟩).get? other = some call at here
    rw [Table.get?_put] at here ⊢
    split at here
    · cases here
      cases quiet
    · next differs =>
      rw [if_neg differs]
      exact linked.silent other call here quiet
  | @release id dst led outcome releasing =>
    rw [State.moveTo_channels, State.unmark_channels]
    rw [State.moveTo_calls, State.unmark_calls] at here
    rcases Table.get?_of_put here with ⟨_, rfl⟩ | before
    · cases quiet
    · exact linked.silent other call before quiet
  | @settle id dst led outcome channel publishing shut =>
    rw [State.dismiss_calls, State.announce_calls, Table.get?_erase] at here
    rw [State.dismiss_channels, State.announce_channels, Table.get?_put]
    split at here
    · cases here
    · next differs =>
      rw [if_neg differs]
      exact linked.silent other call here quiet
  | @abandon id dst stage led leading marking =>
    rw [State.announce_calls, State.dismiss_calls, State.unmark_calls, Table.get?_erase] at here
    rw [State.announce_channels, State.dismiss_channels, State.unmark_channels, Table.get?_put]
    split at here
    · cases here
    · next differs =>
      rw [if_neg differs]
      exact linked.silent other call here quiet

/-- A new channel belongs to a call that was under way. -/
theorem channel_before {now : Timestamp} {state after : State} (change : LeadChange now state after)
    {id : CallId} {channel : Channel} (found : after.channels.get? id = some channel) :
    (∃ call, state.calls.get? id = some call) ∨ state.channels.get? id = some channel := by
  cases change with
  | keep markers channels marking telling =>
    rw [channels] at found
    exact Or.inr found
  | lead here unmarked =>
    rw [lead_channels] at found
    rcases Table.get?_of_put found with ⟨rfl, _⟩ | old
    · exact Or.inl ⟨_, here⟩
    · exact Or.inr old
  | release here =>
    rw [State.moveTo_channels, State.unmark_channels] at found
    exact Or.inr found
  | settle here shut =>
    rcases Table.get?_of_put found with ⟨rfl, _⟩ | old
    · exact Or.inl ⟨_, here⟩
    · exact Or.inr old
  | abandon here leading =>
    rw [State.announce_channels, State.dismiss_channels, State.unmark_channels] at found
    rcases Table.get?_of_put found with ⟨rfl, _⟩ | old
    · exact Or.inl ⟨_, here⟩
    · exact Or.inr old

end Linked

/-- The step in which a call begins to lead opens its channel. -/
theorem Occurrence.Leads.opens {occurrence : Occurrence} {id : CallId} {dst : Node} {lead : Lead}
    (leads : occurrence.Leads id dst lead) : occurrence.after.channels.get? id = some .open := by
  obtain ⟨_, _, _, asked⟩ := leads
  rcases occurrence.move.ask_cases asked with ⟨_, _, _, _, _, _, _, after⟩ | ⟨other, _⟩
  · rw [after]
    exact Table.get?_put_self ..
  · exact absurd rfl other

namespace Run

variable {capacity : Nat} {timeout : Duration} {history : List Occurrence} {state : State}

/-- The next step of a run changes marks, channels and leads in one of those ways. -/
theorem leadChange (run : Run capacity timeout history state) {event : Event}
    (fresh : Automaton.Fresh history event) (now : Timestamp) :
    LeadChange now state (Resolver.step now event state).1 :=
  (move_step now event state).leadChange fun _ _ started => run.free_of_fresh (started ▸ fresh)

/-- **In every run marks, channels and leads are linked.** -/
theorem linked (run : Run capacity timeout history state) : Linked history state := by
  induction run with
  | initial =>
    refine ⟨fun dst marker found => ?_, fun id => ⟨fun found => ?_, ?_⟩, fun id call here => ?_,
      fun id channel found => ?_, fun id dst lead position found => ?_⟩
    · cases found
    · cases found
    · rintro ⟨dst, lead, found⟩
      cases found
    · cases here
    · cases found
    · cases found.lt_length
  | @step history state run now event fresh linked =>
    have move := move_step now event state
    have change := leadChange run fresh now
    have free : ∀ id destination, event = .start id destination →
        state.channels.get? id = none := by
      intro id destination started
      cases found : state.channels.get? id with
      | none => rfl
      | some channel =>
        obtain ⟨position, begun⟩ := linked.known id channel found
        exact absurd (congrArg Event.starting? started)
          (fresh.running (begun.mono fun _ => Occurrence.Starts.starting?_eq))
    refine ⟨linked.marked_step change, linked.open_step change,
      linked.silent_step move change free, fun id channel found => ?_,
      fun id dst lead position found => ?_⟩
    · rcases Linked.channel_before change found with ⟨call, here⟩ | old
      · obtain ⟨position, found⟩ := started run here
        exact ⟨position, (found.mono fun _ => Occurrence.StartsFor.starts).append _⟩
      · obtain ⟨position, found⟩ := linked.known id channel old
        exact ⟨position, found.append _⟩
    · rcases found.append_singleton with old | ⟨_, leads⟩
      · obtain ⟨channel, here⟩ := linked.led id dst lead position old
        exact (linked.channels_grow change here).1
      · exact ⟨_, leads.opens⟩

/-- **A channel that is shut stays as it is.** -/
theorem channel_stays (run : Run capacity timeout history state) {id : CallId} {channel : Channel}
    {position : Nat} (found : At history position (·.after.channels.get? id = some channel))
    (shut : channel ≠ .open) : state.channels.get? id = some channel := by
  let holds : State → Prop := fun state => state.channels.get? id = some channel
  have closed : At history position (holds ·.after) := found
  refine (run.stays closed fun later taken _ here before => ?_).2
  obtain ⟨earlier, fresh⟩ := run.take_and_fresh here
  exact ((linked earlier).channels_grow (leadChange earlier fresh taken.now) before).2 shut

/-- **A call begins to lead at most once**, and so to one destination and in one generation. -/
theorem leads_unique (run : Run capacity timeout history state) {id : CallId} {dst dst' : Node}
    {lead lead' : Lead} {first second : Nat} (one : At history first (·.Leads id dst lead))
    (two : At history second (·.Leads id dst' lead')) :
    first = second ∧ dst = dst' ∧ lead = lead' := by
  -- a call that begins to lead joins, and has no channel yet
  have last {history : List Occurrence} {occurrence : Occurrence} {dst dst' : Node}
      {lead lead' : Lead} {position : Nat}
      (run : Run capacity timeout history occurrence.before)
      (old : At history position (·.Leads id dst lead))
      (new : occurrence.Leads id dst' lead') : False := by
    obtain ⟨channel, here⟩ := run.linked.led id dst lead position old
    have none := run.linked.silent id _ new.2.1 rfl
    rw [here] at none
    cases none
  have same : first = second := by
    induction run with
    | initial => cases one.lt_length
    | step run now event fresh hypothesis =>
      rcases one.append_singleton with old | ⟨rfl, new⟩ <;>
        rcases two.append_singleton with old' | ⟨rfl, new'⟩
      · exact hypothesis old old'
      · exact (last run old new').elim
      · exact (last run old' new).elim
      · rfl
  subst same
  obtain ⟨occurrence, _, ⟨_, here, began, _⟩, ⟨_, here', began', _⟩⟩ := one.and two
  obtain ⟨generation, instant⟩ := lead
  obtain ⟨generation', instant'⟩ := lead'
  simp only at here here' began began'
  rw [here] at here'
  cases here'
  rw [← began, ← began']
  exact ⟨rfl, rfl, rfl⟩

end Run

end Wayfinder.Resolver
