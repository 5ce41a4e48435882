/-
**Leading calls and their marks.**

A fetching call that leads has its mark from the step in which it begins its collection until it
gives the mark back or is given up. Seen from the marks, every move either leaves them and the
leading calls as they are, or one call begins to lead, or one ceases to.

* `State.leading?`: the pair that a call leads for;
* `Move.leadChange`: what a move does to the marks and to the leading calls;
* `Run.marked_iff`: the mark of a pair is that of the one call that leads for it;
* `Run.leads_of_errand`: whoever works on a collection leads for its pair, or makes a pass.
-/

import Wayfinder.Proofs.Atlas.Errand

namespace Wayfinder.Atlas

/-- The pair that a call leads for. -/
def Call.leading? : Call → Option Pair
  | .fetch pair stage => if stage.isLeading then some pair else none
  | _ => none

/-- The pair that a call leads for, among the calls under way. -/
def State.leading? (state : State) (id : CallId) : Option Pair :=
  (state.calls.get? id).bind Call.leading?

/-- What a move does to the marks and to the leading calls. -/
inductive LeadChange (state after : State) : Prop
  | kept (leading : ∀ id, after.leading? id = state.leading? id)
      (markers : after.markers = state.markers)
  | begun {id : CallId} {pair : Pair} (idle : state.leading? id = none)
      (unmarked : state.markers.get? pair = none)
      (leading : ∀ other, after.leading? other =
        if id = other then some pair else state.leading? other)
      (markers : after.markers = state.markers.put pair id)
  | ended {id : CallId} {pair : Pair} (led : state.leading? id = some pair)
      (leading : ∀ other, after.leading? other =
        if id = other then none else state.leading? other)
      (markers : after.markers = state.markers.erase pair)

section

variable {now : Timestamp} {state after : State} {event : Event} {effects : Effects}

theorem State.leading?_of_get? {id : CallId} {call : Call}
    (here : state.calls.get? id = some call) : state.leading? id = call.leading? := by
  rw [leading?, here, Option.bind_some]

theorem Stage.leading?_of_isSilent {pair : Pair} {stage : Stage} (silent : stage.isSilent = true) :
    (Call.fetch pair stage).leading? = none := by
  cases stage <;> first | rfl | cases silent

theorem leading?_put {id : CallId} {call : Call} {led : Option Pair}
    (calls : after.calls = state.calls.put id call) (leads : call.leading? = led)
    (other : CallId) :
    after.leading? other = if id = other then led else state.leading? other := by
  rw [State.leading?, State.leading?, calls, Table.bind_get?_put, leads]

theorem leading?_erase {id : CallId} (calls : after.calls = state.calls.erase id) (other : CallId) :
    after.leading? other = if id = other then none else state.leading? other := by
  rw [State.leading?, State.leading?, calls, Table.bind_get?_erase]

/-- A call that leads as much as before, if at all. -/
theorem LeadChange.of_put {id : CallId} {call : Call}
    (calls : after.calls = state.calls.put id call) (markers : after.markers = state.markers)
    (same : call.leading? = state.leading? id) : LeadChange state after := by
  refine .kept (fun other => ?_) markers
  rw [State.leading?, calls]
  exact Table.bind_get?_put_same same other

/-- A call that does not lead is taken out. -/
theorem LeadChange.of_erase {id : CallId} (calls : after.calls = state.calls.erase id)
    (markers : after.markers = state.markers) (idle : state.leading? id = none) :
    LeadChange state after := by
  refine .kept (fun other => ?_) markers
  rw [State.leading?, calls]
  exact Table.bind_get?_erase_silent idle other

theorem LeadChange.of_setPass {before : State} {owner : Owner} {old pass : Pass}
    (making : before.pass? owner = some old) (calls : before.calls = state.calls)
    (markers : before.markers = state.markers) : LeadChange state (before.setPass owner pass) := by
  rcases State.setPass_cases pass making with ⟨id, rfl, here, same⟩ | ⟨id, loop, rfl, _, _, same⟩
  · rw [same]
    rw [calls] at here
    refine .of_put (congrArg (·.put id (.refresh pass)) calls) markers ?_
    exact (State.leading?_of_get? here).symm
  · rw [same]
    exact .kept (fun other => by rw [State.leading?, State.leading?, ← calls]) markers

/-- **A move leaves the marks and the leading calls as they are, or one call begins to lead, or one
ceases to.** -/
theorem Move.leadChange (move : Move now state event after effects)
    (free : ∀ id, event.beginning? = some id → state.calls.get? id = none) :
    LeadChange state after := by
  have unknown {id : CallId} (begins : event.beginning? = some id) : none = state.leading? id := by
    rw [State.leading?, free id begins, Option.bind_none]
  cases move with
  | request | refresh | close => exact .of_put rfl rfl (unknown rfl)
  | miss here | follow here | retry here | gather here | fail here | store here | detach here
  | closeAtOnce here | closeAfter here =>
    exact .of_put rfl rfl (State.leading?_of_get? here).symm
  | hit here | hear here | publish here | complete here | giveUp here | closed here
  | withhold here | abort here | resign here =>
    exact .of_erase rfl rfl (State.leading?_of_get? here)
  | lead here unmarked =>
    exact .begun (State.leading?_of_get? here) unmarked (leading?_put rfl rfl) rfl
  | release here => exact .ended (State.leading?_of_get? here) (leading?_put rfl rfl) rfl
  | abandon here leading =>
    refine .ended ?_ (leading?_erase rfl) rfl
    rw [State.leading?_of_get? here, Call.leading?, if_pos leading]
  | leave here silent =>
    refine .of_erase rfl rfl ?_
    rw [State.leading?_of_get? here]
    exact Stage.leading?_of_isSilent silent
  | revisit making => exact .of_setPass making rfl rfl
  | renew making => exact .of_setPass making rfl rfl
  | skip making => exact .of_setPass making rfl rfl
  | _ => exact .kept (fun _ => rfl) rfl

/-- A change keeps marks and leading calls together. -/
theorem LeadChange.marked_iff (change : LeadChange state after)
    (linked : ∀ pair id, state.markers.get? pair = some id ↔ state.leading? id = some pair)
    (pair : Pair) (id : CallId) :
    after.markers.get? pair = some id ↔ after.leading? id = some pair := by
  cases change with
  | kept leading markers =>
    rw [leading, markers]
    exact linked pair id
  | @begun leader place idle unmarked leading markers =>
    rw [leading, markers, Table.get?_put]
    by_cases here : place = pair <;> by_cases same : leader = id
    · rw [if_pos here, if_pos same, here, same]
      exact iff_of_true rfl rfl
    · rw [if_pos here, if_neg same, ← linked, ← here, unmarked]
      exact iff_of_false (fun found => same (Option.some.inj found)) (Option.some_ne_none _).symm
    · rw [if_neg here, if_pos same, linked, ← same, idle]
      exact iff_of_false (Option.some_ne_none _).symm fun found => here (Option.some.inj found)
    · rw [if_neg here, if_neg same]
      exact linked pair id
  | @ended leader place led leading markers =>
    have marked := (linked place leader).mpr led
    rw [leading, markers, Table.get?_erase]
    by_cases here : place = pair <;> by_cases same : leader = id
    · rw [if_pos here, if_pos same]
      exact iff_of_false (Option.some_ne_none _).symm (Option.some_ne_none _).symm
    · rw [if_pos here, if_neg same, ← linked, ← here, marked]
      exact iff_of_false (Option.some_ne_none _).symm fun found => same (Option.some.inj found)
    · rw [if_neg here, if_pos same, linked, ← same, led]
      exact iff_of_false (fun found => here (Option.some.inj found)) (Option.some_ne_none _).symm
    · rw [if_neg here, if_neg same]
      exact linked pair id

end

namespace Run

variable {capacity : Nat} {geolocating : Bool} {timeout interval : Duration}
  {history : List Occurrence} {state : State}

/-- **The mark of a pair is that of the one call that leads for it.** -/
theorem marked_iff (run : Run capacity geolocating timeout interval history state) (pair : Pair)
    (id : CallId) : state.markers.get? pair = some id ↔ state.leading? id = some pair := by
  induction run generalizing pair id with
  | initial =>
    constructor <;> intro found <;> cases found
  | @step history state run now event fresh hypothesis =>
    have free : ∀ id, event.beginning? = some id → state.calls.get? id = none :=
      fun id begins => Run.free run fresh begins
    exact ((move_step now event state).leadChange free).marked_iff hypothesis pair id

/-- Whoever works on a collection without making a pass leads for its pair. -/
theorem leads_of_errand {owner : Owner} {pair : Pair} {id : CollectionId}
    (working : state.errand? owner = some (pair, id)) (passes : state.pass? owner = none) :
    ∃ call, owner = .call call ∧ state.leading? call = some pair := by
  cases owner with
  | loop loop =>
    obtain ⟨running, here, current⟩ := Option.bind_eq_some_iff.mp working
    obtain ⟨pass, passing, _⟩ := Option.bind_eq_some_iff.mp current
    rw [State.pass?, here, Option.bind_some, passing] at passes
    cases passes
  | call call =>
    obtain ⟨under, here, errand⟩ := Option.bind_eq_some_iff.mp working
    refine ⟨call, rfl, ?_⟩
    rw [State.leading?_of_get? here]
    cases under with
    | fetch other stage =>
      cases stage with
      | collecting | storing =>
        cases errand
        rfl
      | _ => cases errand
    | refresh pass =>
      simp only [State.pass?, here] at passes
      cases passes
    | close stage => cases errand

/-- **Of two calls or loops that work for one pair, one makes a pass.** -/
theorem pass_of_errands (run : Run capacity geolocating timeout interval history state)
    {owner owner' : Owner} {pair : Pair} {id id' : CollectionId} (differs : owner ≠ owner')
    (working : state.errand? owner = some (pair, id))
    (working' : state.errand? owner' = some (pair, id')) :
    state.pass? owner ≠ none ∨ state.pass? owner' ≠ none := by
  by_cases passes : state.pass? owner = none
  · by_cases passes' : state.pass? owner' = none
    · obtain ⟨call, rfl, leads⟩ := leads_of_errand working passes
      obtain ⟨call', rfl, leads'⟩ := leads_of_errand working' passes'
      have marked := (run.marked_iff pair call).mpr leads
      rw [(run.marked_iff pair call').mpr leads'] at marked
      exact absurd (congrArg Owner.call (Option.some.inj marked).symm) differs
    · exact Or.inr passes'
  · exact Or.inl passes

end Run

end Wayfinder.Atlas
