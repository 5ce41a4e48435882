/-
**Calls of the resolver in a step.**

A step is about one call at most, and every other call stays where it is. The one that it is about
begins, goes on from its stage to the next, or is gone.

* `Task.caller?`, `Event.caller?`: whom a step is about;
* `Move.call_kept`: the other calls stay where they are;
* `Onward`: how a call goes on from a stage to the next;
* `CallChange`, `Move.call_change`: how a call has come to be where it is after a step;
* `Move.call_before`: it was under way before, or has just begun.
-/

import Wayfinder.Proofs.Resolver.Move

namespace Wayfinder.Resolver

/-! ### Whom a step concerns -/

/-- The call whose task it is. -/
def Task.caller? : Task → Option CallId
  | .call id => some id
  | .timer _ => none

/-- The call that an event is about. -/
def Event.caller? : Event → Option CallId
  | .start id _ | .answer id _ | .cancel id => some id
  | .proceed task => task.caller?
  | .purge => none

section Concerned

variable {now : Timestamp} {state after : State} {event : Event} {effects : Effects} {id : CallId}

/-- **A call is where it was after the steps that are not about it.** -/
theorem Move.call_kept (move : Move now state event after effects)
    (apart : event.caller? ≠ some id) : after.calls.get? id = state.calls.get? id := by
  have put {other : CallId} {call : Call} (apart : some other ≠ some id) :
      (state.calls.put other call).get? id = state.calls.get? id := by
    rw [Table.get?_put, if_neg fun same => apart (congrArg some same)]
  have erase {other : CallId} (apart : some other ≠ some id) :
      (state.calls.erase other).get? id = state.calls.get? id := by
    rw [Table.get?_erase, if_neg fun same => apart (congrArg some same)]
  cases move with
  | refuse | fire | purge | idle => rfl
  | begin | miss | read | follow | lead | retry | locate | explore | consult | fail | store =>
    exact put apart
  | release =>
    rw [State.moveTo_calls, State.unmark_calls]
    exact put apart
  | hit | hear | publish | withhold | leave => exact erase apart
  | abandon =>
    rw [State.announce_calls, State.dismiss_calls, State.unmark_calls]
    exact erase apart

/-- A call asks in the steps that are about it. -/
theorem Move.ask_caller (move : Move now state event after effects) {query : Query}
    {limit : Option Duration} (asked : .ask (.call id) query limit ∈ effects) :
    event.caller? = some id := by
  cases move with
  | lead | locate | explore =>
    cases List.mem_singleton.mp asked
    rfl
  | publish =>
    rcases List.mem_append.mp asked with roused | last
    · obtain ⟨follower, same⟩ := State.mem_announce roused
      cases same
    · cases List.mem_singleton.mp last
  | store here quiet =>
    obtain ⟨timer, due, same⟩ := quiet _ asked
    cases same
  | abandon | withhold =>
    obtain ⟨follower, same⟩ := State.mem_announce asked
    cases same
  | _ => simp at asked

/-- A call ends in a step that is about it. -/
theorem Move.finish_caller (move : Move now state event after effects) {outcome : Outcome}
    (finished : .finish id outcome ∈ effects) : event.caller? = some id := by
  rcases move.finish_cases finished with ⟨_, _, begins, _⟩ | ⟨turn, _⟩
  · rw [begins]
    rfl
  · rw [turn]
    rfl

end Concerned

/-! ### What becomes of a call -/

/-- How a call for a destination goes on from a stage to the next. -/
inductive Onward (now : Timestamp) (state : State) (id : CallId) (dst : Node) :
    Event → Stage → Stage → Prop
  | miss (found : (state.cache.get dst now).1 = none) :
      Onward now state id dst (.proceed (.call id)) .lookingUp .readingGeneration
  | read :
      Onward now state id dst (.proceed (.call id)) .readingGeneration
        (.joining state.cache.generation)
  | follow {leader : CallId} {generation : UInt64}
      (marked : state.markers.get? dst = some ⟨generation, leader⟩) :
      Onward now state id dst (.proceed (.call id)) (.joining generation)
        (.following leader generation)
  | lead {generation : UInt64} :
      Onward now state id dst (.proceed (.call id)) (.joining generation)
        (.locating ⟨generation, now⟩)
  | retry {leader : CallId} {generation : UInt64} :
      Onward now state id dst (.proceed (.call id)) (.following leader generation) .lookingUp
  | locate {led : Lead} {src : Node} :
      Onward now state id dst (.answer id (.node (.ok src))) (.locating led) (.exploring led src)
  | explore {led : Lead} {src : Node} {candidates : List Candidate} :
      Onward now state id dst (.answer id (.candidates (.ok candidates))) (.exploring led src)
        (.consulting led src (earliestExpiry candidates))
  | consult {led : Lead} {src : Node} {expiry : Option Timestamp} {answers : List (List Link)} :
      Onward now state id dst (.answer id (.compliant (.ok answers))) (.consulting led src expiry)
        (.storing led (answers.flatMap (reconstruct src dst)) expiry)
  | fail {stage : Stage} {led : Lead} {reply : Reply} {fault : ResolveFault}
      (leading : stage.lead? = some led) (failing : stage.failure? reply = some fault) :
      Onward now state id dst (.answer id reply) stage (.releasing led (.error fault))
  | store {led : Lead} {routes : List Route} {expiry : Option Timestamp} :
      Onward now state id dst (.proceed (.call id)) (.storing led routes expiry)
        (.releasing led (.ok ⟨routes, id⟩))
  | release {led : Lead} {outcome : Outcome} :
      Onward now state id dst (.proceed (.call id)) (.releasing led outcome)
        (.publishing led outcome)

/-- How a call has come to be where it is after a step. -/
inductive CallChange (now : Timestamp) (state : State) (event : Event) (id : CallId) : Call → Prop
  | kept {call : Call} (here : state.calls.get? id = some call) :
      CallChange now state event id call
  | begun {destination : String} {dst : Node} (starts : event = .start id destination)
      (parsed : Node.parseTrimmed destination = .ok dst) :
      CallChange now state event id ⟨dst, .lookingUp⟩
  | onward {dst : Node} {stage next : Stage} (here : state.calls.get? id = some ⟨dst, stage⟩)
      (goes : Onward now state id dst event stage next) :
      CallChange now state event id ⟨dst, next⟩

section Change

variable {now : Timestamp} {state after : State} {event : Event} {effects : Effects} {id : CallId}
  {call : Call}

theorem call_change_of_put {other : CallId} {dst : Node} {stage next : Stage}
    (here : state.calls.get? other = some ⟨dst, stage⟩)
    (goes : Onward now state other dst event stage next)
    (found : (state.calls.put other ⟨dst, next⟩).get? id = some call) :
    CallChange now state event id call := by
  rcases Table.get?_of_put found with ⟨rfl, rfl⟩ | old
  · exact .onward here goes
  · exact .kept old

/-- **A call after a step is where it was, or has begun, or has gone on from its stage.** -/
theorem Move.call_change (move : Move now state event after effects)
    (found : after.calls.get? id = some call) : CallChange now state event id call := by
  cases move with
  | begin parsed =>
    rcases Table.get?_of_put found with ⟨rfl, rfl⟩ | old
    · exact .begun rfl parsed
    · exact .kept old
  | miss here missed => exact call_change_of_put here (.miss missed) found
  | read here => exact call_change_of_put here .read found
  | follow here marked => exact call_change_of_put here (.follow marked) found
  | lead here => exact call_change_of_put here .lead found
  | retry here => exact call_change_of_put here .retry found
  | locate here => exact call_change_of_put here .locate found
  | explore here => exact call_change_of_put here .explore found
  | consult _ here => exact call_change_of_put here .consult found
  | fail _ here leading failing => exact call_change_of_put here (.fail leading failing) found
  | store here => exact call_change_of_put here .store found
  | release here =>
    rw [State.moveTo_calls, State.unmark_calls] at found
    exact call_change_of_put here .release found
  | abandon =>
    rw [State.announce_calls, State.dismiss_calls, State.unmark_calls] at found
    exact .kept (Table.get?_of_erase found)
  | hit | hear | publish | withhold | leave => exact .kept (Table.get?_of_erase found)
  | refuse | fire | purge | idle => exact .kept found

/-- A call that is under way after a move was so before, for the same destination, or has started
with it. -/
theorem Move.call_before (move : Move now state event after effects)
    (found : after.calls.get? id = some call) :
    (∃ stage, state.calls.get? id = some ⟨call.dst, stage⟩) ∨
      ∃ destination, event = .start id destination ∧
        Node.parseTrimmed destination = .ok call.dst := by
  cases move.call_change found with
  | kept here => exact Or.inl ⟨_, here⟩
  | begun starts parsed => exact Or.inr ⟨_, starts, parsed⟩
  | onward here => exact Or.inl ⟨_, here⟩

end Change

end Wayfinder.Resolver
