/-
**Whose fault it is when a call for routes fails.**

A call whose destination names no node is refused when it begins. After that only a collaborator can
fail it: no fault that a call keeps for others, or that is told, blames the request.

* `State.Candid`: no fault that is kept blames the request;
* `State.Candid.step`: so it is after every step;
* `State.Candid.finish`: a call that ends later than with its beginning is not blamed.
-/

import Wayfinder.Proofs.Atlas.Results
import Wayfinder.Proofs.Resolver.Failures

namespace Wayfinder.Resolver

/-- Whether an outcome does not blame the request. -/
def Outcome.Candid (outcome : Outcome) : Prop :=
  ∀ fault, outcome = .error fault → fault.code ≠ .invalidArgument

/-- Whether no outcome that is kept blames the request. -/
structure State.Candid (state : State) : Prop where
  calls : ∀ id call outcome, state.calls.get? id = some call →
    call.stage.outcome? = some outcome → outcome.Candid
  channels : ∀ id outcome, state.channels.get? id = some (.published outcome) → outcome.Candid

section

variable {now : Timestamp} {state after : State} {event : Event} {effects : Effects} {id : CallId}

/-- A collaborator that fails a call does not blame the request. -/
theorem Stage.code_of_failure? {stage : Stage} {reply : Reply} {fault : ResolveFault}
    (failing : stage.failure? reply = some fault) : fault.code ≠ .invalidArgument := by
  unfold Stage.failure? at failing
  split at failing
  · next fault' =>
    cases failing
    exact fault'.code_ne
  · next fault' =>
    cases failing
    exact fault'.code_ne
  · next fault' =>
    cases failing
    exact fault'.code_ne
  · cases failing

/-- A call that has an outcome has an open channel to tell it. -/
theorem Stage.telling?_of_outcome? {stage : Stage} {outcome : Outcome}
    (has : stage.outcome? = some outcome) : ∃ lead, stage.telling? = some lead := by
  cases stage with
  | releasing lead | publishing lead => exact ⟨lead, rfl⟩
  | _ => cases has

theorem candid_initial (capacity : Nat) (timeout : Duration) :
    (State.initial capacity timeout).Candid where
  calls := fun _ _ _ here => by cases here
  channels := fun _ _ here => by cases here

/-- **No outcome that is kept after a step blames the request.** -/
theorem State.Candid.step (candid : state.Candid) (now : Timestamp) (event : Event) :
    (step now event state).1.Candid where
  calls id call outcome here has := by
    rintro fault rfl
    obtain ⟨lead, telling⟩ := Stage.telling?_of_outcome? has
    rcases (move_step now event state).fault_before here has telling with
      ⟨stage, there, had, _⟩ | ⟨stage, reply, _, _, _, failing⟩
    · exact candid.calls id _ _ there had fault rfl
    · exact Stage.code_of_failure? failing
  channels id outcome here := by
    rcases (move_step now event state).published_before here with old | ⟨dst, led, _, there, _⟩
    · exact candid.channels id outcome old
    · exact candid.calls id _ _ there rfl

/-- **A call that ends later than with its beginning is not blamed.** -/
theorem State.Candid.finish (candid : state.Candid)
    (running : ∀ destination, event ≠ .start id destination) {outcome : Outcome}
    (finished : .finish id outcome ∈ (Resolver.step now event state).2) : outcome.Candid := by
  rcases (move_step now event state).finish_cases finished with
    ⟨destination, _, starts, _⟩ | ⟨_, ⟨_, finding, _, _, rfl⟩ | ⟨_, leader, _, _, told⟩ |
      ⟨_, _, here⟩⟩
  · exact absurd starts (running destination)
  · intro fault same
    cases same
  · exact candid.channels leader outcome told
  · exact candid.calls id _ outcome here rfl

end

end Wayfinder.Resolver
