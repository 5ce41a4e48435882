/-
**What a closing call has left to do.**

Where a closing call stands can be read off the panel, and with it how many steps it has still to
make. It is never stuck: when it is its own turn it can take it, and else it waits for an answer or
for a loop that has been told to stop.

* `State.remaining`: how many steps a call has still to make, at most;
* `Spot.remaining`, `Spot.Holds.remaining_eq`: the same from where the call stands;
* `Spot.Holds.facing_goes`, `detaching_goes`, `stopping_goes`: the call has a turn.
-/

import Wayfinder.Proofs.Panel.Closing

namespace Wayfinder.Panel

/-- How many steps a call that closes the sources has still to make until it leaves the panel, at
most, with two for what comes afterwards. -/
def State.remaining (state : State) (id : CallId) : Nat :=
  match state.rounds.get? id with
  | none => 0
  | some round =>
    4 * (state.sources.length - round.position) +
      if round.waiting then
        match (state.atlas? round.position).bind (·.calls.get? id) with
        | some (.close .releasing) => 0
        | some (.close (.stopping _)) => 1
        | _ => 2
      else 3

/-- How many steps a call has still to make, given the number of sources. -/
def Spot.remaining (count : Nat) : Spot → Nat
  | .facing position => 4 * (count - position) + 3
  | .asking position => 4 * (count - position) + 2
  | .inside position .detaching => 4 * (count - position) + 2
  | .inside position (.stopping _) => 4 * (count - position) + 1
  | .inside position .releasing => 4 * (count - position)
  | .away => 0

section

variable {id : CallId} {kinds : List Kind} {spot : Spot} {state : State} {position : Nat}

/-- There are as many sources as kinds. -/
theorem Spot.Holds.length_eq (holds : spot.Holds id kinds state) :
    state.sources.length = kinds.length := by
  have absent (position : Nat) : state.sources[position]? = none ↔ kinds[position]? = none := by
    have stands := holds.source position
    generalize kinds[position]? = kind, state.sources[position]? = source,
      spot.call? position = call? at stands ⊢
    cases stands <;> simp
  have first := (absent kinds.length).mpr (List.getElem?_eq_none (Nat.le_refl _))
  have second := (absent state.sources.length).mp (List.getElem?_eq_none (Nat.le_refl _))
  exact Nat.le_antisymm (List.getElem?_eq_none_iff.mp first) (List.getElem?_eq_none_iff.mp second)

/-- The call in the atlas at a position, if there is one. -/
theorem Spot.Holds.call_eq (holds : spot.Holds id kinds state) (position : Nat) :
    (state.atlas? position).bind (·.calls.get? id) = spot.call? position := by
  have stands := holds.source position
  rw [State.atlas?]
  generalize kinds[position]? = kind, state.sources[position]? = source,
    spot.call? position = call? at stands ⊢
  cases stands with
  | none | external | archive => rfl
  | atlas here => exact here

/-- **What a call has left to do depends on where it stands.** -/
theorem Spot.Holds.remaining_eq (holds : spot.Holds id kinds state) :
    state.remaining id = spot.remaining kinds.length := by
  rw [State.remaining, holds.round, holds.length_eq.symm]
  cases spot with
  | away | facing => rfl
  | asking position =>
    simp only [Spot.round?, holds.call_eq, Spot.call?, Spot.remaining, if_true]
  | inside position stage =>
    simp only [Spot.round?, holds.call_eq, Spot.call?_inside_self, if_true]
    cases stage <;> rfl

/-! ### The call has a turn -/

theorem Spot.Holds.facing_goes (holds : (Spot.facing position).Holds id kinds state)
    (now : Timestamp) : (Panel.proceed now (.call id) state).isSome := by
  simp only [Panel.proceed, holds.round, Spot.round?, Option.bind_some, Panel.proceedCall]
  rw [if_neg Bool.false_ne_true]
  split <;> rfl

theorem Spot.Holds.detaching_goes (holds : (Spot.inside position .detaching).Holds id kinds state)
    (now : Timestamp) : (Panel.proceed now (.atlas position (.call id)) state).isSome := by
  obtain ⟨atlas, here⟩ := holds.inside
  have calling := (holds.atlas here).2.1
  rw [Spot.call?_inside_self] at calling
  simp only [Panel.proceed, atlas?_of_source here, Option.bind_some, Atlas.proceed, calling,
    Atlas.proceedCall, Atlas.proceedClose, Option.map_some, Option.isSome_some]

/-- A call that waits for a loop has a turn once the loop is over. -/
theorem Spot.Holds.stopping_goes {loop : Atlas.LoopId}
    (holds : (Spot.inside position (.stopping loop)).Holds id kinds state) :
    (∀ now, (Panel.proceed now (.atlas position (.call id)) state).isSome) ∨
      ∃ atlas, state.sources[position]? = some (.atlas atlas) ∧ atlas.Told loop ∧
        atlas.Active loop := by
  obtain ⟨atlas, here⟩ := holds.inside
  obtain ⟨_, calling, _, told⟩ := holds.atlas here
  rw [Spot.call?_inside_self] at calling told
  obtain ⟨running, found, signalled⟩ := told loop rfl
  cases exit : running.beat.exit? Atlas.jobName with
  | some outcome =>
    refine Or.inl fun now => ?_
    simp only [Panel.proceed, atlas?_of_source here, Option.bind_some, Atlas.proceed, calling,
      Atlas.proceedCall, Atlas.proceedClose, found, exit, Option.map_some, Option.isSome_some]
  | none =>
    refine Or.inr ⟨atlas, here, ⟨running, found, signalled⟩, running, found, ?_⟩
    refine Atlas.isOver_eq_false_of_phase ?_
    unfold Heartbeat.exit? at exit
    cases phase : running.beat.phase with
    | waiting => exact Or.inr rfl
    | running => exact Or.inl rfl
    | ended | crashed =>
      rw [phase] at exit
      cases exit

end

end Wayfinder.Panel
