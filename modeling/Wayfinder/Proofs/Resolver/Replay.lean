/-
**Steps that are replayed.**

Given steps, taken one after another, are a run if no number starts twice. A call that is not
disturbed takes the steps up to its access to the marks at once, and leads if nobody else does.

* `Run.of_replay`: given steps as a run;
* `arrive_purges`: the state after any number of purges;
* `turns_lead`: an undisturbed call leads where nothing is stored and nobody leads.
-/

import Wayfinder.Proofs.Resolver.Exclusion

namespace Wayfinder.Resolver

/-- The node of the service in runs that are replayed. -/
def sampleSrc : Node := { isd := 7, asn := 70 }

/-- The destination of the calls in runs that are replayed. -/
def sampleDst : Node := { isd := 7, asn := 71 }

/-- **Steps in which no number starts twice are a run.** -/
theorem Run.of_replay (capacity : Nat) (timeout : Duration) (steps : List (Timestamp × Event))
    (distinct : (steps.filterMap (·.2.starting?)).Nodup) :
    Run capacity timeout (automaton.replay (.initial capacity timeout) steps)
      (automaton.arrive (.initial capacity timeout) steps) :=
  Automaton.Run.of_replay automaton _ steps distinct

/-! ### Purges -/

/-- Purges change the cache only: each begins a new generation, and no routes appear. -/
theorem arrive_purges (state : State) (now : Timestamp) (count : Nat) :
    ∃ cache, automaton.arrive state (List.replicate count (now, .purge)) = { state with cache } ∧
      cache.generation = state.cache.generation + UInt64.ofNat count ∧
      ∀ dst, state.cache.slot? dst = none → cache.slot? dst = none := by
  induction count generalizing state with
  | zero => exact ⟨state.cache, rfl, by simp, fun _ none => none⟩
  | succ count hypothesis =>
    obtain ⟨cache, arrived, generation, empty⟩ :=
      hypothesis { state with cache := state.cache.purge }
    refine ⟨cache, ?_, ?_, fun dst _ => empty dst (RouteCache.slot?_purge ..)⟩
    · rw [List.replicate_succ, Automaton.arrive]
      exact arrived
    · rw [generation, RouteCache.purge_generation, UInt64.ofNat_add, UInt64.add_assoc,
        UInt64.add_comm 1]
      rfl

/-! ### Nothing in between -/

theorem uninterrupted_cons {occurrence : Occurrence} {history : List Occurrence}
    (turn : ∀ id call, occurrence.before.calls.get? id = some call →
      call.stage.accessing = true → occurrence.event = .proceed (.call id))
    (rest : Uninterrupted history) : Uninterrupted (occurrence :: history) := by
  intro other member
  rcases List.mem_cons.mp member with rfl | later
  · exact turn
  · exact rest other later

theorem uninterrupted_append {first second : List Occurrence} (before : Uninterrupted first)
    (after : Uninterrupted second) : Uninterrupted (first ++ second) := by
  intro occurrence member
  rcases List.mem_append.mp member with earlier | later
  · exact before occurrence earlier
  · exact after occurrence later

/-- Whether no call stands between its lookup and its access to the marks. -/
def State.Settled (state : State) : Prop :=
  ∀ id call, state.calls.get? id = some call → call.stage.accessing = false

/-- Whether no call stands between its lookup and its access to the marks can be checked on the
entries of the table. -/
theorem settled_of_entries {state : State}
    (still : ∀ entry ∈ state.calls.entries, entry.2.stage.accessing = false) : state.Settled :=
  fun _ _ here => still _ (Table.mem_entries_of_get? here)

theorem uninterrupted_purges {state : State} (settled : state.Settled) (now : Timestamp)
    (count : Nat) : Uninterrupted (automaton.replay state (List.replicate count (now, .purge))) := by
  induction count generalizing state with
  | zero => exact fun _ member => absurd member List.not_mem_nil
  | succ count hypothesis =>
    rw [List.replicate_succ, Automaton.replay]
    refine uninterrupted_cons (fun id call here accessing => ?_) (hypothesis settled)
    rw [settled id call here] at accessing
    cases accessing

/-- The steps of a call up to its access to the marks, at one instant. -/
def turns (now : Timestamp) (id : CallId) (destination : String) : List (Timestamp × Event) :=
  [(now, .start id destination), (now, .proceed (.call id)), (now, .proceed (.call id)),
    (now, .proceed (.call id))]

section Turns

variable {state : State} {dst : Node} {destination : String}

/-- **A call that starts where nothing is stored and no mark of the present generation stands
leads**, and nothing comes in between. -/
theorem turns_lead (id : CallId) (now : Timestamp) (settled : state.Settled)
    (parsed : Node.parseTrimmed destination = .ok dst) (empty : state.cache.slot? dst = none)
    (unmarked : ∀ leader, state.markers.get? dst ≠ some ⟨state.cache.generation, leader⟩) :
    Uninterrupted (automaton.replay state (turns now id destination)) ∧
      (automaton.arrive state (turns now id destination)).marking? id =
        some (dst, ⟨state.cache.generation, now⟩) ∧
      ∀ other, id ≠ other →
        (automaton.arrive state (turns now id destination)).marking? other = state.marking? other := by
  obtain ⟨first, started, calls, cache, markers⟩ : ∃ first,
      (step now (.start id destination) state).1 = first ∧
        first.calls = state.calls.put id ⟨dst, .lookingUp⟩ ∧ first.cache = state.cache ∧
        first.markers = state.markers := by
    rw [step, start, parsed]
    exact ⟨_, rfl, rfl, rfl, rfl⟩
  have looking : first.calls.get? id = some ⟨dst, .lookingUp⟩ := by
    rw [calls, Table.get?_put_self]
  obtain ⟨second, missed, calls', generation, markers'⟩ : ∃ second,
      (step now (.proceed (.call id)) first).1 = second ∧
        second.calls = first.calls.put id ⟨dst, .readingGeneration⟩ ∧
        second.cache.generation = state.cache.generation ∧ second.markers = state.markers := by
    rw [step_miss looking (RouteCache.get_of_slot?_none (cache ▸ empty) now)]
    exact ⟨_, rfl, rfl, by rw [← cache]; rfl, markers⟩
  have reading : second.calls.get? id = some ⟨dst, .readingGeneration⟩ := by
    rw [calls', Table.get?_put_self]
  obtain ⟨third, read, calls'', markers''⟩ : ∃ third,
      (step now (.proceed (.call id)) second).1 = third ∧
        third.calls = second.calls.put id ⟨dst, .joining state.cache.generation⟩ ∧
        third.markers = state.markers := by
    rw [step_read reading, generation]
    exact ⟨_, rfl, rfl, markers'⟩
  have joining : third.calls.get? id = some ⟨dst, .joining state.cache.generation⟩ := by
    rw [calls'', Table.get?_put_self]
  have last : (step now (.proceed (.call id)) third).1 =
      (lead now id ⟨dst, .joining state.cache.generation⟩ state.cache.generation third).1 := by
    rw [step_lead joining (markers'' ▸ unmarked)]
  -- the other calls are those of the beginning
  have others (other : CallId) (differs : id ≠ other) :
      first.calls.get? other = state.calls.get? other ∧
        second.calls.get? other = state.calls.get? other ∧
        third.calls.get? other = state.calls.get? other := by
    rw [calls'', calls', calls]
    simp only [Table.get?_put, if_neg differs, and_self]
  have turn {before : State}
      (kept : ∀ other, id ≠ other → before.calls.get? other = state.calls.get? other) :
      ∀ other call, before.calls.get? other = some call → call.stage.accessing = true →
        Event.proceed (.call id) = .proceed (.call other) := by
    intro other call here accessing
    by_cases same : id = other
    · rw [same]
    · rw [kept other same] at here
      rw [settled other call here] at accessing
      cases accessing
  simp only [turns, Automaton.replay, Automaton.arrive, automaton_step, started, missed, read, last]
  refine ⟨?_, ?_, fun other differs => ?_⟩
  · refine uninterrupted_cons (fun other call here accessing => ?_)
      (uninterrupted_cons (turn fun other differs => (others other differs).1)
        (uninterrupted_cons (turn fun other differs => (others other differs).2.1)
          (uninterrupted_cons (turn fun other differs => (others other differs).2.2)
            fun _ member => absurd member List.not_mem_nil)))
    rw [settled other call here] at accessing
    cases accessing
  · rw [State.marking?, lead_calls, leadOf_put, if_pos rfl]
    rfl
  · rw [State.marking?, lead_calls, leadOf_put, if_neg differs, State.marking?, leadOf, leadOf,
      (others other differs).2.2]

end Turns

end Wayfinder.Resolver
