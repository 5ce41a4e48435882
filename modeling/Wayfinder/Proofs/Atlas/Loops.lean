/-
**Loops.**

A loop is started by an opening, makes its passes one after another and ends when it has been told
to. In the middle of a pass it is running, whatever it has been told; once it is over it stays so,
and asks nothing any more.

* `Move.loop_change`: what a move does to a loop;
* `Move.opens_of_appears`: loops are started by openings;
* `Move.told_stays`: a loop that has been told to stop stays told;
* `Run.phase_of_pass`: a loop that makes a pass is running;
* `Run.active_before`, `Run.over_stays`: a loop that is not over was not over before, or it has just
  been started; a loop that is over stays so.
-/

import Wayfinder.Proofs.Atlas.Run

namespace Wayfinder.Atlas

/-- Whether a loop exists and is not at an end. -/
def State.Active (state : State) (loop : LoopId) : Prop :=
  ∃ running, state.loops.get? loop = some running ∧ running.beat.isOver = false

/-- Whether a loop exists and is at an end. -/
def State.Over (state : State) (loop : LoopId) : Prop :=
  ∃ running, state.loops.get? loop = some running ∧ running.beat.isOver = true

/-- Whether a loop is in the middle of a pass. -/
def State.Passing (state : State) (loop : LoopId) : Prop :=
  ∃ running, state.loops.get? loop = some running ∧ running.pass ≠ none

/-- Whether a loop has been told to stop. -/
def State.Told (state : State) (loop : LoopId) : Prop :=
  ∃ running, state.loops.get? loop = some running ∧ running.beat.signalled = true

section

variable {now : Timestamp} {state after : State} {event : Event} {effects : Effects}

/-! ### What a move does to a loop -/

/-- How a loop has come to be what it is after a move. -/
inductive LoopChange (now : Timestamp) (state : State) (event : Event) (after : State)
    (id : LoopId) : Loop → Prop
  | kept {loop : Loop} (here : state.loops.get? id = some loop) :
      LoopChange now state event after id loop
  | started (opens : event = .open) (free : state.worker = none) (next : id = state.nextLoop)
      (given : after.nextLoop = state.nextLoop + 1) :
      LoopChange now state event after id { beat := .start state.interval now }
  | passed {loop : Loop} {old pass : Pass} (here : state.loops.get? id = some loop)
      (passing : loop.pass = some old) :
      LoopChange now state event after id { loop with pass := some pass }
  | rested {loop : Loop} {old : Pass} (here : state.loops.get? id = some loop)
      (passing : loop.pass = some old) :
      LoopChange now state event after id { beat := loop.beat.finishRun }
  | departed {loop : Loop} {beat : Heartbeat} {pass : Pass} (here : state.loops.get? id = some loop)
      (due : loop.beat.turn now = some (.begin, beat)) :
      LoopChange now state event after id { beat, pass := some pass }
  | stopped {loop : Loop} {beat : Heartbeat} (here : state.loops.get? id = some loop)
      (told : loop.beat.turn now = some (.stop, beat)) :
      LoopChange now state event after id { beat }
  | told {loop : Loop} (here : state.loops.get? id = some loop) :
      LoopChange now state event after id
        { loop with beat := loop.beat.take.getD loop.beat.signal }

theorem loop_of_setPass {owner : Owner} {old pass : Pass} (making : state.pass? owner = some old)
    {id : LoopId} {loop : Loop} (found : (state.setPass owner pass).loops.get? id = some loop) :
    LoopChange now state event after id loop := by
  rcases State.setPass_cases pass making with
    ⟨call, rfl, _, same⟩ | ⟨other, running, rfl, here, passing, same⟩
  · rw [same] at found
    exact .kept found
  · rw [same] at found
    rcases Table.get?_of_put found with ⟨rfl, rfl⟩ | kept
    · exact .passed here passing
    · exact .kept kept

/-- **A loop after a move is what it was, or it has been started, has gone on or has been told to
stop.** -/
theorem Move.loop_change (move : Move now state event after effects) {id : LoopId} {loop : Loop}
    (found : after.loops.get? id = some loop) : LoopChange now state event after id loop := by
  cases move with
  | start free =>
    rcases Table.get?_of_put found with ⟨rfl, rfl⟩ | kept
    · exact .started rfl free rfl rfl
    · exact .kept kept
  | revisit making => exact loop_of_setPass making found
  | renew making => exact loop_of_setPass making found
  | skip making => exact loop_of_setPass making found
  | rest here passed =>
    rcases Table.get?_of_put found with ⟨rfl, rfl⟩ | kept
    · exact .rested here passed
    · exact .kept kept
  | depart here idle due =>
    rcases Table.get?_of_put found with ⟨rfl, rfl⟩ | kept
    · exact .departed here due
    · exact .kept kept
  | stop here idle told =>
    rcases Table.get?_of_put found with ⟨rfl, rfl⟩ | kept
    · exact .stopped here told
    · exact .kept kept
  | detach here held running =>
    rcases Table.get?_of_put found with ⟨rfl, rfl⟩ | kept
    · exact .told running
    · exact .kept kept
  | _ => exact .kept found

/-- A loop after a move was there before, or is started in the move. -/
theorem LoopChange.origin {id : LoopId} {loop : Loop}
    (change : LoopChange now state event after id loop) :
    (∃ old, state.loops.get? id = some old) ∨
      event = .open ∧ id = state.nextLoop ∧ after.nextLoop = state.nextLoop + 1 := by
  cases change with
  | started opens _ next given => exact Or.inr ⟨opens, next, given⟩
  | kept here => exact Or.inl ⟨_, here⟩
  | passed here => exact Or.inl ⟨_, here⟩
  | rested here => exact Or.inl ⟨_, here⟩
  | departed here => exact Or.inl ⟨_, here⟩
  | stopped here => exact Or.inl ⟨_, here⟩
  | told here => exact Or.inl ⟨_, here⟩

/-- A loop that is there after a move but not before is started by an opening. -/
theorem Move.opens_of_appears (move : Move now state event after effects) {id : LoopId}
    (absent : state.loops.get? id = none) (here : after.loops.get? id ≠ none) : event = .open := by
  obtain ⟨loop, here⟩ := Option.ne_none_iff_exists'.mp here
  rcases (move.loop_change here).origin with ⟨old, there⟩ | ⟨opens, _⟩
  · rw [absent] at there
    cases there
  · exact opens

/-- Numbers of loops are given in order. -/
theorem Move.nextLoop_le (move : Move now state event after effects) :
    state.nextLoop ≤ after.nextLoop := by
  cases move with
  | start => exact Nat.le_succ _
  | _ => exact Nat.le_refl _

theorem loop_stays_put {loops : Table LoopId Loop} {id other : LoopId} {loop : Loop}
    (here : loops.get? id ≠ none) : (loops.put other loop).get? id ≠ none := by
  rw [Table.get?_put]
  split
  · exact Option.some_ne_none _
  · exact here

theorem loop_stays_setPass {owner : Owner} {pass : Pass} {id : LoopId}
    (here : state.loops.get? id ≠ none) : (state.setPass owner pass).loops.get? id ≠ none := by
  cases owner with
  | call call => exact here
  | loop other =>
    simp only [State.setPass]
    split
    · exact loop_stays_put here
    · exact here

/-- No move does away with a loop. -/
theorem Move.loop_stays (move : Move now state event after effects) {id : LoopId}
    (here : state.loops.get? id ≠ none) : after.loops.get? id ≠ none := by
  cases move with
  | start | rest | depart | stop | detach => exact loop_stays_put here
  | revisit => exact loop_stays_setPass here
  | renew => exact loop_stays_setPass here
  | skip => exact loop_stays_setPass here
  | _ => exact here

/-- Whether every loop has got its number. -/
def State.Numbered (state : State) : Prop :=
  ∀ id loop, state.loops.get? id = some loop → id < state.nextLoop

theorem Move.numbered (move : Move now state event after effects) (numbered : state.Numbered) :
    after.Numbered := by
  intro id loop here
  rcases (move.loop_change here).origin with ⟨old, there⟩ | ⟨_, next, given⟩
  · exact Nat.lt_of_lt_of_le (numbered id old there) move.nextLoop_le
  · rw [next]
    exact Nat.lt_of_lt_of_eq (Nat.lt_succ_self _) given.symm

/-! ### The beat of a loop -/

/-- A beat that has been told to stop goes on as before. -/
theorem phase_of_told (beat : Heartbeat) : (beat.take.getD beat.signal).phase = beat.phase := by
  unfold Heartbeat.take
  split
  · rfl
  · rfl

/-- A beat takes its turn while it waits; afterwards it runs or has ended. -/
theorem phase_of_turn {beat next : Heartbeat} {turn : Heartbeat.Turn}
    (taken : beat.turn now = some (turn, next)) :
    beat.phase = .waiting ∧
      next.phase = match turn with
        | .begin => .running
        | .stop => .ended := by
  obtain ⟨waiting, ⟨rfl, _, _, rfl⟩ | ⟨rfl, _, rfl⟩⟩ := Heartbeat.of_turn taken
  · exact ⟨waiting, rfl⟩
  · exact ⟨waiting, rfl⟩

/-- A beat that takes its turn does not forget what it has been told. -/
theorem signalled_of_turn {beat next : Heartbeat} {turn : Heartbeat.Turn}
    (taken : beat.turn now = some (turn, next)) : next.signalled = beat.signalled := by
  obtain ⟨_, ⟨_, _, _, rfl⟩ | ⟨_, _, rfl⟩⟩ := Heartbeat.of_turn taken
  · rfl
  · rfl

theorem signalled_of_told (beat : Heartbeat) : (beat.take.getD beat.signal).signalled = true := by
  unfold Heartbeat.take
  split
  · rfl
  · rfl

/-- **A loop that has been told to stop stays told.** -/
theorem Move.told_stays (move : Move now state event after effects) (numbered : state.Numbered)
    {loop : LoopId} (told : state.Told loop) : after.Told loop := by
  obtain ⟨running, here, signalled⟩ := told
  have stays : after.loops.get? loop ≠ none := move.loop_stays (here ▸ Option.some_ne_none _)
  obtain ⟨next, there⟩ := Option.ne_none_iff_exists'.mp stays
  refine ⟨next, there, ?_⟩
  have still {other : Loop} (old : state.loops.get? loop = some other) :
      other.beat.signalled = true := by
    rw [here] at old
    cases old
    exact signalled
  cases move.loop_change there with
  | kept old => exact still old
  | started opens free next _ =>
    have bound := numbered loop running here
    rw [next] at bound
    exact absurd bound (Nat.lt_irrefl _)
  | passed old =>
    have kept := still old
    exact kept
  | rested old passing =>
    have kept := still old
    exact kept
  | departed old due => exact (signalled_of_turn due).trans (still old)
  | stopped old told => exact (signalled_of_turn told).trans (still old)
  | told old => exact signalled_of_told _

/-- A loop that runs or waits is not over. -/
theorem isOver_eq_false_of_phase {beat : Heartbeat}
    (phase : beat.phase = .running ∨ beat.phase = .waiting) : beat.isOver = false := by
  unfold Heartbeat.isOver
  rcases phase with phase | phase <;> rw [phase] <;> rfl

theorem isOver_congr {beat other : Heartbeat} (phase : beat.phase = other.phase) :
    beat.isOver = other.isOver := by
  rw [Heartbeat.isOver, Heartbeat.isOver, phase]

end

namespace Run

variable {capacity : Nat} {geolocating : Bool} {timeout interval : Duration}
  {history : List Occurrence} {state : State}

/-- **A loop that makes a pass is running.** -/
theorem phase_of_pass (run : Run capacity geolocating timeout interval history state) {id : LoopId}
    {loop : Loop} (here : state.loops.get? id = some loop) (passing : loop.pass ≠ none) :
    loop.beat.phase = .running := by
  induction run generalizing loop with
  | initial => cases here
  | @step history state run now event fresh hypothesis =>
    cases (move_step now event state).loop_change here with
    | kept old => exact hypothesis old passing
    | started => exact absurd rfl passing
    | passed old making =>
      have phase := hypothesis old (by rw [making]; exact Option.some_ne_none _)
      exact phase
    | rested => exact absurd rfl passing
    | departed old due => exact (phase_of_turn due).2
    | stopped => exact absurd rfl passing
    | told old => exact (phase_of_told _).trans (hypothesis old passing)

/-- A loop that makes a pass is not over. -/
theorem active_of_passing (run : Run capacity geolocating timeout interval history state)
    {loop : LoopId} (passing : state.Passing loop) : state.Active loop := by
  obtain ⟨running, here, passing⟩ := passing
  exact ⟨running, here, isOver_eq_false_of_phase (Or.inl (run.phase_of_pass here passing))⟩

/-- Every loop has got its number. -/
theorem numbered (run : Run capacity geolocating timeout interval history state) :
    state.Numbered := by
  induction run with
  | initial =>
    intro id loop here
    cases here
  | @step history state run now event fresh hypothesis =>
    exact (move_step now event state).numbered hypothesis

theorem loop_lt (run : Run capacity geolocating timeout interval history state) {id : LoopId}
    {loop : Loop} (here : state.loops.get? id = some loop) : id < state.nextLoop :=
  run.numbered id loop here

/-- **A loop that is not over after a step was not over before, or it is started in the step.** -/
theorem active_before (run : Run capacity geolocating timeout interval history state)
    {now : Timestamp} {event : Event} {loop : LoopId}
    (active : (step now event state).1.Active loop) :
    state.Active loop ∨ event = .open ∧ state.worker = none ∧ loop = state.nextLoop := by
  obtain ⟨running, here, waiting⟩ := active
  cases (move_step now event state).loop_change here with
  | kept old => exact Or.inl ⟨_, old, waiting⟩
  | started opens free next _ => exact Or.inr ⟨opens, free, next⟩
  | passed old => exact Or.inl ⟨_, old, waiting⟩
  | rested old passing =>
    exact Or.inl (run.active_of_passing ⟨_, old, passing ▸ Option.some_ne_none _⟩)
  | departed old due =>
    exact Or.inl ⟨_, old, isOver_eq_false_of_phase (Or.inr (phase_of_turn due).1)⟩
  | stopped old told =>
    exact Or.inl ⟨_, old, isOver_eq_false_of_phase (Or.inr (phase_of_turn told).1)⟩
  | told old => exact Or.inl ⟨_, old, (isOver_congr (phase_of_told _)).symm.trans waiting⟩

/-- **A loop that is over stays so.** -/
theorem over_stays (run : Run capacity geolocating timeout interval history state)
    {now : Timestamp} {event : Event} {loop : LoopId} (finished : state.Over loop) :
    (step now event state).1.Over loop := by
  obtain ⟨running, here, ended⟩ := finished
  have stays : (step now event state).1.loops.get? loop ≠ none :=
    (move_step now event state).loop_stays (here ▸ Option.some_ne_none _)
  obtain ⟨next, there⟩ := Option.ne_none_iff_exists'.mp stays
  refine ⟨next, there, ?_⟩
  have still {other : Loop} (old : state.loops.get? loop = some other) :
      other.beat.isOver = true := by
    rw [here] at old
    cases old
    exact ended
  have waits {other : Loop} (old : state.loops.get? loop = some other)
      (phase : other.beat.phase = .running ∨ other.beat.phase = .waiting) : False := by
    have finished := still old
    rw [isOver_eq_false_of_phase phase] at finished
    cases finished
  cases (move_step now event state).loop_change there with
  | kept old => exact still old
  | started opens free next _ =>
    have bound := run.loop_lt here
    rw [next] at bound
    exact absurd bound (Nat.lt_irrefl _)
  | passed old =>
    have finished := still old
    exact finished
  | rested old passing =>
    exact (waits old (Or.inl (run.phase_of_pass old (passing ▸ Option.some_ne_none _)))).elim
  | departed old due => exact (waits old (Or.inr (phase_of_turn due).1)).elim
  | stopped old told => exact (waits old (Or.inr (phase_of_turn told).1)).elim
  | told old => exact (isOver_congr (phase_of_told _)).trans (still old)

end Run

end Wayfinder.Atlas
