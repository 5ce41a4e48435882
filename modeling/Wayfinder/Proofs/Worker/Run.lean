/-
**Runs of a worker.**

A worker as an automaton. Its loop, its job and any number of calls take their steps in any order and
at any instants; a run of the job lasts as long as it likes. What the loop does between two waits is
one step: it looks for the signal first and begins a run in the same turn, and a signal that comes in
the middle of this turn counts as later. A call to stop takes two steps, since others may get between
them: it takes the handle, behind a lock that it holds for this step alone, and it tells the loop.
From then on it waits, and only now can it be given up; a call that is given up before it has reached
the handle has done nothing.

* `Worker.automaton`, `Worker.Run`: the runs of a worker that has just been started;
* `Worker.stop_eq`: a result of its own, that the two steps are those of `Worker.stop`: a call that
  nothing interrupts is one after the other;
* `Worker.Steps`, `Occurrence.steps`: all that a step can do;
* `Steps.underWay`, `Steps.of_begins`, `Steps.of_returns`, `Steps.of_reach`: what the properties of
  runs need to know of a single step.
-/

import Wayfinder.Proofs.History
import Wayfinder.Worker

namespace Wayfinder.Worker

/-! ### The automaton -/

/-- What can happen to a worker. -/
inductive Event where
  /-- The loop gets a turn. -/
  | turn
  | answer (reply : JobReply)
  /-- A call to stop reaches for the handle. -/
  | reach (call : CallId)
  /-- The call that has got the handle tells the loop to stop. -/
  | signal (call : CallId)
  /-- A call that waits for the loop gets a turn. -/
  | resume (call : CallId)
  | cancel (call : CallId)
  | drop
deriving DecidableEq

/-- The call has told the loop to stop and waits for it to end. -/
def State.Waits (state : State) (call : CallId) : Prop :=
  state.stopper = some call ∧ state.beat.signalled = true

instance (state : State) (call : CallId) : Decidable (state.Waits call) :=
  inferInstanceAs (Decidable (_ ∧ _))

/-- One step of a worker. -/
def step (now : Timestamp) (event : Event) (state : State) : State × Effects :=
  match event with
  | .turn => (proceed now .loop state).getD (state, [])
  | .answer reply => if state.beat.phase = .running then finished reply state else (state, [])
  | .reach call => reach call state
  | .signal call => if state.stopper = some call then signal state else (state, [])
  | .resume call =>
    if state.Waits call then (proceed now (.call call) state).getD (state, []) else (state, [])
  | .cancel call => if state.Waits call then (cancel call state, []) else (state, [])
  | .drop => drop state

/-- The call that reaches for the handle. -/
def beginning? : Event → Option CallId
  | .reach call => some call
  | _ => none

/-- A worker as an automaton. -/
def automaton : Automaton State Event Effects := ⟨step, beginning?⟩

/-- A step that was taken. -/
abbrev Occurrence := automaton.Occurrence

/-- The runs of a worker that has just been started. -/
abbrev Run (name : String) (interval : Duration) (now : Timestamp) :
    List Occurrence → State → Prop :=
  automaton.Run (start name interval now).1

/-- **A call to stop that nothing interrupts is its two steps**, or the first one alone if the handle
is gone. -/
theorem stop_eq (now : Timestamp) (call : CallId) (state : State) :
    stop call state =
      let reached := step now (.reach call) state
      let told := step now (.signal call) reached.1
      if state.beat.held = true then (told.1, reached.2 ++ told.2) else reached := by
  cases held : state.beat.held <;> simp [stop, step, reach, held]

/-! ### What a step can do -/

/-- The run with this number is under way. -/
def State.UnderWay (state : State) (number : Nat) : Prop :=
  state.beat.phase = .running ∧ state.started = number

/-- What happens finds nothing to do. -/
def Idle (now : Timestamp) (state : State) : Event → Prop
  | .turn => state.beat.turn now = none
  | .answer _ => state.beat.phase ≠ .running
  | .signal call => state.stopper ≠ some call
  | .resume call => state.Waits call → state.beat.exit? state.name = none
  | .cancel call => ¬ state.Waits call
  | .reach _ | .drop => False

/-- The steps of a worker. -/
inductive Steps (now : Timestamp) : Event → State → State → Effects → Prop
  /-- A run begins, one that is due while nobody has told the loop to stop. -/
  | begins {state : State} (between : state.beat.phase = .waiting)
      (untold : state.beat.signalled = false) (due : state.beat.due ≤ now) :
      Steps now .turn state
        { state with
          beat := { state.beat with phase := .running, due := state.beat.nextDue now }
          started := state.started + 1 }
        [.ask .loop (state.started + 1) none]
  /-- The loop finds the signal. -/
  | exits {state : State} (between : state.beat.phase = .waiting)
      (told : state.beat.signalled = true) :
      Steps now .turn state { state with beat := { state.beat with phase := .ended } }
        (rouseStopper state)
  | completes {state : State} (running : state.beat.phase = .running) :
      Steps now (.answer .finished) state
        { state with beat := state.beat.finishRun, finished := state.finished + 1 }
        [.wait .loop state.beat.due]
  | crashes {state : State} (running : state.beat.phase = .running) :
      Steps now (.answer .crashed) state { state with beat := state.beat.crashRun }
        (rouseStopper state)
  | seizes {call : CallId} {state : State} (held : state.beat.held = true) :
      Steps now (.reach call) state
        { state with beat := { state.beat with held := false }, stopper := some call }
        [.rouse (.call call)]
  | refused {call : CallId} {state : State} (gone : state.beat.held = false) :
      Steps now (.reach call) state state [.finish call (.error (.alreadyStopped state.name))]
  | tells {call : CallId} {state : State} (own : state.stopper = some call) :
      Steps now (.signal call) state { state with beat := state.beat.signal } [.rouse .loop]
  | returns {call : CallId} {outcome : Outcome} {state : State} (waits : state.Waits call)
      (found : state.beat.exit? state.name = some outcome) :
      Steps now (.resume call) state { state with stopper := none } [.finish call outcome]
  | quits {call : CallId} {state : State} (waits : state.Waits call) :
      Steps now (.cancel call) state { state with stopper := none } []
  | drops {state : State} :
      Steps now .drop state { state with beat := state.beat.signal, dropped := true }
        [.rouse .loop]
  | idle {event : Event} {state : State} (idle : Idle now state event) :
      Steps now event state state []

theorem steps_turn (now : Timestamp) (state : State) :
    Steps now .turn state (step now .turn state).1 (step now .turn state).2 := by
  cases found : state.beat.turn now with
  | none =>
    simp only [step, proceed, found, Option.getD_none]
    exact .idle found
  | some taken =>
    obtain ⟨turn, beat⟩ := taken
    obtain ⟨between, ⟨rfl, untold, due, rfl⟩ | ⟨rfl, told, rfl⟩⟩ := Heartbeat.of_turn found
    · simp only [step, proceed, found, Option.getD_some]
      exact .begins between untold due
    · simp only [step, proceed, found, Option.getD_some]
      exact .exits between told

theorem steps_answer (now : Timestamp) (reply : JobReply) (state : State) :
    Steps now (.answer reply) state (step now (.answer reply) state).1
      (step now (.answer reply) state).2 := by
  by_cases running : state.beat.phase = .running
  · cases reply with
    | finished =>
      simp only [step, running, if_true, finished]
      exact .completes running
    | crashed =>
      simp only [step, running, if_true, finished]
      exact .crashes running
  · simp only [step, running, if_false]
    exact .idle running

theorem steps_resume (now : Timestamp) (call : CallId) (state : State) :
    Steps now (.resume call) state (step now (.resume call) state).1
      (step now (.resume call) state).2 := by
  by_cases waits : state.Waits call
  · cases found : state.beat.exit? state.name with
    | some outcome =>
      simp only [step, proceed, waits, waits.1, found, if_true, Option.map_some, Option.getD_some]
      exact .returns waits found
    | none =>
      simp only [step, proceed, waits, waits.1, found, if_true, Option.map_none, Option.getD_none]
      exact .idle fun _ => found
  · simp only [step, waits, if_false]
    exact .idle fun waits' => absurd waits' waits

/-- **What a step does is one of these.** -/
theorem Occurrence.steps (taken : Occurrence) :
    Steps taken.now taken.event taken.before taken.after taken.effects := by
  obtain ⟨state, now, event⟩ := taken
  show Steps now event state (step now event state).1 (step now event state).2
  cases event with
  | turn => exact steps_turn now state
  | answer reply => exact steps_answer now reply state
  | resume call => exact steps_resume now call state
  | reach call =>
    cases held : state.beat.held with
    | true =>
      simp only [step, reach, held, if_true]
      exact .seizes held
    | false =>
      simp only [step, reach, held, Bool.false_eq_true, if_false]
      exact .refused held
  | signal call =>
    by_cases own : state.stopper = some call
    · simp only [step, own, if_true]
      exact .tells own
    · simp only [step, own, if_false]
      exact .idle own
  | cancel call =>
    by_cases waits : state.Waits call
    · simp only [step, cancel, waits, waits.1, if_true]
      exact .quits waits
    · simp only [step, waits, if_false]
      exact .idle waits
  | drop => exact .drops

namespace Steps

variable {now : Timestamp} {event : Event} {before after : State} {effects : Effects}
  {call : CallId} {number : Nat}

/-! ### What no step takes back -/

theorem name_eq (steps : Steps now event before after effects) : after.name = before.name := by
  cases steps <;> rfl

/-- The signal stays. -/
theorem told (steps : Steps now event before after effects)
    (told : before.beat.signalled = true) : after.beat.signalled = true := by
  cases steps <;> first | exact told | rfl

/-- The handle does not come back. -/
theorem gone (steps : Steps now event before after effects) (gone : before.beat.held = false) :
    after.beat.held = false := by
  cases steps <;> first | exact gone | rfl

/-- A loop that has ended or broken down stays so. -/
theorem settled (steps : Steps now event before after effects)
    (settled : before.beat.isOver = true) :
    after.beat.phase = before.beat.phase := by
  cases steps with
  | begins between | exits between => simp [Heartbeat.isOver, between] at settled
  | completes running | crashes running => simp [Heartbeat.isOver, running] at settled
  | _ => rfl

theorem ended (steps : Steps now event before after effects)
    (ended : before.beat.phase = .ended) : after.beat.phase = .ended := by
  rw [steps.settled (by simp [Heartbeat.isOver, ended]), ended]

theorem crashed (steps : Steps now event before after effects)
    (crashed : before.beat.phase = .crashed) : after.beat.phase = .crashed := by
  rw [steps.settled (by simp [Heartbeat.isOver, crashed]), crashed]

/-! ### What brings a change about -/

/-- **A run under way goes on unless its job answers.** -/
theorem underWay (steps : Steps now event before after effects) (running : before.UnderWay number) :
    after.UnderWay number ∨
      event = .answer .finished ∧ after.beat.phase = .waiting ∧
          after.finished = before.finished + 1 ∨
        event = .answer .crashed ∧ after.beat.phase = .crashed := by
  cases steps with
  | begins between | exits between => exact absurd (running.1.symm.trans between) (by decide)
  | completes => exact .inr (.inl ⟨rfl, rfl, rfl⟩)
  | crashes => exact .inr (.inr ⟨rfl, rfl⟩)
  | _ => exact .inl running

/-- **A run begins in a turn of the loop**, between two runs and before anybody has told it to
stop. -/
theorem of_begins (steps : Steps now event before after effects)
    (asks : .ask .loop number none ∈ effects) :
    event = .turn ∧ before.beat.phase = .waiting ∧ before.beat.signalled = false ∧
      after.UnderWay number := by
  cases steps with
  | begins between untold =>
    cases List.mem_singleton.mp asks
    exact ⟨rfl, between, untold, rfl, rfl⟩
  | exits | crashes => simp [rouseStopper] at asks
  | _ => simp at asks

/-- The loop ends in a turn between two runs, once it has been told to stop. -/
theorem of_ended (steps : Steps now event before after effects)
    (before_ne : before.beat.phase ≠ .ended) (ended : after.beat.phase = .ended) :
    event = .turn ∧ before.beat.phase = .waiting ∧ before.beat.signalled = true := by
  cases steps with
  | exits between told => exact ⟨rfl, between, told⟩
  | begins | completes | crashes => cases ended
  | _ => exact absurd ended before_ne

/-- **A call returns without a fault only to find the loop at its end.** -/
theorem of_returns (steps : Steps now event before after effects)
    (finishes : .finish call (.ok ()) ∈ effects) :
    before.stopper = some call ∧ before.beat.phase = .ended := by
  cases steps with
  | @returns other outcome _ waits found =>
    cases List.mem_singleton.mp finishes
    refine ⟨waits.1, ?_⟩
    unfold Heartbeat.exit? at found
    split at found
    · assumption
    · cases found
    · cases found
  | exits | crashes => simp [rouseStopper] at finishes
  | _ => simp at finishes

/-- **A call that reaches for the handle gets it or is refused.** -/
theorem of_reach (steps : Steps now (.reach call) before after effects) :
    before.beat.held = true ∧ after.beat.held = false ∧ after.stopper = some call ∨
      before.beat.held = false ∧ after = before ∧
        effects = [.finish call (.error (.alreadyStopped before.name))] := by
  cases steps with
  | seizes held => exact .inl ⟨held, rfl, rfl⟩
  | refused gone => exact .inr ⟨gone, rfl, rfl⟩
  | idle idle => exact idle.elim

/-- The handle is taken by a call that reaches for it. -/
theorem of_held (steps : Steps now event before after effects) (held : before.beat.held = true)
    (gone : after.beat.held = false) : ∃ call, event = .reach call := by
  cases steps with
  | seizes => exact ⟨_, rfl⟩
  | _ => exact absurd (held.symm.trans gone) (by decide)

/-- The call that waits has taken the handle. -/
theorem of_stopper (steps : Steps now event before after effects)
    (before_ne : before.stopper ≠ some call) (waits : after.stopper = some call) :
    event = .reach call ∧ before.beat.held = true := by
  cases steps with
  | seizes held =>
    cases waits
    exact ⟨rfl, held⟩
  | returns | quits => cases waits
  | _ => exact absurd waits before_ne

end Steps

end Wayfinder.Worker
