/-
**A worker that is stopped.**

Whoever stops a worker may let go of what the job uses once the call has returned, and what this
takes follows the loop through its steps. A run under way is left by the answer of its job alone,
and the next one begins between two runs, so that runs never overlap. A turn of the loop looks for
the signal first, and no step takes the signal back, so that after it no run begins. A call returns
without a fault only when it finds the loop at its end, and a loop that has ended stays so. The
handle is there until a call reaches for it and never comes back, not even when that call is given
up.

* `Run.lasting`, `Run.apart`: a run goes on until its job answers, and runs do not overlap;
* `Run.quiet`: no run begins after the signal;
* `Run.exited`, `Run.own`: what has happened when a call returns without a fault;
* `Run.seizes`, `Run.refuses`: which call gets the handle;
* `State.Waits.released`: a call that waits is let go as soon as the run under way is over;
* `Stoppable`, `Run.stoppable`: all of this for every run of a worker.
-/

import Wayfinder.Proofs.Worker.Run

namespace Wayfinder.Worker

variable {name : String} {interval : Duration} {began : Timestamp} {history : List Occurrence}
  {state : State}

namespace Occurrence

/-- The run of the job with this number begins. -/
def Begins (taken : Occurrence) (number : Nat) : Prop := .ask .loop number none ∈ taken.effects

/-- The run with this number comes to its end, and the loop goes on. -/
def Completes (taken : Occurrence) (number : Nat) : Prop :=
  taken.event = .answer .finished ∧ taken.before.UnderWay number ∧
    taken.after.beat.phase = .waiting ∧ taken.after.finished = taken.before.finished + 1

/-- The run with this number breaks down, and the loop with it. -/
def Crashes (taken : Occurrence) (number : Nat) : Prop :=
  taken.event = .answer .crashed ∧ taken.before.UnderWay number ∧
    taken.after.beat.phase = .crashed

/-- The loop is told to stop, by the call that has the handle or because the worker is dropped. -/
def Tells (taken : Occurrence) : Prop :=
  taken.event = .drop ∨ ∃ call, taken.event = .signal call ∧ taken.before.stopper = some call

/-- The loop ends in a turn between two runs, since it has been told to. -/
def Exits (taken : Occurrence) : Prop :=
  taken.event = .turn ∧ taken.before.beat.phase = .waiting ∧
    taken.before.beat.signalled = true ∧ taken.after.beat.phase = .ended

/-- The call returns. -/
def Returns (taken : Occurrence) (call : CallId) (outcome : Outcome) : Prop :=
  .finish call outcome ∈ taken.effects

/-- The call gets the handle. -/
def Seizes (taken : Occurrence) (call : CallId) : Prop :=
  taken.event = .reach call ∧ taken.before.beat.held = true ∧ taken.after.beat.held = false ∧
    taken.after.stopper = some call

/-- The call returns at once with the fault that the worker has been stopped before, and does
nothing else. -/
def Refuses (taken : Occurrence) (name : String) (call : CallId) : Prop :=
  taken.event = .reach call ∧ taken.after = taken.before ∧
    taken.effects = [.finish call (.error (.alreadyStopped name))]

theorem Tells.told {taken : Occurrence} (tells : taken.Tells) :
    taken.after.beat.signalled = true := by
  obtain ⟨before, now, event⟩ := taken
  rcases tells with rfl | ⟨call, rfl, own⟩
  · rfl
  · show (step now (.signal call) before).1.beat.signalled = true
    rw [step, if_pos own]
    rfl

theorem seizes_or_refuses {taken : Occurrence} {call : CallId}
    (reaches : taken.event = .reach call) :
    taken.Seizes call ∨
      taken.before.beat.held = false ∧ taken.Refuses taken.before.name call := by
  have steps := taken.steps
  rw [reaches] at steps
  rcases steps.of_reach with ⟨held, gone, waits⟩ | ⟨gone, same, refused⟩
  · exact .inl ⟨reaches, held, gone, waits⟩
  · exact .inr ⟨gone, reaches, same, refused⟩

/-- The handle is gone once a call has reached for it. -/
theorem gone_of_reach {taken : Occurrence} {call : CallId}
    (reaches : taken.event = .reach call) : taken.after.beat.held = false := by
  rcases seizes_or_refuses reaches with ⟨_, _, gone, _⟩ | ⟨gone, _, same, _⟩
  · exact gone
  · rw [same, gone]

end Occurrence

theorem Run.name_eq (run : Run name interval began history state) : state.name = name := by
  induction run with
  | initial => rfl
  | @step history state run now event fresh hypothesis =>
    exact (Occurrence.steps ⟨state, now, event⟩).name_eq.trans hypothesis

/-- **What every step keeps holds ever since a step after which it holds.** -/
theorem Run.since (run : Run name interval began history state) (holds : State → Prop)
    (kept : ∀ {now event before after effects}, Steps now event before after effects →
      holds before → holds after)
    {position : Nat} (found : At history position (holds ·.after)) :
    (∀ later taken, position < later → history[later]? = some taken → holds taken.before) ∧
      holds state :=
  run.stays found fun _ taken _ _ => kept (Occurrence.steps taken)

/-! ### Runs of the job -/

/-- The run with this number is under way from one step up to a later one. -/
def Lasts (history : List Occurrence) (start ends number : Nat) : Prop :=
  ∀ between taken, start < between → between < ends → history[between]? = some taken →
    taken.before.UnderWay number ∧ taken.after.UnderWay number

/-- What comes after the end of a run changes nothing. -/
theorem Lasts.append {start ends number : Nat} (lasts : Lasts history start ends number)
    (within : ends ≤ history.length) (later : List Occurrence) :
    Lasts (history ++ later) start ends number := by
  intro between taken after before here
  rw [List.getElem?_append_left (Nat.lt_of_lt_of_le before within)] at here
  exact lasts between taken after before here

theorem Lasts.concat {start number : Nat} (lasts : Lasts history start history.length number)
    {taken : Occurrence} (before : taken.before.UnderWay number)
    (after : taken.after.UnderWay number) :
    Lasts (history ++ [taken]) start (history ++ [taken]).length number := by
  intro between other later _ here
  rcases At.append_singleton ⟨other, here, rfl⟩ with ⟨_, old, rfl⟩ | ⟨_, rfl⟩
  · exact lasts between other later (List.getElem?_eq_some_iff.mp old).1 old
  · exact ⟨before, after⟩

/-- **A run that has begun is still under way, or its job has answered in the meantime.** -/
theorem Run.lasting (run : Run name interval began history state) {start number : Nat}
    (begun : At history start (·.Begins number)) :
    Lasts history start history.length number ∧ state.UnderWay number ∨
      ∃ ends, start < ends ∧ Lasts history start ends number ∧
        At history ends fun taken => taken.Completes number ∨ taken.Crashes number := by
  induction run with
  | initial => exact absurd begun.lt_length (Nat.not_lt_zero _)
  | @step history state run now event fresh hypothesis =>
    have steps := Occurrence.steps ⟨state, now, event⟩
    rcases At.append_singleton begun with old | ⟨rfl, begins⟩
    · rcases hypothesis old with ⟨lasts, running⟩ | ⟨ends, later, lasts, ended⟩
      · rcases steps.underWay running with still | ⟨answer, rest⟩ | ⟨answer, rest⟩
        · exact .inl ⟨lasts.concat running still, still⟩
        · exact .inr ⟨history.length, old.lt_length, lasts.append (Nat.le_refl _) _,
            At.last (.inl ⟨answer, running, rest⟩)⟩
        · exact .inr ⟨history.length, old.lt_length, lasts.append (Nat.le_refl _) _,
            At.last (.inr ⟨answer, running, rest⟩)⟩
      · exact .inr ⟨ends, later, lasts.append (Nat.le_of_lt ended.lt_length) _, ended.append _⟩
    · refine .inl ⟨fun between taken later before here => ?_, (steps.of_begins begins).2.2.2⟩
      rw [List.length_append, List.length_singleton] at before
      omega

/-- **Runs do not overlap**: before a run begins, every earlier one has come to its end. -/
theorem Run.apart (run : Run name interval began history state) {first second number number' : Nat}
    (one : At history first (·.Begins number)) (two : At history second (·.Begins number'))
    (before : first < second) :
    ∃ ends, first < ends ∧ ends < second ∧ At history ends (·.Completes number) := by
  obtain ⟨taken, here, begins⟩ := two
  obtain ⟨_, between, _, _⟩ := taken.steps.of_begins begins
  have earlier := run.take here
  rcases Run.lasting earlier (one.take before) with ⟨_, running⟩ | ⟨ends, later, _, ended⟩
  · exact absurd (running.1.symm.trans between) (by decide)
  obtain ⟨within, other, there, completes | crashes⟩ := ended.of_take
  · exact ⟨ends, later, within, other, there, completes⟩
  · -- a loop that has broken down begins nothing
    have still := run.since (·.beat.phase = .crashed) Steps.crashed ⟨other, there, crashes.2.2⟩
    exact absurd ((still.1 second taken within here).symm.trans between) (by decide)

/-- **Once the loop has been told to stop, no run begins.** -/
theorem Run.quiet (run : Run name interval began history state) {told later number : Nat}
    (tells : At history told Occurrence.Tells) (after : told < later) :
    ¬ At history later (·.Begins number) := by
  rintro ⟨taken, here, begins⟩
  have still := run.since (·.beat.signalled = true) Steps.told
    (tells.mono fun _ tells => tells.told)
  obtain ⟨_, _, untold, _⟩ := taken.steps.of_begins begins
  exact absurd ((still.1 later taken after here).symm.trans untold) (by decide)

/-! ### Calls to stop -/

/-- **A call returns without a fault only after the loop has ended**, and the loop stays so. -/
theorem Run.exited (run : Run name interval began history state) {position : Nat} {call : CallId}
    (returned : At history position (·.Returns call (.ok ()))) :
    ∃ exit, exit < position ∧ At history exit Occurrence.Exits ∧
      (∀ later taken, exit < later → history[later]? = some taken →
        taken.before.beat.phase = .ended) ∧ state.beat.phase = .ended := by
  obtain ⟨taken, here, returns⟩ := returned
  obtain ⟨_, ended⟩ := taken.steps.of_returns returns
  let holds : State → Prop := fun state => state.beat.phase = .ended
  have fresh : ¬ holds (start name interval began).1 := by
    show (Heartbeat.start interval began).phase ≠ .ended
    unfold Heartbeat.start
    simp only
    split <;> decide
  obtain ⟨exit, found, _⟩ := (run.take here).brought_about fresh ended
  obtain ⟨before, last, there, not, ended⟩ := found.of_take
  obtain ⟨turn, between, told⟩ := (Occurrence.steps last).of_ended not ended
  exact ⟨exit, before, ⟨last, there, turn, between, told, ended⟩,
    run.since holds Steps.ended ⟨last, there, ended⟩⟩

/-- The handle is there until a call reaches for it. -/
theorem Run.held (run : Run name interval began history state) (gone : state.beat.held = false) :
    ∃ position call, At history position (·.event = .reach call) := by
  let holds : State → Prop := fun state => state.beat.held = false
  have fresh : ¬ holds (start name interval began).1 := (nomatch ·)
  obtain ⟨position, ⟨taken, here, not, gone⟩, _⟩ := run.brought_about fresh gone
  obtain ⟨call, reaches⟩ := (Occurrence.steps taken).of_held (eq_true_of_ne_false not) gone
  exact ⟨position, call, taken, here, reaches⟩

/-- **The first call that reaches for the handle gets it.** -/
theorem Run.seizes (run : Run name interval began history state) {position : Nat} {call : CallId}
    (reaches : At history position (·.event = .reach call))
    (first : ∀ earlier other, earlier < position → ¬ At history earlier (·.event = .reach other)) :
    At history position (·.Seizes call) := by
  obtain ⟨taken, here, reaches⟩ := reaches
  rcases Occurrence.seizes_or_refuses reaches with seizes | ⟨gone, _⟩
  · exact ⟨taken, here, seizes⟩
  · obtain ⟨earlier, other, reached⟩ := Run.held (run.take here) gone
    obtain ⟨within, found⟩ := reached.of_take
    exact absurd found (first earlier other within)

/-- **Every later one is refused in the same step**, whatever the loop is doing and whatever has
become of the first one. -/
theorem Run.refuses (run : Run name interval began history state) {earlier position : Nat}
    {other call : CallId} (first : At history earlier (·.event = .reach other))
    (reaches : At history position (·.event = .reach call)) (after : earlier < position) :
    At history position (·.Refuses name call) := by
  obtain ⟨taken, here, reaches⟩ := reaches
  have gone := (run.since (·.beat.held = false) Steps.gone
    (first.mono fun _ reached => Occurrence.gone_of_reach reached)).1 position taken after here
  rcases Occurrence.seizes_or_refuses reaches with ⟨_, held, _⟩ | ⟨_, refuses⟩
  · exact absurd (held.symm.trans gone) (by decide)
  · rw [Run.name_eq (run.take here)] at refuses
    exact ⟨taken, here, refuses⟩

/-- A call that returns without a fault is the one that has got the handle. -/
theorem Run.own (run : Run name interval began history state) {position : Nat} {call : CallId}
    (returned : At history position (·.Returns call (.ok ()))) :
    ∃ reached, reached < position ∧ At history reached (·.Seizes call) := by
  obtain ⟨taken, here, returns⟩ := returned
  obtain ⟨waits, _⟩ := taken.steps.of_returns returns
  let holds : State → Prop := fun state => state.stopper = some call
  have fresh : ¬ holds (start name interval began).1 := (nomatch ·)
  obtain ⟨reached, found, _⟩ := (run.take here).brought_about fresh waits
  obtain ⟨before, other, there, not, waits⟩ := found.of_take
  obtain ⟨reaches, held⟩ := (Occurrence.steps other).of_stopper not waits
  rcases Occurrence.seizes_or_refuses reaches with seizes | ⟨gone, _⟩
  · exact ⟨reached, before, other, there, seizes⟩
  · exact absurd (held.symm.trans gone) (by decide)

/-- **A call that waits is let go**: the job answers if a run is under way, the loop gets a turn and
then the call, no matter when. -/
theorem State.Waits.released {call : CallId} (waits : state.Waits call)
    (sound : state.beat.phase ≠ .crashed) (answered looked back : Timestamp) :
    (step back (.resume call)
        (automaton.arrive state [(answered, .answer .finished), (looked, .turn)])).2 =
      [.finish call (.ok ())] := by
  obtain ⟨own, told⟩ := waits
  cases phase : state.beat.phase with
  | waiting | running | ended =>
    simp [automaton, Automaton.arrive, step, Worker.finished, proceed, Heartbeat.finishRun,
      Heartbeat.turn, Heartbeat.exit?, State.Waits, phase, own, told]
  | crashed => exact absurd phase sound

/-! ### Workers that are stopped -/

/-- **What a worker holds to, however its loop, its job and those who stop it take their turns.** -/
structure Stoppable (name : String) (history : List Occurrence) (state : State) : Prop where
  /-- Runs do not overlap: before a run begins, every earlier one has come to its end. -/
  apart : ∀ first second number number', first < second →
    At history first (·.Begins number) → At history second (·.Begins number') →
    ∃ ends, first < ends ∧ ends < second ∧ At history ends (·.Completes number)
  /-- A run that has begun goes on through every step until its job answers, whoever stops or drops
  the worker in the meantime. -/
  lasting : ∀ start number, At history start (·.Begins number) →
    Lasts history start history.length number ∧ state.UnderWay number ∨
      ∃ ends, start < ends ∧ Lasts history start ends number ∧
        At history ends fun taken => taken.Completes number ∨ taken.Crashes number
  /-- No run begins once the loop has been told to stop or the worker has been dropped. -/
  quiet : ∀ told later number, told < later → At history told Occurrence.Tells →
    ¬ At history later (·.Begins number)
  /-- A call returns without a fault only after the loop has ended, and the loop stays so. -/
  exited : ∀ position call, At history position (·.Returns call (.ok ())) →
    ∃ exit, exit < position ∧ At history exit Occurrence.Exits ∧
      (∀ later taken, exit < later → history[later]? = some taken →
        taken.before.beat.phase = .ended) ∧ state.beat.phase = .ended
  /-- The first call that reaches for the handle gets it. -/
  first : ∀ position call, At history position (·.event = .reach call) →
    (∀ earlier other, earlier < position → ¬ At history earlier (·.event = .reach other)) →
    At history position (·.Seizes call)
  /-- Every later one is refused in the step in which it reaches for the handle, even if the first
  one has been given up. -/
  later : ∀ earlier position other call, earlier < position →
    At history earlier (·.event = .reach other) → At history position (·.event = .reach call) →
    At history position (·.Refuses name call)
  /-- Only the call that has got the handle returns without a fault. -/
  own : ∀ position call, At history position (·.Returns call (.ok ())) →
    ∃ reached, reached < position ∧ At history reached (·.Seizes call)
  /-- A call that waits for a loop that has not broken down is let go with the next answer of the
  job, turn of the loop and turn of its own. -/
  released : ∀ call, state.Waits call → state.beat.phase ≠ .crashed → ∀ answered looked back,
    (step back (.resume call)
        (automaton.arrive state [(answered, .answer .finished), (looked, .turn)])).2 =
      [.finish call (.ok ())]

/-- **Every run of a worker is stoppable.** -/
theorem Run.stoppable (run : Run name interval began history state) :
    Stoppable name history state where
  apart _ _ _ _ before one two := run.apart one two before
  lasting _ _ begun := run.lasting begun
  quiet _ _ _ after tells := run.quiet tells after
  exited _ _ returned := run.exited returned
  first _ _ reaches first := run.seizes reaches first
  later _ _ _ _ after first reaches := run.refuses first reaches after
  own _ _ returned := run.own returned
  released _ waits sound answered looked back := waits.released sound answered looked back

/-- A run begins, and while it lasts one call gets the handle and waits; a second one comes before
the loop has been told, a third one after it. At the end of the run the next one would be due. -/
def waitedFor : List Occurrence :=
  automaton.replay (start "probe" 10 0).1
    [(10, .turn), (12, .reach 7), (12, .reach 8), (13, .signal 7), (14, .resume 7), (15, .reach 9),
      (20, .turn), (25, .answer .finished), (25, .turn), (25, .resume 7), (40, .turn), (50, .drop)]

/-- The same with a call that is given up while it waits. -/
def givenUp : List Occurrence :=
  automaton.replay (start "probe" 10 0).1
    [(10, .turn), (12, .reach 7), (13, .signal 7), (14, .cancel 7), (15, .reach 8),
      (25, .answer .finished), (25, .turn), (40, .turn)]

/-- The loop has ended before the first call returns, the other calls are refused while the run is
under way, also after the first one has been given up, and there is no second run. -/
theorem stoppable_waitedFor :
    (∃ exit, exit < 9 ∧ At waitedFor exit Occurrence.Exits) ∧
      At waitedFor 2 (·.Refuses "probe" 8) ∧ At waitedFor 5 (·.Refuses "probe" 9) ∧
      At givenUp 4 (·.Refuses "probe" 8) ∧
      ∀ later number, 3 < later →
        ¬ At waitedFor later (·.Begins number) ∧ ¬ At givenUp later (·.Begins number) := by
  have waited : Run "probe" 10 0 waitedFor _ := Automaton.Run.of_replay automaton _ _ (by decide)
  have given : Run "probe" 10 0 givenUp _ := Automaton.Run.of_replay automaton _ _ (by decide)
  have one := waited.stoppable
  have two := given.stoppable
  refine ⟨?_, ?_, ?_, ?_, fun later number after => ⟨?_, ?_⟩⟩
  · obtain ⟨exit, before, exits, _⟩ := one.exited 9 7 ⟨_, rfl, List.mem_singleton_self _⟩
    exact ⟨exit, before, exits⟩
  · exact one.later 1 2 7 8 (by decide) ⟨_, rfl, rfl⟩ ⟨_, rfl, rfl⟩
  · exact one.later 1 5 7 9 (by decide) ⟨_, rfl, rfl⟩ ⟨_, rfl, rfl⟩
  · exact two.later 1 4 7 8 (by decide) ⟨_, rfl, rfl⟩ ⟨_, rfl, rfl⟩
  · exact one.quiet 3 later number after ⟨_, rfl, .inr ⟨7, rfl, rfl⟩⟩
  · exact two.quiet 2 later number (by omega) ⟨_, rfl, .inr ⟨7, rfl, rfl⟩⟩

end Wayfinder.Worker
