/-
**Periodic work.**

A loop runs its job once per interval, the first time one interval after its start. Between two runs
it can be told to stop; a run that has begun is always brought to its end. Whoever stops the loop
takes its handle, which exists only once, and waits for the loop to end.

* `Heartbeat.turn`: the next thing that the loop does;
* `Heartbeat.nextDue`: the pace, also after a run that took too long or began too late;
* `Heartbeat.take`: the handle and the signal to stop.
-/

import Wayfinder.Fault

namespace Wayfinder

/-- What a loop is doing. -/
inductive Heartbeat.Phase where
  | waiting
  | running
  | ended
  | crashed
deriving DecidableEq, Repr

/-- A loop that runs a job periodically. -/
structure Heartbeat where
  interval : Duration
  /-- When the next run is due. -/
  due : Timestamp
  phase : Heartbeat.Phase := .waiting
  /-- Whether the loop has been told to stop. -/
  signalled : Bool := false
  /-- Whether the handle is still there to be taken. -/
  held : Bool := true
deriving DecidableEq, Repr

namespace Heartbeat

/-- Intervals from here on lead beyond the last instant that the clock can show. The clock counts
seconds in 63 bits, and it has been running for an hour at least when a loop starts. -/
def horizon : Duration := Duration.ofSeconds (0x8000000000000000 - 3600)

/-- A loop that starts now. It crashes at once if its interval is zero or leads beyond the clock. -/
def start (interval : Duration) (now : Timestamp) : Heartbeat :=
  { interval
    due := now + (interval : Int)
    phase := if interval = 0 ∨ horizon ≤ interval then .crashed else .waiting }

/-- How late a run may begin without any change to the pace. -/
def tolerance : Duration := Duration.ofMillis 5

/-- When the run after one that begins now is due: one interval after the time at which this one was
due, or one interval from now on if this one is late. -/
def nextDue (beat : Heartbeat) (now : Timestamp) : Timestamp :=
  if beat.due + (tolerance : Int) < now then now + (beat.interval : Int)
  else beat.due + (beat.interval : Int)

/-- What a loop does when it gets a turn between two runs. -/
inductive Turn where
  | begin
  | stop
deriving DecidableEq, Repr

/-- The next thing that the loop does, `none` while it has to wait. The signal to stop comes before
a run that is due. -/
def turn (beat : Heartbeat) (now : Timestamp) : Option (Turn × Heartbeat) :=
  match beat.phase with
  | .waiting =>
    if beat.signalled then some (.stop, { beat with phase := .ended })
    else if beat.due ≤ now then
      some (.begin, { beat with phase := .running, due := beat.nextDue now })
    else none
  | _ => none

/-- A loop that gets a turn is between two runs; it begins one that is due, unless it has been told
to stop. -/
theorem of_turn {beat next : Heartbeat} {now : Timestamp} {turn : Turn}
    (taken : beat.turn now = some (turn, next)) :
    beat.phase = .waiting ∧
      (turn = .begin ∧ beat.signalled = false ∧ beat.due ≤ now ∧
          next = { beat with phase := .running, due := beat.nextDue now } ∨
        turn = .stop ∧ beat.signalled = true ∧ next = { beat with phase := .ended }) := by
  unfold Heartbeat.turn at taken
  split at taken
  · next waiting =>
    refine ⟨waiting, ?_⟩
    split at taken
    · next told =>
      cases taken
      exact .inr ⟨rfl, told, rfl⟩
    · next untold =>
      split at taken
      · next due =>
        cases taken
        exact .inl ⟨rfl, Bool.eq_false_iff.mpr untold, due, rfl⟩
      · cases taken
  · cases taken

/-- The run has come to its end. -/
def finishRun (beat : Heartbeat) : Heartbeat := { beat with phase := .waiting }

/-- The run has broken down, and the loop with it. -/
def crashRun (beat : Heartbeat) : Heartbeat := { beat with phase := .crashed }

/-- Tells the loop to stop. -/
def signal (beat : Heartbeat) : Heartbeat := { beat with signalled := true }

/-- Takes the handle and tells the loop to stop; `none` if the handle has been taken before. -/
def take (beat : Heartbeat) : Option Heartbeat :=
  if beat.held then some { beat.signal with held := false } else none

/-- Whether the loop is at an end. -/
def isOver (beat : Heartbeat) : Bool := beat.phase == .ended || beat.phase == .crashed

/-- Whether the loop counts as running: its handle is still there and it is not at an end. -/
def isRunning (beat : Heartbeat) : Bool := beat.held && !beat.isOver

/-- How the loop of a job has ended, once it has. -/
def exit? (beat : Heartbeat) (job : String) : Option (Except StopFault Unit) :=
  match beat.phase with
  | .ended => some (.ok ())
  | .crashed => some (.error (.crashed job))
  | _ => none

end Heartbeat

end Wayfinder
