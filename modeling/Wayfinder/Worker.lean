/-
**A worker.**

A worker is a loop with a job of its own, and calls that stop it. The first call to stop takes the
handle of the loop and waits for the loop to end; every later one is refused at once. Dropping the
worker tells the loop to stop, too, and waits for nothing.

* `proceed`: a turn of the loop or of the call that waits for it;
* `finished`: the job has come to its end or has broken down;
* `stop`, `cancel`, `drop`: what callers do; `reach` and `signal` are the two halves of a `stop`.
-/

import Wayfinder.Collaborator
import Wayfinder.Heartbeat

namespace Wayfinder.Worker

/-- The state of a worker. -/
structure State where
  name : String
  beat : Heartbeat
  /-- The runs that have begun. -/
  started : Nat := 0
  /-- The runs that have come to their end. -/
  finished : Nat := 0
  /-- The call that has taken the handle and waits. -/
  stopper : Option CallId := none
  dropped : Bool := false
deriving Repr

/-- What can be given a turn. -/
inductive Task where
  | loop
  | call (call : CallId)
deriving DecidableEq, Repr

/-- How the job answers. -/
inductive JobReply where
  | finished
  | crashed
deriving DecidableEq, Repr

/-- How a call ends. -/
abbrev Outcome := Except StopFault Unit

/-- What a step asks of the outside. The question is the number of a run. -/
abbrev Effects := List (Effect Task Nat Outcome)

/-- Lets whoever waits for the loop go on. -/
def rouseStopper (state : State) : Effects :=
  state.stopper.toList.map fun id => .rouse (.call id)

/-- The step of a task that waits for nothing outside. -/
def proceed (now : Timestamp) (task : Task) (state : State) : Option (State × Effects) :=
  match task with
  | .loop =>
    match state.beat.turn now with
    | some (.begin, beat) =>
      some ({ state with beat, started := state.started + 1 },
        [.ask .loop (state.started + 1) none])
    | some (.stop, beat) => some ({ state with beat }, rouseStopper state)
    | none => none
  | .call id =>
    if state.stopper = some id then
      (state.beat.exit? state.name).map fun outcome =>
        ({ state with stopper := none }, [.finish id outcome])
    else none

/-- The run that is under way has come to its end or has broken down. -/
def finished (reply : JobReply) (state : State) : State × Effects :=
  match reply with
  | .finished =>
    let beat := state.beat.finishRun
    ({ state with beat, finished := state.finished + 1 }, [.wait .loop beat.due])
  | .crashed => ({ state with beat := state.beat.crashRun }, rouseStopper state)

/-- Begins the loop. -/
def start (name : String) (interval : Duration) (now : Timestamp) : State × Effects :=
  let beat := Heartbeat.start interval now
  ({ name, beat }, [.spawn .loop beat.due])

/-- A call to stop reaches for the handle. It is refused if the handle is gone. -/
def reach (id : CallId) (state : State) : State × Effects :=
  if state.beat.held then
    ({ state with beat := { state.beat with held := false }, stopper := some id },
      [.rouse (.call id)])
  else (state, [.finish id (.error (.alreadyStopped state.name))])

/-- Tells the loop to stop. -/
def signal (state : State) : State × Effects :=
  ({ state with beat := state.beat.signal }, [.rouse .loop])

/-- A call that stops the worker: the one that gets the handle tells the loop to stop. -/
def stop (id : CallId) (state : State) : State × Effects :=
  let (reached, effects) := reach id state
  if state.beat.held then
    let (told, more) := signal reached
    (told, effects ++ more)
  else (reached, effects)

/-- Gives a call up. The handle is gone all the same. -/
def cancel (id : CallId) (state : State) : State :=
  if state.stopper = some id then { state with stopper := none } else state

/-- Drops the worker. -/
def drop (state : State) : State × Effects :=
  let (told, effects) := signal state
  ({ told with dropped := true }, effects)

end Wayfinder.Worker
