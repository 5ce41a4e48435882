/-
**A virtual clock.**

A simulation runs a machine against scripted collaborators. Time passes only where the scenario says
so. At every instant the tasks that can go on do so, one after another, each as far as it can; when
none is left, the alarms that are due ring in the order of their times, those of one time in the
order in which they were set, and the tasks that they rouse get their turns. So it goes on until
nothing happens any more. Time may have passed without anyone looking; until the alarms have rung,
nobody has an answer that they tell of.

* `World`: a machine's state, the clock and everything that is due;
* `World.runTask`: a task as far as it can go;
* `World.settle`: everything that can happen now;
* `World.advance`: everything up to a later instant.

Every function that repeats takes a bound on the number of rounds; `effort` is the bound for what
happens at one instant.
-/

import Wayfinder.Collaborator
import Wayfinder.Table

namespace Wayfinder.Simulation

/-- Who keeps a record of the questions put to it. -/
inductive Party where
  | routeOracle
  | metadataOracle
  | policy
  | geolocation
  | source
  | job
deriving DecidableEq, Repr

/-- A line of a record. -/
structure LogLine where
  party : Party
  line : String
deriving DecidableEq, Repr

/-- A question that is out, and what is recorded when its answer arrives. -/
structure Sent (ρ : Type) where
  exchange : Exchange ρ
  parting : Option (Timestamp → LogLine) := none

/-- A machine with its scripted surroundings: states `σ`, tasks `τ`, questions `κ`, answers `ρ`,
requests `α`, outcomes `ο` and scripts `ς`. -/
structure Machine (σ τ κ ρ α ο ς : Type) where
  start : Timestamp → CallId → α → σ → σ × List (Effect τ κ ο)
  proceed : Timestamp → τ → σ → Option (σ × List (Effect τ κ ο))
  answer : Timestamp → τ → ρ → σ → σ × List (Effect τ κ ο)
  cancel : Timestamp → CallId → σ → σ × List (Effect τ κ ο)
  send : Timestamp → τ → κ → Option Duration → ς → Sent ρ × List LogLine

/-- The end of a call: when, and with which outcome. A call that was given up has none. -/
structure Ending (ο : Type) where
  call : CallId
  instant : Timestamp
  outcome : Option ο

/-- A turn of a task. A task that begins with it sets an alarm first. -/
structure Turn (τ : Type) where
  task : τ
  alarm : Option Timestamp := none

/-- A machine's state, the clock and everything that is due. -/
structure World (σ τ ρ ο ς : Type) where
  state : σ
  script : ς
  clock : Timestamp := 0
  /-- The instant up to which all alarms have rung. -/
  rung : Timestamp := 0
  /-- The turns of the tasks that can go on, in order. -/
  ready : List (Turn τ) := []
  /-- Instants at which tasks want to be roused, in order of time. -/
  alarms : List (Timestamp × τ) := []
  sent : Table τ (Sent ρ) := {}
  endings : List (Ending ο) := []
  /-- The lines recorded so far, the latest first. -/
  log : List LogLine := []

variable {σ τ κ ρ α ο ς : Type}

/-- Puts an alarm behind those that are due no later. -/
def insertAlarm (due : Timestamp) (task : τ) : List (Timestamp × τ) → List (Timestamp × τ)
  | [] => [(due, task)]
  | alarm :: rest =>
    if due < alarm.1 then (due, task) :: alarm :: rest else alarm :: insertAlarm due task rest

namespace World

variable [DecidableEq τ]

/-- Wants a task to be roused. -/
def addAlarm (world : World σ τ ρ ο ς) (due : Timestamp) (task : τ) : World σ τ ρ ο ς :=
  { world with alarms := insertAlarm due task world.alarms }

/-- Gives a task a turn after the others, unless it has one already. -/
def rouse (world : World σ τ ρ ο ς) (task : τ) : World σ τ ρ ο ς :=
  if world.ready.any fun turn => decide (turn.task = task) then world
  else { world with ready := world.ready ++ [{ task }] }

/-- Gives a task a turn before the others. -/
def resume (world : World σ τ ρ ο ς) (task : τ) : World σ τ ρ ο ς :=
  { world with ready := { task } :: world.ready }

/-- What the task that has asked finds. An answer that takes no time is there at once; otherwise
there is nothing before an alarm has rung. -/
def hear (world : World σ τ ρ ο ς) (exchange : Exchange ρ) : Option ρ :=
  if exchange.arrival ≤ exchange.began then some exchange.answer else exchange.poll world.rung

/-- Records a question that is out. The task is roused at its deadline and when the answer arrives;
if it finds something right away, it goes on before the others. -/
def register (world : World σ τ ρ ο ς) (task : τ) (sent : Sent ρ) (lines : List LogLine) :
    World σ τ ρ ο ς :=
  let recorded := { world with sent := world.sent.put task sent, log := lines.reverse ++ world.log }
  if (world.hear sent.exchange).isSome then recorded.resume task
  else
    let expected := recorded.addAlarm sent.exchange.arrival task
    match sent.exchange.deadline? with
    | some deadline => expected.addAlarm deadline task
    | none => expected

/-- Carries an effect out. -/
def carryOut (machine : Machine σ τ κ ρ α ο ς) (world : World σ τ ρ ο ς) :
    Effect τ κ ο → World σ τ ρ ο ς
  | .ask task query limit =>
    let (sent, lines) := machine.send world.clock task query limit world.script
    world.register task sent lines
  | .rouse task => world.rouse task
  | .resume task => world.resume task
  | .wait task due => world.addAlarm due task
  | .spawn task due => { world with ready := world.ready ++ [{ task, alarm := some due }] }
  | .finish call outcome =>
    { world with endings := world.endings ++ [⟨call, world.clock, some outcome⟩] }

/-- Takes the outcome of a step of the machine over. -/
def accept (machine : Machine σ τ κ ρ α ο ς) (world : World σ τ ρ ο ς)
    (stepped : σ × List (Effect τ κ ο)) : World σ τ ρ ο ς :=
  stepped.2.foldl (carryOut machine) { world with state := stepped.1 }

/-- Takes a question back in whose answer has arrived, together with the alarms set for it. -/
def receive (world : World σ τ ρ ο ς) (task : τ) (sent : Sent ρ) : World σ τ ρ ο ς :=
  { world with
    sent := world.sent.erase task
    alarms := world.alarms.filter fun alarm => !decide (alarm.2 = task)
    log := (sent.parting.map fun line => line world.clock).toList ++ world.log }

/-- One step of a task, `none` if it has to wait. -/
def turn (machine : Machine σ τ κ ρ α ο ς) (world : World σ τ ρ ο ς) (task : τ) :
    Option (World σ τ ρ ο ς) :=
  match world.sent.get? task with
  | some sent =>
    (world.hear sent.exchange).map fun reply =>
      accept machine (world.receive task sent) (machine.answer world.clock task reply world.state)
  | none => (machine.proceed world.clock task world.state).map (accept machine world)

/-- Runs a task as far as it can go. -/
def runTask (machine : Machine σ τ κ ρ α ο ς) : Nat → τ → World σ τ ρ ο ς → World σ τ ρ ο ς
  | 0, _, world => world
  | rounds + 1, task, world =>
    match turn machine world task with
    | some after => runTask machine rounds task after
    | none => world

/-- Sets the alarm with which a turn begins. -/
def beginTurn (world : World σ τ ρ ο ς) (turn : Turn τ) : World σ τ ρ ο ς :=
  match turn.alarm with
  | some due => world.addAlarm due turn.task
  | none => world

/-- Lets the alarms ring that are due. -/
def ring (world : World σ τ ρ ο ς) : World σ τ ρ ο ς :=
  let isDue (alarm : Timestamp × τ) : Bool := decide (alarm.1 ≤ world.clock)
  let rest :=
    { world with rung := world.clock, alarms := world.alarms.dropWhile isDue }
  (world.alarms.takeWhile isDue).foldl (fun roused alarm => roused.rouse alarm.2) rest

/-- Lets everything happen that can happen now. -/
def settle (machine : Machine σ τ κ ρ α ο ς) (effort : Nat) : Nat → World σ τ ρ ο ς →
    World σ τ ρ ο ς
  | 0, world => world
  | rounds + 1, world =>
    match world.ready with
    | turn :: others =>
      let begun := { world with ready := others }.beginTurn turn
      settle machine effort rounds (runTask machine effort turn.task begun)
    | [] =>
      let rung := world.ring
      if rung.ready.isEmpty then world else settle machine effort rounds rung

/-- Moves the clock to an instant, stopping wherever something is due on the way. -/
def advanceTo (machine : Machine σ τ κ ρ α ο ς) (effort : Nat) (target : Timestamp) :
    Nat → World σ τ ρ ο ς → World σ τ ρ ο ς
  | 0, world => { world with clock := target }
  | rounds + 1, world =>
    let settled := settle machine effort effort world
    match settled.alarms with
    | (due, _) :: _ =>
      if due ≤ target then advanceTo machine effort target rounds { settled with clock := due }
      else { settled with clock := target }
    | [] => { settled with clock := target }

/-- The milliseconds of a duration, begun ones included. Alarms are set to whole milliseconds, so
that no more instants than these lie within the duration. -/
def instants (span : Duration) : Nat := span / 1000000 + 2

/-- Lets a duration pass. -/
def advance (machine : Machine σ τ κ ρ α ο ς) (effort : Nat) (span : Duration)
    (world : World σ τ ρ ο ς) : World σ τ ρ ο ς :=
  advanceTo machine effort (world.clock + (span : Int)) (instants span) world

end World

end Wayfinder.Simulation
