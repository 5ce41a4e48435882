/-
**Scenarios.**

A scenario is a list of steps: a call begins or is given up, time passes, or the collaborators
change their ways. Each step is answered by a report of what happened in it.

* `Step`, `Report`: steps and their reports;
* `Scenario.run`: the reports of all steps.
-/

import Wayfinder.Simulation.Kernel

namespace Wayfinder.Simulation

/-- A step of a scenario. -/
inductive Step (α ς : Type) where
  /-- A call begins; without a name nobody waits for its outcome. -/
  | perform (name : Option String) (request : α)
  /-- All calls of a name are given up. -/
  | cancel (name : String)
  /-- Time passes, and everything happens in it that is due. -/
  | advance (span : Duration)
  /-- Time passes, but nothing can happen. -/
  | stall (span : Duration)
  /-- The collaborators change their ways. -/
  | change (change : ς → ς)

/-- A call that has come to its end. -/
structure Completion (ο : Type) where
  name : String
  instant : Timestamp
  outcome : Option ο

/-- What happened in a step, and where it left the machine. -/
structure Report (σ ο : Type) where
  instant : Timestamp
  /-- The calls that came to their ends, in the order of time and then of their start. -/
  completed : List (Completion ο)
  /-- The calls that are still under way, in the order of their start. -/
  pending : List String
  log : List LogLine
  state : σ

/-- A world with the names of the calls that are under way. -/
structure Scenario (σ τ ρ ο ς : Type) where
  world : World σ τ ρ ο ς
  pending : List (CallId × String) := []
  nextCall : CallId := 0

variable {σ τ κ ρ α ο ς : Type} [DecidableEq τ]

namespace Scenario

/-- Gives a call up. -/
def giveUp (machine : Machine σ τ κ ρ α ο ς) (world : World σ τ ρ ο ς) (id : CallId) :
    World σ τ ρ ο ς :=
  let ending : Ending ο := ⟨id, world.clock, none⟩
  let ended := { world with endings := world.endings ++ [ending] }
  ended.accept machine (machine.cancel world.clock id world.state)

/-- Gives all calls of a name up, one after another, before anything else happens. -/
def cancel (machine : Machine σ τ κ ρ α ο ς) (scenario : Scenario σ τ ρ ο ς) (name : String) :
    Scenario σ τ ρ ο ς :=
  let named := scenario.pending.filter fun call => decide (call.2 = name)
  { scenario with
    world := named.foldl (fun world call => giveUp machine world call.1) scenario.world }

/-- Begins a call. -/
def perform (machine : Machine σ τ κ ρ α ο ς) (scenario : Scenario σ τ ρ ο ς)
    (name : Option String) (request : α) : Scenario σ τ ρ ο ς :=
  let world := scenario.world
  let id := scenario.nextCall
  { world := world.accept machine (machine.start world.clock id request world.state)
    pending := scenario.pending ++ name.toList.map fun known => (id, known)
    nextCall := id + 1 }

/-- Everything that happens in a step. -/
def act (machine : Machine σ τ κ ρ α ο ς) (effort : Nat) (scenario : Scenario σ τ ρ ο ς) :
    Step α ς → Scenario σ τ ρ ο ς
  | .perform name request =>
    let begun := scenario.perform machine name request
    { begun with world := begun.world.settle machine effort effort }
  | .cancel name =>
    let given := scenario.cancel machine name
    { given with world := given.world.settle machine effort effort }
  | .advance span => { scenario with world := scenario.world.advance machine effort span }
  | .stall span =>
    let world := scenario.world
    { scenario with world := { world with clock := world.clock + (span : Int) } }
  | .change change =>
    let world := scenario.world
    { scenario with world := { world with script := change world.script } }

/-- Whether an ending comes before another one in a report. -/
def precedes (first second : Ending ο) : Bool :=
  decide (first.instant < second.instant) ||
    (first.instant == second.instant && decide (first.call ≤ second.call))

/-- The report of what happened since the last one, and the scenario without it. -/
def report (scenario : Scenario σ τ ρ ο ς) : Report σ ο × Scenario σ τ ρ ο ς :=
  let world := scenario.world
  let completed := (world.endings.mergeSort precedes).filterMap fun ending =>
    (scenario.pending.find? (·.1 = ending.call)).map fun call =>
      ⟨call.2, ending.instant, ending.outcome⟩
  let pending := scenario.pending.filter fun call =>
    !world.endings.any fun ending => decide (ending.call = call.1)
  ({ instant := world.clock
     completed
     pending := pending.map (·.2)
     log := world.log.reverse
     state := world.state },
    { scenario with world := { world with endings := [], log := [] }, pending })

/-- The reports of the steps. -/
def runFrom (machine : Machine σ τ κ ρ α ο ς) (effort : Nat) (scenario : Scenario σ τ ρ ο ς) :
    List (Step α ς) → List (Report σ ο)
  | [] => []
  | step :: rest =>
    let (report, after) := (scenario.act machine effort step).report
    report :: runFrom machine effort after rest

/-- The bound on the rounds of one instant with which scenarios are run. What happens at an instant
needs a few rounds for each call, candidate and timer, which no scenario has in such numbers. -/
def effort : Nat := 1000000

/-- The reports of a scenario that begins with a state and its first effects. What can happen before
the first step does. -/
def run (machine : Machine σ τ κ ρ α ο ς) (script : ς)
    (initial : σ × List (Effect τ κ ο)) (steps : List (Step α ς)) : List (Report σ ο) :=
  let world : World σ τ ρ ο ς := { state := initial.1, script }
  let begun := (world.accept machine initial).settle machine effort effort
  runFrom machine effort { world := begun } steps

end Scenario

end Wayfinder.Simulation
