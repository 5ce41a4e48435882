/-
**The panel of metadata sources.**

Metadata comes from several sources. A call goes through all of them in order and stops at the first
that fails; what the sources answer to a request is joined in their order. A source is an atlas, an
archive, or something outside that is asked.

* `Source`: one source;
* `Round`: a call on its way through the sources;
* `step`: one step of the machine.
-/

import Wayfinder.Archive
import Wayfinder.Atlas.Step

namespace Wayfinder.Panel

/-- A source of metadata. -/
inductive Source where
  | external (name : String)
  | archive (archive : Archive)
  | atlas (atlas : Atlas.State)

/-- The name of a source. -/
def Source.name : Source → String
  | .external name => name
  | .archive _ => "local"
  | .atlas _ => "topology"

/-- What a call wants of every source. -/
inductive Errand where
  | open
  | close
  | refresh
  | fetch (query : MetadataQuery)
deriving Repr

/-- A call on its way through the sources. -/
structure Round where
  errand : Errand
  /-- The source whose turn it is. -/
  position : Nat := 0
  /-- Whether that source has been asked and has not answered yet. -/
  waiting : Bool := false
  /-- What the sources before it have answered. -/
  collected : List Metadata := []
deriving Repr

/-- How a call ends. Only fetching calls have metadata. -/
abbrev Outcome := Except MetadataFault (Option Metadata)

/-- The sources and the calls. -/
structure State where
  sources : List Source
  rounds : Table CallId Round := {}

/-- What can be given a turn. -/
inductive Task where
  | call (call : CallId)
  /-- A task of the atlas at a position. -/
  | atlas (position : Nat) (task : Atlas.Task)
deriving DecidableEq, Repr

/-- What a step asks of the outside. -/
abbrev Effects := List (Effect Task Query Outcome)

/-- The names of the sources. -/
def State.names (state : State) : List String := state.sources.map Source.name

/-- Puts another state in the place of a source. -/
def State.replace (state : State) (position : Nat) (source : Source) : State :=
  { state with sources := state.sources.set position source }

/-- What a call that has been through all sources has collected. -/
def Round.outcome (round : Round) : Outcome :=
  match round.errand with
  | .fetch _ => .ok (some (Metadata.concat round.collected))
  | _ => .ok none

/-- A source has answered: the call goes on to the next one, or fails. -/
def advance (id : CallId) (round : Round) (answer : Except MetadataFault (Option Metadata))
    (state : State) : State × Effects :=
  match answer with
  | .error fault =>
    ({ state with rounds := state.rounds.erase id }, [.finish id (.error fault)])
  | .ok found =>
    let next : Round :=
      { round with
        position := round.position + 1
        waiting := false
        collected := round.collected ++ found.toList }
    ({ state with rounds := state.rounds.put id next }, [.resume (.call id)])

/-- Takes one effect of the atlas at a position over. The outcome of a call is the answer of that
source. -/
def absorbOne (position : Nat) (effect : Effect Atlas.Task Query Atlas.Outcome) (state : State) :
    State × Effects :=
  match effect with
  | .finish id outcome =>
    match state.rounds.get? id with
    | some round => advance id round (outcome.map fun found => found.map (·.metadata)) state
    | none => (state, [])
  | other => (state, (other.embed? (.atlas position)).toList)

/-- Takes effects of the atlas at a position over, in order. -/
def absorb (position : Nat) : Atlas.Effects → State → State × Effects
  | [], state => (state, [])
  | effect :: rest, state =>
    let (after, first) := absorbOne position effect state
    let (final, others) := absorb position rest after
    (final, first ++ others)

/-- Puts the outcome of a step of the atlas at a position in its place. -/
def settle (position : Nat) (stepped : Atlas.State × Atlas.Effects) (state : State) :
    State × Effects :=
  absorb position stepped.2 (state.replace position (.atlas stepped.1))

/-- The atlas at a position. -/
def State.atlas? (state : State) (position : Nat) : Option Atlas.State :=
  match state.sources[position]? with
  | some (.atlas atlas) => some atlas
  | _ => none

/-- The call asks the source whose turn it is. -/
def visit (now : Timestamp) (id : CallId) (round : Round) (source : Source) (state : State) :
    State × Effects :=
  let position := round.position
  let waiting := { state with rounds := state.rounds.put id { round with waiting := true } }
  match source, round.errand with
  | .external _, .open => (waiting, [.ask (.call id) (.openSource position) none])
  | .external _, .close => (waiting, [.ask (.call id) (.closeSource position) none])
  | .external _, .fetch query => (waiting, [.ask (.call id) (.fetchSource position query) none])
  | .external _, .refresh => advance id round (.ok none) state
  | .archive archive, .open =>
    let (answer, opened) := archive.open
    advance id round (answer.map fun _ => none) (state.replace position (.archive opened))
  | .archive archive, .fetch _ => advance id round (.ok (some archive.loaded)) state
  | .archive _, .close | .archive _, .refresh => advance id round (.ok none) state
  | .atlas atlas, .open =>
    let (opened, effects) := settle position (atlas.open now) state
    let (after, others) := advance id round (.ok none) opened
    (after, effects ++ others)
  | .atlas atlas, .close => settle position (Atlas.close id atlas) waiting
  | .atlas atlas, .refresh => settle position (Atlas.refresh id atlas) waiting
  | .atlas atlas, .fetch query => settle position (Atlas.fetch id query atlas) waiting

/-- The step of a call that waits for nothing outside. -/
def proceedCall (now : Timestamp) (id : CallId) (round : Round) (state : State) :
    Option (State × Effects) :=
  if round.waiting then none
  else
    match state.sources[round.position]? with
    | some source => some (visit now id round source state)
    | none => some ({ state with rounds := state.rounds.erase id }, [.finish id round.outcome])

/-- The step of a task that waits for nothing outside, `none` if there is none to take. -/
def proceed (now : Timestamp) (task : Task) (state : State) : Option (State × Effects) :=
  match task with
  | .call id => (state.rounds.get? id).bind fun round => proceedCall now id round state
  | .atlas position task =>
    (state.atlas? position).bind fun atlas =>
      (Atlas.proceed now task atlas).map fun stepped => settle position stepped state

/-- A task hears an answer. -/
def answer (task : Task) (reply : Reply) (state : State) : State × Effects :=
  match task, reply with
  | .call id, .source result =>
    match state.rounds.get? id with
    | some round =>
      advance id round
        (result.map fun found =>
          match round.errand with
          | .fetch _ => some found
          | _ => none)
        state
    | none => (state, [])
  | .atlas position task, reply =>
    match state.atlas? position with
    | some atlas => settle position (Atlas.answer task reply atlas) state
    | none => (state, [])
  | _, _ => (state, [])

/-- Begins a call. -/
def start (id : CallId) (errand : Errand) (state : State) : State × Effects :=
  ({ state with rounds := state.rounds.put id { errand } }, [.resume (.call id)])

/-- Gives a call up, also at the atlas where it waits. -/
def cancel (id : CallId) (state : State) : State × Effects :=
  match state.rounds.get? id with
  | none => (state, [])
  | some round =>
    let dropped := { state with rounds := state.rounds.erase id }
    match state.atlas? round.position with
    | some atlas => settle round.position (Atlas.cancel id atlas) dropped
    | none => (dropped, [])

/-- What can happen to the machine. -/
inductive Event where
  | start (call : CallId) (errand : Errand)
  | proceed (task : Task)
  | answer (task : Task) (reply : Reply)
  | cancel (call : CallId)
deriving Repr

/-- One step of the machine. -/
def step (now : Timestamp) (event : Event) (state : State) : State × Effects :=
  match event with
  | .start id errand => start id errand state
  | .proceed task => (proceed now task state).getD (state, [])
  | .answer task reply => answer task reply state
  | .cancel id => cancel id state

end Wayfinder.Panel
