/-
**Resolving routes.**

A call for the routes to a destination is answered from the cache if it can be. Otherwise it joins
a call that is already looking for them, or leads: it asks where the service runs, which candidates
there are and which of their links obey the policies, walks the routes out of the answers, stores
them and tells those who joined. Nobody joins a call that began before the last purge.

Every access to the cache or to the marks of leading calls is one step, and between two steps of a
call others may take theirs.

* `Stage`: where a call stands;
* `State`: the cache, the marks of leading calls, the channels over which they tell their outcome;
* `step`: one step of the machine.
-/

import Wayfinder.Collaborator
import Wayfinder.Reconstruction
import Wayfinder.RouteCache

namespace Wayfinder.Resolver

/-- Routes, and the call that found them. -/
structure Finding where
  routes : List Route
  leader : CallId
deriving DecidableEq, Repr

/-- How a call ends. -/
abbrev Outcome := Except ResolveFault Finding

instance : DecidableEq Outcome
  | .ok first, .ok second => decidable_of_iff (first = second) (by simp)
  | .error first, .error second => decidable_of_iff (first = second) (by simp)
  | .ok _, .error _ | .error _, .ok _ => isFalse (by simp)

/-- What those who joined a leading call hear. -/
inductive Channel where
  | open
  | published (outcome : Outcome)
  | closed
deriving DecidableEq, Repr

/-- What a leading call remembers of its beginning. -/
structure Lead where
  generation : UInt64
  began : Timestamp
deriving DecidableEq, Repr

/-- Where a call stands. -/
inductive Stage where
  | lookingUp
  | readingGeneration
  | joining (generation : UInt64)
  | following (leader : CallId) (generation : UInt64)
  /-- Waits for the node of the service. -/
  | locating (lead : Lead)
  /-- Waits for the candidates. -/
  | exploring (lead : Lead) (src : Node)
  /-- Waits for the links that obey the policies. -/
  | consulting (lead : Lead) (src : Node) (expiry : Option Timestamp)
  | storing (lead : Lead) (routes : List Route) (expiry : Option Timestamp)
  | releasing (lead : Lead) (outcome : Outcome)
  | publishing (lead : Lead) (outcome : Outcome)
deriving DecidableEq, Repr

/-- A call that is under way. -/
structure Call where
  dst : Node
  stage : Stage
deriving DecidableEq, Repr

/-- The mark of the call that leads to a destination. -/
structure Marker where
  generation : UInt64
  leader : CallId
deriving DecidableEq, Repr

/-- The state of the resolver. -/
structure State where
  /-- How long a collaborator may take. -/
  timeout : Duration
  cache : RouteCache Finding
  markers : Table Node Marker := {}
  channels : Table CallId Channel := {}
  calls : Table CallId Call := {}
deriving Repr

/-- What can be given a turn. -/
inductive Task where
  | call (call : CallId)
  | timer (timer : TimerId)
deriving DecidableEq, Repr

/-- What a step asks of the outside. -/
abbrev Effects := List (Effect Task Query Outcome)

/-- A resolver without routes. -/
def State.initial (capacity : Nat) (timeout : Duration) : State :=
  { timeout, cache := .ofCapacity capacity }

namespace State

/-- Moves a call to a stage. -/
def moveTo (state : State) (id : CallId) (call : Call) (stage : Stage) : State :=
  { state with calls := state.calls.put id { call with stage } }

/-- Takes a call out. -/
def dismiss (state : State) (id : CallId) : State := { state with calls := state.calls.erase id }

/-- The calls that have joined a leading call, in the order of their start. -/
def followers (state : State) (leader : CallId) : List CallId :=
  state.calls.entries.filterMap fun (id, call) =>
    match call.stage with
    | .following other _ => if other = leader then some id else none
    | _ => none

/-- Takes the mark of a leading call away. A call of another generation may have put its own mark in
the place; that one stays. -/
def unmark (state : State) (dst : Node) (generation : UInt64) : State :=
  match state.markers.get? dst with
  | some marker =>
    if marker.generation = generation then { state with markers := state.markers.erase dst }
    else state
  | none => state

/-- Tells those who joined a call, now or later. -/
def announce (state : State) (leader : CallId) (channel : Channel) : State × Effects :=
  ({ state with channels := state.channels.put leader channel },
    (state.followers leader).map fun id => .rouse (.call id))

end State

/-- Begins to lead. -/
def lead (now : Timestamp) (id : CallId) (call : Call) (generation : UInt64) (state : State) :
    State × Effects :=
  let marked := { state with
    markers := state.markers.put call.dst ⟨generation, id⟩
    channels := state.channels.put id .open }
  (marked.moveTo id call (.locating ⟨generation, now⟩),
    [.ask (.call id) .localNode (some state.timeout)])

/-- Joins the call that leads to the destination, if it began in the same generation; leads
otherwise. -/
def join (now : Timestamp) (id : CallId) (call : Call) (generation : UInt64) (state : State) :
    State × Effects :=
  match state.markers.get? call.dst with
  | some marker =>
    if marker.generation = generation
    then (state.moveTo id call (.following marker.leader generation), [])
    else lead now id call generation state
  | none => lead now id call generation state

/-- Stores what a leading call has found. Without candidates there is nothing to store. -/
def store (now : Timestamp) (id : CallId) (call : Call) (led : Lead) (routes : List Route)
    (expiry : Option Timestamp) (state : State) : State × Effects :=
  let finding : Finding := ⟨routes, id⟩
  match expiry with
  | none => (state.moveTo id call (.releasing led (.ok finding)), [])
  | some expiry =>
    let (outcome, cache) := state.cache.insert call.dst finding expiry led.generation now
    let stored := { state with cache }.moveTo id call (.releasing led (.ok finding))
    match outcome with
    | .stored timer => (stored, [.spawn (.timer timer) expiry])
    | _ => (stored, [])

/-- The step of a call that waits for nothing outside, `none` if there is none to take. -/
def proceedCall (now : Timestamp) (id : CallId) (call : Call) (state : State) :
    Option (State × Effects) :=
  match call.stage with
  | .lookingUp =>
    match state.cache.get call.dst now with
    | (some finding, cache) =>
      some ({ state with cache }.dismiss id, [.finish id (.ok finding)])
    | (none, cache) => some ({ state with cache }.moveTo id call .readingGeneration, [])
  | .readingGeneration => some (state.moveTo id call (.joining state.cache.generation), [])
  | .joining generation => some (join now id call generation state)
  | .following leader _ =>
    match state.channels.get? leader with
    | some .open => none
    | some (.published outcome) => some (state.dismiss id, [.finish id outcome])
    | _ => some (state.moveTo id call .lookingUp, [])
  | .storing led routes expiry => some (store now id call led routes expiry state)
  | .releasing led outcome =>
    some ((state.unmark call.dst led.generation).moveTo id call (.publishing led outcome), [])
  | .publishing _ outcome =>
    let (told, effects) := state.announce id (.published outcome)
    some (told.dismiss id, effects ++ [.finish id outcome])
  | .locating _ | .exploring _ _ | .consulting _ _ _ => none

/-- The step of a task that waits for nothing outside. A timer fires from its deadline on. -/
def proceed (now : Timestamp) (task : Task) (state : State) : Option (State × Effects) :=
  match task with
  | .call id => (state.calls.get? id).bind fun call => proceedCall now id call state
  | .timer timer =>
    match state.cache.timers.get? timer with
    | some due =>
      if due.deadline ≤ now then some ({ state with cache := state.cache.fire timer }, []) else none
    | none => none

/-- A leading call fails. -/
def fail (id : CallId) (call : Call) (led : Lead) (fault : ResolveFault) (state : State) :
    State × Effects :=
  (state.moveTo id call (.releasing led (.error fault)), [])

/-- A call hears the answer it waits for. The round trip counts when the last of the three answers
is a good one. Answers that nobody waits for are dropped. -/
def answerCall (now : Timestamp) (id : CallId) (call : Call) (reply : Reply) (state : State) :
    State × Effects :=
  match call.stage, reply with
  | .locating led, .node (.ok src) =>
    (state.moveTo id call (.exploring led src),
      [.ask (.call id) (.candidates call.dst src true) (some state.timeout)])
  | .locating led, .node (.error fault) => fail id call led (.oracle fault) state
  | .exploring led src, .candidates (.ok candidates) =>
    (state.moveTo id call (.consulting led src (earliestExpiry candidates)),
      [.ask (.call id) (.compliant src call.dst (candidates.flatMap Candidate.links))
        (some state.timeout)])
  | .exploring led _, .candidates (.error fault) => fail id call led (.oracle fault) state
  | .consulting led src expiry, .compliant (.ok answers) =>
    let routes := answers.flatMap (reconstruct src call.dst)
    let cache := { state.cache with
      tally := state.cache.tally.recordRoundTrip (Duration.micros (now - led.began).toNat) }
    ({ state with cache }.moveTo id call (.storing led routes expiry), [])
  | .consulting led _ _, .compliant (.error fault) => fail id call led (.policy fault) state
  | _, _ => (state, [])

/-- The lead of a call that still has its mark. -/
def Stage.lead? : Stage → Option Lead
  | .locating led | .exploring led _ | .consulting led _ _ | .storing led _ _
  | .releasing led _ => some led
  | _ => none

/-- Gives a call up. A leading call takes its mark away and then closes its channel, so that those
who joined it start over. -/
def cancelCall (id : CallId) (call : Call) (state : State) : State × Effects :=
  match call.stage.lead?, call.stage with
  | some led, _ => ((state.unmark call.dst led.generation).dismiss id).announce id .closed
  | none, .publishing _ _ => (state.dismiss id).announce id .closed
  | none, _ => (state.dismiss id, [])

/-- What can happen to the machine. -/
inductive Event where
  | start (call : CallId) (destination : String)
  | proceed (task : Task)
  | answer (call : CallId) (reply : Reply)
  | cancel (call : CallId)
  | purge
deriving Repr

/-- Begins a call. A destination that names no node is refused at once. -/
def start (id : CallId) (destination : String) (state : State) : State × Effects :=
  match Node.parseTrimmed destination with
  | .error fault => (state, [.finish id (.error (.invalidDestination fault.message))])
  | .ok dst =>
    ({ state with calls := state.calls.put id ⟨dst, .lookingUp⟩ }, [.resume (.call id)])

/-- One step of the machine. -/
def step (now : Timestamp) (event : Event) (state : State) : State × Effects :=
  match event with
  | .start id destination => start id destination state
  | .proceed task => (proceed now task state).getD (state, [])
  | .answer id reply =>
    match state.calls.get? id with
    | some call => answerCall now id call reply state
    | none => (state, [])
  | .cancel id =>
    match state.calls.get? id with
    | some call => cancelCall id call state
    | none => (state, [])
  | .purge => ({ state with cache := state.cache.purge }, [])

end Wayfinder.Resolver
