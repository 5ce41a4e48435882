/-
**The atlas: what it keeps.**

For two nodes the atlas asks the topology oracle for candidates, surveys each of them by a task of
its own and joins what they find, in the order of the candidates. Bundles are kept by pair of nodes
without expiry.

* `Collection`: what has been asked for a pair and how far the surveys are;
* `Call`: calls that fetch a bundle, make a pass, or close the atlas;
* `State`: the cache, the marks of leading calls, everything that is under way;
* `State.open`: the loop is started unless there is one.
-/

import Wayfinder.Collaborator
import Wayfinder.Heartbeat
import Wayfinder.Lru
import Wayfinder.Survey
import Wayfinder.Tally

namespace Wayfinder.Atlas

/-- A source and a destination. -/
abbrev Pair := Node × Node

/-- The number of a collection. -/
abbrev CollectionId := Nat

/-- The number of a loop. -/
abbrev LoopId := Nat

/-- The name of the job of the loops. -/
def jobName : String := "metadata-refresh"

/-- A bundle, and the collection that it comes from. -/
structure Bundle where
  metadata : Metadata
  collection : CollectionId
deriving Repr

/-- How a fetching call ends. -/
abbrev Result := Except MetadataFault Bundle

/-- How any call ends. Only fetching calls have a bundle. -/
abbrev Outcome := Except MetadataFault (Option Bundle)

/-- What those who joined a leading call hear. -/
inductive Channel where
  | open
  | published (result : Result)
  | closed
deriving Repr

/-- Who collects. -/
inductive Owner where
  | call (call : CallId)
  | loop (loop : LoopId)
deriving DecidableEq, Repr

/-- The survey of one candidate. -/
inductive Fragment where
  | walking (survey : Survey)
  /-- Waits for the countries of a place. -/
  | asking (survey : Survey)
  | complete (found : Metadata)
  /-- The task has broken down. -/
  | lost
deriving Repr

/-- How far a collection is. -/
inductive Progress where
  /-- Waits for the candidates. -/
  | exploring
  | refused (fault : CallFault)
  | surveying (fragments : List Fragment)
deriving Repr

/-- A collection for a pair. -/
structure Collection where
  pair : Pair
  owner : Owner
  progress : Progress := .exploring
deriving Repr

/-- A pass over the pairs of the cache, one after another. -/
structure Pass where
  remaining : List Pair
  current : Option (Pair × CollectionId) := none
deriving Repr

/-- Where a fetching call stands. -/
inductive Stage where
  | lookingUp
  | joining
  | following (leader : CallId)
  | collecting (began : Timestamp) (collection : CollectionId)
  | storing (bundle : Bundle)
  | releasing (result : Result)
  | publishing (result : Result)
deriving Repr

/-- Where a closing call stands. -/
inductive Closing where
  | detaching
  /-- Waits for a loop to end. -/
  | stopping (loop : LoopId)
  /-- Waits for the oracle. -/
  | releasing
deriving DecidableEq, Repr

/-- A call that is under way. -/
inductive Call where
  | fetch (pair : Pair) (stage : Stage)
  | refresh (pass : Pass)
  | close (stage : Closing)
deriving Repr

/-- A loop, with the pass that it is making. -/
structure Loop where
  beat : Heartbeat
  pass : Option Pass := none
deriving Repr

/-- The state of the atlas. -/
structure State where
  /-- Whether countries are asked for. -/
  geolocating : Bool
  /-- How long a collaborator may take. -/
  timeout : Duration
  /-- The time between two passes of the loop. -/
  interval : Duration
  cache : Lru Pair Bundle
  tally : Tally := {}
  /-- The leading call of each pair. -/
  markers : Table Pair CallId := {}
  channels : Table CallId Channel := {}
  calls : Table CallId Call := {}
  collections : Table CollectionId Collection := {}
  nextCollection : CollectionId := 0
  loops : Table LoopId Loop := {}
  nextLoop : LoopId := 0
  /-- The loop whose handle the atlas holds. -/
  worker : Option LoopId := none
deriving Repr

/-- What can be given a turn. -/
inductive Task where
  | call (call : CallId)
  | loop (loop : LoopId)
  /-- The survey of the candidate at a position. -/
  | survey (collection : CollectionId) (position : Nat)
deriving DecidableEq, Repr

/-- What a step asks of the outside. -/
abbrev Effects := List (Effect Task Query Outcome)

/-- The task of whoever collects. -/
def Owner.task : Owner → Task
  | .call id => .call id
  | .loop id => .loop id

/-- Whether a survey is at an end. -/
def Fragment.isOver : Fragment → Bool
  | .walking _ | .asking _ => false
  | .complete _ | .lost => true

/-- What a survey has found, if it came to its end. -/
def Fragment.found? : Fragment → Option Metadata
  | .complete found => some found
  | _ => none

/-- What has become of a collection: a refusal, or everything that the surveys have found, once all
of them are at an end. -/
def Collection.outcome? (collection : Collection) : Option (Except CallFault Metadata) :=
  match collection.progress with
  | .exploring => none
  | .refused fault => some (.error fault)
  | .surveying fragments =>
    if fragments.all Fragment.isOver
    then some (.ok (Metadata.concat (fragments.filterMap Fragment.found?)))
    else none

namespace State

/-- An atlas without bundles. -/
def initial (capacity : Nat) (geolocating : Bool) (timeout interval : Duration) : State :=
  { geolocating, timeout, interval, cache := { capacity } }

/-- Moves a fetching call to a stage. -/
def moveTo (state : State) (id : CallId) (pair : Pair) (stage : Stage) : State :=
  { state with calls := state.calls.put id (.fetch pair stage) }

/-- Takes a call out. -/
def dismiss (state : State) (id : CallId) : State := { state with calls := state.calls.erase id }

/-- The calls that have joined a leading call, in the order of their start. -/
def followers (state : State) (leader : CallId) : List CallId :=
  state.calls.entries.filterMap fun (id, call) =>
    match call with
    | .fetch _ (.following other) => if other = leader then some id else none
    | _ => none

/-- The calls that wait for a loop to end. -/
def closers (state : State) (loop : LoopId) : List CallId :=
  state.calls.entries.filterMap fun (id, call) =>
    match call with
    | .close (.stopping other) => if other = loop then some id else none
    | _ => none

/-- Tells those who joined a call, now or later. -/
def announce (state : State) (leader : CallId) (channel : Channel) : State × Effects :=
  ({ state with channels := state.channels.put leader channel },
    (state.followers leader).map fun id => .rouse (.call id))

/-- Begins a collection. -/
def collect (state : State) (owner : Owner) (pair : Pair) : CollectionId × State × Effects :=
  let id := state.nextCollection
  (id,
    { state with
      collections := state.collections.put id { pair, owner }
      nextCollection := id + 1 },
    [.ask owner.task (.candidates pair.2 pair.1 false) (some state.timeout)])

/-- What has become of a collection. -/
def outcome? (state : State) (collection : CollectionId) : Option (Except CallFault Metadata) :=
  (state.collections.get? collection).bind Collection.outcome?

/-- Forgets a collection. Its surveys come to nothing. -/
def forget (state : State) (collection : CollectionId) : State :=
  { state with collections := state.collections.erase collection }

/-- Stores a bundle. -/
def store (state : State) (pair : Pair) (bundle : Bundle) : State :=
  let ((_, evicted), cache) := state.cache.insert pair bundle none
  { state with cache, tally := state.tally.recordEvictions evicted.length }

/-- Puts a bundle in the place of an older one. A pair that has left the cache stays out. -/
def replace (state : State) (pair : Pair) (bundle : Bundle) : State :=
  { state with cache := (state.cache.update pair bundle).2 }

/-- Counts a refresh. -/
def countRefresh (state : State) (succeeded : Bool) : State :=
  { state with tally := state.tally.recordRefresh succeeded }

/-- Starts the loop, unless there is one. -/
def «open» (now : Timestamp) (state : State) : State × Effects :=
  match state.worker with
  | some _ => (state, [])
  | none =>
    let loop := state.nextLoop
    let beat := Heartbeat.start state.interval now
    ({ state with
        loops := state.loops.put loop { beat }
        nextLoop := loop + 1
        worker := some loop },
      [.spawn (.loop loop) beat.due])

/-- Whether the loop is running. -/
def isRefreshing (state : State) : Bool :=
  match state.worker.bind state.loops.get? with
  | some loop => loop.beat.isRunning
  | none => false

end State

end Wayfinder.Atlas
