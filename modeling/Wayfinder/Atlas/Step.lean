/-
**The atlas: how it goes on.**

A call that finds no bundle joins the call that is already collecting for the pair, or leads. A
pass collects anew for every pair that is in the cache at its beginning; a loop makes a pass
periodically. Closing stops the loop and then the oracle.

* `proceed`: the next step of a call, a loop or a survey that waits for nothing outside;
* `answer`: a task hears an answer;
* `cancel`: a call is given up;
* `step`: one step of the machine.
-/

import Wayfinder.Atlas.State

namespace Wayfinder.Atlas

/-! ### Passes -/

/-- The next step of a pass, `none` while its collection is under way. Answers with what is left of
the pass, `none` at its end. -/
def proceedPass (owner : Owner) (pass : Pass) (state : State) :
    Option (Option Pass × State × Effects) :=
  match pass.current with
  | some (pair, collection) =>
    (state.outcome? collection).map fun outcome =>
      let left := some { pass with current := none }
      match outcome with
      | .ok metadata =>
        (left,
          ((state.forget collection).replace pair ⟨metadata, collection⟩).countRefresh true, [])
      | .error _ => (left, (state.forget collection).countRefresh false, [])
  | none =>
    match pass.remaining with
    | pair :: remaining =>
      let (collection, begun, effects) := state.collect owner pair
      some (some ⟨remaining, some (pair, collection)⟩, begun, effects)
    | [] => some (none, state, [])

/-! ### Calls -/

/-- The step of a fetching call that waits for nothing outside. -/
def proceedFetch (now : Timestamp) (id : CallId) (pair : Pair) (stage : Stage) (state : State) :
    Option (State × Effects) :=
  match stage with
  | .lookingUp =>
    let (found, cache) := state.cache.get pair now
    let counted := { state with cache, tally := state.tally.recordLookup found.isSome }
    match found with
    | some bundle => some (counted.dismiss id, [.finish id (.ok (some bundle))])
    | none => some (counted.moveTo id pair .joining, [])
  | .joining =>
    match state.markers.get? pair with
    | some leader => some (state.moveTo id pair (.following leader), [])
    | none =>
      let marked := { state with
        markers := state.markers.put pair id
        channels := state.channels.put id .open }
      let (collection, begun, effects) := marked.collect (.call id) pair
      some (begun.moveTo id pair (.collecting now collection), effects)
  | .following leader =>
    match state.channels.get? leader with
    | some .open => none
    | some (.published result) => some (state.dismiss id, [.finish id (result.map some)])
    | _ => some (state.moveTo id pair .lookingUp, [])
  | .collecting began collection =>
    (state.outcome? collection).map fun outcome =>
      let counted := { state.forget collection with
        tally := state.tally.recordRoundTrip (Duration.micros (now - began).toNat) }
      match outcome with
      | .ok metadata => (counted.moveTo id pair (.storing ⟨metadata, collection⟩), [])
      | .error fault => (counted.moveTo id pair (.releasing (.error (.oracle fault))), [])
  | .storing bundle =>
    some ((state.store pair bundle).moveTo id pair (.releasing (.ok bundle)), [])
  | .releasing result =>
    let unmarked := { state with markers := state.markers.erase pair }
    some (unmarked.moveTo id pair (.publishing result), [])
  | .publishing result =>
    let (told, effects) := state.announce id (.published result)
    some (told.dismiss id, effects ++ [.finish id (result.map some)])

/-- Asks the oracle to close. -/
def closeOracle (id : CallId) (state : State) : State × Effects :=
  ({ state with calls := state.calls.put id (.close .releasing) },
    [.ask (.call id) .closeOracle none])

/-- Takes the handle of the loop, if the atlas holds one, and tells the loop to stop. The oracle is
closed once the loop has ended; without a loop it is closed right away. -/
def detach (id : CallId) (state : State) : State × Effects :=
  match state.worker with
  | none => closeOracle id state
  | some loop =>
    let detached := { state with worker := none }
    match state.loops.get? loop with
    | some running =>
      let told := running.beat.take.getD running.beat.signal
      ({ detached with
          loops := detached.loops.put loop { running with beat := told }
          calls := detached.calls.put id (.close (.stopping loop)) },
        [.rouse (.call id), .rouse (.loop loop)])
    | none => closeOracle id detached

/-- The step of a closing call that waits for nothing outside. -/
def proceedClose (id : CallId) (stage : Closing) (state : State) : Option (State × Effects) :=
  match stage with
  | .detaching => some (detach id state)
  | .stopping loop =>
    ((state.loops.get? loop).bind fun stopped => stopped.beat.exit? jobName).map fun
      | .ok _ => closeOracle id state
      | .error fault => (state.dismiss id, [.finish id (.error (.job fault))])
  | .releasing => none

/-- The step of a call that waits for nothing outside. -/
def proceedCall (now : Timestamp) (id : CallId) (call : Call) (state : State) :
    Option (State × Effects) :=
  match call with
  | .fetch pair stage => proceedFetch now id pair stage state
  | .refresh pass =>
    (proceedPass (.call id) pass state).map fun (left, after, effects) =>
      match left with
      | some pass => ({ after with calls := after.calls.put id (.refresh pass) }, effects)
      | none => (after.dismiss id, effects ++ [.finish id (.ok none)])
  | .close stage => proceedClose id stage state

/-! ### Loops and surveys -/

/-- The step of a loop that waits for nothing outside. A pass covers the pairs that are in the cache
when it begins. -/
def proceedLoop (now : Timestamp) (id : LoopId) (loop : Loop) (state : State) :
    Option (State × Effects) :=
  match loop.pass with
  | some pass =>
    (proceedPass (.loop id) pass state).map fun (left, after, effects) =>
      match left with
      | some pass =>
        ({ after with loops := after.loops.put id { loop with pass := some pass } }, effects)
      | none =>
        ({ after with loops := after.loops.put id { beat := loop.beat.finishRun } },
          effects ++ [.wait (.loop id) loop.beat.due])
  | none =>
    (loop.beat.turn now).map fun
      | (.begin, beat) =>
        let pass : Pass := { remaining := state.cache.keys }
        ({ state with loops := state.loops.put id { beat, pass := some pass } }, [])
      | (.stop, beat) =>
        ({ state with loops := state.loops.put id { beat } },
          (state.closers id).map fun call => .rouse (.call call))

/-- Puts another fragment at a position. The end of a survey gives whoever collects a turn; only
after the last one is there something to do in it. -/
def settle (id : CollectionId) (collection : Collection) (fragments : List Fragment)
    (position : Nat) (fragment : Fragment) (state : State) : State × Effects :=
  let changed := { collection with progress := .surveying (fragments.set position fragment) }
  ({ state with collections := state.collections.put id changed },
    if fragment.isOver then [.rouse collection.owner.task] else [])

/-- The survey at a position of a collection. -/
def State.fragment? (state : State) (id : CollectionId) (position : Nat) :
    Option (Collection × List Fragment × Fragment) :=
  (state.collections.get? id).bind fun collection =>
    match collection.progress with
    | .surveying fragments =>
      fragments[position]?.map fun fragment => (collection, fragments, fragment)
    | _ => none

/-- The step of a survey that waits for nothing outside: it walks on to its end or to the next place
whose countries are wanted. -/
def proceedSurvey (id : CollectionId) (position : Nat) (state : State) :
    Option (State × Effects) :=
  match state.fragment? id position with
  | some (collection, fragments, .walking survey) =>
    let reached := survey.advance state.geolocating
    match reached.wanted? state.geolocating with
    | some place =>
      let (asked, effects) := settle id collection fragments position (.asking reached) state
      some (asked,
        effects ++ [.ask (.survey id position) (.countries place) (some state.timeout)])
    | none => some (settle id collection fragments position (.complete reached.found) state)
  | _ => none

/-- The step of a task that waits for nothing outside, `none` if there is none to take. -/
def proceed (now : Timestamp) (task : Task) (state : State) : Option (State × Effects) :=
  match task with
  | .call id => (state.calls.get? id).bind fun call => proceedCall now id call state
  | .loop id => (state.loops.get? id).bind fun loop => proceedLoop now id loop state
  | .survey id position => proceedSurvey id position state

/-! ### Answers -/

/-- The collection that a task waits for. -/
def State.awaited? (state : State) : Task → Option CollectionId
  | .call id =>
    match state.calls.get? id with
    | some (.fetch _ (.collecting _ collection)) => some collection
    | some (.refresh pass) => pass.current.map (·.2)
    | _ => none
  | .loop id =>
    (state.loops.get? id).bind fun loop => loop.pass.bind fun pass => pass.current.map (·.2)
  | .survey _ _ => none

/-- The candidates of a collection have come: each is surveyed by a task of its own. -/
def deliver (id : CollectionId) (answer : Except CallFault (List Candidate)) (state : State) :
    State × Effects :=
  match state.collections.get? id with
  | some collection =>
    match collection.progress, answer with
    | .exploring, .error fault =>
      ({ state with
          collections := state.collections.put id { collection with progress := .refused fault } },
        [])
    | .exploring, .ok candidates =>
      let fragments := candidates.map fun candidate =>
        Fragment.walking (Survey.ofCandidate candidate)
      ({ state with
          collections :=
            state.collections.put id { collection with progress := .surveying fragments } },
        (List.range candidates.length).map fun position => .rouse (.survey id position))
    | _, _ => (state, [])
  | none => (state, [])

/-- A survey hears of the countries of a place, or breaks down. Countries that cannot be found out
count as none. -/
def hear (id : CollectionId) (position : Nat) (reply : Reply) (state : State) : State × Effects :=
  match state.fragment? id position, reply with
  | some (collection, fragments, .asking survey), .countries answer =>
    let countries := answer.toOption.getD []
    settle id collection fragments position (.walking (survey.pass countries)) state
  | some (collection, fragments, .asking _), .crashed =>
    settle id collection fragments position .lost state
  | _, _ => (state, [])

/-- A task hears an answer. Answers that nobody waits for are dropped. -/
def answer (task : Task) (reply : Reply) (state : State) : State × Effects :=
  match task, reply with
  | .survey id position, _ => hear id position reply state
  | .call id, .done result =>
    match state.calls.get? id with
    | some (.close .releasing) =>
      (state.dismiss id,
        [.finish id (match result with
          | .ok _ => .ok none
          | .error fault => .error (.oracle fault))])
    | _ => (state, [])
  | _, .candidates candidates =>
    match state.awaited? task with
    | some collection => deliver collection candidates state
    | none => (state, [])
  | _, _ => (state, [])

/-! ### Beginning and end of calls -/

/-- Begins a fetching call. A text that names no node is refused at once. -/
def fetch (id : CallId) (query : MetadataQuery) (state : State) : State × Effects :=
  match query.endpoints with
  | .error fault => (state, [.finish id (.error fault)])
  | .ok pair => (state.moveTo id pair .lookingUp, [.resume (.call id)])

/-- Begins a call that makes a pass. -/
def refresh (id : CallId) (state : State) : State × Effects :=
  let pass : Pass := { remaining := state.cache.keys }
  ({ state with calls := state.calls.put id (.refresh pass) }, [.resume (.call id)])

/-- Begins a closing call. -/
def close (id : CallId) (state : State) : State × Effects :=
  ({ state with calls := state.calls.put id (.close .detaching) }, [.resume (.call id)])

/-- Gives a fetching call up. A leading call takes its mark away and then closes its channel, so
that those who joined it start over. -/
def cancelFetch (id : CallId) (pair : Pair) (stage : Stage) (state : State) : State × Effects :=
  let unmarked := { state with markers := state.markers.erase pair }
  match stage with
  | .collecting _ collection =>
    ((unmarked.forget collection).dismiss id).announce id .closed
  | .storing _ | .releasing _ => (unmarked.dismiss id).announce id .closed
  | .publishing _ => (state.dismiss id).announce id .closed
  | .lookingUp | .joining | .following _ => (state.dismiss id, [])

/-- Gives a call up. A loop that has been told to stop goes on stopping. -/
def cancel (id : CallId) (state : State) : State × Effects :=
  match state.calls.get? id with
  | some (.fetch pair stage) => cancelFetch id pair stage state
  | some (.refresh pass) =>
    let forgotten := match pass.current with
      | some (_, collection) => state.forget collection
      | none => state
    (forgotten.dismiss id, [])
  | some (.close _) => (state.dismiss id, [])
  | none => (state, [])

/-- What can happen to the machine. -/
inductive Event where
  | open
  | fetch (call : CallId) (query : MetadataQuery)
  | refresh (call : CallId)
  | close (call : CallId)
  | proceed (task : Task)
  | answer (task : Task) (reply : Reply)
  | cancel (call : CallId)
deriving Repr

/-- One step of the machine. -/
def step (now : Timestamp) (event : Event) (state : State) : State × Effects :=
  match event with
  | .open => state.open now
  | .fetch id query => fetch id query state
  | .refresh id => refresh id state
  | .close id => close id state
  | .proceed task => (proceed now task state).getD (state, [])
  | .answer task reply => answer task reply state
  | .cancel id => cancel id state

end Wayfinder.Atlas
