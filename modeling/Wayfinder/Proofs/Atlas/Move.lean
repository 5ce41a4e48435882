/-
**The moves of the atlas.**

Whatever happens, a step of the atlas is one of the moves below: it says which call, pass, loop or
survey goes on, what was found in the state, and which parts of the state change. Passes belong to a
refreshing call or to a loop; their moves are the same for both.

* `Move`: the ways in which a step can change a state, and its effects;
* `Turn`: the ways in which a survey goes on;
* `move_step`: every step is a move.
-/

import Wayfinder.Atlas.Step
import Wayfinder.Proofs.History

namespace Wayfinder.Atlas

/-! ### Passes and surveys -/

/-- The pass of whoever makes one. -/
def State.pass? (state : State) : Owner → Option Pass
  | .call id =>
    match state.calls.get? id with
    | some (.refresh pass) => some pass
    | _ => none
  | .loop id => (state.loops.get? id).bind (·.pass)

/-- Goes on with a pass. -/
def State.setPass (state : State) (owner : Owner) (pass : Pass) : State :=
  { state with
    calls :=
      match owner with
      | .call id => state.calls.put id (.refresh pass)
      | .loop _ => state.calls
    loops :=
      match owner with
      | .call _ => state.loops
      | .loop id =>
        match state.loops.get? id with
        | some loop => state.loops.put id { loop with pass := some pass }
        | none => state.loops }

/-- Forgets a collection, if there is one. -/
def State.forgetting (state : State) (collection : Option CollectionId) : State :=
  { state with
    collections :=
      match collection with
      | some id => state.collections.erase id
      | none => state.collections }

/-- The collection that a leading call waits for. -/
def Stage.collection? : Stage → Option CollectionId
  | .collecting _ collection => some collection
  | _ => none

/-- Whether a call has its mark. -/
def Stage.isLeading : Stage → Bool
  | .collecting _ _ | .storing _ | .releasing _ => true
  | _ => false

/-- Whether a call has neither a mark nor anyone to tell. -/
def Stage.isSilent : Stage → Bool
  | .lookingUp | .joining | .following _ => true
  | _ => false

/-- The ways in which a survey goes on, with the questions that it asks. -/
inductive Turn (state : State) (id : CollectionId) (position : Nat) :
    Event → Fragment → Fragment → Effects → Prop
  | ask {survey : Survey} {place : Coordinates}
      (wanted : (survey.advance state.geolocating).wanted? state.geolocating = some place) :
      Turn state id position (.proceed (.survey id position)) (.walking survey)
        (.asking (survey.advance state.geolocating))
        [.ask (.survey id position) (.countries place) (some state.timeout)]
  | finish {survey : Survey}
      (satisfied : (survey.advance state.geolocating).wanted? state.geolocating = none) :
      Turn state id position (.proceed (.survey id position)) (.walking survey)
        (.complete (survey.advance state.geolocating).found) []
  | learn {survey : Survey} (answer : Except CallFault (List String)) :
      Turn state id position (.answer (.survey id position) (.countries answer)) (.asking survey)
        (.walking (survey.pass (answer.toOption.getD []))) []
  | breakDown {survey : Survey} :
      Turn state id position (.answer (.survey id position) .crashed) (.asking survey) .lost []

/-! ### The moves -/

/-- The ways in which a step can change a state. -/
inductive Move (now : Timestamp) (state : State) : Event → State → Effects → Prop
  | start (free : state.worker = none) :
      Move now state .open
        { state with
          loops := state.loops.put state.nextLoop { beat := .start state.interval now }
          nextLoop := state.nextLoop + 1
          worker := some state.nextLoop }
        [.spawn (.loop state.nextLoop) (Heartbeat.start state.interval now).due]
  /-- A text that names no node is refused. -/
  | refuse {id : CallId} {query : MetadataQuery} {fault : MetadataFault}
      (refused : query.endpoints = .error fault) :
      Move now state (.fetch id query) state [.finish id (.error fault)]
  | request {id : CallId} {query : MetadataQuery} {pair : Pair}
      (endpoints : query.endpoints = .ok pair) :
      Move now state (.fetch id query) (state.moveTo id pair .lookingUp) [.resume (.call id)]
  | refresh {id : CallId} :
      Move now state (.refresh id)
        { state with calls := state.calls.put id (.refresh { remaining := state.cache.keys }) }
        [.resume (.call id)]
  | close {id : CallId} :
      Move now state (.close id)
        { state with calls := state.calls.put id (.close .detaching) } [.resume (.call id)]
  | hit {id : CallId} {pair : Pair} {bundle : Bundle} {tally : Tally}
      (here : state.calls.get? id = some (.fetch pair .lookingUp))
      (found : (state.cache.get pair now).1 = some bundle)
      (counted : tally = state.tally.recordLookup true) :
      Move now state (.proceed (.call id))
        ({ state with cache := (state.cache.get pair now).2, tally }.dismiss id)
        [.finish id (.ok (some bundle))]
  | miss {id : CallId} {pair : Pair} {tally : Tally}
      (here : state.calls.get? id = some (.fetch pair .lookingUp))
      (found : (state.cache.get pair now).1 = none)
      (counted : tally = state.tally.recordLookup false) :
      Move now state (.proceed (.call id))
        ({ state with cache := (state.cache.get pair now).2, tally }.moveTo id pair .joining) []
  | follow {id leader : CallId} {pair : Pair}
      (here : state.calls.get? id = some (.fetch pair .joining))
      (marked : state.markers.get? pair = some leader) :
      Move now state (.proceed (.call id)) (state.moveTo id pair (.following leader)) []
  | lead {id : CallId} {pair : Pair}
      (here : state.calls.get? id = some (.fetch pair .joining))
      (unmarked : state.markers.get? pair = none) :
      Move now state (.proceed (.call id))
        (({ state with
            markers := state.markers.put pair id
            channels := state.channels.put id .open }.collect (.call id) pair).2.1.moveTo id pair
          (.collecting now state.nextCollection))
        [.ask (.call id) (.candidates pair.2 pair.1 false) (some state.timeout)]
  | hear {id leader : CallId} {pair : Pair} {result : Result}
      (here : state.calls.get? id = some (.fetch pair (.following leader)))
      (told : state.channels.get? leader = some (.published result)) :
      Move now state (.proceed (.call id)) (state.dismiss id) [.finish id (result.map some)]
  /-- The call that was followed has been given up. -/
  | retry {id leader : CallId} {pair : Pair}
      (here : state.calls.get? id = some (.fetch pair (.following leader)))
      (lost : state.channels.get? leader = some .closed ∨ state.channels.get? leader = none) :
      Move now state (.proceed (.call id)) (state.moveTo id pair .lookingUp) []
  | gather {id : CallId} {pair : Pair} {began : Timestamp} {collection : CollectionId}
      {metadata : Metadata} {tally : Tally}
      (here : state.calls.get? id = some (.fetch pair (.collecting began collection)))
      (found : state.outcome? collection = some (.ok metadata))
      (counted : tally =
        state.tally.recordRoundTrip (Duration.micros (now - began).toNat)) :
      Move now state (.proceed (.call id))
        ({ state.forget collection with tally }.moveTo id pair (.storing ⟨metadata, collection⟩)) []
  /-- The oracle has failed a leading call. -/
  | fail {id : CallId} {pair : Pair} {began : Timestamp} {collection : CollectionId}
      {fault : CallFault} {tally : Tally}
      (here : state.calls.get? id = some (.fetch pair (.collecting began collection)))
      (found : state.outcome? collection = some (.error fault))
      (counted : tally =
        state.tally.recordRoundTrip (Duration.micros (now - began).toNat)) :
      Move now state (.proceed (.call id))
        ({ state.forget collection with tally }.moveTo id pair
          (.releasing (.error (.oracle fault)))) []
  | store {id : CallId} {pair : Pair} {bundle : Bundle}
      (here : state.calls.get? id = some (.fetch pair (.storing bundle))) :
      Move now state (.proceed (.call id))
        ((state.store pair bundle).moveTo id pair (.releasing (.ok bundle))) []
  | release {id : CallId} {pair : Pair} {result : Result}
      (here : state.calls.get? id = some (.fetch pair (.releasing result))) :
      Move now state (.proceed (.call id))
        ({ state with markers := state.markers.erase pair }.moveTo id pair (.publishing result)) []
  | publish {id : CallId} {pair : Pair} {result : Result}
      (here : state.calls.get? id = some (.fetch pair (.publishing result))) :
      Move now state (.proceed (.call id))
        ((state.announce id (.published result)).1.dismiss id)
        ((state.announce id (.published result)).2 ++ [.finish id (result.map some)])
  /-- A pass collects for its next pair. -/
  | revisit {owner : Owner} {pair : Pair} {remaining : List Pair}
      (here : state.pass? owner = some ⟨pair :: remaining, none⟩) :
      Move now state (.proceed owner.task)
        ((state.collect owner pair).2.1.setPass owner
          ⟨remaining, some (pair, state.nextCollection)⟩)
        [.ask owner.task (.candidates pair.2 pair.1 false) (some state.timeout)]
  | renew {owner : Owner} {pair : Pair} {collection : CollectionId} {remaining : List Pair}
      {metadata : Metadata}
      (here : state.pass? owner = some ⟨remaining, some (pair, collection)⟩)
      (found : state.outcome? collection = some (.ok metadata)) :
      Move now state (.proceed owner.task)
        ((((state.forget collection).replace pair ⟨metadata, collection⟩).countRefresh
          true).setPass owner ⟨remaining, none⟩) []
  /-- The oracle has failed a pass, which leaves the pair as it is. -/
  | skip {owner : Owner} {pair : Pair} {collection : CollectionId} {remaining : List Pair}
      {fault : CallFault}
      (here : state.pass? owner = some ⟨remaining, some (pair, collection)⟩)
      (found : state.outcome? collection = some (.error fault)) :
      Move now state (.proceed owner.task)
        (((state.forget collection).countRefresh false).setPass owner ⟨remaining, none⟩) []
  | complete {id : CallId} (here : state.calls.get? id = some (.refresh ⟨[], none⟩)) :
      Move now state (.proceed (.call id)) (state.dismiss id) [.finish id (.ok none)]
  /-- The pass of a loop has come to its end. -/
  | rest {id : LoopId} {loop : Loop} (here : state.loops.get? id = some loop)
      (passed : loop.pass = some ⟨[], none⟩) :
      Move now state (.proceed (.loop id))
        { state with loops := state.loops.put id { beat := loop.beat.finishRun } }
        [.wait (.loop id) loop.beat.due]
  /-- A loop begins a pass. -/
  | depart {id : LoopId} {loop : Loop} {beat : Heartbeat} (here : state.loops.get? id = some loop)
      (idle : loop.pass = none) (due : loop.beat.turn now = some (.begin, beat)) :
      Move now state (.proceed (.loop id))
        { state with
          loops := state.loops.put id { beat, pass := some { remaining := state.cache.keys } } } []
  | stop {id : LoopId} {loop : Loop} {beat : Heartbeat} (here : state.loops.get? id = some loop)
      (idle : loop.pass = none) (told : loop.beat.turn now = some (.stop, beat)) :
      Move now state (.proceed (.loop id))
        { state with loops := state.loops.put id { beat } }
        ((state.closers id).map fun call => .rouse (.call call))
  /-- A closing call takes the handle of the loop. -/
  | detach {id : CallId} {loop : LoopId} {running : Loop}
      (here : state.calls.get? id = some (.close .detaching)) (held : state.worker = some loop)
      (found : state.loops.get? loop = some running) :
      Move now state (.proceed (.call id))
        { state with
          worker := none
          loops := state.loops.put loop
            { running with beat := running.beat.take.getD running.beat.signal }
          calls := state.calls.put id (.close (.stopping loop)) }
        [.rouse (.call id), .rouse (.loop loop)]
  /-- A closing call finds no handle. -/
  | closeAtOnce {id : CallId} (here : state.calls.get? id = some (.close .detaching))
      (bare : state.worker.bind state.loops.get? = none) :
      Move now state (.proceed (.call id)) (closeOracle id { state with worker := none }).1
        [.ask (.call id) .closeOracle none]
  /-- The loop whose handle a closing call has taken has ended. -/
  | closeAfter {id : CallId} {loop : LoopId} {stopped : Loop}
      (here : state.calls.get? id = some (.close (.stopping loop)))
      (found : state.loops.get? loop = some stopped) (ended : stopped.beat.phase = .ended) :
      Move now state (.proceed (.call id)) (closeOracle id state).1
        [.ask (.call id) .closeOracle none]
  | giveUp {id : CallId} {loop : LoopId} {stopped : Loop}
      (here : state.calls.get? id = some (.close (.stopping loop)))
      (found : state.loops.get? loop = some stopped) (crashed : stopped.beat.phase = .crashed) :
      Move now state (.proceed (.call id)) (state.dismiss id)
        [.finish id (.error (.job (.crashed jobName)))]
  | survey {id : CollectionId} {position : Nat} {collection : Collection}
      {fragments : List Fragment} {old new : Fragment} {event : Event} {questions : Effects}
      (here : state.collections.get? id = some collection)
      (surveying : collection.progress = .surveying fragments)
      (found : fragments[position]? = some old)
      (turn : Turn state id position event old new questions) :
      Move now state event (settle id collection fragments position new state).1
        ((settle id collection fragments position new state).2 ++ questions)
  | receive {task : Task} {id : CollectionId} {collection : Collection}
      {candidates : List Candidate} (awaited : state.awaited? task = some id)
      (here : state.collections.get? id = some collection)
      (exploring : collection.progress = .exploring) :
      Move now state (.answer task (.candidates (.ok candidates)))
        { state with
          collections := state.collections.put id
            { collection with
              progress := .surveying (candidates.map fun candidate =>
                .walking (.ofCandidate candidate)) } }
        ((List.range candidates.length).map fun position => .rouse (.survey id position))
  | refused {task : Task} {id : CollectionId} {collection : Collection} {fault : CallFault}
      (awaited : state.awaited? task = some id) (here : state.collections.get? id = some collection)
      (exploring : collection.progress = .exploring) :
      Move now state (.answer task (.candidates (.error fault)))
        { state with
          collections :=
            state.collections.put id { collection with progress := .refused fault } } []
  | closed {id : CallId} {result : Except CallFault Unit}
      (here : state.calls.get? id = some (.close .releasing)) :
      Move now state (.answer (.call id) (.done result)) (state.dismiss id)
        [.finish id (match result with
          | .ok _ => .ok none
          | .error fault => .error (.oracle fault))]
  /-- A leading call is given up. -/
  | abandon {id : CallId} {pair : Pair} {stage : Stage}
      (here : state.calls.get? id = some (.fetch pair stage)) (leading : stage.isLeading = true) :
      Move now state (.cancel id)
        ((({ state with markers := state.markers.erase pair }.forgetting stage.collection?).dismiss
          id).announce id .closed).1
        ((({ state with markers := state.markers.erase pair }.forgetting stage.collection?).dismiss
          id).announce id .closed).2
  /-- A call is given up before it has told its result. -/
  | withhold {id : CallId} {pair : Pair} {result : Result}
      (here : state.calls.get? id = some (.fetch pair (.publishing result))) :
      Move now state (.cancel id) ((state.dismiss id).announce id .closed).1
        ((state.dismiss id).announce id .closed).2
  /-- A call that does not lead is given up. -/
  | leave {id : CallId} {pair : Pair} {stage : Stage}
      (here : state.calls.get? id = some (.fetch pair stage)) (silent : stage.isSilent = true) :
      Move now state (.cancel id) (state.dismiss id) []
  /-- A refreshing call is given up. -/
  | abort {id : CallId} {pass : Pass} (here : state.calls.get? id = some (.refresh pass)) :
      Move now state (.cancel id) ((state.forgetting (pass.current.map (·.2))).dismiss id) []
  /-- A closing call is given up. -/
  | resign {id : CallId} {stage : Closing} (here : state.calls.get? id = some (.close stage)) :
      Move now state (.cancel id) (state.dismiss id) []
  /-- Nothing changes. -/
  | idle {event : Event} : Move now state event state []

/-! ### Every step is a move -/

section Steps

variable {now : Timestamp} {state : State}

theorem move_proceedFetch {id : CallId} {pair : Pair} {stage : Stage}
    (here : state.calls.get? id = some (.fetch pair stage)) {result : State × Effects}
    (stepped : proceedFetch now id pair stage state = some result) :
    Move now state (.proceed (.call id)) result.1 result.2 := by
  cases stage with
  | lookingUp =>
    simp only [proceedFetch] at stepped
    split at stepped
    · next bundle found =>
      cases stepped
      exact .hit here found (by rw [found]; rfl)
    · next found =>
      cases stepped
      exact .miss here found (by rw [found]; rfl)
  | joining =>
    simp only [proceedFetch] at stepped
    split at stepped
    · next leader marked =>
      cases stepped
      exact .follow here marked
    · next unmarked =>
      cases stepped
      exact .lead here unmarked
  | following leader =>
    simp only [proceedFetch] at stepped
    split at stepped
    · cases stepped
    · next result told =>
      cases stepped
      exact .hear here told
    · next silent untold =>
      cases stepped
      refine .retry here ?_
      cases channel : state.channels.get? leader with
      | none => exact Or.inr rfl
      | some channel' =>
        cases channel' with
        | «open» => exact absurd channel silent
        | published result => exact absurd channel (untold result)
        | closed => exact Or.inl rfl
  | collecting began collection =>
    simp only [proceedFetch] at stepped
    obtain ⟨outcome, found, rfl⟩ := Option.map_eq_some_iff.mp stepped
    cases outcome with
    | ok metadata => exact .gather here found rfl
    | error fault => exact .fail here found rfl
  | storing bundle =>
    cases stepped
    exact .store here
  | releasing result =>
    cases stepped
    exact .release here
  | publishing result =>
    cases stepped
    exact .publish here

/-- A pass goes on, or it has come to its end. -/
theorem move_proceedPass {owner : Owner} {pass : Pass} (here : state.pass? owner = some pass)
    {left : Option Pass} {after : State} {effects : Effects}
    (stepped : proceedPass owner pass state = some (left, after, effects)) :
    (∃ rest, left = some rest ∧ after.loops = state.loops ∧
        Move now state (.proceed owner.task) (after.setPass owner rest) effects) ∨
      pass = ⟨[], none⟩ ∧ left = none ∧ after = state ∧ effects = [] := by
  obtain ⟨remaining, current⟩ := pass
  cases current with
  | some current =>
    obtain ⟨pair, collection⟩ := current
    simp only [proceedPass] at stepped
    obtain ⟨outcome, found, same⟩ := Option.map_eq_some_iff.mp stepped
    cases outcome with
    | ok metadata =>
      cases same
      exact Or.inl ⟨_, rfl, rfl, .renew here found⟩
    | error fault =>
      cases same
      exact Or.inl ⟨_, rfl, rfl, .skip here found⟩
  | none =>
    cases remaining with
    | nil =>
      cases stepped
      exact Or.inr ⟨rfl, rfl, rfl, rfl⟩
    | cons pair remaining =>
      cases stepped
      exact Or.inl ⟨_, rfl, rfl, .revisit here⟩

theorem move_proceedClose {id : CallId} {stage : Closing}
    (here : state.calls.get? id = some (.close stage)) {result : State × Effects}
    (stepped : proceedClose id stage state = some result) :
    Move now state (.proceed (.call id)) result.1 result.2 := by
  cases stage with
  | detaching =>
    cases stepped
    unfold detach
    cases held : state.worker with
    | none =>
      have same : state = { state with worker := none } := by rw [← held]
      have bare : state.worker.bind state.loops.get? = none := by rw [held]; rfl
      have move : Move now state (.proceed (.call id))
          (closeOracle id { state with worker := none }).1 [.ask (.call id) .closeOracle none] :=
        .closeAtOnce here bare
      rw [← same] at move
      exact move
    | some loop =>
      cases found : state.loops.get? loop with
      | none =>
        have bare : state.worker.bind state.loops.get? = none := by rw [held]; exact found
        simp only [found]
        exact .closeAtOnce here bare
      | some running =>
        simp only [found]
        exact .detach here held found
  | stopping loop =>
    simp only [proceedClose] at stepped
    obtain ⟨outcome, found, same⟩ := Option.map_eq_some_iff.mp stepped
    obtain ⟨stopped, running, exit⟩ := Option.bind_eq_some_iff.mp found
    unfold Heartbeat.exit? at exit
    split at exit
    · next ended =>
      cases exit
      cases same
      exact .closeAfter here running ended
    · next crashed =>
      cases exit
      cases same
      exact .giveUp here running crashed
    · cases exit
  | releasing => cases stepped

theorem move_proceedCall {id : CallId} {call : Call} (here : state.calls.get? id = some call)
    {result : State × Effects} (stepped : proceedCall now id call state = some result) :
    Move now state (.proceed (.call id)) result.1 result.2 := by
  cases call with
  | fetch pair stage => exact move_proceedFetch here stepped
  | refresh pass =>
    obtain ⟨⟨left, after, effects⟩, passed, same⟩ := Option.map_eq_some_iff.mp stepped
    have making : state.pass? (.call id) = some pass := by simp only [State.pass?, here]
    rcases move_proceedPass making passed with ⟨rest, rfl, _, move⟩ | ⟨rfl, rfl, rfl, rfl⟩
    · cases same
      exact move
    · cases same
      exact .complete here
  | close stage => exact move_proceedClose here stepped

theorem move_proceedLoop {id : LoopId} {loop : Loop} (here : state.loops.get? id = some loop)
    {result : State × Effects} (stepped : proceedLoop now id loop state = some result) :
    Move now state (.proceed (.loop id)) result.1 result.2 := by
  unfold proceedLoop at stepped
  split at stepped
  · next pass passing =>
    obtain ⟨⟨left, after, effects⟩, passed, same⟩ := Option.map_eq_some_iff.mp stepped
    have making : state.pass? (.loop id) = some pass := by
      rw [State.pass?, here, Option.bind_some, passing]
    rcases move_proceedPass making passed with ⟨rest, rfl, kept, move⟩ | ⟨rfl, rfl, rfl, rfl⟩
    · cases same
      have same : after.setPass (.loop id) rest =
          { after with loops := after.loops.put id { loop with pass := some rest } } := by
        simp only [State.setPass, kept, here]
      rw [same] at move
      exact move
    · cases same
      exact .rest here passing
  · next idle =>
    obtain ⟨⟨turn, beat⟩, turned, same⟩ := Option.map_eq_some_iff.mp stepped
    cases turn with
    | begin =>
      cases same
      exact .depart here idle turned
    | stop =>
      cases same
      exact .stop here idle turned

theorem fragment?_eq_some {id : CollectionId} {position : Nat} {collection : Collection}
    {fragments : List Fragment} {fragment : Fragment}
    (found : state.fragment? id position = some (collection, fragments, fragment)) :
    state.collections.get? id = some collection ∧ collection.progress = .surveying fragments ∧
      fragments[position]? = some fragment := by
  obtain ⟨other, here, inside⟩ := Option.bind_eq_some_iff.mp found
  cases progress : other.progress with
  | surveying others =>
    rw [progress] at inside
    obtain ⟨_, at_, same⟩ := Option.map_eq_some_iff.mp inside
    cases same
    exact ⟨here, progress, at_⟩
  | exploring =>
    rw [progress] at inside
    cases inside
  | refused fault =>
    rw [progress] at inside
    cases inside

theorem move_proceedSurvey {id : CollectionId} {position : Nat} {result : State × Effects}
    (stepped : proceedSurvey id position state = some result) :
    Move now state (.proceed (.survey id position)) result.1 result.2 := by
  unfold proceedSurvey at stepped
  split at stepped
  · next collection fragments survey found =>
    obtain ⟨here, surveying, inside⟩ := fragment?_eq_some found
    simp only at stepped
    split at stepped
    · next place wanted =>
      cases stepped
      exact .survey here surveying inside (.ask wanted)
    · next satisfied =>
      cases stepped
      have move : Move now state _ _ _ := .survey here surveying inside (.finish satisfied)
      rw [List.append_nil] at move
      exact move
  · cases stepped

/-- The step of a task, if there is one to take. -/
theorem move_proceed {task : Task} {result : State × Effects}
    (stepped : proceed now task state = some result) :
    Move now state (.proceed task) result.1 result.2 := by
  cases task with
  | call id =>
    obtain ⟨call, here, stepped⟩ := Option.bind_eq_some_iff.mp stepped
    exact move_proceedCall here stepped
  | loop id =>
    obtain ⟨loop, here, stepped⟩ := Option.bind_eq_some_iff.mp stepped
    exact move_proceedLoop here stepped
  | survey id position => exact move_proceedSurvey stepped

theorem move_hear (id : CollectionId) (position : Nat) (reply : Reply) :
    Move now state (.answer (.survey id position) reply) (hear id position reply state).1
      (hear id position reply state).2 := by
  unfold hear
  split
  · next collection fragments survey answer found =>
    obtain ⟨here, surveying, inside⟩ := fragment?_eq_some found
    have move : Move now state _ _ _ := .survey here surveying inside (.learn answer)
    rw [List.append_nil] at move
    exact move
  · next collection fragments survey found =>
    obtain ⟨here, surveying, inside⟩ := fragment?_eq_some found
    have move : Move now state _ _ _ := .survey here surveying inside .breakDown
    rw [List.append_nil] at move
    exact move
  · exact .idle

/-- The candidates of a collection have come, to whoever waits for them. -/
theorem move_deliver {task : Task} {id : CollectionId} (awaited : state.awaited? task = some id)
    (answer : Except CallFault (List Candidate)) :
    Move now state (.answer task (.candidates answer)) (deliver id answer state).1
      (deliver id answer state).2 := by
  unfold deliver
  split
  · next collection here =>
    split
    · next exploring => exact .refused awaited here exploring
    · next exploring => exact .receive awaited here exploring
    · exact .idle
  · exact .idle

theorem move_answer (task : Task) (reply : Reply) :
    Move now state (.answer task reply) (answer task reply state).1
      (answer task reply state).2 := by
  unfold answer
  split
  · exact move_hear ..
  · split
    · next here => exact .closed here
    · exact .idle
  · split
    · next awaited => exact move_deliver awaited _
    · exact .idle
  · exact .idle

theorem move_cancel (id : CallId) :
    Move now state (.cancel id) (cancel id state).1 (cancel id state).2 := by
  unfold cancel
  split
  · next pair stage here =>
    cases stage with
    | collecting began collection => exact .abandon here rfl
    | storing bundle => exact .abandon here rfl
    | releasing result => exact .abandon here rfl
    | publishing result => exact .withhold here
    | lookingUp => exact .leave here rfl
    | joining => exact .leave here rfl
    | following leader => exact .leave here rfl
  · next pass here =>
    have move : Move now state (.cancel id) _ _ := .abort here
    cases current : pass.current with
    | none =>
      rw [current] at move
      exact move
    | some errand =>
      rw [current] at move
      exact move
  · next stage here => exact .resign here
  · exact .idle

/-- **Every step is a move.** -/
theorem move_step (now : Timestamp) (event : Event) (state : State) :
    Move now state event (step now event state).1 (step now event state).2 := by
  cases event with
  | «open» =>
    rw [step, State.open]
    cases held : state.worker with
    | some loop => exact .idle
    | none => exact .start held
  | fetch id query =>
    rw [step, fetch]
    cases endpoints : query.endpoints with
    | error fault => exact .refuse endpoints
    | ok pair => exact .request endpoints
  | refresh id => exact .refresh
  | close id => exact .close
  | proceed task =>
    rw [step]
    cases stepped : proceed now task state with
    | none => exact .idle
    | some result => exact move_proceed stepped
  | answer task reply => exact move_answer task reply
  | cancel id => exact move_cancel id

end Steps

end Wayfinder.Atlas
