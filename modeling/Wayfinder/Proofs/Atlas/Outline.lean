/-
**What requests see.**

Where a fetching call goes next depends on whether its pair is cached, on the marks and channels, and
on whether its collection came to a good end. What the bundles hold does not matter, nor does anything
that passes, loops and closing calls do. So the state has an outline in which all of that is left out,
and the requests alone lead from one outline to the next.

* `Outline`, `State.outline`: the cache without its values, where the fetching calls stand, marks and
  channels;
* `Request`, `request?`: the steps of requests, with the outcome of the collection where it is heard;
* `Outline.step`: what a step of a request does to an outline;
* `Move.outline_kept`: whatever is no step of a request leaves the outline as it is;
* `outlined`: a step of a request does what it does to the outline.
-/

import Wayfinder.Proofs.Atlas.Access
import Wayfinder.Proofs.Lru.Values

namespace Wayfinder.Atlas

/-! ### Outlines -/

/-- Where a fetching call stands, whatever it has got. -/
inductive Station where
  | lookingUp
  | joining
  | following (leader : CallId)
  | collecting
  | storing
  | releasing
  | publishing
deriving DecidableEq, Repr

/-- What shows on a channel, whatever is told on it. -/
inductive Signal where
  | open
  | published
  | closed
deriving DecidableEq, Repr

def Stage.station : Stage → Station
  | .lookingUp => .lookingUp
  | .joining => .joining
  | .following leader => .following leader
  | .collecting _ _ => .collecting
  | .storing _ => .storing
  | .releasing _ => .releasing
  | .publishing _ => .publishing

def Channel.signal : Channel → Signal
  | .open => .open
  | .published _ => .published
  | .closed => .closed

/-- The pair and the place of a fetching call. -/
def Call.station? : Call → Option (Pair × Station)
  | .fetch pair stage => some (pair, stage.station)
  | .refresh _ | .close _ => none

/-- What requests see of an atlas. -/
structure Outline where
  cache : Lru Pair Unit
  calls : CallId → Option (Pair × Station)
  markers : Table Pair CallId
  channels : CallId → Option Signal

def State.station? (state : State) (id : CallId) : Option (Pair × Station) :=
  (state.calls.get? id).bind Call.station?

def State.outline (state : State) : Outline where
  cache := state.cache.bare
  calls := state.station?
  markers := state.markers
  channels := fun id => (state.channels.get? id).map Channel.signal

/-! ### Steps of requests -/

/-- A step of a request. A turn in which a collection is heard of carries whether it came to a good
end. -/
inductive Request where
  | begin (call : CallId) (pair : Pair)
  | turn (call : CallId) (collected : Option Bool)
  | cancel (call : CallId)
deriving DecidableEq, Repr

namespace Outline

def moveTo (outline : Outline) (id : CallId) (pair : Pair) (station : Station) : Outline :=
  { outline with
    calls := fun other => if id = other then some (pair, station) else outline.calls other }

def dismiss (outline : Outline) (id : CallId) : Outline :=
  { outline with calls := fun other => if id = other then none else outline.calls other }

def tell (outline : Outline) (id : CallId) (signal : Signal) : Outline :=
  { outline with
    channels := fun other => if id = other then some signal else outline.channels other }

def unmark (outline : Outline) (pair : Pair) : Outline :=
  { outline with markers := outline.markers.erase pair }

/-- The turn of a fetching call. -/
def turn (id : CallId) (pair : Pair) (station : Station) (collected : Option Bool)
    (outline : Outline) : Outline :=
  match station with
  | .lookingUp =>
    let looked := { outline with cache := (outline.cache.get pair 0).2 }
    if (outline.cache.get pair 0).1.isSome then looked.dismiss id
    else looked.moveTo id pair .joining
  | .joining =>
    match outline.markers.get? pair with
    | some leader => outline.moveTo id pair (.following leader)
    | none =>
      let marked := { outline with markers := outline.markers.put pair id }
      (marked.tell id .open).moveTo id pair .collecting
  | .following leader =>
    match outline.channels leader with
    | some .open => outline
    | some .published => outline.dismiss id
    | _ => outline.moveTo id pair .lookingUp
  | .collecting =>
    match collected with
    | some true => outline.moveTo id pair .storing
    | some false => outline.moveTo id pair .releasing
    | none => outline
  | .storing =>
    { outline with cache := (outline.cache.insert pair () none).2 }.moveTo id pair .releasing
  | .releasing => (outline.unmark pair).moveTo id pair .publishing
  | .publishing => (outline.tell id .published).dismiss id

/-- A fetching call is given up. -/
def abandon (id : CallId) (pair : Pair) (station : Station) (outline : Outline) : Outline :=
  match station with
  | .collecting | .storing | .releasing =>
    ((outline.unmark pair).dismiss id).tell id .closed
  | .publishing => (outline.dismiss id).tell id .closed
  | .lookingUp | .joining | .following _ => outline.dismiss id

/-- What a step of a request does to an outline. -/
def step (outline : Outline) (request : Request) : Outline :=
  match request with
  | .begin id pair => outline.moveTo id pair .lookingUp
  | .turn id collected =>
    match outline.calls id with
    | some (pair, station) => outline.turn id pair station collected
    | none => outline
  | .cancel id =>
    match outline.calls id with
    | some (pair, station) => outline.abandon id pair station
    | none => outline

/-- Whether a request looks its pair up in a step, and finds it. -/
def hit? (outline : Outline) (request : Request) : Option Bool :=
  match request with
  | .turn id _ =>
    match outline.calls id with
    | some (pair, .lookingUp) => some (outline.cache.get pair 0).1.isSome
    | _ => none
  | _ => none

end Outline

/-- Whether a collection that a fetching call waits for has come to its end, and to a good one. -/
def State.collected? (state : State) : Stage → Option Bool
  | .collecting _ collection => (state.outcome? collection).map Except.isOk
  | _ => none

/-- The step of a request that is taken, if one is: a call for a pair begins, a fetching call takes a
turn in which it can go on, or one is given up. -/
def request? (taken : Occurrence) : Option Request :=
  match taken.event with
  | .fetch id query => query.endpoints.toOption.map (.begin id)
  | .proceed (.call id) =>
    match taken.before.calls.get? id with
    | some (.fetch pair stage) =>
      (proceedFetch taken.now id pair stage taken.before).map fun _ =>
        .turn id (taken.before.collected? stage)
    | _ => none
  | .cancel id => (taken.before.station? id).map fun _ => .cancel id
  | _ => none

/-- Whether a request looks its pair up in a step that is taken, and finds it. -/
def hit? (taken : Occurrence) : Option Bool :=
  match taken.event with
  | .proceed (.call id) =>
    match taken.before.calls.get? id with
    | some (.fetch pair .lookingUp) => some (taken.before.cache.get pair taken.now).1.isSome
    | _ => none
  | _ => none

section

variable {now : Timestamp} {state after : State} {event : Event} {effects : Effects}
  {id : CallId} {pair : Pair} {stage : Stage}

/-! ### The parts of an outline -/

theorem State.station?_of_get? {call : Call} (here : state.calls.get? id = some call) :
    state.station? id = call.station? := by
  rw [station?, here, Option.bind_some]

theorem outline_congr (cache : after.cache.bare = state.cache.bare)
    (calls : ∀ id, after.station? id = state.station? id) (markers : after.markers = state.markers)
    (channels : after.channels = state.channels) : after.outline = state.outline := by
  unfold State.outline
  rw [cache, markers, channels, funext calls]

theorem station?_put (calls : after.calls = state.calls.put id (.fetch pair stage)) :
    after.station? = fun other =>
      if id = other then some (pair, stage.station) else state.station? other := by
  funext other
  rw [State.station?, calls, Table.bind_get?_put]
  rfl

theorem station?_erase (calls : after.calls = state.calls.erase id) :
    after.station? = fun other => if id = other then none else state.station? other := by
  funext other
  rw [State.station?, calls, Table.bind_get?_erase]
  rfl

theorem outline_moveTo (state : State) (id : CallId) (pair : Pair) (stage : Stage) :
    (state.moveTo id pair stage).outline = state.outline.moveTo id pair stage.station := by
  unfold State.outline Outline.moveTo
  rw [station?_put rfl]
  rfl

theorem outline_dismiss (state : State) (id : CallId) :
    (state.dismiss id).outline = state.outline.dismiss id := by
  unfold State.outline Outline.dismiss
  rw [station?_erase rfl]
  rfl

theorem outline_announce (state : State) (id : CallId) (channel : Channel) :
    (state.announce id channel).1.outline = state.outline.tell id channel.signal := by
  unfold State.outline Outline.tell
  congr 1
  funext other
  show ((state.channels.put id channel).get? other).map Channel.signal = _
  rw [Table.get?_put]
  split
  · rfl
  · rfl

/-! ### Turns of requests -/

section Turns

variable {result : State × Effects}

theorem outline_lookUp
    (lasting : ∀ entry, state.cache.slot? pair = some entry → entry.expires = none)
    (stepped : proceedFetch now id pair .lookingUp state = some result) :
    result.1.outline = state.outline.turn id pair .lookingUp none := by
  obtain ⟨same, cache⟩ := Lru.bare_get lasting now 0
  show result.1.outline = if (state.cache.bare.get pair 0).1.isSome then
    Outline.dismiss { state.outline with cache := (state.cache.bare.get pair 0).2 } id else
    Outline.moveTo { state.outline with cache := (state.cache.bare.get pair 0).2 } id pair .joining
  rw [same, cache]
  simp only [proceedFetch] at stepped
  split at stepped
  · next bundle found =>
    cases stepped
    rw [found, Option.isSome_some, if_pos rfl, outline_dismiss]
    rfl
  · next missed =>
    cases stepped
    rw [missed, Option.isSome_none, if_neg Bool.false_ne_true, outline_moveTo]
    rfl

theorem outline_join (stepped : proceedFetch now id pair .joining state = some result) :
    result.1.outline = state.outline.turn id pair .joining none := by
  cases marked : state.markers.get? pair with
  | some leader =>
    have known : state.outline.markers.get? pair = some leader := marked
    simp only [proceedFetch, marked, Option.some.injEq] at stepped
    subst stepped
    simp only [Outline.turn, Stage.station, known, outline_moveTo]
  | none =>
    have known : state.outline.markers.get? pair = none := marked
    simp only [proceedFetch, marked, Option.some.injEq] at stepped
    subst stepped
    simp only [Outline.turn, Stage.station, known, outline_moveTo]
    refine congrArg (Outline.moveTo · id pair .collecting) ?_
    exact outline_announce { state with markers := state.markers.put pair id } id .open

theorem outline_follow {leader : CallId}
    (stepped : proceedFetch now id pair (.following leader) state = some result) :
    result.1.outline = state.outline.turn id pair (.following leader) none := by
  show result.1.outline = match (state.channels.get? leader).map Channel.signal with
    | some .open => state.outline
    | some .published => state.outline.dismiss id
    | _ => state.outline.moveTo id pair .lookingUp
  simp only [proceedFetch] at stepped
  split at stepped
  · cases stepped
  · next outcome told =>
    cases stepped
    rw [told, outline_dismiss]
    rfl
  · next silent untold =>
    cases stepped
    rw [outline_moveTo]
    cases channel : state.channels.get? leader with
    | none => rfl
    | some told =>
      cases told with
      | «open» => exact absurd channel silent
      | published outcome => exact absurd channel (untold outcome)
      | closed => rfl

theorem outline_gather {began : Timestamp} {collection : CollectionId}
    (stepped : proceedFetch now id pair (.collecting began collection) state = some result) :
    result.1.outline = state.outline.turn id pair .collecting
      ((state.outcome? collection).map Except.isOk) := by
  simp only [proceedFetch] at stepped
  obtain ⟨outcome, found, rfl⟩ := Option.map_eq_some_iff.mp stepped
  cases outcome with
  | ok metadata =>
    rw [found]
    exact outline_moveTo ..
  | error fault =>
    rw [found]
    exact outline_moveTo ..

/-- **The turn of a fetching call does what it does to the outline.** -/
theorem outline_proceedFetch
    (lasting : ∀ pair entry, state.cache.slot? pair = some entry → entry.expires = none)
    (stepped : proceedFetch now id pair stage state = some result) :
    result.1.outline = state.outline.turn id pair stage.station (state.collected? stage) := by
  cases stage with
  | lookingUp => exact outline_lookUp (lasting pair) stepped
  | joining => exact outline_join stepped
  | following leader => exact outline_follow stepped
  | collecting began collection => exact outline_gather stepped
  | storing bundle =>
    cases stepped
    rw [outline_moveTo]
    refine congrArg (Outline.moveTo · id pair .releasing) ?_
    show State.outline (state.store pair bundle) =
      { state.outline with cache := (state.cache.bare.insert pair () none).2 }
    rw [Lru.bare_insert state.cache pair bundle none]
    rfl
  | releasing result =>
    cases stepped
    rw [outline_moveTo]
    rfl
  | publishing result =>
    cases stepped
    show (State.dismiss (state.announce id (.published result)).1 id).outline =
      (state.outline.tell id .published).dismiss id
    rw [outline_dismiss, outline_announce]
    rfl

/-- A turn in which a fetching call goes on. -/
theorem outline_of_turn
    (lasting : ∀ pair entry, state.cache.slot? pair = some entry → entry.expires = none)
    (here : state.calls.get? id = some (.fetch pair stage))
    (stepped : proceedFetch now id pair stage state = some result) :
    (step now (.proceed (.call id)) state).1.outline =
      state.outline.step (.turn id (state.collected? stage)) := by
  have goes : (step now (.proceed (.call id)) state).1 = result.1 := by
    simp only [step, proceed, here, Option.bind_some, proceedCall, stepped, Option.getD_some]
  have station : state.outline.calls id = some (pair, stage.station) :=
    State.station?_of_get? here
  rw [goes, outline_proceedFetch lasting stepped, Outline.step, station]

end Turns

/-- **Giving a fetching call up does what it does to the outline.** -/
theorem outline_cancelFetch (id : CallId) (pair : Pair) (stage : Stage) (state : State) :
    (cancelFetch id pair stage state).1.outline = state.outline.abandon id pair stage.station := by
  have closes (left : State) :
      ((left.dismiss id).announce id .closed).1.outline =
        (left.outline.dismiss id).tell id .closed := by
    rw [outline_announce, outline_dismiss]
    rfl
  cases stage with
  | collecting | storing | releasing => exact closes _
  | publishing => exact closes state
  | lookingUp | joining | following => exact outline_dismiss state id

/-! ### Steps that are not of requests -/

/-- A call that does not fetch, and has the number of none that does, does not show. -/
theorem outline_put {call : Call} (silent : call.station? = none)
    (apart : state.station? id = none) :
    { state with calls := state.calls.put id call }.outline = state.outline :=
  outline_congr rfl (Table.bind_get?_put_same (silent.trans apart.symm)) rfl rfl

/-- A call that does not fetch ends without being noticed. -/
theorem outline_erase (apart : state.station? id = none) :
    (state.dismiss id).outline = state.outline :=
  outline_congr rfl (Table.bind_get?_erase_silent apart) rfl rfl

/-- A pass goes on without being noticed. -/
theorem outline_setPass {owner : Owner} {old : Pass} (making : state.pass? owner = some old)
    (pass : Pass) : (state.setPass owner pass).outline = state.outline := by
  rcases State.setPass_cases pass making with ⟨id, rfl, here, same⟩ | ⟨id, loop, rfl, _, _, same⟩
  · rw [same]
    exact outline_put rfl (State.station?_of_get? here)
  · rw [same]
    rfl

/-- **What is no step of a request leaves the outline as it is.** -/
theorem Move.outline_kept (move : Move now state event after effects)
    (fresh : ∀ id, event.beginning? = some id → state.calls.get? id = none)
    (refused : ∀ id query pair, event = .fetch id query → query.endpoints ≠ .ok pair)
    (apart : ∀ id pair stage, state.calls.get? id = some (.fetch pair stage) →
      event ≠ .proceed (.call id) ∧ event ≠ .cancel id) :
    after.outline = state.outline := by
  cases move with
  | request endpoints => exact absurd endpoints (refused _ _ _ rfl)
  | hit here | miss here | follow here | lead here | hear here | retry here | gather here
  | fail here | store here | release here | publish here =>
    exact absurd rfl (apart _ _ _ here).1
  | abandon here | withhold here | leave here => exact absurd rfl (apart _ _ _ here).2
  | refresh | close =>
    have unused := fresh _ rfl
    exact outline_put rfl (by rw [State.station?, unused, Option.bind_none])
  | detach here | closeAtOnce here | closeAfter here =>
    exact outline_put rfl (State.station?_of_get? here)
  | complete here | giveUp here | closed here | resign here | abort here =>
    exact outline_erase (State.station?_of_get? here)
  | revisit making => exact outline_setPass making _
  | @renew owner pair collection remaining metadata making found =>
    have still : (((state.forget collection).replace pair ⟨metadata, collection⟩).countRefresh
        true).pass? owner = some ⟨remaining, some (pair, collection)⟩ := making
    rw [outline_setPass still]
    exact outline_congr (Lru.bare_update ..) (fun _ => rfl) rfl rfl
  | skip making => exact outline_setPass making _
  | start | refuse | rest | depart | stop | survey | receive | refused | idle => rfl

/-! ### Every step -/

theorem request?_of_fetch {taken : Occurrence} (turn : taken.event = .proceed (.call id))
    (here : taken.before.calls.get? id = some (.fetch pair stage)) :
    request? taken = (proceedFetch taken.now id pair stage taken.before).map fun _ =>
      .turn id (taken.before.collected? stage) := by
  simp only [request?, turn, here]

/-- **What is no step of a request leaves the outline as it is.** -/
theorem outline_unasked (taken : Occurrence)
    (fresh : ∀ id, taken.event.beginning? = some id → taken.before.calls.get? id = none)
    (unasked : request? taken = none) : taken.after.outline = taken.before.outline := by
  obtain ⟨before, now, event⟩ := taken
  -- a fetching call that has a turn in which it cannot go on
  by_cases stuck : ∃ id pair stage, before.calls.get? id = some (.fetch pair stage) ∧
      event = .proceed (.call id)
  · obtain ⟨id, pair, stage, here, rfl⟩ := stuck
    rw [request?_of_fetch rfl here, Option.map_eq_none_iff] at unasked
    have stays : (step now (.proceed (.call id)) before).1 = before := by
      simp only [step, proceed, here, Option.bind_some, proceedCall, unasked, Option.getD_none]
    exact congrArg State.outline stays
  · refine (move_step now event before).outline_kept fresh ?_ ?_
    · rintro id query pair rfl good
      simp only [request?, good] at unasked
      cases unasked
    · intro id pair stage here
      refine ⟨fun turn => stuck ⟨id, pair, stage, here, turn⟩, ?_⟩
      rintro rfl
      simp only [request?, State.station?_of_get? here] at unasked
      cases unasked

/-- **A step of a request does what it does to the outline**, and finds its pair if it is there. -/
theorem outlined {taken : Occurrence} {request : Request} (asks : request? taken = some request)
    (lasting : ∀ pair entry, taken.before.cache.slot? pair = some entry → entry.expires = none) :
    taken.after.outline = taken.before.outline.step request ∧
      hit? taken = taken.before.outline.hit? request := by
  obtain ⟨before, now, event⟩ := taken
  cases event with
  | fetch id query =>
    simp only [request?] at asks
    obtain ⟨pair, good, rfl⟩ := Option.map_eq_some_iff.mp asks
    refine ⟨?_, rfl⟩
    show (fetch id query before).1.outline = before.outline.moveTo id pair .lookingUp
    cases endpoints : query.endpoints with
    | error fault =>
      rw [endpoints] at good
      cases good
    | ok other =>
      rw [endpoints] at good
      cases good
      rw [fetch, endpoints]
      exact outline_moveTo ..
  | cancel id =>
    simp only [request?] at asks
    obtain ⟨⟨pair, station⟩, here, rfl⟩ := Option.map_eq_some_iff.mp asks
    refine ⟨?_, rfl⟩
    obtain ⟨call, there, fetching⟩ := Option.bind_eq_some_iff.mp here
    cases call with
    | fetch other stage =>
      cases fetching
      show (cancel id before).1.outline = match before.station? id with
        | some (pair, station) => before.outline.abandon id pair station
        | none => before.outline
      rw [here, cancel, there]
      exact outline_cancelFetch ..
    | refresh | close => cases fetching
  | proceed task =>
    cases task with
    | call id =>
      simp only [request?] at asks
      split at asks
      · next pair stage here =>
        obtain ⟨result, stepped, rfl⟩ := Option.map_eq_some_iff.mp asks
        refine ⟨outline_of_turn lasting here stepped, ?_⟩
        have station : before.outline.calls id = some (pair, stage.station) :=
          State.station?_of_get? here
        simp only [hit?, here, Outline.hit?, station]
        cases stage with
        | lookingUp => exact congrArg some (Lru.bare_get (lasting pair) now 0).1.symm
        | _ => rfl
      · cases asks
    | loop | survey => cases asks
  | _ => cases asks

end

end Wayfinder.Atlas
