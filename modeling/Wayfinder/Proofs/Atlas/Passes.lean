/-
**Passes in any order.**

A pass collects for one pair after the other, in the order in which the cache lists them when the
pass begins. Nothing depends on that order: a course is a run in which what is left of a pass may be
put into another order at any time. A pass that comes to its end has reported on each of the pairs
that were cached at its beginning once, and every report counts as one refresh.

* `Choice`, `freely`, `Course`: runs in which passes take their pairs in any order;
* `report?`: the step in which a pass is done with a pair, and whether its collection has succeeded;
* `Course.outstanding`: what a pass has reported on and what it has before it are the pairs that
  were cached at its beginning;
* `Course.owned`: a pass works on collections of its own;
* `Course.counted`: refreshes and their failures are counted by reports;
* `Passed`, `Course.passed`: what a pass has done when it comes to its end.
-/

import Wayfinder.Proofs.Atlas.Puts

namespace Wayfinder.Atlas

/-! ### Courses -/

/-- What can happen when the order of the pairs of a pass is left open. -/
inductive Choice where
  | step (event : Event)
  /-- What is left of a pass is put into another order. -/
  | shuffle (owner : Owner) (order : List Pair)
deriving Repr

/-- The number of the call that begins. -/
def Choice.beginning? : Choice → Option CallId
  | .step event => event.beginning?
  | .shuffle _ _ => none

/-- Puts what is left of a pass into another order. -/
def State.shuffle (owner : Owner) (order : List Pair) (state : State) : State :=
  match state.pass? owner with
  | some pass =>
    if order.isPerm pass.remaining then state.setPass owner { pass with remaining := order }
    else state
  | none => state

def choose (now : Timestamp) (choice : Choice) (state : State) : State × Effects :=
  match choice with
  | .step event => step now event state
  | .shuffle owner order => (state.shuffle owner order, [])

/-- The atlas as an automaton in which passes take their pairs in any order. -/
def freely : Automaton State Choice Effects := ⟨choose, Choice.beginning?⟩

/-- What has happened in a course. -/
abbrev Happening := freely.Occurrence

/-- The courses of an atlas without bundles. -/
abbrev Course (capacity : Nat) (geolocating : Bool) (timeout interval : Duration) :
    List Happening → State → Prop :=
  freely.Run (.initial capacity geolocating timeout interval)

/-- The step of the atlas that was taken, unless a pass was put into another order. -/
def taken? (happening : Happening) : Option Occurrence :=
  match happening.event with
  | .step event => some ⟨happening.before, happening.now, event⟩
  | .shuffle _ _ => none

/-! ### Reports -/

/-- A pass is done with a pair. -/
structure Report where
  owner : Owner
  pair : Pair
  /-- Whether the collection for the pair has come to a good end. -/
  succeeded : Bool
deriving DecidableEq, Repr

/-- Who may make a pass in a turn of the task. -/
def Task.owner? : Task → Option Owner
  | .call id => some (.call id)
  | .loop id => some (.loop id)
  | .survey _ _ => none

/-- The report of a step in which a pass finds that its collection is at an end. -/
def report? (taken : Occurrence) : Option Report :=
  match taken.event with
  | .proceed task =>
    task.owner?.bind fun owner =>
      ((taken.before.pass? owner).bind (·.current)).bind fun (pair, collection) =>
        (taken.before.outcome? collection).map fun outcome => ⟨owner, pair, outcome.isOk⟩
  | _ => none

/-- The reports of all passes, in their order. -/
def reports (history : List Happening) : List Report :=
  history.filterMap fun happening => (taken? happening).bind report?

/-- The reports of the passes of one owner. -/
def reportsBy (owner : Owner) (history : List Happening) : List Report :=
  (reports history).filter fun report => report.owner = owner

/-- The reports of the passes of all other owners. -/
def reportsByOthers (owner : Owner) (history : List Happening) : List Report :=
  (reports history).filter fun report => !decide (report.owner = owner)

/-- How many collections have failed. -/
def failures (reports : List Report) : Nat := reports.countP fun report => !report.succeeded

/-- What a pass still has before it. -/
def Pass.outstanding (pass : Pass) : List Pair :=
  (pass.current.map (·.1)).toList ++ pass.remaining

/-- The step in which a pass over the pairs that are cached begins. -/
def Begins (owner : Owner) (pairs : List Pair) (happening : Happening) : Prop :=
  happening.before.pass? owner = none ∧ happening.after.pass? owner = some ⟨pairs, none⟩ ∧
    happening.after.cache.keys = pairs

/-- The step in which a pass comes to its end. -/
def Completes (owner : Owner) (happening : Happening) : Prop :=
  happening.event = .step (.proceed owner.task) ∧
    happening.before.pass? owner = some ⟨[], none⟩

section

variable {now : Timestamp} {state after : State} {event : Event} {effects : Effects}
  {owner : Owner} {pass : Pass}

theorem Owner.owner?_task (owner : Owner) : owner.task.owner? = some owner := by
  cases owner <;> rfl

theorem Task.eq_of_owner? {task : Task} (same : task.owner? = some owner) : task = owner.task := by
  cases task <;> cases same <;> rfl

/-- A report is made by a pass whose collection is at an end, in its own turn. -/
theorem report?_eq_some {taken : Occurrence} {report : Report} :
    report? taken = some report ↔
      ∃ remaining collection outcome, taken.event = .proceed report.owner.task ∧
        taken.before.pass? report.owner = some ⟨remaining, some (report.pair, collection)⟩ ∧
        taken.before.outcome? collection = some outcome ∧ outcome.isOk = report.succeeded := by
  constructor
  · intro reported
    unfold report? at reported
    split at reported
    · next task event =>
      obtain ⟨owner, serves, reported⟩ := Option.bind_eq_some_iff.mp reported
      obtain ⟨⟨pair, collection⟩, working, reported⟩ := Option.bind_eq_some_iff.mp reported
      obtain ⟨outcome, found, rfl⟩ := Option.map_eq_some_iff.mp reported
      obtain ⟨⟨remaining, current⟩, making, rfl⟩ := Option.bind_eq_some_iff.mp working
      rw [Task.eq_of_owner? serves] at event
      exact ⟨remaining, collection, outcome, event, making, found, rfl⟩
    · cases reported
  · rintro ⟨remaining, collection, outcome, event, making, found, same⟩
    simp only [report?, event, Owner.owner?_task, Option.bind_some, making, found, Option.map_some,
      same]

/-! ### Steps of passes -/

theorem step_skip {pair : Pair} {collection : CollectionId} {remaining : List Pair}
    {fault : CallFault} (here : state.pass? owner = some ⟨remaining, some (pair, collection)⟩)
    (found : state.outcome? collection = some (.error fault)) :
    (step now (.proceed owner.task) state).1 =
      ((state.forget collection).countRefresh false).setPass owner ⟨remaining, none⟩ := by
  rcases State.pass?_eq_some here with ⟨id, rfl, calling⟩ | ⟨id, loop, rfl, looping, passing⟩
  · simp only [step, Owner.task, proceed, calling, Option.bind_some, proceedCall, proceedPass,
      found, Option.map_some, Option.getD_some, State.setPass]
  · have kept : ((state.forget collection).countRefresh false).loops.get? id = some loop := looping
    simp only [step, Owner.task, proceed, looping, Option.bind_some, proceedLoop, passing,
      proceedPass, found, Option.map_some, Option.getD_some, State.setPass, kept]

/-- **A report is counted, and the pass goes on with what is left.** -/
theorem step_report {taken : Occurrence} {report : Report} (reported : report? taken = some report) :
    taken.after.tally = taken.before.tally.recordRefresh report.succeeded ∧
      ∃ remaining collection,
        taken.before.pass? report.owner = some ⟨remaining, some (report.pair, collection)⟩ ∧
        taken.after.pass? report.owner = some ⟨remaining, none⟩ := by
  obtain ⟨remaining, collection, outcome, event, making, found, succeeded⟩ :=
    report?_eq_some.mp reported
  have stepped : taken.after = (step taken.now (.proceed report.owner.task) taken.before).1 := by
    rw [← event]
    rfl
  cases outcome with
  | ok metadata =>
    rw [stepped, step_renew making found, ← succeeded]
    exact ⟨rfl, remaining, collection, making, State.pass?_setPass making⟩
  | error fault =>
    rw [stepped, step_skip making found, ← succeeded]
    exact ⟨rfl, remaining, collection, making, State.pass?_setPass making⟩

/-- **Refreshes are counted by reports alone.** -/
theorem tally_unreported {taken : Occurrence} (silent : report? taken = none) :
    taken.after.tally.refreshes = taken.before.tally.refreshes ∧
      taken.after.tally.refreshFailures = taken.before.tally.refreshFailures := by
  have move := move_taken taken
  generalize turn : taken.event = event at move
  generalize taken.after = after at move
  generalize taken.effects = effects at move
  have unreported {owner : Owner} {pair : Pair} {remaining : List Pair} {collection : CollectionId}
      {outcome : Except CallFault Metadata} (turn : taken.event = .proceed owner.task)
      (making : taken.before.pass? owner = some ⟨remaining, some (pair, collection)⟩)
      (found : taken.before.outcome? collection = some outcome) : False := by
    have reported : report? taken = some ⟨owner, pair, outcome.isOk⟩ :=
      report?_eq_some.mpr ⟨remaining, collection, outcome, turn, making, found, rfl⟩
    rw [silent] at reported
    cases reported
  cases move with
  | renew making found => exact (unreported turn making found).elim
  | skip making found => exact (unreported turn making found).elim
  | hit here found counted | miss here found counted | gather here found counted
  | fail here found counted =>
    subst counted
    exact ⟨rfl, rfl⟩
  | _ => exact ⟨rfl, rfl⟩

/-! ### Where passes come from -/

/-- The pass that a call makes. -/
def Call.pass? : Call → Option Pass
  | .refresh pass => some pass
  | .fetch _ _ | .close _ => none

theorem State.pass?_call (state : State) (id : CallId) :
    state.pass? (.call id) = (state.calls.get? id).bind Call.pass? := by
  simp only [State.pass?]
  cases state.calls.get? id with
  | none => rfl
  | some call => cases call <;> rfl

theorem pass_of_put {id : CallId} {call : Call} (making : after.pass? owner = some pass)
    (calls : after.calls = state.calls.put id call) (loops : after.loops = state.loops) :
    owner = .call id ∧ call.pass? = some pass ∨ state.pass? owner = some pass := by
  cases owner with
  | call other =>
    rw [State.pass?_call, calls, Table.bind_get?_put] at making
    split at making
    · next same => exact Or.inl ⟨by rw [same], making⟩
    · rw [State.pass?_call]
      exact Or.inr making
  | loop other =>
    rw [State.pass?, loops] at making
    exact Or.inr making

theorem pass_of_erase {id : CallId} (making : after.pass? owner = some pass)
    (calls : after.calls = state.calls.erase id) (loops : after.loops = state.loops) :
    state.pass? owner = some pass := by
  cases owner with
  | call other =>
    rw [State.pass?_call, calls, Table.bind_get?_erase] at making
    split at making
    · cases making
    · rw [State.pass?_call]
      exact making
  | loop other =>
    rw [State.pass?, loops] at making
    exact making

theorem pass_of_putLoop {id : LoopId} {loop : Loop} (making : after.pass? owner = some pass)
    (loops : after.loops = state.loops.put id loop) (calls : after.calls = state.calls) :
    owner = .loop id ∧ loop.pass = some pass ∨ state.pass? owner = some pass := by
  cases owner with
  | call other =>
    rw [State.pass?, calls] at making
    exact Or.inr making
  | loop other =>
    rw [State.pass?, loops, Table.bind_get?_put] at making
    split at making
    · next same => exact Or.inl ⟨by rw [same], making⟩
    · exact Or.inr making

theorem pass_of_setPass {other : Owner} {old new : Pass} (here : state.pass? other = some old)
    (making : (state.setPass other new).pass? owner = some pass) :
    owner = other ∧ new = pass ∨ state.pass? owner = some pass := by
  rcases State.setPass_cases new here with ⟨id, rfl, _, same⟩ | ⟨id, loop, rfl, _, _, same⟩
  · rw [same] at making
    rcases pass_of_put making rfl rfl with ⟨rfl, found⟩ | old
    · exact Or.inl ⟨rfl, Option.some.inj found⟩
    · exact Or.inr old
  · rw [same] at making
    rcases pass_of_putLoop making rfl rfl with ⟨rfl, found⟩ | old
    · exact Or.inl ⟨rfl, Option.some.inj found⟩
    · exact Or.inr old

/-- How it has come that a pass is made after a step. -/
inductive Making (state after : State) (event : Event) (owner : Owner) (pass : Pass) : Prop
  | kept (old : state.pass? owner = some pass)
  | begins (idle : state.pass? owner = none) (new : pass = ⟨after.cache.keys, none⟩)
  | takes {pair : Pair} {remaining : List Pair} {collection : CollectionId}
      (old : state.pass? owner = some ⟨pair :: remaining, none⟩)
      (same : pass = ⟨remaining, some (pair, collection)⟩)
  | reports {pair : Pair} {remaining : List Pair} {collection : CollectionId}
      {outcome : Except CallFault Metadata} (turn : event = .proceed owner.task)
      (old : state.pass? owner = some ⟨remaining, some (pair, collection)⟩)
      (found : state.outcome? collection = some outcome)

/-- **A pass after a move was made before, begins over the pairs that are cached, takes its next
pair, or reports on one.** -/
theorem Move.making (move : Move now state event after effects)
    (fresh : ∀ id, event.beginning? = some id → state.calls.get? id = none)
    (making : after.pass? owner = some pass) : Making state after event owner pass := by
  have silent {id : CallId} {call : Call} (calls : after.calls = state.calls.put id call)
      (loops : after.loops = state.loops) (none : call.pass? = none) :
      Making state after event owner pass := by
    rcases pass_of_put making calls loops with ⟨_, found⟩ | old
    · rw [none] at found
      cases found
    · exact .kept old
  have silentLoop {id : LoopId} {loop : Loop} (loops : after.loops = state.loops.put id loop)
      (calls : after.calls = state.calls) (none : loop.pass = none) :
      Making state after event owner pass := by
    rcases pass_of_putLoop making loops calls with ⟨_, found⟩ | old
    · rw [none] at found
      cases found
    · exact .kept old
  cases move with
  | request | close | miss | follow | lead | retry | gather | fail | store | release | closeAtOnce
  | closeAfter =>
    exact silent rfl rfl rfl
  | hit | hear | publish | complete | giveUp | closed | abandon | withhold | leave | abort
  | resign =>
    exact .kept (pass_of_erase making rfl rfl)
  | start | rest | stop => exact silentLoop rfl rfl rfl
  | @refresh id =>
    rcases pass_of_put making rfl rfl with ⟨rfl, found⟩ | old
    · cases found
      refine .begins ?_ rfl
      rw [State.pass?_call, fresh id rfl, Option.bind_none]
    · exact .kept old
  | depart here idle due =>
    rcases pass_of_putLoop making rfl rfl with ⟨rfl, found⟩ | old
    · cases found
      refine .begins ?_ rfl
      rw [State.pass?, here, Option.bind_some, idle]
    · exact .kept old
  | @detach id loop running here held found =>
    -- the loop is told first, and its pass stays
    let told : State := { state with
      loops := state.loops.put loop
        { running with beat := running.beat.take.getD running.beat.signal } }
    have calls : ({ told with
        worker := none
        calls := told.calls.put id (.close (.stopping loop)) } : State).calls =
      told.calls.put id (.close (.stopping loop)) := rfl
    rcases pass_of_put making calls rfl with ⟨_, none⟩ | old
    · cases none
    · rcases pass_of_putLoop old rfl rfl with ⟨rfl, passing⟩ | old
      · refine .kept ?_
        rw [State.pass?, found, Option.bind_some]
        exact passing
      · exact .kept old
  | revisit here =>
    rcases pass_of_setPass here making with ⟨rfl, rfl⟩ | old
    · exact .takes here rfl
    · exact .kept old
  | renew here found =>
    rcases pass_of_setPass here making with ⟨rfl, rfl⟩ | old
    · exact .reports rfl here found
    · exact .kept old
  | skip here found =>
    rcases pass_of_setPass here making with ⟨rfl, rfl⟩ | old
    · exact .reports rfl here found
    · exact .kept old
  | refuse | survey | receive | refused | idle => exact .kept making

/-! ### Passes that are put into another order -/

/-- What is left of a pass is put into another order, or nothing changes. -/
theorem State.shuffle_cases (state : State) (owner : Owner) (order : List Pair) :
    state.shuffle owner order = state ∨ ∃ pass, state.pass? owner = some pass ∧
      order.Perm pass.remaining ∧
      state.shuffle owner order = state.setPass owner { pass with remaining := order } := by
  unfold State.shuffle
  split
  · next pass making =>
    split
    · next permutes => exact Or.inr ⟨pass, making, List.isPerm_iff.mp permutes, rfl⟩
    · exact Or.inl rfl
  · exact Or.inl rfl

theorem State.shuffle_cache (state : State) (owner : Owner) (order : List Pair) :
    (state.shuffle owner order).cache = state.cache := by
  rcases state.shuffle_cases owner order with same | ⟨pass, _, _, same⟩
  · rw [same]
  · rw [same]
    rfl

theorem State.shuffle_tally (state : State) (owner : Owner) (order : List Pair) :
    (state.shuffle owner order).tally = state.tally := by
  rcases state.shuffle_cases owner order with same | ⟨pass, _, _, same⟩
  · rw [same]
  · rw [same]
    rfl

/-- What a pass has before it does not depend on the order. -/
theorem outstanding_of_shuffle {other : Owner} {order : List Pair}
    (making : (state.shuffle other order).pass? owner = some pass) :
    ∃ old, state.pass? owner = some old ∧ old.outstanding.Perm pass.outstanding := by
  rcases state.shuffle_cases other order with same | ⟨old, here, permutes, same⟩
  · rw [same] at making
    exact ⟨pass, making, .refl _⟩
  · rw [same] at making
    rcases pass_of_setPass here making with ⟨rfl, rfl⟩ | kept
    · exact ⟨old, here, permutes.symm.append_left _⟩
    · exact ⟨pass, kept, .refl _⟩

end

/-! ### Whose collections they are -/

/-- Numbers of collections are given once, and whoever works on a collection has begun it, for the
very pair. -/
structure State.Owned (state : State) : Prop where
  given : ∀ id collection, state.collections.get? id = some collection → id < state.nextCollection
  errands : ∀ owner errand, state.errand? owner = some errand → errand.2 < state.nextCollection
  own : ∀ owner pair id collection, state.errand? owner = some (pair, id) →
    state.collections.get? id = some collection → collection.pair = pair ∧ collection.owner = owner

section

variable {now : Timestamp} {state after : State} {event : Event} {effects : Effects}

/-- A collection after a move was there before, of the same owner for the same pair, or its owner
begins with it in the move. -/
theorem Evolves.begun_by {id : CollectionId} {collection : Collection}
    (evolves : Evolves state event after effects id collection) :
    (∃ old, state.collections.get? id = some old ∧ old.pair = collection.pair ∧
        old.owner = collection.owner) ∨
      id = state.nextCollection ∧ after.nextCollection = state.nextCollection + 1 ∧
        effects = [.ask collection.owner.task
          (.candidates collection.pair.2 collection.pair.1 false) (some state.timeout)] := by
  cases evolves with
  | kept here => exact Or.inl ⟨_, here, rfl, rfl⟩
  | begun next given asked => exact Or.inr ⟨next, given, asked⟩
  | received _ _ here => exact Or.inl ⟨_, here, rfl, rfl⟩
  | refused here => exact Or.inl ⟨_, here, rfl, rfl⟩
  | surveyed here => exact Or.inl ⟨_, here, rfl, rfl⟩

/-- **Whoever works on a collection after a move has begun it.** -/
theorem Move.owned (move : Move now state event after effects) (owned : state.Owned) :
    after.Owned where
  given id collection here := by
    rcases (move.evolves here).begun_by with ⟨old, there, _⟩ | ⟨next, given, _⟩
    · exact Nat.lt_of_lt_of_le (owned.given id old there) move.nextCollection_le
    · rw [next]
      exact Nat.lt_of_lt_of_eq (Nat.lt_succ_self _) given.symm
  errands owner errand working := by
    rcases move.errand_cases working with old | ⟨_, next, given, _⟩
    · exact Nat.lt_of_lt_of_le (owned.errands owner errand old) move.nextCollection_le
    · rw [next]
      exact Nat.lt_of_lt_of_eq (Nat.lt_succ_self _) given.symm
  own owner pair id collection working here := by
    rcases move.errand_cases working with busy | ⟨_, next, _, asks⟩
    · rcases (move.evolves here).begun_by with ⟨old, there, same, whose⟩ | ⟨next, _⟩
      · rw [← same, ← whose]
        exact owned.own owner pair id old busy there
      · exact absurd (next ▸ owned.errands owner _ busy) (Nat.lt_irrefl _)
    · rcases (move.evolves here).begun_by with ⟨old, there, _⟩ | ⟨_, _, asked⟩
      · exact absurd (next ▸ owned.given id old there) (Nat.lt_irrefl _)
      · -- both have asked the one question of the move
        rw [asks] at asked
        obtain ⟨task, query, _⟩ := Effect.ask.inj (List.cons.inj asked).1
        obtain ⟨dst, src, _⟩ := Query.candidates.inj query
        exact ⟨Prod.ext src.symm dst.symm, (Owner.task_inj task).symm⟩

/-- The order of a pass does not change what is worked on. -/
theorem State.Owned.shuffle (owned : state.Owned) (owner : Owner) (order : List Pair) :
    (state.shuffle owner order).Owned := by
  rcases state.shuffle_cases owner order with same | ⟨pass, making, _, same⟩
  · rw [same]
    exact owned
  · rw [same]
    have busy {other : Owner} {errand : Pair × CollectionId}
        (working : (state.setPass owner { pass with remaining := order }).errand? other =
          some errand) : state.errand? other = some errand := by
      rcases errand_of_setPass making working with ⟨rfl, current⟩ | old
      · exact (State.errand?_of_pass? making).trans current
      · exact old
    exact {
      given := owned.given
      errands := fun other errand working => owned.errands other errand (busy working)
      own := fun other pair id collection working => owned.own other pair id collection (busy working) }

end

/-! ### What happens in a course -/

theorem reports_append (history later : List Happening) :
    reports (history ++ later) = reports history ++ reports later := List.filterMap_append

/-- A step has one report at most. -/
theorem reports_step (before : State) (now : Timestamp) (event : Event) :
    reports [⟨before, now, .step event⟩] = (report? ⟨before, now, event⟩).toList := by
  have found : (taken? ⟨before, now, .step event⟩).bind report? = report? ⟨before, now, event⟩ :=
    rfl
  simp only [reports, List.filterMap_cons, List.filterMap_nil, found]
  cases report? ⟨before, now, event⟩ <;> rfl

theorem reportsBy_append (owner : Owner) (history later : List Happening) :
    reportsBy owner (history ++ later) = reportsBy owner history ++ reportsBy owner later := by
  rw [reportsBy, reports_append, List.filter_append]
  rfl

theorem failures_append (reports later : List Report) :
    failures (reports ++ later) = failures reports + failures later := List.countP_append

/-- The reports of one owner and those of the others are all reports. -/
theorem reports_split (owner : Owner) (history : List Happening) :
    (reportsBy owner history ++ reportsByOthers owner history).Perm (reports history) :=
  List.filter_append_perm _ _

/-- **What a pass had before it is what it reports on now and what it has before it then**, unless
it begins just now. -/
theorem outstanding_of_happening {happening : Happening} {owner : Owner} {pass : Pass}
    (fresh : ∀ id, happening.event.beginning? = some id → happening.before.calls.get? id = none)
    (making : happening.after.pass? owner = some pass) :
    (Begins owner happening.after.cache.keys happening ∧
        pass = ⟨happening.after.cache.keys, none⟩) ∨
      ∃ old, happening.before.pass? owner = some old ∧
        old.outstanding.Perm
          ((reportsBy owner [happening]).map (·.pair) ++ pass.outstanding) := by
  obtain ⟨before, now, choice⟩ := happening
  cases choice with
  | shuffle other order => exact Or.inr (outstanding_of_shuffle making)
  | step event =>
    let taken : Occurrence := ⟨before, now, event⟩
    by_cases mine : ∃ report, report? taken = some report ∧ report.owner = owner
    · obtain ⟨report, reported, rfl⟩ := mine
      obtain ⟨_, remaining, collection, old, left⟩ := step_report reported
      have same : some pass = some ⟨remaining, none⟩ := making.symm.trans left
      cases same
      refine Or.inr ⟨_, old, ?_⟩
      have alone : [report].filter (fun other => other.owner = report.owner) = [report] :=
        List.filter_cons_of_pos (decide_eq_true rfl)
      rw [reportsBy, reports_step, reported, Option.toList_some, alone]
      exact .refl _
    · have silent : reportsBy owner [⟨before, now, .step event⟩] = [] := by
        rw [reportsBy, reports_step]
        exact List.filter_eq_nil_iff.mpr fun report member same =>
          mine ⟨report, Option.mem_toList.mp member, of_decide_eq_true same⟩
      rw [silent]
      cases (move_taken taken).making fresh making with
      | kept old => exact Or.inr ⟨pass, old, .refl _⟩
      | begins idle new =>
        subst new
        exact Or.inl ⟨⟨idle, making, rfl⟩, rfl⟩
      | takes old same =>
        subst same
        exact Or.inr ⟨_, old, .refl _⟩
      | @reports pair remaining collection outcome turn old found =>
        have reported : report? taken = some ⟨owner, pair, outcome.isOk⟩ :=
          report?_eq_some.mpr ⟨remaining, collection, outcome, turn, old, found, rfl⟩
        exact absurd ⟨_, reported, rfl⟩ mine

/-- Every step counts its reports. -/
theorem counted_of_happening (happening : Happening) :
    happening.after.tally.refreshes =
        happening.before.tally.refreshes + (reports [happening]).length ∧
      happening.after.tally.refreshFailures = happening.before.tally.refreshFailures +
        failures (reports [happening]) := by
  obtain ⟨before, now, choice⟩ := happening
  cases choice with
  | shuffle owner order =>
    have same : (before.shuffle owner order).tally = before.tally := before.shuffle_tally owner order
    exact ⟨congrArg Tally.refreshes same, congrArg Tally.refreshFailures same⟩
  | step event =>
    let taken : Occurrence := ⟨before, now, event⟩
    rw [reports_step]
    cases reported : report? taken with
    | none => exact tally_unreported reported
    | some report =>
      have counted : (step now event before).1.tally = before.tally.recordRefresh report.succeeded :=
        (step_report reported).1
      refine ⟨congrArg Tally.refreshes counted, (congrArg Tally.refreshFailures counted).trans ?_⟩
      show before.tally.refreshFailures + (if report.succeeded then 0 else 1) = _
      simp only [failures, Option.toList_some, List.countP_singleton, Bool.not_eq_true']
      cases report.succeeded <;> rfl

namespace Course

variable {capacity : Nat} {geolocating : Bool} {timeout interval : Duration}
  {history : List Happening} {state : State}

/-- A call that is under way has begun. -/
theorem begun (course : Course capacity geolocating timeout interval history state) {id : CallId}
    (found : state.calls.get? id ≠ none) :
    ∃ happening ∈ history, happening.event.beginning? = some id := by
  induction course with
  | initial => exact absurd rfl found
  | @step history state course now choice fresh hypothesis =>
    have earlier (old : state.calls.get? id ≠ none) :
        ∃ happening ∈ history ++ [⟨state, now, choice⟩],
          happening.event.beginning? = some id := by
      obtain ⟨happening, member, same⟩ := hypothesis old
      exact ⟨happening, List.mem_append_left _ member, same⟩
    cases choice with
    | step event =>
      rcases (move_step now event state).call_before found with old | begins
      · exact earlier old
      · exact ⟨_, List.mem_append_right _ (List.mem_singleton_self _), begins⟩
    | shuffle owner order =>
      refine earlier ?_
      have found : (state.shuffle owner order).calls.get? id ≠ none := found
      rcases state.shuffle_cases owner order with same | ⟨pass, making, _, same⟩
      · rwa [same] at found
      · rw [same] at found
        exact call_of_setPass making found

/-- A call that begins has a number that no call under way has. -/
theorem free (course : Course capacity geolocating timeout interval history state)
    {position : Nat} {happening : Happening} (here : history[position]? = some happening) :
    ∀ id, happening.event.beginning? = some id → happening.before.calls.get? id = none := by
  intro id begins
  obtain ⟨earlier, fresh⟩ := Automaton.Run.take_and_fresh course here
  refine Classical.byContradiction fun found => ?_
  obtain ⟨other, member, same⟩ := begun earlier found
  exact fresh id begins other member same

/-- What is cached does not expire. -/
theorem lasting (course : Course capacity geolocating timeout interval history state) {pair : Pair}
    {entry : Lru.Entry Bundle} (here : state.cache.slot? pair = some entry) :
    entry.expires = none := by
  induction course generalizing pair entry with
  | initial => cases here
  | @step history state course now choice fresh hypothesis =>
    cases choice with
    | step event =>
      exact (move_step now event state).lasting (fun _ _ old => hypothesis old) here
    | shuffle owner order =>
      have here : (state.shuffle owner order).cache.slot? pair = some entry := here
      rw [State.shuffle_cache] at here
      exact hypothesis here

/-- **Whoever works on a collection has begun it, for the very pair.** -/
theorem owned (course : Course capacity geolocating timeout interval history state) :
    state.Owned := by
  induction course with
  | initial =>
    exact {
      given := fun _ _ here => by cases here
      errands := fun owner _ working => by cases owner <;> cases working
      own := fun _ _ _ _ _ here => by cases here }
  | @step history state course now choice fresh hypothesis =>
    cases choice with
    | step event => exact (move_step now event state).owned hypothesis
    | shuffle owner order => exact hypothesis.shuffle owner order

/-- **Refreshes, and those that fail, are counted by reports.** -/
theorem counted (course : Course capacity geolocating timeout interval history state) :
    state.tally.refreshes = (reports history).length ∧
      state.tally.refreshFailures = failures (reports history) := by
  induction course with
  | initial => exact ⟨rfl, rfl⟩
  | @step history state course now choice fresh hypothesis =>
    obtain ⟨refreshes, failed⟩ := counted_of_happening ⟨state, now, choice⟩
    rw [reports_append, failures_append, List.length_append, ← hypothesis.1, ← hypothesis.2]
    exact ⟨refreshes, failed⟩

/-- **What a pass has reported on, and what it has before it, are the pairs that were cached at its
beginning.** -/
theorem outstanding (course : Course capacity geolocating timeout interval history state)
    {owner : Owner} {pass : Pass} (making : state.pass? owner = some pass) :
    ∃ start pairs, At history start (Begins owner pairs) ∧
      (∀ later other, start < later → ¬ At history later (Begins owner other)) ∧
      pairs.Perm
        ((reportsBy owner (history.drop (start + 1))).map (·.pair) ++ pass.outstanding) := by
  induction course generalizing pass with
  | initial =>
    cases owner with
    | call id => cases making
    | loop id => cases making
  | @step history state course now choice fresh hypothesis =>
    have unused := free (course.step now choice fresh) List.getElem?_concat_length
    rcases outstanding_of_happening unused making with ⟨begins, rfl⟩ | ⟨old, before, permutes⟩
    · refine ⟨history.length, _, At.last begins, fun later other after found => ?_, ?_⟩
      · have bound := found.lt_length
        rw [List.length_append, List.length_singleton] at bound
        omega
      · have none (happening : Happening) :
            (history ++ [happening]).drop (history.length + 1) = [] :=
          List.drop_of_length_le (Nat.le_of_eq List.length_append)
        rw [none]
        exact .refl _
    · obtain ⟨start, pairs, began, last, same⟩ := hypothesis before
      refine ⟨start, pairs, began.append _, fun later other after found => ?_, ?_⟩
      · rcases At.append_singleton found with earlier | ⟨_, idle, _⟩
        · exact last later other after earlier
        · rw [before] at idle
          cases idle
      · rw [List.drop_append_of_le_length began.lt_length, reportsBy_append, List.map_append,
          List.append_assoc]
        exact same.trans (permutes.append_left _)

end Course

/-- What a pass has done between two positions: it has begun over the pairs that were cached, has
reported on each of them once, and with that it has been counted. -/
structure Passed (owner : Owner) (pairs : List Pair) (history : List Happening)
    (start finish : Nat) : Prop where
  begins : At history start (Begins owner pairs)
  /-- It is one pass, not several. -/
  alone : ∀ between other, start < between → between < finish →
    ¬ At history between (Begins owner other)
  reports : ((reportsBy owner ((history.take finish).drop (start + 1))).map (·.pair)).Perm pairs
  /-- Every pair counts as a refresh; whatever else has been counted is what other passes have
  reported on meanwhile. -/
  refreshes : ∀ began ended, history[start]? = some began → history[finish]? = some ended →
    ended.before.tally.refreshes = began.after.tally.refreshes + pairs.length +
      (reportsByOthers owner ((history.take finish).drop (start + 1))).length
  /-- Every pair whose collection has failed counts as a failure. -/
  failures : ∀ began ended, history[start]? = some began → history[finish]? = some ended →
    ended.before.tally.refreshFailures = began.after.tally.refreshFailures +
      failures (reportsBy owner ((history.take finish).drop (start + 1))) +
      failures (reportsByOthers owner ((history.take finish).drop (start + 1)))

namespace Course

variable {capacity : Nat} {geolocating : Bool} {timeout interval : Duration}
  {history : List Happening} {state : State}

/-- **What a course counts between two positions is what has been reported in between.** -/
theorem counted_between (course : Course capacity geolocating timeout interval history state)
    {start finish : Nat} {began ended : Happening} (here : history[start]? = some began)
    (there : history[finish]? = some ended) (before : start < finish) :
    ended.before.tally.refreshes = began.after.tally.refreshes +
        (Atlas.reports ((history.take finish).drop (start + 1))).length ∧
      ended.before.tally.refreshFailures = began.after.tally.refreshFailures +
        Atlas.failures (Atlas.reports ((history.take finish).drop (start + 1))) := by
  have whole : history.take (start + 1) ++ (history.take finish).drop (start + 1) =
      history.take finish := by
    have cut : (history.take finish).take (start + 1) = history.take (start + 1) := by
      rw [List.take_take, Nat.min_eq_left before]
    rw [← cut]
    exact List.take_append_drop ..
  obtain ⟨refreshes, failed⟩ := counted (course.take_succ here)
  obtain ⟨refreshes', failed'⟩ := counted (course.take there)
  rw [refreshes, failed, refreshes', failed', ← whole, reports_append, failures_append,
    List.length_append, whole]
  exact ⟨rfl, rfl⟩

/-- **A pass that comes to its end has reported on every pair that was cached at its beginning.** -/
theorem passed (course : Course capacity geolocating timeout interval history state)
    {owner : Owner} {finish : Nat} (completes : At history finish (Completes owner)) :
    ∃ start pairs, start < finish ∧ Passed owner pairs history start finish := by
  obtain ⟨ended, there, _, making⟩ := completes
  obtain ⟨start, pairs, began, latest, permutes⟩ := outstanding (course.take there) making
  obtain ⟨before, begins⟩ := began.of_take
  have reported : ((reportsBy owner ((history.take finish).drop (start + 1))).map
      (·.pair)).Perm pairs := by
    rw [show Pass.outstanding ⟨[], none⟩ = [] from rfl, List.append_nil] at permutes
    exact permutes.symm
  have split := reports_split owner ((history.take finish).drop (start + 1))
  refine ⟨start, pairs, before, begins, fun between other after sooner found => ?_, reported,
    fun began ended here there => ?_, fun began ended here there => ?_⟩
  · exact latest between other after (found.take sooner)
  · rw [(course.counted_between here there before).1, ← split.length_eq, List.length_append,
      ← reported.length_eq, List.length_map, Nat.add_assoc]
  · rw [(course.counted_between here there before).2, Atlas.failures, ← split.countP_eq,
      List.countP_append, Nat.add_assoc]
    rfl

end Course

end Wayfinder.Atlas
