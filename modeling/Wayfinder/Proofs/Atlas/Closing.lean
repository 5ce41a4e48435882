/-
**Closing.**

A closing call takes the handle of the loop, waits for the loop to end and then closes the oracle.
The handle exists once: another closing call finds none and does not wait, and after a call that
waited has been given up nobody does. So the oracle is closed beside a running loop only if closing
calls overlap, one of them is given up, or the atlas is opened again in between.

* `Excused`: why a loop may still be under way when a closing call closes the oracle;
* `Run.attended`: a loop under way is held, waited for, or was waited for by a call given up;
* `Orderly`: closing calls are left alone;
* `Run.stops_first`: what holds in every run, and in orderly ones;
* `oracle_closed_beside_loop`: what does not hold in the others.
-/

import Wayfinder.Proofs.Atlas.Loops

namespace Wayfinder.Atlas

/-! ### Steps and states of closing -/

/-- The step in which a call asks the oracle to close. -/
def Closes (id : CallId) (taken : Occurrence) : Prop :=
  .ask (.call id) .closeOracle none ∈ taken.effects

/-- The step in which a loop asks the oracle for candidates. -/
def Explores (loop : LoopId) (taken : Occurrence) : Prop :=
  ∃ dst src fresh limit, .ask (.loop loop) (.candidates dst src fresh) limit ∈ taken.effects

/-- The step in which a loop is started. -/
def Starts (loop : LoopId) (taken : Occurrence) : Prop :=
  taken.event = .open ∧ taken.before.loops.get? loop = none ∧
    taken.after.loops.get? loop ≠ none

/-- Whether a closing call waits for a loop. -/
def State.Awaits (state : State) (id : CallId) (loop : LoopId) : Prop :=
  state.calls.get? id = some (.close (.stopping loop))

/-- A call that waited for a loop has been given up. -/
def Deserted (history : List Occurrence) (loop : LoopId) : Prop :=
  ∃ position id, At history position fun taken =>
    taken.event = .cancel id ∧ taken.before.Awaits id loop

/-- A loop has been started while a closing call waited for another one. -/
def Reopened (history : List Occurrence) (id : CallId) (loop : LoopId) : Prop :=
  ∃ position waited, At history position fun taken =>
    Starts loop taken ∧ taken.before.Awaits id waited

/-- Why a loop may still be under way in the step in which a call closes the oracle: another closing
call waits for it, or one that waited has been given up, or the loop was started while this call
waited. -/
def Excused (history : List Occurrence) (position : Nat) (id : CallId) (loop : LoopId) : Prop :=
  (∃ other, other ≠ id ∧ At history position (·.before.Awaits other loop)) ∨
    Deserted (history.take position) loop ∨ Reopened (history.take position) id loop

/-- No closing call is met by another one or by an opening, and none is given up. -/
def Orderly (history : List Occurrence) : Prop :=
  ∀ taken ∈ history, ∀ id stage, taken.before.calls.get? id = some (.close stage) →
    taken.event ≠ .open ∧ (∀ other, taken.event ≠ .close other) ∧ taken.event ≠ .cancel id

section

variable {now : Timestamp} {state after : State} {event : Event} {effects : Effects}

/-! ### What a move does to closing calls -/

/-- How a closing call has come to the stage at which it is after a move. -/
inductive ClosingChange (state : State) (event : Event) (after : State) (id : CallId) :
    Closing → Prop
  | kept {stage : Closing} (here : state.calls.get? id = some (.close stage)) :
      ClosingChange state event after id stage
  | begun (begins : event = .close id) : ClosingChange state event after id .detaching
  | detached {loop : LoopId} (here : state.calls.get? id = some (.close .detaching))
      (gone : after.worker = none) : ClosingChange state event after id (.stopping loop)
  | asked {stage : Closing} (here : state.calls.get? id = some (.close stage)) :
      ClosingChange state event after id .releasing

/-- **A closing call is at the stage at which it was, or it begins, takes the handle or asks the
oracle to close.** -/
theorem Move.closing_change (move : Move now state event after effects) {id : CallId}
    {stage : Closing} (closing : after.calls.get? id = some (.close stage)) :
    ClosingChange state event after id stage := by
  cases move with
  | request | refresh | miss | follow | lead | retry | gather | fail | store | release =>
    rcases Table.get?_of_put closing with ⟨_, differs⟩ | old
    · cases differs
    · exact .kept old
  | close =>
    rcases Table.get?_of_put closing with ⟨rfl, same⟩ | old
    · cases same
      exact .begun rfl
    · exact .kept old
  | detach here =>
    rcases Table.get?_of_put closing with ⟨rfl, same⟩ | old
    · cases same
      exact .detached here rfl
    · exact .kept old
  | closeAtOnce here | closeAfter here =>
    rcases Table.get?_of_put closing with ⟨rfl, same⟩ | old
    · cases same
      exact .asked here
    · exact .kept old
  | hit | hear | publish | complete | giveUp | closed | abandon | withhold | leave | abort
  | resign =>
    exact .kept (Table.get?_of_erase closing)
  | revisit | renew | skip => exact .kept (kept_of_setPass closing fun _ => Call.noConfusion)
  | _ => exact .kept closing

/-- A closing call after a move was one before, or begins with the move. -/
theorem ClosingChange.origin {id : CallId} {stage : Closing}
    (change : ClosingChange state event after id stage) :
    (∃ stage, state.calls.get? id = some (.close stage)) ∨ event = .close id := by
  cases change with
  | kept here => exact Or.inl ⟨_, here⟩
  | begun begins => exact Or.inr begins
  | detached here => exact Or.inl ⟨_, here⟩
  | asked here => exact Or.inl ⟨_, here⟩

/-- A call that waits for a loop after a move waited before, or the handle is gone. -/
theorem Move.awaits_before (move : Move now state event after effects) {id : CallId} {loop : LoopId}
    (awaits : after.Awaits id loop) : state.Awaits id loop ∨ after.worker = none := by
  cases move.closing_change awaits with
  | kept old => exact Or.inl old
  | detached _ gone => exact Or.inr gone

/-- A call that is not changed by a move is where it was. -/
theorem call_stays_put {id other : CallId} {call old new : Call}
    (here : state.calls.get? id = some call) (there : state.calls.get? other = some old)
    (differs : old ≠ call) : (state.calls.put other new).get? id = some call := by
  refine Table.get?_put_of_differs here (fun same => differs ?_) new
  exact Option.some.inj (there.symm.trans same)

theorem call_stays_erase {id other : CallId} {call old : Call}
    (here : state.calls.get? id = some call) (there : state.calls.get? other = some old)
    (differs : old ≠ call) : (state.calls.erase other).get? id = some call := by
  refine Table.get?_erase_of_differs here fun same => differs ?_
  exact Option.some.inj (there.symm.trans same)

theorem call_stays_fresh {id other : CallId} {call new : Call}
    (here : state.calls.get? id = some call) (free : state.calls.get? other = none) :
    (state.calls.put other new).get? id = some call := by
  refine Table.get?_put_of_differs here (fun same => ?_) new
  rw [free] at same
  cases same

theorem close_stays_setPass {owner : Owner} {old pass : Pass}
    (making : state.pass? owner = some old) {id : CallId} {stage : Closing}
    (here : state.calls.get? id = some (.close stage)) :
    (state.setPass owner pass).calls.get? id = some (.close stage) := by
  rcases State.setPass_cases pass making with
    ⟨other, rfl, there, same⟩ | ⟨loop, running, rfl, _, _, same⟩
  · rw [same]
    exact call_stays_put here there Call.noConfusion
  · rw [same]
    exact here

/-- **A call that waits for a loop goes on waiting, unless it is given up or the loop is over.** -/
theorem Move.awaits_after (move : Move now state event after effects)
    (free : ∀ id, event.beginning? = some id → state.calls.get? id = none) {id : CallId}
    {loop : LoopId} (awaits : state.Awaits id loop) :
    after.Awaits id loop ∨ event = .cancel id ∨ state.Over loop := by
  have here : state.calls.get? id = some (.close (.stopping loop)) := awaits
  cases move with
  | request | refresh | close => exact Or.inl (call_stays_fresh here (free _ rfl))
  | miss there | follow there | lead there | retry there | gather there | fail there
  | store there | release there =>
    exact Or.inl (call_stays_put here there Call.noConfusion)
  | detach there | closeAtOnce there =>
    exact Or.inl (call_stays_put here there fun same => Closing.noConfusion (Call.close.inj same))
  | hit there | hear there | publish there | complete there | abandon there | withhold there
  | leave there | abort there =>
    exact Or.inl (call_stays_erase here there Call.noConfusion)
  | closed there =>
    exact Or.inl (call_stays_erase here there fun same => Closing.noConfusion (Call.close.inj same))
  | @closeAfter other waited stopped there found ended =>
    by_cases same : waited = loop
    · subst same
      refine Or.inr (Or.inr ⟨stopped, found, ?_⟩)
      rw [Heartbeat.isOver, ended]
      rfl
    · refine Or.inl (call_stays_put here there fun equal => same ?_)
      exact Closing.stopping.inj (Call.close.inj equal)
  | @giveUp other waited stopped there found crashed =>
    by_cases same : waited = loop
    · subst same
      refine Or.inr (Or.inr ⟨stopped, found, ?_⟩)
      rw [Heartbeat.isOver, crashed]
      rfl
    · refine Or.inl (call_stays_erase here there fun equal => same ?_)
      exact Closing.stopping.inj (Call.close.inj equal)
  | @resign other stage there =>
    by_cases same : other = id
    · exact Or.inr (Or.inl (congrArg Event.cancel same))
    · refine Or.inl ?_
      show (state.calls.erase other).get? id = some (.close (.stopping loop))
      rw [Table.get?_erase, if_neg same]
      exact here
  | revisit making => exact Or.inl (close_stays_setPass making here)
  | renew making => exact Or.inl (close_stays_setPass making here)
  | skip making => exact Or.inl (close_stays_setPass making here)
  | _ => exact Or.inl here

/-- The handle that is held was held before, or its loop is started. -/
theorem Move.worker_before (move : Move now state event after effects) {loop : LoopId}
    (held : after.worker = some loop) :
    state.worker = some loop ∨ event = .open ∧ state.worker = none ∧ loop = state.nextLoop := by
  cases move with
  | start free => exact Or.inr ⟨rfl, free, (Option.some.inj held).symm⟩
  | detach | closeAtOnce => cases held
  | _ => exact Or.inl held

/-- The handle that was held is held, or a closing call has taken it. -/
theorem Move.worker_after (move : Move now state event after effects) {loop : LoopId}
    (held : state.worker = some loop) (active : state.Active loop) :
    after.worker = some loop ∨ ∃ id, after.Awaits id loop := by
  cases move with
  | start free =>
    rw [free] at held
    cases held
  | @detach id other running here there found =>
    rw [there] at held
    cases held
    exact Or.inr ⟨id, Table.get?_put_self ..⟩
  | closeAtOnce here bare =>
    obtain ⟨running, found, _⟩ := active
    rw [held, Option.bind_some, found] at bare
    cases bare
  | _ => exact Or.inl held

theorem State.not_over_of_active {loop : LoopId} (active : state.Active loop) :
    ¬ state.Over loop := by
  rintro ⟨other, there, finished⟩
  obtain ⟨running, here, waiting⟩ := active
  rw [here] at there
  cases there
  rw [waiting] at finished
  cases finished

end

/-- Who closes the oracle has found no handle, or has waited for a loop that has ended. -/
theorem closes_cases {id : CallId} {taken : Occurrence} (closes : Closes id taken) :
    taken.event = .proceed (.call id) ∧
      (taken.before.calls.get? id = some (.close .detaching) ∧
          taken.before.worker.bind taken.before.loops.get? = none ∨
        ∃ loop, taken.before.Awaits id loop ∧ taken.before.Over loop) := by
  have asks := (move_taken taken).asks closes
  generalize asker : Task.call id = task at asks
  generalize asked : Query.closeOracle = query at asks
  cases asks with
  | lead | revisit | survey => cases asked
  | closeAtOnce turn here bare =>
    cases asker
    exact ⟨turn, Or.inl ⟨here, bare⟩⟩
  | closeAfter turn here found ended =>
    cases asker
    refine ⟨turn, Or.inr ⟨_, here, _, found, ?_⟩⟩
    rw [Heartbeat.isOver, ended]
    rfl

/-- A loop that asks for candidates is in the middle of a pass. -/
theorem passing_of_explores {loop : LoopId} {taken : Occurrence} (explores : Explores loop taken) :
    taken.before.Passing loop := by
  obtain ⟨dst, src, fresh, limit, asked⟩ := explores
  have asks := (move_taken taken).asks asked
  generalize asker : Task.loop loop = task at asks
  cases asks with
  | lead => cases asker
  | @revisit owner pair remaining turn making =>
    have same : owner = .loop loop := Owner.task_inj asker.symm
    subst same
    obtain ⟨running, here, passing⟩ := Option.bind_eq_some_iff.mp making
    refine ⟨running, here, ?_⟩
    rw [passing]
    exact Option.some_ne_none _

namespace Run

variable {capacity : Nat} {geolocating : Bool} {timeout interval : Duration}
  {history : List Occurrence} {state : State}

/-! ### Loops under way -/

/-- Opening an atlas without a handle starts a loop and takes its handle. -/
theorem starts (run : Run capacity geolocating timeout interval history state)
    (free : state.worker = none) (now : Timestamp) :
    Starts state.nextLoop ⟨state, now, .open⟩ ∧
      (step now .open state).1.worker = some state.nextLoop := by
  have opened : (step now .open state).1 = { state with
      loops := state.loops.put state.nextLoop { beat := .start state.interval now }
      nextLoop := state.nextLoop + 1
      worker := some state.nextLoop } := by
    simp only [step, State.open, free]
  refine ⟨⟨rfl, ?_, ?_⟩, by rw [opened]⟩
  · cases found : state.loops.get? state.nextLoop with
    | none => rfl
    | some loop => exact absurd (run.loop_lt found) (Nat.lt_irrefl _)
  · show (step now .open state).1.loops.get? state.nextLoop ≠ none
    rw [opened, Table.get?_put_self]
    exact Option.some_ne_none _

/-- **A loop under way is held, or a closing call waits for it, or one that waited has been given
up.** -/
theorem attended (run : Run capacity geolocating timeout interval history state) {loop : LoopId}
    (active : state.Active loop) :
    state.worker = some loop ∨ (∃ id, state.Awaits id loop) ∨ Deserted history loop := by
  induction run with
  | initial =>
    obtain ⟨_, here, _⟩ := active
    cases here
  | @step history state run now event fresh hypothesis =>
    have move := move_step now event state
    rcases active_before run active with active | ⟨rfl, free, rfl⟩
    · rcases hypothesis active with held | ⟨id, awaits⟩ | ⟨position, id, found⟩
      · rcases move.worker_after held active with held | awaits
        · exact Or.inl held
        · exact Or.inr (Or.inl awaits)
      · rcases move.awaits_after (fun _ begins => Run.free run fresh begins) awaits with
          awaits | rfl | finished
        · exact Or.inr (Or.inl ⟨id, awaits⟩)
        · exact Or.inr (Or.inr ⟨_, id, At.last ⟨rfl, awaits⟩⟩)
        · exact absurd finished (State.not_over_of_active active)
      · exact Or.inr (Or.inr ⟨position, id, found.append _⟩)
    · exact Or.inl (starts run free now).2

/-- A handle that is held while a closing call waits belongs to a loop started in the meantime. -/
theorem reopened (run : Run capacity geolocating timeout interval history state) {id : CallId}
    {waited loop : LoopId} (awaits : state.Awaits id waited) (held : state.worker = some loop) :
    Reopened history id loop := by
  induction run with
  | initial => cases held
  | @step history state run now event fresh hypothesis =>
    have move := move_step now event state
    rcases move.awaits_before awaits with waits | gone
    · rcases move.worker_before held with held | ⟨rfl, free, rfl⟩
      · obtain ⟨position, other, found⟩ := hypothesis waits held
        exact ⟨position, other, found.append _⟩
      · exact ⟨_, waited, At.last ⟨(starts run free now).1, waits⟩⟩
    · have differs := held.symm.trans gone
      cases differs

/-- **A loop still under way when a call closes the oracle is excused.** -/
theorem excused (run : Run capacity geolocating timeout interval history state) {position : Nat}
    {id : CallId} {loop : LoopId} (found : At history position fun taken =>
      Closes id taken ∧ taken.before.Active loop) : Excused history position id loop := by
  obtain ⟨taken, here, closes, active⟩ := found
  have earlier := run.take here
  rcases attended earlier active with held | ⟨other, awaits⟩ | deserted
  · obtain ⟨_, ⟨_, bare⟩ | ⟨waited, awaits, _⟩⟩ := closes_cases closes
    · obtain ⟨running, there, _⟩ := active
      rw [held, Option.bind_some, there] at bare
      cases bare
    · exact Or.inr (Or.inr (reopened earlier awaits held))
  · refine Or.inl ⟨other, ?_, taken, here, awaits⟩
    rintro rfl
    obtain ⟨_, ⟨detaching, _⟩ | ⟨waited, waits, finished⟩⟩ := closes_cases closes
    · have differs := detaching.symm.trans awaits
      cases differs
    · have same := waits.symm.trans awaits
      cases same
      exact State.not_over_of_active active finished
  · exact Or.inr (Or.inl deserted)

/-- **A loop that asks for candidates after the oracle has been closed was under way then, or has
been started since.** -/
theorem lingering (run : Run capacity geolocating timeout interval history state)
    {closed asked : Nat} {id : CallId} {loop : LoopId} (before : closed < asked)
    (closes : At history closed (Closes id)) (explores : At history asked (Explores loop)) :
    At history closed (·.before.Active loop) ∨
      ∃ started, closed < started ∧ started < asked ∧ At history started (Starts loop) := by
  obtain ⟨closing, here, closes⟩ := closes
  obtain ⟨asking, there, explores⟩ := explores
  have earlier := run.take there
  have passing := passing_of_explores explores
  cases found : closing.before.loops.get? loop with
  | some running =>
    cases waiting : running.beat.isOver with
    | false => exact Or.inl ⟨closing, here, running, found, waiting⟩
    | true =>
      -- a loop that is over makes no pass any more
      exfalso
      let holds : State → Prop := fun state => state.Over loop
      have finished : At history closed (holds ·.after) :=
        ⟨closing, here, over_stays (run.take here) ⟨running, found, waiting⟩⟩
      have stays := run.stays finished fun _ later _ next still => over_stays (run.take next) still
      exact State.not_over_of_active (active_of_passing earlier passing)
        (stays.1 asked asking before there)
  | none =>
    let holds : State → Prop := fun state => state.loops.get? loop ≠ none
    have absent : ¬ holds (.initial capacity geolocating timeout interval) := fun some => some rfl
    have present : holds asking.before := by
      obtain ⟨running, there, _⟩ := passing
      show asking.before.loops.get? loop ≠ none
      rw [there]
      exact Option.some_ne_none _
    obtain ⟨started, appears, since⟩ := earlier.brought_about absent present
    obtain ⟨sooner, start, between, missing, appears⟩ := appears.of_take
    have gone : start.before.loops.get? loop = none := Classical.not_not.mp missing
    have opens : start.event = .open := (move_taken start).opens_of_appears gone appears
    refine Or.inr ⟨started, ?_, sooner, start, between, opens, gone, appears⟩
    rcases Nat.lt_trichotomy closed started with later | same | earlier
    · exact later
    · subst same
      rw [here] at between
      cases between
      rw [(closes_cases closes).1] at opens
      cases opens
    · exfalso
      have inside : (history.take asked)[closed]? = some closing := by
        rw [List.getElem?_take_of_lt before, here]
      exact (since closed closing earlier inside).1 found

/-! ### Orderly runs -/

/-- While closing calls are left alone there is one at a time. -/
theorem single (run : Run capacity geolocating timeout interval history state)
    (orderly : Orderly history) {id other : CallId} {stage stage' : Closing}
    (closing : state.calls.get? id = some (.close stage))
    (closing' : state.calls.get? other = some (.close stage')) : id = other := by
  induction run generalizing stage stage' with
  | initial => cases closing
  | @step history state run now event fresh hypothesis =>
    have before : Orderly history :=
      fun taken member => orderly taken (List.mem_append_left _ member)
    have alone := orderly _ (List.mem_append_right history (List.mem_singleton_self _))
    have move := move_step now event state
    rcases (move.closing_change closing).origin with ⟨old, there⟩ | begins
    · rcases (move.closing_change closing').origin with ⟨old', there'⟩ | begins'
      · exact hypothesis before there there'
      · exact absurd begins' ((alone id old there).2.1 other)
    · rcases (move.closing_change closing').origin with ⟨old', there'⟩ | begins'
      · exact absurd begins ((alone other old' there').2.1 id)
      · exact Event.close.inj (begins.symm.trans begins')

/-- **In an orderly run no loop is under way when a call closes the oracle.** -/
theorem quiet (run : Run capacity geolocating timeout interval history state)
    (orderly : Orderly history) {position : Nat} {id : CallId} {loop : LoopId}
    (closes : At history position (Closes id)) : ¬ At history position (·.before.Active loop) := by
  intro active
  obtain ⟨taken, here, closing⟩ := closes
  obtain ⟨stage, mine⟩ : ∃ stage, taken.before.calls.get? id = some (.close stage) := by
    obtain ⟨_, ⟨detaching, _⟩ | ⟨waited, waits, _⟩⟩ := closes_cases closing
    · exact ⟨_, detaching⟩
    · exact ⟨_, waits⟩
  have before : Orderly (history.take position) :=
    fun taken member => orderly taken (List.mem_of_mem_take member)
  rcases run.excused (At.and ⟨taken, here, closing⟩ active) with
    ⟨other, differs, found⟩ | ⟨_, other, resigned⟩ | ⟨_, waited, reopened⟩
  · obtain ⟨same, there, awaits⟩ := found
    rw [here] at there
    cases there
    exact differs (single (run.take here) before awaits mine)
  · obtain ⟨same, there, cancels, awaits⟩ := resigned
    exact (before same (List.mem_of_getElem? there) other _ awaits).2.2 cancels
  · obtain ⟨same, there, ⟨opens, _⟩, awaits⟩ := reopened
    exact (before same (List.mem_of_getElem? there) id _ awaits).1 opens

end Run

/-! ### Closing in every run -/

/-- The loop is stopped before the oracle is closed, as far as that is so. -/
structure StopsFirst (history : List Occurrence) : Prop where
  /-- A loop that is still under way when a call closes the oracle is one that another closing call
  waits for, or that was waited for by a call that has been given up, or one that was started while
  this call waited. -/
  excused : ∀ position id loop, (At history position fun taken =>
    Closes id taken ∧ taken.before.Active loop) → Excused history position id loop
  /-- A loop that asks for candidates after the oracle has been closed was still under way then, or
  has been started since. -/
  lingering : ∀ closed asked id loop, closed < asked → At history closed (Closes id) →
    At history asked (Explores loop) → At history closed (·.before.Active loop) ∨
      ∃ started, closed < started ∧ started < asked ∧ At history started (Starts loop)
  /-- As long as closing calls are left alone, no loop is in the middle of a pass when the oracle is
  closed. -/
  quiet : Orderly history → ∀ position id loop, At history position (Closes id) →
    ¬ At history position (·.before.Passing loop)
  /-- As long as closing calls are left alone, no loop asks for candidates after the oracle has been
  closed, unless it has been started since. -/
  silent : Orderly history → ∀ closed asked id loop, closed < asked →
    At history closed (Closes id) → At history asked (Explores loop) →
      ∃ started, closed < started ∧ started < asked ∧ At history started (Starts loop)

/-- **In every run the loop is stopped before the oracle is closed, as far as that is so.** -/
theorem Run.stops_first {capacity : Nat} {geolocating : Bool} {timeout interval : Duration}
    {history : List Occurrence} {state : State}
    (run : Run capacity geolocating timeout interval history state) : StopsFirst history where
  excused := fun _ _ _ found => run.excused found
  lingering := fun _ _ _ _ before closes explores => run.lingering before closes explores
  quiet := by
    rintro orderly position id loop closes ⟨taken, here, passing⟩
    exact run.quiet orderly closes ⟨taken, here, active_of_passing (run.take here) passing⟩
  silent := by
    intro orderly closed asked id loop before closes explores
    rcases run.lingering before closes explores with active | started
    · exact absurd active (run.quiet orderly closes)
    · exact started

/-! ### Closing once and twice -/

/-- The steps of a call that fetches a bundle for a pair without candidates. -/
def fetching (id : CallId) (query : MetadataQuery) : List (Timestamp × Event) :=
  [(0, .fetch id query), (0, .proceed (.call id)), (0, .proceed (.call id)),
    (0, .answer (.call id) (.candidates (.ok []))), (0, .proceed (.call id)),
    (0, .proceed (.call id)), (0, .proceed (.call id)), (0, .proceed (.call id))]

/-- The atlas is closed while the loop is in the middle of a pass, and waits for it. -/
def closedOnce : List Occurrence :=
  automaton.replay (.initial 4 false 1000 60) <|
    (0, .open) :: fetching 0 { src := "7-70", dst := "7-71" } ++
      [(60, .proceed (.loop 0)), (60, .proceed (.loop 0)), (60, .close 1),
        (60, .proceed (.call 1)), (60, .proceed (.call 1)),
        (70, .answer (.loop 0) (.candidates (.ok []))), (70, .proceed (.loop 0)),
        (70, .proceed (.loop 0)), (70, .proceed (.loop 0)), (70, .proceed (.call 1))]

/-- Whether a step disturbs a closing call. -/
def Disturbs (taken : Occurrence) : Bool :=
  taken.before.calls.entries.any fun (id, call) =>
    match call, taken.event with
    | .close _, .open | .close _, .close _ => true
    | .close _, .cancel other => other == id
    | _, _ => false

/-- Whether closing calls are left alone can be checked step by step. -/
theorem orderly_of_all {history : List Occurrence}
    (undisturbed : history.all (fun taken => !Disturbs taken) = true) : Orderly history := by
  intro taken member id stage closing
  have calm := List.all_eq_true.mp undisturbed taken member
  have entry := Table.mem_entries_of_get? closing
  have still : Disturbs taken = false := by simpa using calm
  unfold Disturbs at still
  have mine := List.any_eq_false.mp still _ entry
  refine ⟨fun opens => ?_, fun other closes => ?_, fun cancels => ?_⟩
  · simp [opens] at mine
  · simp [closes] at mine
  · simp [cancels] at mine

/-- When the atlas is closed once, in the middle of a pass, the oracle is closed after the pass. -/
theorem stops_first_once : Orderly closedOnce ∧ At closedOnce 18 (Closes 1) ∧
    ¬ At closedOnce 18 (·.before.Passing 0) := by
  have orderly : Orderly closedOnce := orderly_of_all (by decide +kernel)
  have closes : At closedOnce 18 (Closes 1) := ⟨_, rfl, List.mem_singleton_self _⟩
  have run : Run 4 false 1000 60 closedOnce _ := Automaton.Run.of_replay automaton _ _ (by decide)
  exact ⟨orderly, closes, run.stops_first.quiet orderly 18 1 0 closes⟩

/-- Two pairs are cached, and the loop is in the middle of its pass over them when the atlas is
closed twice. -/
def closedTwice : List Occurrence :=
  automaton.replay (.initial 4 false 1000 60) <|
    (0, .open) :: fetching 0 { src := "7-70", dst := "7-71" } ++
      fetching 1 { src := "7-70", dst := "7-72" } ++
      [(60, .proceed (.loop 0)), (60, .proceed (.loop 0)), (60, .close 2),
        (60, .proceed (.call 2)), (60, .close 3), (60, .proceed (.call 3)),
        (70, .answer (.loop 0) (.candidates (.ok []))), (70, .proceed (.loop 0)),
        (70, .proceed (.loop 0))]

theorem closedTwice_run : ∃ state, Run 4 false 1000 60 closedTwice state :=
  ⟨_, Automaton.Run.of_replay automaton _ _ (by decide)⟩

/-- The second closing call finds no handle. -/
theorem closedTwice_closes : At closedTwice 22 (Closes 3) :=
  ⟨_, rfl, List.mem_singleton_self _⟩

theorem closedTwice_passing : At closedTwice 22 (·.before.Passing 0) :=
  ⟨_, rfl, _, rfl, Option.some_ne_none _⟩

set_option maxRecDepth 2000 in
/-- The pass goes on after that. -/
theorem closedTwice_explores : At closedTwice 25 (Explores 0) :=
  ⟨_, rfl, _, _, _, _, List.mem_singleton_self _⟩

/-- **When closing calls overlap, the oracle can be closed while a loop is in the middle of a pass,
and the loop can go on asking it.** -/
theorem oracle_closed_beside_loop :
    (¬ ∀ history state, Run 4 false 1000 60 history state → ∀ position id loop,
      At history position (Closes id) → ¬ At history position (·.before.Passing loop)) ∧
    ¬ ∀ history state, Run 4 false 1000 60 history state → ∀ closed asked id loop,
      closed < asked → At history closed (Closes id) → At history asked (Explores loop) →
        ∃ started, closed < started ∧ started < asked ∧ At history started (Starts loop) := by
  obtain ⟨state, run⟩ := closedTwice_run
  refine ⟨fun quiet => ?_, fun silent => ?_⟩
  · exact quiet closedTwice state run 22 3 0 closedTwice_closes closedTwice_passing
  · obtain ⟨started, after, before, starts⟩ := silent closedTwice state run 22 25 3 0 (by decide)
      closedTwice_closes closedTwice_explores
    -- the loop is there all the time
    have missing : At closedTwice started fun taken =>
        (taken.before.loops.get? 0).isNone = true :=
      starts.mono fun taken starts => by rw [starts.2.1]; rfl
    rcases (by omega : started = 23 ∨ started = 24) with rfl | rfl
    · exact absurd missing (by decide +kernel)
    · exact absurd missing (by decide +kernel)

end Wayfinder.Atlas
