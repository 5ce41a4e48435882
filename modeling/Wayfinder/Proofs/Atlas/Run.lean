/-
**Runs of the atlas.**

The atlas as an automaton: calls begin, go on, are answered and are given up, loops and surveys get
their turns, in any order and at any instants. The one condition is that every call has a number of
its own.

* `automaton`, `Run`: the runs of an atlas without bundles;
* `State.pass?_eq_some`, `State.setPass_cases`: passes are made by calls and by loops;
* `Move.asks`: who asks which questions;
* `Run.free`: a call that begins has a number that no call under way has.
-/

import Wayfinder.Proofs.Atlas.Move

namespace Wayfinder.Atlas

/-- The number of the call that an event begins. -/
def Event.beginning? : Event → Option CallId
  | .fetch id _ | .refresh id | .close id => some id
  | _ => none

/-- The atlas as an automaton. -/
def automaton : Automaton State Event Effects := ⟨step, Event.beginning?⟩

/-- A step that was taken. -/
abbrev Occurrence := automaton.Occurrence

/-- The runs of an atlas without bundles. -/
abbrev Run (capacity : Nat) (geolocating : Bool) (timeout interval : Duration) :
    List Occurrence → State → Prop :=
  automaton.Run (.initial capacity geolocating timeout interval)

/-- A step that was taken is a move. -/
theorem move_taken (taken : Occurrence) :
    Move taken.now taken.before taken.event taken.after taken.effects :=
  move_step taken.now taken.event taken.before

/-- The tasks of two owners differ. -/
theorem Owner.task_inj {owner owner' : Owner} (same : owner.task = owner'.task) :
    owner = owner' := by
  cases owner <;> cases owner' <;> cases same <;> rfl

section

variable {now : Timestamp} {state after : State} {event : Event} {effects : Effects}

/-! ### Calls under way -/

/-- Who makes a pass is a call that is under way, or a loop that exists. -/
theorem State.pass?_eq_some {owner : Owner} {pass : Pass} (making : state.pass? owner = some pass) :
    (∃ id, owner = .call id ∧ state.calls.get? id = some (.refresh pass)) ∨
      ∃ id loop, owner = .loop id ∧ state.loops.get? id = some loop ∧ loop.pass = some pass := by
  cases owner with
  | call id =>
    refine Or.inl ⟨id, rfl, ?_⟩
    simp only [State.pass?] at making
    split at making
    · next same =>
      cases making
      exact same
    · cases making
  | loop id =>
    obtain ⟨loop, here, passing⟩ := Option.bind_eq_some_iff.mp making
    exact Or.inr ⟨id, loop, rfl, here, passing⟩

/-- Going on with a pass changes the call or the loop that makes it, and nothing else. -/
theorem State.setPass_cases (pass : Pass) {owner : Owner} {old : Pass}
    (making : state.pass? owner = some old) :
    (∃ id, owner = .call id ∧ state.calls.get? id = some (.refresh old) ∧
        state.setPass owner pass =
          { state with calls := state.calls.put id (.refresh pass) }) ∨
      ∃ id loop, owner = .loop id ∧ state.loops.get? id = some loop ∧ loop.pass = some old ∧
        state.setPass owner pass =
          { state with loops := state.loops.put id { loop with pass := some pass } } := by
  rcases State.pass?_eq_some making with ⟨id, rfl, here⟩ | ⟨id, loop, rfl, here, passing⟩
  · exact Or.inl ⟨id, rfl, here, rfl⟩
  · exact Or.inr ⟨id, loop, rfl, here, passing, by simp only [State.setPass, here]⟩

/-- A call after a call has changed is that one, or was under way before. -/
theorem call_of_put {id other : CallId} {call : Call}
    (changed : after.calls = state.calls.put id call)
    (known : state.calls.get? id ≠ none ∨ event.beginning? = some id)
    (found : after.calls.get? other ≠ none) :
    state.calls.get? other ≠ none ∨ event.beginning? = some other := by
  rw [changed, Table.get?_put] at found
  by_cases same : id = other
  · subst same
    exact known
  · rw [if_neg same] at found
    exact Or.inl found

theorem call_of_erase {id other : CallId} (changed : after.calls = state.calls.erase id)
    (found : after.calls.get? other ≠ none) : state.calls.get? other ≠ none := by
  rw [changed, Table.get?_erase] at found
  split at found
  · exact absurd rfl found
  · exact found

theorem call_of_setPass {owner : Owner} {pass old : Pass} {other : CallId}
    (making : state.pass? owner = some old)
    (found : (state.setPass owner pass).calls.get? other ≠ none) :
    state.calls.get? other ≠ none := by
  rcases State.setPass_cases pass making with ⟨id, rfl, here, same⟩ | ⟨id, loop, rfl, _, _, same⟩
  · rw [same, Table.get?_put] at found
    split at found
    · next same =>
      rw [← same, here]
      exact Option.some_ne_none _
    · exact found
  · rw [same] at found
    exact found

/-- Going on with a pass changes refreshing calls only. -/
theorem kept_of_setPass {owner : Owner} {pass : Pass} {id : CallId} {call : Call}
    (found : (state.setPass owner pass).calls.get? id = some call)
    (differs : ∀ pass, call ≠ .refresh pass) : state.calls.get? id = some call := by
  cases owner with
  | call other =>
    rcases Table.get?_of_put found with ⟨_, same⟩ | old
    · exact absurd same.symm (differs pass)
    · exact old
  | loop other => exact found

/-- A call under way after a move was so before, or begins with it. -/
theorem Move.call_before (move : Move now state event after effects) {id : CallId}
    (found : after.calls.get? id ≠ none) :
    state.calls.get? id ≠ none ∨ event.beginning? = some id := by
  have known {other : CallId} {call : Call} (here : state.calls.get? other = some call) :
      state.calls.get? other ≠ none ∨ event.beginning? = some other := by
    rw [here]
    exact Or.inl (Option.some_ne_none call)
  cases move with
  | request | refresh | close => exact call_of_put rfl (Or.inr rfl) found
  | miss here | follow here | lead here | retry here | gather here | fail here | store here
  | release here | detach here | closeAtOnce here | closeAfter here =>
    exact call_of_put rfl (known here) found
  | hit | hear | publish | complete | giveUp | closed | abandon | withhold | leave | abort
  | resign =>
    exact Or.inl (call_of_erase rfl found)
  | revisit making => exact Or.inl (call_of_setPass making found)
  | renew making => exact Or.inl (call_of_setPass making found)
  | skip making => exact Or.inl (call_of_setPass making found)
  | _ => exact Or.inl found

/-! ### Questions -/

/-- Who asks which question in a step, and why. -/
inductive Asks (state : State) (event : Event) : Task → Query → Prop
  | lead {id : CallId} {pair : Pair} (turn : event = .proceed (.call id))
      (here : state.calls.get? id = some (.fetch pair .joining))
      (unmarked : state.markers.get? pair = none) :
      Asks state event (.call id) (.candidates pair.2 pair.1 false)
  | revisit {owner : Owner} {pair : Pair} {remaining : List Pair}
      (turn : event = .proceed owner.task)
      (here : state.pass? owner = some ⟨pair :: remaining, none⟩) :
      Asks state event owner.task (.candidates pair.2 pair.1 false)
  | survey {id : CollectionId} {position : Nat} {place : Coordinates} :
      Asks state event (.survey id position) (.countries place)
  | closeAtOnce {id : CallId} (turn : event = .proceed (.call id))
      (here : state.calls.get? id = some (.close .detaching))
      (bare : state.worker.bind state.loops.get? = none) :
      Asks state event (.call id) .closeOracle
  | closeAfter {id : CallId} {loop : LoopId} {stopped : Loop}
      (turn : event = .proceed (.call id))
      (here : state.calls.get? id = some (.close (.stopping loop)))
      (found : state.loops.get? loop = some stopped) (ended : stopped.beat.phase = .ended) :
      Asks state event (.call id) .closeOracle

theorem not_ask_of_map {μ : Type} {items : List μ} {wakes : μ → Task} {task : Task} {query : Query}
    {limit : Option Duration}
    (asked : Effect.ask task query limit ∈
      (items.map fun item => .rouse (wakes item) : Effects)) : False := by
  obtain ⟨_, _, same⟩ := List.mem_map.mp asked
  cases same

/-- **Questions are asked by calls that lead, by passes, by surveys and by closing calls.** -/
theorem Move.asks (move : Move now state event after effects) {task : Task} {query : Query}
    {limit : Option Duration} (asked : .ask task query limit ∈ effects) :
    Asks state event task query := by
  cases move with
  | start | refuse | request | refresh | close | hit | hear | complete | rest | giveUp | closed =>
    cases List.mem_singleton.mp asked
  | miss | follow | retry | gather | fail | store | release | renew | skip | depart | refused
  | leave | abort | resign | idle =>
    cases asked
  | lead here unmarked =>
    cases List.mem_singleton.mp asked
    exact .lead rfl here unmarked
  | revisit making =>
    cases List.mem_singleton.mp asked
    exact .revisit rfl making
  | closeAtOnce here bare =>
    cases List.mem_singleton.mp asked
    exact .closeAtOnce rfl here bare
  | closeAfter here found ended =>
    cases List.mem_singleton.mp asked
    exact .closeAfter rfl here found ended
  | publish =>
    rcases List.mem_append.mp asked with told | finished
    · exact (not_ask_of_map told).elim
    · cases List.mem_singleton.mp finished
  | abandon => exact (not_ask_of_map asked).elim
  | withhold => exact (not_ask_of_map asked).elim
  | stop => exact (not_ask_of_map asked).elim
  | receive => exact (not_ask_of_map asked).elim
  | detach =>
    rcases List.mem_cons.mp asked with same | later
    · cases same
    · cases List.mem_singleton.mp later
  | survey here surveying found turn =>
    rcases List.mem_append.mp asked with roused | question
    · unfold settle at roused
      simp only at roused
      split at roused
      · cases List.mem_singleton.mp roused
      · cases roused
    · cases turn with
      | ask =>
        cases List.mem_singleton.mp question
        exact .survey
      | finish | learn | breakDown => cases question

/-! ### Whom a step concerns -/

/-- The call whose task it is. -/
def Task.caller? : Task → Option CallId
  | .call id => some id
  | .loop _ | .survey _ _ => none

/-- The call that an event is about. -/
def Event.caller? : Event → Option CallId
  | .open => none
  | .fetch id _ | .refresh id | .close id | .cancel id => some id
  | .proceed task | .answer task _ => task.caller?

/-- Going on with a pass does not change the calls that do not make it. -/
theorem call_kept_of_setPass {owner : Owner} {pass : Pass} {id : CallId}
    (apart : owner.task.caller? ≠ some id) :
    (state.setPass owner pass).calls.get? id = state.calls.get? id := by
  cases owner with
  | call other =>
    show (state.calls.put other (.refresh pass)).get? id = state.calls.get? id
    rw [Table.get?_put, if_neg fun same => apart (congrArg some same)]
  | loop other => rfl

/-- **A call is where it was after the steps that are not about it.** -/
theorem Move.call_kept (move : Move now state event after effects) {id : CallId}
    (apart : event.caller? ≠ some id) : after.calls.get? id = state.calls.get? id := by
  have put {other : CallId} {call : Call} (apart : some other ≠ some id) :
      (state.calls.put other call).get? id = state.calls.get? id := by
    rw [Table.get?_put, if_neg fun same => apart (congrArg some same)]
  have erase {other : CallId} (apart : some other ≠ some id) :
      (state.calls.erase other).get? id = state.calls.get? id := by
    rw [Table.get?_erase, if_neg fun same => apart (congrArg some same)]
  cases move with
  | request | refresh | close | miss | follow | lead | retry | gather | fail | store | release
  | detach | closeAtOnce | closeAfter =>
    exact put apart
  | hit | hear | publish | complete | giveUp | closed | abandon | withhold | leave | abort
  | resign =>
    exact erase apart
  | revisit making => exact call_kept_of_setPass apart
  | renew making => exact call_kept_of_setPass apart
  | skip making => exact call_kept_of_setPass apart
  | _ => rfl

/-- A call asks in the steps that are about it. -/
theorem Move.ask_caller (move : Move now state event after effects) {id : CallId} {query : Query}
    {limit : Option Duration} (asked : .ask (.call id) query limit ∈ effects) :
    event.caller? = some id := by
  have asks := move.asks asked
  generalize asker : Task.call id = task at asks
  cases asks with
  | lead turn | closeAtOnce turn | closeAfter turn =>
    cases asker
    rw [turn]
    rfl
  | revisit turn =>
    rw [turn, Event.caller?, ← asker]
    rfl
  | survey => cases asker

theorem not_finish_of_map {μ : Type} {items : List μ} {wakes : μ → Task} {id : CallId}
    {outcome : Outcome}
    (finished : .finish id outcome ∈ (items.map fun item => .rouse (wakes item) : Effects)) :
    False := by
  obtain ⟨_, _, same⟩ := List.mem_map.mp finished
  cases same

/-- A call ends in a step that is about it. -/
theorem Move.finish_caller (move : Move now state event after effects) {id : CallId}
    {outcome : Outcome} (finished : .finish id outcome ∈ effects) : event.caller? = some id := by
  cases move with
  | start | request | refresh | close | lead | revisit | rest | closeAtOnce | closeAfter =>
    cases List.mem_singleton.mp finished
  | miss | follow | retry | gather | fail | store | release | renew | skip | depart | refused
  | leave | abort | resign | idle =>
    cases finished
  | refuse | hit | hear | complete | giveUp | closed =>
    cases List.mem_singleton.mp finished
    rfl
  | publish =>
    rcases List.mem_append.mp finished with told | last
    · exact (not_finish_of_map told).elim
    · cases List.mem_singleton.mp last
      rfl
  | abandon => exact (not_finish_of_map finished).elim
  | withhold => exact (not_finish_of_map finished).elim
  | stop => exact (not_finish_of_map finished).elim
  | receive => exact (not_finish_of_map finished).elim
  | detach =>
    rcases List.mem_cons.mp finished with same | later
    · cases same
    · cases List.mem_singleton.mp later
  | survey here surveying found turn =>
    rcases List.mem_append.mp finished with roused | question
    · unfold settle at roused
      simp only at roused
      split at roused
      · cases List.mem_singleton.mp roused
      · cases roused
    · cases turn with
      | ask => cases List.mem_singleton.mp question
      | finish | learn | breakDown => cases question

end

namespace Run

variable {capacity : Nat} {geolocating : Bool} {timeout interval : Duration}
  {history : List Occurrence} {state : State}

/-- A call that is under way has begun. -/
theorem begun (run : Run capacity geolocating timeout interval history state) {id : CallId}
    (found : state.calls.get? id ≠ none) :
    ∃ taken ∈ history, taken.event.beginning? = some id := by
  induction run with
  | initial => exact absurd rfl found
  | @step history state run now event fresh hypothesis =>
    rcases (move_step now event state).call_before found with old | begins
    · obtain ⟨taken, member, same⟩ := hypothesis old
      exact ⟨taken, List.mem_append_left _ member, same⟩
    · exact ⟨_, List.mem_append_right _ (List.mem_singleton_self _), begins⟩

/-- **A call that begins has a number that no call under way has.** -/
theorem free (run : Run capacity geolocating timeout interval history state) {event : Event}
    (fresh : Automaton.Fresh history event) {id : CallId} (begins : event.beginning? = some id) :
    state.calls.get? id = none := by
  refine Classical.byContradiction fun found => ?_
  obtain ⟨taken, member, same⟩ := run.begun found
  exact fresh id begins taken member same

end Run

end Wayfinder.Atlas
