/-
**Errands.**

At every instant a call or a loop works on one collection at most; that is its errand. A leading
call works on its collection until it has stored the bundle, a pass until it has put it in the place
of the one that is cached. Collections are numbered in the order in which they begin, so that an
errand that was not under way at a step has a number that had not been given yet.

* `State.errand?`: the pair and the collection that a call or a loop works on;
* `Move.errand_cases`: an errand after a move is one before it, or it begins with the move;
* `Run.errand_unique`: no two calls or loops work on one collection;
* `Run.errand_at`: an errand with a number already given was under way in that state.
-/

import Wayfinder.Proofs.Atlas.Run

namespace Wayfinder.Atlas

/-- The errand of a fetching call at a stage. -/
def Stage.errand? (pair : Pair) : Stage → Option (Pair × CollectionId)
  | .collecting _ collection => some (pair, collection)
  | .storing bundle => some (pair, bundle.collection)
  | _ => none

/-- The errand of a call. -/
def Call.errand? : Call → Option (Pair × CollectionId)
  | .fetch pair stage => stage.errand? pair
  | .refresh pass => pass.current
  | .close _ => none

/-- What a call or a loop works on: a pair, and the collection for it. -/
def State.errand? (state : State) : Owner → Option (Pair × CollectionId)
  | .call id => (state.calls.get? id).bind Call.errand?
  | .loop id => (state.loops.get? id).bind fun loop => loop.pass.bind (·.current)

section

variable {now : Timestamp} {state after : State} {event : Event} {effects : Effects}
  {owner : Owner} {errand : Pair × CollectionId}

theorem State.errand?_of_get? {id : CallId} {call : Call} (here : state.calls.get? id = some call) :
    state.errand? (.call id) = call.errand? := by
  rw [errand?, here, Option.bind_some]

/-- The errand of whoever makes a pass is that of the pass. -/
theorem State.errand?_of_pass? {pass : Pass} (making : state.pass? owner = some pass) :
    state.errand? owner = pass.current := by
  rcases State.pass?_eq_some making with ⟨id, rfl, here⟩ | ⟨id, loop, rfl, here, passing⟩
  · rw [State.errand?_of_get? here]
    rfl
  · rw [errand?, here, Option.bind_some, passing, Option.bind_some]

/-- Who goes on with a pass makes it. -/
theorem State.pass?_setPass {old pass : Pass} (making : state.pass? owner = some old) :
    (state.setPass owner pass).pass? owner = some pass := by
  rcases State.setPass_cases pass making with ⟨id, rfl, _, same⟩ | ⟨id, loop, rfl, _, _, same⟩
  · rw [same]
    simp only [pass?, Table.get?_put_self]
  · rw [same, pass?, Table.get?_put_self, Option.bind_some]

/-! ### Where errands come from -/

theorem errand_of_put {id : CallId} {call : Call} (working : after.errand? owner = some errand)
    (calls : after.calls = state.calls.put id call) (loops : after.loops = state.loops) :
    owner = .call id ∧ call.errand? = some errand ∨ state.errand? owner = some errand := by
  cases owner with
  | call other =>
    rw [State.errand?, calls, Table.get?_put] at working
    by_cases same : id = other
    · subst same
      rw [if_pos rfl] at working
      exact Or.inl ⟨rfl, working⟩
    · rw [if_neg same] at working
      exact Or.inr working
  | loop other =>
    rw [State.errand?, loops] at working
    exact Or.inr working

/-- A call without an errand leaves the errands of the others as they are. -/
theorem errand_of_silent {id : CallId} {call : Call} (working : after.errand? owner = some errand)
    (calls : after.calls = state.calls.put id call) (loops : after.loops = state.loops)
    (silent : call.errand? = none) : state.errand? owner = some errand := by
  rcases errand_of_put working calls loops with ⟨_, here⟩ | old
  · rw [silent] at here
    cases here
  · exact old

theorem errand_of_erase {id : CallId} (working : after.errand? owner = some errand)
    (calls : after.calls = state.calls.erase id) (loops : after.loops = state.loops) :
    state.errand? owner = some errand := by
  cases owner with
  | call other =>
    rw [State.errand?, calls, Table.get?_erase] at working
    split at working
    · cases working
    · exact working
  | loop other =>
    rw [State.errand?, loops] at working
    exact working

theorem errand_of_putLoop {id : LoopId} {loop : Loop}
    (working : after.errand? owner = some errand) (loops : after.loops = state.loops.put id loop)
    (calls : after.calls = state.calls) :
    owner = .loop id ∧ loop.pass.bind (·.current) = some errand ∨
      state.errand? owner = some errand := by
  cases owner with
  | call other =>
    rw [State.errand?, calls] at working
    exact Or.inr working
  | loop other =>
    rw [State.errand?, loops, Table.get?_put] at working
    by_cases same : id = other
    · subst same
      rw [if_pos rfl] at working
      exact Or.inl ⟨rfl, working⟩
    · rw [if_neg same] at working
      exact Or.inr working

/-- A loop without an errand leaves the errands of the others as they are. -/
theorem errand_of_silentLoop {id : LoopId} {loop : Loop}
    (working : after.errand? owner = some errand) (loops : after.loops = state.loops.put id loop)
    (calls : after.calls = state.calls)
    (silent : loop.pass.bind (·.current) = none) : state.errand? owner = some errand := by
  rcases errand_of_putLoop working loops calls with ⟨_, here⟩ | old
  · rw [silent] at here
    cases here
  · exact old

theorem errand_of_setPass {other : Owner} {old pass : Pass}
    (making : state.pass? other = some old)
    (working : (state.setPass other pass).errand? owner = some errand) :
    owner = other ∧ pass.current = some errand ∨ state.errand? owner = some errand := by
  rcases State.setPass_cases pass making with ⟨id, rfl, _, same⟩ | ⟨id, loop, rfl, _, _, same⟩
  · rw [same] at working
    exact errand_of_put working rfl rfl
  · rw [same] at working
    exact errand_of_putLoop working rfl rfl

/-- **An errand after a move is one before it, or it begins with the move**: the collection has the
next number, and the oracle is asked for the candidates of the pair. -/
theorem Move.errand_cases (move : Move now state event after effects)
    (working : after.errand? owner = some errand) :
    state.errand? owner = some errand ∨
      event = .proceed owner.task ∧ errand.2 = state.nextCollection ∧
        after.nextCollection = state.nextCollection + 1 ∧
        effects = [.ask owner.task (.candidates errand.1.2 errand.1.1 false)
          (some state.timeout)] := by
  cases move with
  | request | refresh | close | miss | follow | retry | release | fail | store | closeAtOnce
  | closeAfter =>
    exact Or.inl (errand_of_silent working rfl rfl rfl)
  | hit | hear | publish | complete | giveUp | closed | abandon | withhold | leave | abort
  | resign =>
    exact Or.inl (errand_of_erase working rfl rfl)
  | start | rest | depart | stop => exact Or.inl (errand_of_silentLoop working rfl rfl rfl)
  | lead here =>
    rcases errand_of_put working rfl rfl with ⟨rfl, same⟩ | old
    · cases same
      exact Or.inr ⟨rfl, rfl, rfl, rfl⟩
    · exact Or.inl old
  | gather here =>
    rcases errand_of_put working rfl rfl with ⟨rfl, same⟩ | old
    · cases same
      exact Or.inl (State.errand?_of_get? here)
    · exact Or.inl old
  | revisit making =>
    rcases errand_of_setPass making working with ⟨rfl, same⟩ | old
    · cases same
      exact Or.inr ⟨rfl, rfl, rfl, rfl⟩
    · exact Or.inl old
  | renew making =>
    rcases errand_of_setPass making working with ⟨_, same⟩ | old
    · cases same
    · exact Or.inl old
  | skip making =>
    rcases errand_of_setPass making working with ⟨_, same⟩ | old
    · cases same
    · exact Or.inl old
  | @detach id loop running here held found =>
    let told := { state with
      loops := state.loops.put loop
        { running with beat := running.beat.take.getD running.beat.signal } }
    have between : told.errand? owner = some errand := errand_of_silent working rfl rfl rfl
    rcases errand_of_putLoop between rfl rfl with ⟨rfl, same⟩ | old
    · refine Or.inl ?_
      rw [State.errand?, found]
      exact same
    · exact Or.inl old
  | _ => exact Or.inl working

/-- Numbers of collections are given in order. -/
theorem Move.nextCollection_le (move : Move now state event after effects) :
    state.nextCollection ≤ after.nextCollection := by
  cases move with
  | lead | revisit => exact Nat.le_succ _
  | _ => exact Nat.le_refl _

end

/-! ### Errands in runs -/

namespace Run

variable {capacity : Nat} {geolocating : Bool} {timeout interval : Duration}
  {history : List Occurrence} {state : State}

/-- The collection of an errand has got its number. -/
theorem errand_lt (run : Run capacity geolocating timeout interval history state) {owner : Owner}
    {errand : Pair × CollectionId} (working : state.errand? owner = some errand) :
    errand.2 < state.nextCollection := by
  induction run with
  | initial => cases owner <;> cases working
  | @step history state run now event fresh hypothesis =>
    have move := move_step now event state
    rcases move.errand_cases working with old | ⟨_, next, given, _⟩
    · exact Nat.lt_of_lt_of_le (hypothesis old) move.nextCollection_le
    · rw [next]
      exact Nat.lt_of_lt_of_eq (Nat.lt_succ_self _) given.symm

/-- **No two calls or loops work on one collection.** -/
theorem errand_unique (run : Run capacity geolocating timeout interval history state)
    {owner owner' : Owner} {errand errand' : Pair × CollectionId}
    (working : state.errand? owner = some errand) (working' : state.errand? owner' = some errand')
    (same : errand.2 = errand'.2) : owner = owner' := by
  induction run with
  | initial => cases owner <;> cases working
  | @step history state run now event fresh hypothesis =>
    have move := move_step now event state
    rcases move.errand_cases working with old | ⟨turn, next, _⟩
    · rcases move.errand_cases working' with old' | ⟨_, next', _⟩
      · exact hypothesis old old'
      · have bound := errand_lt run old
        rw [same, next'] at bound
        exact absurd bound (Nat.lt_irrefl _)
    · rcases move.errand_cases working' with old' | ⟨turn', _, _⟩
      · have bound := errand_lt run old'
        rw [← same, next] at bound
        exact absurd bound (Nat.lt_irrefl _)
      · rw [turn] at turn'
        exact Owner.task_inj (Event.proceed.inj turn')

/-- **An errand with a number that had been given at a step was under way in that state**, before
the step and after it. -/
theorem errand_at (run : Run capacity geolocating timeout interval history state) {position : Nat}
    {taken : Occurrence} (here : history[position]? = some taken) {owner : Owner}
    {errand : Pair × CollectionId} (working : state.errand? owner = some errand)
    (given : errand.2 < taken.before.nextCollection) :
    taken.before.errand? owner = some errand ∧ taken.after.errand? owner = some errand := by
  let holds : State → Prop := fun state => state.errand? owner = some errand
  have none : ¬ holds (.initial capacity geolocating timeout interval) := by
    intro found
    cases owner <;> cases found
  have held : holds state := working
  obtain ⟨began, ⟨begin, there, idle, busy⟩, since⟩ := run.brought_about none held
  have next : errand.2 = begin.before.nextCollection := by
    rcases (move_taken begin).errand_cases busy with old | ⟨_, next, _⟩
    · exact absurd old idle
    · exact next
  rcases Nat.lt_trichotomy began position with before | same | after
  · exact since position taken before here
  · subst same
    rw [there] at here
    cases here
    exact absurd (next ▸ given) (Nat.lt_irrefl _)
  · have grown : taken.after.nextCollection ≤ begin.before.nextCollection :=
      run.measure_le (fun taken => (move_taken taken).nextCollection_le) here there after
    have bound := Nat.le_trans (move_taken taken).nextCollection_le grown
    rw [← next] at bound
    exact absurd given (Nat.not_lt_of_le bound)

end Run

end Wayfinder.Atlas
