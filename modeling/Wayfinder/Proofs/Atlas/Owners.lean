/-
**Who a collection belongs to.**

A collection is in the table while the call or the loop that has begun it waits for it, and is
forgotten when it has come to its end or its owner is given up. Only the owner can store what has
been found, so that an owner who quits without storing leaves nothing of the collection behind.

* `Move.awaited_stays`: whoever waits for a collection goes on waiting, or the collection is
  forgotten;
* `Run.awaited_of_collection`: a collection in the table is waited for by its owner;
* `Run.collection_unique`: no two collections belong to leading calls of one pair;
* `Run.quit_unique`: the work on a collection ends once;
* `Run.never_stored`: a collection whose owner quits in a step that does not store it is never
  stored.
-/

import Wayfinder.Proofs.Atlas.Chronology
import Wayfinder.Proofs.Atlas.Loops

namespace Wayfinder.Atlas

/-- The collection that a call waits for. -/
def Call.awaited? : Call → Option CollectionId
  | .fetch _ stage => stage.collection?
  | .refresh pass => pass.current.map (·.2)
  | .close _ => none

section

variable {now : Timestamp} {state after : State} {event : Event} {effects : Effects}
  {owner : Owner} {collection : CollectionId}

/-! ### Waiting for a collection -/

theorem State.awaited?_call (state : State) (id : CallId) :
    state.awaited? (.call id) = (state.calls.get? id).bind Call.awaited? := by
  unfold State.awaited?
  simp only
  split
  · next here =>
    rw [here]
    rfl
  · next here =>
    rw [here]
    rfl
  · next silent refreshing =>
    cases here : state.calls.get? id with
    | none => rfl
    | some call =>
      cases call with
      | fetch pair stage =>
        cases stage with
        | collecting began collection => exact absurd here (silent pair began collection)
        | _ => rfl
      | refresh pass => exact absurd here (refreshing pass)
      | close stage => rfl

theorem State.awaited?_of_get? {id : CallId} {call : Call}
    (here : state.calls.get? id = some call) : state.awaited? (.call id) = call.awaited? := by
  rw [State.awaited?_call, here, Option.bind_some]

/-- Whoever makes a pass waits for its collection. -/
theorem State.awaited?_of_pass? {pass : Pass} (making : state.pass? owner = some pass) :
    state.awaited? owner.task = pass.current.map (·.2) := by
  rcases State.pass?_eq_some making with ⟨id, rfl, here⟩ | ⟨id, loop, rfl, here, passing⟩
  · exact State.awaited?_of_get? here
  · simp only [Owner.task, State.awaited?, here, passing, Option.bind_some]

/-- Whoever waits for a collection has it for its errand. -/
theorem State.errand?_of_awaited? (waiting : state.awaited? owner.task = some collection) :
    ∃ pair, state.errand? owner = some (pair, collection) := by
  cases owner with
  | call id =>
    rw [Owner.task, State.awaited?_call] at waiting
    obtain ⟨call, here, waits⟩ := Option.bind_eq_some_iff.mp waiting
    rw [State.errand?_of_get? here]
    cases call with
    | fetch pair stage =>
      cases stage with
      | collecting began other =>
        cases waits
        exact ⟨pair, rfl⟩
      | _ => cases waits
    | refresh pass =>
      obtain ⟨⟨pair, other⟩, current, rfl⟩ := Option.map_eq_some_iff.mp waits
      exact ⟨pair, current⟩
    | close stage => cases waits
  | loop id =>
    obtain ⟨loop, here, waits⟩ := Option.bind_eq_some_iff.mp waiting
    obtain ⟨pass, passing, waits⟩ := Option.bind_eq_some_iff.mp waits
    obtain ⟨⟨pair, other⟩, current, rfl⟩ := Option.map_eq_some_iff.mp waits
    exact ⟨pair, by rw [State.errand?, here, Option.bind_some, passing, Option.bind_some, current]⟩

/-- What one call does leaves the others waiting as they were. -/
theorem awaited_of_calls {id : CallId}
    (calls : ∀ other, id ≠ other → after.calls.get? other = state.calls.get? other)
    (loops : after.loops = state.loops) (differs : owner ≠ .call id) :
    after.awaited? owner.task = state.awaited? owner.task := by
  cases owner with
  | call other =>
    have apart : id ≠ other := fun same => differs (congrArg Owner.call same.symm)
    rw [Owner.task, State.awaited?_call, State.awaited?_call, calls other apart]
  | loop other => simp only [Owner.task, State.awaited?, loops]

theorem awaited_of_put {id : CallId} {call : Call} (calls : after.calls = state.calls.put id call)
    (loops : after.loops = state.loops) (differs : owner ≠ .call id) :
    after.awaited? owner.task = state.awaited? owner.task :=
  awaited_of_calls (fun other apart => by rw [calls, Table.get?_put, if_neg apart]) loops differs

theorem awaited_of_erase {id : CallId} (calls : after.calls = state.calls.erase id)
    (loops : after.loops = state.loops) (differs : owner ≠ .call id) :
    after.awaited? owner.task = state.awaited? owner.task :=
  awaited_of_calls (fun other apart => by rw [calls, Table.get?_erase, if_neg apart]) loops differs

theorem awaited_of_putLoop {id : LoopId} {loop : Loop} (loops : after.loops = state.loops.put id loop)
    (calls : after.calls = state.calls) (differs : owner ≠ .loop id) :
    after.awaited? owner.task = state.awaited? owner.task := by
  cases owner with
  | call other => rw [Owner.task, State.awaited?_call, State.awaited?_call, calls]
  | loop other =>
    have apart : id ≠ other := fun same => differs (congrArg Owner.loop same.symm)
    simp only [Owner.task, State.awaited?, loops, Table.get?_put, if_neg apart]

theorem awaited_of_setPass {other : Owner} {old pass : Pass} (making : state.pass? other = some old)
    (differs : owner ≠ other) :
    (state.setPass other pass).awaited? owner.task = state.awaited? owner.task := by
  rcases State.setPass_cases pass making with ⟨id, rfl, _, same⟩ | ⟨id, loop, rfl, _, _, same⟩
  · rw [same]
    exact awaited_of_put rfl rfl differs
  · rw [same]
    exact awaited_of_putLoop rfl rfl differs

/-- Whoever waits for nothing is another one than who waits for a collection. -/
theorem differs_of_idle {other : Owner} (waiting : state.awaited? owner.task = some collection)
    (idle : state.awaited? other.task = none) : owner ≠ other := by
  rintro rfl
  rw [waiting] at idle
  cases idle

/-- **Whoever waits for a collection goes on waiting, or the collection is forgotten.** -/
theorem Move.awaited_stays (move : Move now state event after effects)
    (free : ∀ id, event.beginning? = some id → state.calls.get? id = none)
    (unused : state.loops.get? state.nextLoop = none)
    (waiting : state.awaited? owner.task = some collection) :
    after.awaited? owner.task = some collection ∨ after.collections.get? collection = none := by
  have idle {id : CallId} {call : Call} (here : state.calls.get? id = some call)
      (silent : call.awaited? = none) : owner ≠ .call id :=
    differs_of_idle waiting ((State.awaited?_of_get? here).trans silent)
  have unknown {id : CallId} (begins : event.beginning? = some id) : owner ≠ .call id := by
    refine differs_of_idle waiting ?_
    rw [Owner.task, State.awaited?_call, free id begins, Option.bind_none]
  have resting {id : LoopId} {loop : Loop} (here : state.loops.get? id = some loop)
      (silent : loop.pass.bind (·.current) = none) : owner ≠ .loop id := by
    refine differs_of_idle waiting ?_
    simp only [Owner.task, State.awaited?, here, Option.bind_some]
    cases passing : loop.pass with
    | none => rfl
    | some pass =>
      rw [passing] at silent
      exact congrArg (Option.map (·.2)) silent
  have puts {before : State} {id : CallId} {call : Call}
      (calls : before.calls = state.calls.put id call) (loops : before.loops = state.loops)
      (differs : owner ≠ .call id) : before.awaited? owner.task = some collection :=
    (awaited_of_put calls loops differs).trans waiting
  have erases {before : State} {id : CallId} (calls : before.calls = state.calls.erase id)
      (loops : before.loops = state.loops) (differs : owner ≠ .call id) :
      before.awaited? owner.task = some collection :=
    (awaited_of_erase calls loops differs).trans waiting
  have putsLoop {before : State} {id : LoopId} {loop : Loop}
      (loops : before.loops = state.loops.put id loop) (calls : before.calls = state.calls)
      (differs : owner ≠ .loop id) : before.awaited? owner.task = some collection :=
    (awaited_of_putLoop loops calls differs).trans waiting
  -- a collection whose owner quits is forgotten
  have quits {forgotten : Option CollectionId} {before : State} (other : Owner)
      (waits : state.awaited? other.task = forgotten)
      (others : owner ≠ other → before.awaited? owner.task = state.awaited? owner.task)
      (collections : before.collections = (state.forgetting forgotten).collections) :
      before.awaited? owner.task = some collection ∨
        before.collections.get? collection = none := by
    by_cases same : owner = other
    · subst same
      rw [waiting] at waits
      subst waits
      refine Or.inr ?_
      rw [collections]
      exact Table.get?_erase_self ..
    · exact Or.inl ((others same).trans waiting)
  cases move with
  | start free =>
    refine Or.inl (putsLoop rfl rfl (differs_of_idle waiting ?_))
    simp only [Owner.task, State.awaited?, unused, Option.bind_none]
  | request | refresh | close =>
    exact Or.inl (puts rfl rfl (unknown rfl))
  | miss here | follow here | lead here | retry here | store here | release here
  | closeAtOnce here | closeAfter here =>
    exact Or.inl (puts rfl rfl (idle here rfl))
  | hit here | hear here | publish here | giveUp here | closed here | withhold here
  | resign here | complete here =>
    exact Or.inl (erases rfl rfl (idle here rfl))
  | leave here silent =>
    refine Or.inl (erases rfl rfl (idle here ?_))
    rename_i stage
    cases stage <;> first | rfl | cases silent
  | gather here | fail here =>
    exact quits (.call _) (State.awaited?_of_get? here) (awaited_of_put rfl rfl) rfl
  | abandon here leading =>
    exact quits (.call _) (State.awaited?_of_get? here) (awaited_of_erase rfl rfl) rfl
  | abort here => exact quits (.call _) (State.awaited?_of_get? here) (awaited_of_erase rfl rfl) rfl
  | revisit making =>
    have differs := differs_of_idle waiting (State.awaited?_of_pass? making)
    exact Or.inl ((awaited_of_setPass making differs).trans waiting)
  | renew making => exact quits _ (State.awaited?_of_pass? making) (awaited_of_setPass making) rfl
  | skip making => exact quits _ (State.awaited?_of_pass? making) (awaited_of_setPass making) rfl
  | rest here passed =>
    refine Or.inl (putsLoop rfl rfl (resting here ?_))
    rw [passed]
    rfl
  | depart here still | stop here still =>
    refine Or.inl (putsLoop rfl rfl (resting here ?_))
    rw [still]
    rfl
  | @detach id loop running here held found =>
    let told := { state with
      loops := state.loops.put loop
        { running with beat := running.beat.take.getD running.beat.signal } }
    have between : told.awaited? owner.task = some collection := by
      rw [← waiting]
      by_cases same : owner = .loop loop
      · subst same
        simp only [told, Owner.task, State.awaited?, Table.get?_put_self, found, Option.bind_some]
      · exact awaited_of_putLoop rfl rfl same
    refine Or.inl (Eq.trans ?_ between)
    exact awaited_of_put rfl rfl (idle here rfl)
  | refuse | survey | receive | refused | idle => exact Or.inl waiting

/-- A collection that begins is waited for by its owner. -/
theorem Move.awaited_begins (move : Move now state event after effects) {begun : Collection}
    (new : state.collections.get? collection = none)
    (found : after.collections.get? collection = some begun) :
    after.awaited? begun.owner.task = some collection := by
  have old (found : state.collections.get? collection = some begun) :
      after.awaited? begun.owner.task = some collection := by
    rw [new] at found
    cases found
  cases move with
  | @lead id pair here unmarked =>
    rcases Table.get?_of_put found with ⟨rfl, rfl⟩ | before
    · have leads : (state.calls.put id (.fetch pair (.collecting now state.nextCollection))).get?
          id = some (.fetch pair (.collecting now state.nextCollection)) := Table.get?_put_self ..
      show State.awaited? _ (.call id) = some state.nextCollection
      rw [State.awaited?_call]
      exact congrArg (·.bind Call.awaited?) leads
    · exact old before
  | revisit making =>
    rcases Table.get?_of_put found with ⟨rfl, rfl⟩ | before
    · exact State.awaited?_of_pass? (State.pass?_setPass making)
    · exact old before
  | gather | fail | renew | skip => exact old (Table.get?_of_erase found)
  | survey here | receive _ here | refused _ here =>
    rcases Table.get?_of_put found with ⟨rfl, _⟩ | before
    · rw [here] at new
      cases new
    · exact old before
  | abandon | abort => exact old (collection_of_forgetting found)
  | _ => exact old found

/-- A collection after a move has the owner that it had before. -/
theorem Evolves.owner_before {evolved : Collection}
    (evolves : Evolves state event after effects collection evolved) :
    (∃ old, state.collections.get? collection = some old ∧ old.owner = evolved.owner) ∨
      collection = state.nextCollection := by
  cases evolves with
  | kept here => exact Or.inl ⟨_, here, rfl⟩
  | begun next => exact Or.inr next
  | received _ _ here => exact Or.inl ⟨_, here, rfl⟩
  | refused here => exact Or.inl ⟨_, here, rfl⟩
  | surveyed here => exact Or.inl ⟨_, here, rfl⟩

end

/-! ### Quitting -/

/-- The step after which a call or a loop does not work on a collection any more. -/
def Quits (owner : Owner) (errand : Pair × CollectionId) (taken : Occurrence) : Prop :=
  taken.before.errand? owner = some errand ∧ taken.after.errand? owner = none

/-- A call that is given up is over. -/
theorem cancel_over (id : CallId) (state : State) : (cancel id state).1.calls.get? id = none := by
  have erased : (state.calls.erase id).get? id = none := Table.get?_erase_self ..
  unfold cancel
  split
  · next pair stage here => cases stage <;> exact erased
  · split <;> exact erased
  · exact erased
  · next absent => exact absent

/-- A call that is given up quits. -/
theorem quits_of_cancel {taken : Occurrence} {id : CallId} {errand : Pair × CollectionId}
    (event : taken.event = .cancel id) (working : taken.before.errand? (.call id) = some errand) :
    Quits (.call id) errand taken := by
  refine ⟨working, ?_⟩
  have gone : taken.after.calls.get? id = none := by
    show (step taken.now taken.event taken.before).1.calls.get? id = none
    rw [event]
    exact cancel_over id taken.before
  rw [State.errand?, gone, Option.bind_none]

namespace Run

variable {capacity : Nat} {geolocating : Bool} {timeout interval : Duration}
  {history : List Occurrence} {state : State}

/-- The next number of a loop belongs to no loop. -/
theorem unused (run : Run capacity geolocating timeout interval history state) :
    state.loops.get? state.nextLoop = none := by
  cases found : state.loops.get? state.nextLoop with
  | none => rfl
  | some loop => exact absurd (run.loop_lt found) (Nat.lt_irrefl _)

/-- **A collection in the table is waited for by its owner.** -/
theorem awaited_of_collection (run : Run capacity geolocating timeout interval history state)
    {id : CollectionId} {collection : Collection}
    (here : state.collections.get? id = some collection) :
    state.awaited? collection.owner.task = some id := by
  induction run generalizing collection with
  | initial => cases here
  | @step history state run now event fresh hypothesis =>
    have move := move_step now event state
    cases before : state.collections.get? id with
    | none => exact move.awaited_begins before here
    | some old =>
      rcases (move.evolves here).owner_before with ⟨old, there, same⟩ | next
      · have waiting := hypothesis there
        rw [same] at waiting
        rcases move.awaited_stays (fun id begins => Run.free run fresh begins) (unused run)
          waiting with still | forgotten
        · exact still
        · exact absurd (forgotten.symm.trans here) (Option.some_ne_none _).symm
      · exact absurd (next ▸ collection_lt run before) (Nat.lt_irrefl _)

/-- The owner of a collection has it for its errand. -/
theorem errand_of_collection (run : Run capacity geolocating timeout interval history state)
    {id : CollectionId} {collection : Collection}
    (here : state.collections.get? id = some collection) :
    state.errand? collection.owner = some (collection.pair, id) := by
  obtain ⟨pair, working⟩ := State.errand?_of_awaited? (run.awaited_of_collection here)
  rw [working, run.errand_pair working here]

/-- **For a pair at most one collection is under way that is not a pass's.** -/
theorem collection_unique (run : Run capacity geolocating timeout interval history state)
    {first second : CollectionId} {collection collection' : Collection}
    (here : state.collections.get? first = some collection)
    (there : state.collections.get? second = some collection')
    (same : collection.pair = collection'.pair) (leads : state.pass? collection.owner = none)
    (leads' : state.pass? collection'.owner = none) : first = second := by
  have working := run.errand_of_collection here
  have working' := run.errand_of_collection there
  by_cases owners : collection.owner = collection'.owner
  · rw [owners, working'] at working
    exact (congrArg Prod.snd (Option.some.inj working)).symm
  · rw [← same] at working'
    rcases run.pass_of_errands owners working working' with passes | passes
    · exact absurd leads passes
    · exact absurd leads' passes

/-- Of two errands on one collection, the first of them before some step, both are the same, and the
owner still has it after the step. -/
theorem owner_of_errands (run : Run capacity geolocating timeout interval history state)
    {position : Nat} {taken : Occurrence} (here : history[position]? = some taken)
    {owner owner' : Owner} {errand errand' : Pair × CollectionId}
    (working : taken.before.errand? owner = some errand)
    (working' : state.errand? owner' = some errand') (same : errand.2 = errand'.2) :
    owner = owner' ∧ taken.after.errand? owner' = some errand' := by
  have given := errand_lt (run.take here) working
  rw [same] at given
  obtain ⟨before, after⟩ := run.errand_at here working' given
  exact ⟨errand_unique (run.take here) working before same, after⟩

/-- **The work on a collection ends once.** Afterwards nobody has it for an errand. -/
theorem quit_unique (run : Run capacity geolocating timeout interval history state)
    {first second : Nat} {owner owner' : Owner} {errand errand' : Pair × CollectionId}
    (one : At history first (Quits owner errand)) (two : At history second (Quits owner' errand'))
    (same : errand.2 = errand'.2) : first = second := by
  have ordered {first second : Nat} {owner owner' : Owner} {errand errand' : Pair × CollectionId}
      (one : At history first (Quits owner errand))
      (two : At history second (Quits owner' errand')) (same : errand.2 = errand'.2) :
      second ≤ first := by
    refine Nat.le_of_not_lt fun before => ?_
    obtain ⟨taken, here, working, quitting⟩ := one.take before
    obtain ⟨other, there, working', _⟩ := two
    obtain ⟨rfl, still⟩ := owner_of_errands (run.take there) here working working' same
    rw [quitting] at still
    cases still
  exact Nat.le_antisymm (ordered two one same.symm) (ordered one two same)

/-- **A collection whose owner quits in a step that does not store it is never stored**, for any
pair: whoever stores it quits it. -/
theorem never_stored (run : Run capacity geolocating timeout interval history state) {quit : Nat}
    {owner : Owner} {errand : Pair × CollectionId} {pair : Pair}
    (quits : At history quit fun taken => Quits owner errand taken ∧ ¬ Stores pair errand.2 taken)
    (position : Nat) : ¬ At history position (Stores pair errand.2) := by
  rintro ⟨other, there, stores⟩
  obtain ⟨storer, storing, done, _⟩ := run.stored_by there stores
  have same : position = quit :=
    run.quit_unique ⟨other, there, storing, done⟩ (quits.mono fun _ quits => quits.1) rfl
  subst same
  obtain ⟨taken, here, _, unstored⟩ := quits
  rw [there] at here
  cases here
  exact unstored stores

end Run

end Wayfinder.Atlas
