/-
**What a fetching call gets, and whose fault it is when it fails.**

A fetching call gets its result in a turn of its own: it finds a bundle in the cache, or it tells what
it has collected by itself, or it hears what the call has told that it has joined. Until then it stays
under way, whatever it does. Only the oracle can fail it: no fault that is kept or told blames the
request, which is refused before the call begins if it is at fault.

* `EndsNone`: effects that end no call;
* `State.Gives`, `State.Gives.finish_mem`: what a call gets, and where from;
* `Move.fetch_goes`, `cancel_fetch`: the steps of a fetching call;
* `State.Candid`, `State.Candid.step`: no result that is kept blames the request, before and after a
  step;
* `State.Candid.gives`: what a call gets does not blame the request, either.
-/

import Wayfinder.Proofs.Atlas.Channels

namespace Wayfinder

/-! ### Effects and faults -/

/-- Whether effects end no call. -/
def EndsNone {τ κ ο : Type} (effects : List (Effect τ κ ο)) : Prop :=
  ∀ id outcome, .finish id outcome ∉ effects

theorem endsNone_nil {τ κ ο : Type} : EndsNone ([] : List (Effect τ κ ο)) :=
  fun _ _ => List.not_mem_nil

theorem EndsNone.cons {τ κ ο : Type} {effect : Effect τ κ ο} {effects : List (Effect τ κ ο)}
    (first : ∀ id outcome, effect ≠ .finish id outcome) (rest : EndsNone effects) :
    EndsNone (effect :: effects) := by
  intro id outcome member
  rcases List.mem_cons.mp member with same | later
  · exact first id outcome same.symm
  · exact rest id outcome later

/-- A collaborator that fails does not blame the request. -/
theorem CallFault.code_ne (fault : CallFault) : fault.code ≠ .invalidArgument := by
  cases fault with
  | unavailable | timeout => exact fun same => by cases same

namespace Atlas

/-! ### Where results come from -/

/-- What a fetching call gets in a turn of its own, and where from. -/
inductive State.Gives (state : State) (now : Timestamp) (id : CallId) (pair : Pair) :
    Result → Prop
  | cached {bundle : Bundle} (here : state.calls.get? id = some (.fetch pair .lookingUp))
      (found : (state.cache.get pair now).1 = some bundle) :
      State.Gives state now id pair (.ok bundle)
  /-- The call has led, and tells what has come of it. -/
  | collected {result : Result}
      (here : state.calls.get? id = some (.fetch pair (.publishing result))) :
      State.Gives state now id pair result
  | shared {leader : CallId} {result : Result}
      (here : state.calls.get? id = some (.fetch pair (.following leader)))
      (told : state.channels.get? leader = some (.published result)) :
      State.Gives state now id pair result

section

variable {now : Timestamp} {state after : State} {event : Event} {effects : Effects} {id : CallId}
  {pair : Pair} {stage : Stage}

/-- Those who are told something are not ended by it. -/
theorem endsNone_announce (state : State) (leader : CallId) (channel : Channel) :
    EndsNone (state.announce leader channel).2 :=
  fun _ _ finished => not_finish_of_map finished

/-- What a call gets is its outcome in a turn of its own. -/
theorem State.Gives.finish_mem {result : Result} (gives : state.Gives now id pair result) :
    .finish id (result.map some) ∈ (step now (.proceed (.call id)) state).2 := by
  cases gives with
  | cached here found =>
    simp only [step, proceed, here, Option.bind_some, proceedCall, proceedFetch, found]
    exact List.mem_singleton_self _
  | collected here =>
    simp only [step, proceed, here, Option.bind_some, proceedCall, proceedFetch]
    exact List.mem_append_right _ (List.mem_singleton_self _)
  | shared here told =>
    simp only [step, proceed, here, Option.bind_some, proceedCall, proceedFetch, told]
    exact List.mem_singleton_self _

/-- **A fetching call gets its result in a turn of its own, or it stays under way.** -/
theorem Move.fetch_goes (move : Move now state event after effects)
    (here : state.calls.get? id = some (.fetch pair stage)) (own : event.caller? = some id)
    (running : event.beginning? ≠ some id) (held : event ≠ .cancel id) :
    ((∃ next, after.calls.get? id = some (.fetch pair next)) ∧ EndsNone effects) ∨
      ∃ result before, event = .proceed (.call id) ∧ state.Gives now id pair result ∧
        after.calls.get? id = none ∧ effects = before ++ [.finish id (result.map some)] ∧
        EndsNone before := by
  -- a call that is at another stage, or does something else, is another one
  have pass {owner : Owner} {pass : Pass} (turn : owner.task.caller? = some id)
      (making : state.pass? owner = some pass) : False := by
    rcases State.pass?_eq_some making with ⟨other, rfl, there⟩ | ⟨loop, _, rfl, _, _⟩
    · cases turn
      rw [here] at there
      cases there
    · cases turn
  have gone : (state.calls.erase id).get? id = none := Table.get?_erase_self ..
  cases move with
  | refuse | request | refresh | close => exact absurd own running
  | start | rest | depart | stop => cases own
  | abandon | withhold | leave | abort | resign =>
    cases own
    exact absurd rfl held
  | hit there found =>
    cases own
    rw [here] at there
    cases there
    exact Or.inr ⟨_, [], rfl, .cached here found, gone, rfl, endsNone_nil⟩
  | hear there told =>
    cases own
    rw [here] at there
    cases there
    exact Or.inr ⟨_, [], rfl, .shared here told, gone, rfl, endsNone_nil⟩
  | publish there =>
    cases own
    rw [here] at there
    cases there
    exact Or.inr ⟨_, _, rfl, .collected here, gone, rfl, endsNone_announce _ _ _⟩
  | miss there | follow there | retry there | gather there | fail there | store there
  | release there =>
    cases own
    rw [here] at there
    cases there
    exact Or.inl ⟨⟨_, Table.get?_put_self ..⟩, endsNone_nil⟩
  | lead there =>
    cases own
    rw [here] at there
    cases there
    exact Or.inl ⟨⟨_, Table.get?_put_self ..⟩, endsNone_nil.cons fun _ _ same => by cases same⟩
  | revisit making => exact (pass own making).elim
  | renew making => exact (pass own making).elim
  | skip making => exact (pass own making).elim
  | complete there | detach there | closeAtOnce there | closeAfter there | giveUp there
  | closed there =>
    cases own
    rw [here] at there
    cases there
  | survey _ _ _ turn =>
    cases turn with
    | ask | finish | learn | breakDown => cases own
  | receive => exact Or.inl ⟨⟨stage, here⟩, fun _ _ finished => not_finish_of_map finished⟩
  | refused | idle => exact Or.inl ⟨⟨stage, here⟩, endsNone_nil⟩

/-- **A fetching call that is given up is gone, and gets nothing.** -/
theorem cancel_fetch (here : state.calls.get? id = some (.fetch pair stage)) :
    (cancel id state).1.calls.get? id = none ∧ EndsNone (cancel id state).2 := by
  have gone : (state.calls.erase id).get? id = none := Table.get?_erase_self ..
  rw [cancel, here]
  cases stage with
  | lookingUp | joining | following => exact ⟨gone, endsNone_nil⟩
  | collecting | storing | releasing | publishing => exact ⟨gone, endsNone_announce _ _ _⟩

/-! ### Whose fault it is -/

/-- Whether a result does not blame the request. -/
def Result.Candid (result : Result) : Prop :=
  ∀ fault, result = .error fault → fault.code ≠ .invalidArgument

theorem candid_ok (bundle : Bundle) : Result.Candid (.ok bundle) := by
  intro fault same
  cases same

theorem candid_oracle (fault : CallFault) : Result.Candid (.error (.oracle fault)) := by
  rintro _ ⟨⟩
  exact fault.code_ne

/-- The result that a call has, before it tells it. -/
def Stage.result? : Stage → Option Result
  | .storing bundle => some (.ok bundle)
  | .releasing result | .publishing result => some result
  | _ => none

/-- Whether no result that is kept blames the request. -/
structure State.Candid (state : State) : Prop where
  calls : ∀ id pair stage result, state.calls.get? id = some (.fetch pair stage) →
    stage.result? = some result → result.Candid
  channels : ∀ id result, state.channels.get? id = some (.published result) → result.Candid

/-- A result that a call has after a move it had before, or it has it from the oracle. -/
theorem Move.result_before (move : Move now state event after effects) {result : Result}
    (found : after.calls.get? id = some (.fetch pair stage)) (has : stage.result? = some result) :
    (∃ old, state.calls.get? id = some (.fetch pair old) ∧ old.result? = some result) ∨
      (∃ bundle, result = .ok bundle) ∨ ∃ fault, result = .error (.oracle fault) := by
  cases move with
  | request | miss | follow | lead | retry =>
    rcases Table.get?_of_put found with ⟨_, same⟩ | old
    · cases same
      cases has
    · exact Or.inl ⟨stage, old, has⟩
  | refresh | close | detach | closeAtOnce | closeAfter =>
    rcases Table.get?_of_put found with ⟨_, same⟩ | old
    · cases same
    · exact Or.inl ⟨stage, old, has⟩
  | gather =>
    rcases Table.get?_of_put found with ⟨_, same⟩ | old
    · cases same
      exact Or.inr (Or.inl ⟨_, (Option.some.inj has).symm⟩)
    · exact Or.inl ⟨stage, old, has⟩
  | fail =>
    rcases Table.get?_of_put found with ⟨_, same⟩ | old
    · cases same
      exact Or.inr (Or.inr ⟨_, (Option.some.inj has).symm⟩)
    · exact Or.inl ⟨stage, old, has⟩
  | store here | release here =>
    rcases Table.get?_of_put found with ⟨rfl, same⟩ | old
    · cases same
      exact Or.inl ⟨_, here, has⟩
    · exact Or.inl ⟨stage, old, has⟩
  | hit | hear | publish | complete | giveUp | closed | abandon | withhold | leave | abort
  | resign =>
    exact Or.inl ⟨stage, Table.get?_of_erase found, has⟩
  | revisit | renew | skip =>
    exact Or.inl ⟨stage, kept_of_setPass found fun _ => Call.noConfusion, has⟩
  | _ => exact Or.inl ⟨stage, found, has⟩

theorem candid_initial (capacity : Nat) (geolocating : Bool) (timeout interval : Duration) :
    (State.initial capacity geolocating timeout interval).Candid where
  calls := fun _ _ _ _ here => by cases here
  channels := fun _ _ here => by cases here

/-- **No result that is kept after a step blames the request.** -/
theorem State.Candid.step (candid : state.Candid) (now : Timestamp) (event : Event) :
    (step now event state).1.Candid where
  calls id pair stage result here has := by
    rcases (move_step now event state).result_before here has with
      ⟨old, there, had⟩ | ⟨bundle, rfl⟩ | ⟨fault, rfl⟩
    · exact candid.calls id pair old result there had
    · exact candid_ok bundle
    · exact candid_oracle fault
  channels id result here := by
    rcases (move_step now event state).published_before here with old | ⟨pair, _, there, _⟩
    · exact candid.channels id result old
    · exact candid.calls id pair (.publishing result) result there rfl

/-- **What a call gets does not blame the request.** -/
theorem State.Candid.gives (candid : state.Candid) {result : Result}
    (gives : state.Gives now id pair result) : result.Candid := by
  cases gives with
  | cached _ _ => exact candid_ok _
  | collected here => exact candid.calls id pair _ result here rfl
  | shared _ told => exact candid.channels _ result told

end

end Atlas

end Wayfinder
