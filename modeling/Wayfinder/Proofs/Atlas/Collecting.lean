/-
**Collections.**

A collection waits for the oracle first. The answer comes once: from then on the candidates are
surveyed, and whoever collects waits for the surveys. So whoever has a bundle to store has heard an
answer before, and only one.

* `Move.evolves`: how a collection has come to be what it is after a move;
* `Receives`: the step in which a collection hears of its candidates;
* `Run.errand_pair`: the collection of an errand is for the pair of the errand;
* `Run.received`: whoever has something to store has heard of the candidates before;
* `Run.settles_unique`: a collection ceases to wait for the oracle once;
* `Run.receives_unique`: so it hears of its candidates once.
-/

import Wayfinder.Proofs.Atlas.Errand

namespace Wayfinder.Atlas

section

variable {now : Timestamp} {state after : State} {event : Event} {effects : Effects}

/-! ### What becomes of a collection -/

/-- How a collection has come to be what it is after a move. -/
inductive Evolves (state : State) (event : Event) (after : State) (effects : Effects)
    (id : CollectionId) : Collection → Prop
  | kept {collection : Collection} (here : state.collections.get? id = some collection) :
      Evolves state event after effects id collection
  | begun {owner : Owner} {pair : Pair} (next : id = state.nextCollection)
      (given : after.nextCollection = state.nextCollection + 1)
      (asked : effects = [.ask owner.task (.candidates pair.2 pair.1 false) (some state.timeout)]) :
      Evolves state event after effects id { pair, owner }
  | received {collection : Collection} {task : Task} {candidates : List Candidate}
      (heard : event = .answer task (.candidates (.ok candidates)))
      (awaited : state.awaited? task = some id)
      (here : state.collections.get? id = some collection)
      (exploring : collection.progress = .exploring) :
      Evolves state event after effects id
        { collection with
          progress := .surveying (candidates.map fun candidate =>
            .walking (.ofCandidate candidate)) }
  | refused {collection : Collection} {fault : CallFault}
      (here : state.collections.get? id = some collection) :
      Evolves state event after effects id { collection with progress := .refused fault }
  | surveyed {collection : Collection} {fragments : List Fragment} {position : Nat}
      {old new : Fragment} {questions : Effects}
      (here : state.collections.get? id = some collection)
      (surveying : collection.progress = .surveying fragments)
      (found : fragments[position]? = some old)
      (turn : Turn state id position event old new questions) :
      Evolves state event after effects id
        { collection with progress := .surveying (fragments.set position new) }

theorem collection_of_forgetting {forgotten : Option CollectionId} {id : CollectionId}
    {collection : Collection}
    (found : (state.forgetting forgotten).collections.get? id = some collection) :
    state.collections.get? id = some collection := by
  cases forgotten with
  | none => exact found
  | some other => exact Table.get?_of_erase found

/-- **A collection after a move is an old one, or it begins, hears an answer or is surveyed in the
move.** -/
theorem Move.evolves (move : Move now state event after effects) {id : CollectionId}
    {collection : Collection} (found : after.collections.get? id = some collection) :
    Evolves state event after effects id collection := by
  cases move with
  | lead | revisit =>
    rcases Table.get?_of_put found with ⟨rfl, rfl⟩ | old
    · exact .begun rfl rfl rfl
    · exact .kept old
  | gather | fail | renew | skip => exact .kept (Table.get?_of_erase found)
  | survey here surveying inside turn =>
    rcases Table.get?_of_put found with ⟨rfl, rfl⟩ | old
    · exact .surveyed here surveying inside turn
    · exact .kept old
  | receive awaited here exploring =>
    rcases Table.get?_of_put found with ⟨rfl, rfl⟩ | old
    · exact .received rfl awaited here exploring
    · exact .kept old
  | refused awaited here exploring =>
    rcases Table.get?_of_put found with ⟨rfl, rfl⟩ | old
    · exact .refused here
    · exact .kept old
  | abandon | abort => exact .kept (collection_of_forgetting found)
  | _ => exact .kept found

/-- A collection after a move was there before, for the same pair, or begins with the move. -/
theorem Evolves.origin {id : CollectionId} {collection : Collection}
    (evolves : Evolves state event after effects id collection) :
    (∃ old, state.collections.get? id = some old ∧ old.pair = collection.pair) ∨
      id = state.nextCollection ∧ after.nextCollection = state.nextCollection + 1 ∧
        ∃ owner : Owner, effects = [.ask owner.task
          (.candidates collection.pair.2 collection.pair.1 false) (some state.timeout)] := by
  cases evolves with
  | kept here => exact Or.inl ⟨_, here, rfl⟩
  | begun next given asked => exact Or.inr ⟨next, given, _, asked⟩
  | received _ _ here => exact Or.inl ⟨_, here, rfl⟩
  | refused here => exact Or.inl ⟨_, here, rfl⟩
  | surveyed here => exact Or.inl ⟨_, here, rfl⟩

/-- A call that has a bundle to store had it before, or its collection has come to its end well. -/
theorem Move.storing_cases (move : Move now state event after effects) {id : CallId} {pair : Pair}
    {bundle : Bundle} (found : after.calls.get? id = some (.fetch pair (.storing bundle))) :
    state.calls.get? id = some (.fetch pair (.storing bundle)) ∨
      state.errand? (.call id) = some (pair, bundle.collection) ∧
        state.outcome? bundle.collection = some (.ok bundle.metadata) := by
  cases move with
  | request | refresh | close | miss | follow | lead | retry | fail | store | release | detach
  | closeAtOnce | closeAfter =>
    rcases Table.get?_of_put found with ⟨_, differs⟩ | old
    · cases differs
    · exact Or.inl old
  | gather here outcome =>
    rcases Table.get?_of_put found with ⟨rfl, same⟩ | old
    · cases same
      exact Or.inr ⟨State.errand?_of_get? here, outcome⟩
    · exact Or.inl old
  | hit | hear | publish | complete | giveUp | closed | abandon | withhold | leave | abort
  | resign =>
    exact Or.inl (Table.get?_of_erase found)
  | revisit | renew | skip => exact Or.inl (kept_of_setPass found fun _ => Call.noConfusion)
  | _ => exact Or.inl found

end

/-! ### The answer -/

/-- The step in which a collection for a pair hears of its candidates. -/
def Receives (pair : Pair) (id : CollectionId) (candidates : List Candidate) (taken : Occurrence) :
    Prop :=
  ∃ task collection, taken.event = .answer task (.candidates (.ok candidates)) ∧
    taken.before.awaited? task = some id ∧
    taken.before.collections.get? id = some collection ∧ collection.pair = pair ∧
    collection.progress = .exploring

/-- In a step one collection at most hears of its candidates. -/
theorem Receives.id_eq {pair pair' : Pair} {id id' : CollectionId}
    {candidates candidates' : List Candidate} {taken : Occurrence}
    (receives : Receives pair id candidates taken)
    (again : Receives pair' id' candidates' taken) : id = id' := by
  obtain ⟨task, _, event, awaited, _⟩ := receives
  obtain ⟨task', _, event', awaited', _⟩ := again
  rw [event] at event'
  obtain ⟨rfl, _⟩ := Event.answer.inj event'
  rw [awaited] at awaited'
  exact Option.some.inj awaited'

/-- Whether somebody has heard of the candidates of a collection for a pair: the surveys are under
way, or the bundle is about to be stored. -/
def State.Heard (state : State) (pair : Pair) (id : CollectionId) : Prop :=
  (∃ collection fragments, state.collections.get? id = some collection ∧ collection.pair = pair ∧
    collection.progress = .surveying fragments) ∨
  ∃ call bundle, state.calls.get? call = some (.fetch pair (.storing bundle)) ∧
    bundle.collection = id

/-- Whether a collection has begun and does not wait for the oracle any more. -/
def Settled (id : CollectionId) (state : State) : Prop :=
  id < state.nextCollection ∧ ∀ collection, state.collections.get? id = some collection →
    collection.progress ≠ .exploring

/-- Whether a collection waits for the oracle. -/
def State.Exploring (state : State) (id : CollectionId) : Prop :=
  ∃ collection, state.collections.get? id = some collection ∧ collection.progress = .exploring

theorem Receives.exploring {pair : Pair} {id : CollectionId} {candidates : List Candidate}
    {taken : Occurrence} (receives : Receives pair id candidates taken) :
    taken.before.Exploring id := by
  obtain ⟨_, collection, _, _, here, _, exploring⟩ := receives
  exact ⟨collection, here, exploring⟩

/-- No move makes a collection wait for the oracle again. -/
theorem Settled.step {now : Timestamp} {state after : State} {event : Event} {effects : Effects}
    {id : CollectionId} (settled : Settled id state)
    (move : Move now state event after effects) : Settled id after := by
  refine ⟨Nat.lt_of_lt_of_le settled.1 move.nextCollection_le, fun collection found => ?_⟩
  cases move.evolves found with
  | kept old => exact settled.2 collection old
  | begun next => exact absurd (next ▸ settled.1) (Nat.lt_irrefl _)
  | received | refused | surveyed => exact fun differs => Progress.noConfusion differs

/-- Candidates that are waited for are surveyed from then on. -/
theorem step_receive {now : Timestamp} {state : State} {task : Task} {id : CollectionId}
    {collection : Collection} {candidates : List Candidate}
    (awaited : state.awaited? task = some id)
    (here : state.collections.get? id = some collection)
    (exploring : collection.progress = .exploring) :
    (step now (.answer task (.candidates (.ok candidates))) state).1.collections =
      state.collections.put id
        { collection with
          progress := .surveying (candidates.map fun candidate =>
            .walking (.ofCandidate candidate)) } := by
  cases task with
  | call call => simp only [step, answer, awaited, deliver, here, exploring]
  | loop loop => simp only [step, answer, awaited, deliver, here, exploring]
  | survey other position => cases awaited

/-- The step in which a collection ceases to wait for the oracle. -/
def Settles (id : CollectionId) (taken : Occurrence) : Prop :=
  taken.before.Exploring id ∧ Settled id taken.after

/-- A collection that hears of its candidates does not wait for the oracle any more. -/
theorem Receives.settles {pair : Pair} {id : CollectionId} {candidates : List Candidate}
    {taken : Occurrence} (receives : Receives pair id candidates taken)
    (given : id < taken.before.nextCollection) : Settles id taken := by
  refine ⟨receives.exploring,
    Nat.lt_of_lt_of_le given (move_taken taken).nextCollection_le, fun evolved found => ?_⟩
  obtain ⟨task, collection, event, awaited, here, _, exploring⟩ := receives
  have stepped : taken.after = (step taken.now taken.event taken.before).1 := rfl
  rw [stepped, event, step_receive awaited here exploring, Table.get?_put_self] at found
  cases found
  exact fun differs => Progress.noConfusion differs

/-- What a collection has come to, it has come to by its surveys, which are all at an end. -/
theorem State.surveying_of_outcome {state : State} {id : CollectionId} {metadata : Metadata}
    (found : state.outcome? id = some (.ok metadata)) :
    ∃ collection fragments, state.collections.get? id = some collection ∧
      collection.progress = .surveying fragments ∧ fragments.all Fragment.isOver = true := by
  obtain ⟨collection, here, outcome⟩ := Option.bind_eq_some_iff.mp found
  unfold Collection.outcome? at outcome
  split at outcome
  · cases outcome
  · cases outcome
  · next fragments surveying =>
    split at outcome
    · next finished => exact ⟨collection, fragments, here, surveying, finished⟩
    · cases outcome

namespace Run

variable {capacity : Nat} {geolocating : Bool} {timeout interval : Duration}
  {history : List Occurrence} {state : State}

/-- A collection has got its number. -/
theorem collection_lt (run : Run capacity geolocating timeout interval history state)
    {id : CollectionId} {collection : Collection}
    (here : state.collections.get? id = some collection) : id < state.nextCollection := by
  induction run generalizing collection with
  | initial => cases here
  | @step history state run now event fresh hypothesis =>
    have move := move_step now event state
    rcases (move.evolves here).origin with ⟨old, there, _⟩ | ⟨next, given, _⟩
    · exact Nat.lt_of_lt_of_le (hypothesis there) move.nextCollection_le
    · rw [next]
      exact Nat.lt_of_lt_of_eq (Nat.lt_succ_self _) given.symm

/-- **The collection of an errand is for the pair of the errand.** -/
theorem errand_pair (run : Run capacity geolocating timeout interval history state) {owner : Owner}
    {pair : Pair} {id : CollectionId} {collection : Collection}
    (working : state.errand? owner = some (pair, id))
    (here : state.collections.get? id = some collection) : collection.pair = pair := by
  induction run generalizing collection with
  | initial => cases here
  | @step history state run now event fresh hypothesis =>
    have move := move_step now event state
    rcases move.errand_cases working with busy | ⟨_, next, _, asks⟩
    · rcases (move.evolves here).origin with ⟨old, there, same⟩ | ⟨next, _⟩
      · exact same ▸ hypothesis busy there
      · exact absurd (next ▸ errand_lt run busy) (Nat.lt_irrefl _)
    · rcases (move.evolves here).origin with ⟨old, there, same⟩ | ⟨_, _, _, asked⟩
      · exact absurd (next ▸ collection_lt run there) (Nat.lt_irrefl _)
      · rw [asks] at asked
        have query := (Effect.ask.inj (List.cons.inj asked).1).2.1
        obtain ⟨dst, src, _⟩ := Query.candidates.inj query
        exact Prod.ext src.symm dst.symm

/-! ### Hearing an answer -/

/-- Somebody who has heard of the candidates had heard before, or hears of them in this step. -/
theorem heard_step (run : Run capacity geolocating timeout interval history state)
    {now : Timestamp} {event : Event} {pair : Pair} {id : CollectionId}
    (heard : (step now event state).1.Heard pair id) :
    state.Heard pair id ∨ ∃ candidates, Receives pair id candidates ⟨state, now, event⟩ := by
  have move := move_step now event state
  rcases heard with ⟨collection, fragments, here, same, surveying⟩ | ⟨call, bundle, here, same⟩
  · cases move.evolves here with
    | kept old => exact Or.inl (Or.inl ⟨_, _, old, same, surveying⟩)
    | begun => cases surveying
    | received event awaited old exploring =>
      exact Or.inr ⟨_, _, _, event, awaited, old, same, exploring⟩
    | refused => cases surveying
    | surveyed old before => exact Or.inl (Or.inl ⟨_, _, old, same, before⟩)
  · subst same
    rcases move.storing_cases here with old | ⟨working, outcome⟩
    · exact Or.inl (Or.inr ⟨call, bundle, old, rfl⟩)
    · obtain ⟨collection, fragments, there, surveying, _⟩ := State.surveying_of_outcome outcome
      exact Or.inl (Or.inl ⟨collection, fragments, there, run.errand_pair working there, surveying⟩)

/-- **Whoever has heard of the candidates has heard of them in a step.** -/
theorem received (run : Run capacity geolocating timeout interval history state) {pair : Pair}
    {id : CollectionId} (heard : state.Heard pair id) :
    ∃ position candidates, At history position (Receives pair id candidates) := by
  let holds : State → Prop := fun state => state.Heard pair id
  have none : ¬ holds (.initial capacity geolocating timeout interval) := by
    rintro (⟨_, _, here, _⟩ | ⟨_, _, here, _⟩) <;> cases here
  have held : holds state := heard
  obtain ⟨position, ⟨taken, here, silent, hears⟩, _⟩ := run.brought_about none held
  rcases heard_step (run.take here) hears with old | ⟨candidates, received⟩
  · exact absurd old silent
  · exact ⟨position, candidates, taken, here, received⟩

/-- Whoever has heard of the candidates before a step has heard of them in an earlier one. -/
theorem received_earlier (run : Run capacity geolocating timeout interval history state)
    {position : Nat} {taken : Occurrence} (here : history[position]? = some taken) {pair : Pair}
    {id : CollectionId} (heard : taken.before.Heard pair id) :
    ∃ sooner candidates, sooner < position ∧ At history sooner (Receives pair id candidates) := by
  obtain ⟨sooner, candidates, receives⟩ := received (run.take here) heard
  obtain ⟨before, receives⟩ := receives.of_take
  exact ⟨sooner, candidates, before, receives⟩

/-- A collection that hears of its candidates has got its number. -/
theorem lt_of_receives (run : Run capacity geolocating timeout interval history state)
    {pair : Pair} {id : CollectionId} {candidates : List Candidate} {position : Nat}
    {taken : Occurrence} (here : history[position]? = some taken)
    (receives : Receives pair id candidates taken) : id < taken.before.nextCollection := by
  obtain ⟨_, collection, _, _, there, _⟩ := receives
  exact collection_lt (run.take here) there

/-- A collection that hears of its candidates ceases to wait for the oracle. -/
theorem settles_of_receives (run : Run capacity geolocating timeout interval history state)
    {pair : Pair} {id : CollectionId} {candidates : List Candidate} {position : Nat}
    (receives : At history position (Receives pair id candidates)) :
    At history position (Settles id) := by
  obtain ⟨taken, here, received⟩ := receives
  exact ⟨taken, here, received.settles (run.lt_of_receives here received)⟩

/-- **A collection ceases to wait for the oracle once.** -/
theorem settles_unique (run : Run capacity geolocating timeout interval history state)
    {id : CollectionId} {first second : Nat} (one : At history first (Settles id))
    (two : At history second (Settles id)) : first = second := by
  have ordered {first second : Nat} (one : At history first (Settles id))
      (two : At history second (Settles id)) : second ≤ first := by
    refine Nat.le_of_not_lt fun before => ?_
    obtain ⟨taken, here, ⟨collection, there, exploring⟩, _⟩ := two
    have settled : At history first (Settled id ·.after) := one.mono fun _ settles => settles.2
    have stays := run.stays settled fun _ later _ _ settled => settled.step (move_taken later)
    exact (stays.1 second taken before here).2 collection there exploring
  exact Nat.le_antisymm (ordered two one) (ordered one two)

/-- **A collection hears of its candidates once.** -/
theorem receives_unique (run : Run capacity geolocating timeout interval history state)
    {pair pair' : Pair} {id : CollectionId} {candidates candidates' : List Candidate}
    {first second : Nat} (receives : At history first (Receives pair id candidates))
    (again : At history second (Receives pair' id candidates')) : first = second :=
  run.settles_unique (run.settles_of_receives receives) (run.settles_of_receives again)

end Run

end Wayfinder.Atlas
