/-
**Bundles in the order of the oracle's answers.**

A bundle is stored when everything that a collection has found has been put together, however long
that takes. Two collections for one pair that do not overlap store in the order in which they have
heard from the oracle. Two requests for one pair never overlap, nor do two collections of one pass;
a pass may overlap a request or another pass, and then the one that has heard first may store last.

* `Move.bundle_cases`: a bundle after a move is an old one, or that of whoever has collected it;
* `State.Racing`: two collections for one pair, one of them at least a pass's;
* `Run.order_of_stores`: bundles are stored in the order of the answers, unless they race;
* `Run.chronological`: the same for the bundles that are replaced in the cache;
* `older_answer_replaces`: an older answer can replace a newer one.
-/

import Wayfinder.Proofs.Atlas.Collecting
import Wayfinder.Proofs.Atlas.Leads
import Wayfinder.Proofs.Resolver.Replay
import Wayfinder.Proofs.RouteCache.Entries

namespace Wayfinder.Atlas

/-- The bundle that is cached for a pair. -/
def State.bundle? (state : State) (pair : Pair) : Option Bundle :=
  (state.cache.slot? pair).map (·.value)

section

variable {now : Timestamp} {state after : State} {event : Event} {effects : Effects}
  {pair : Pair} {bundle : Bundle}

/-! ### Where bundles come from -/

theorem State.bundle?_of_slot? {entry : Lru.Entry Bundle}
    (here : state.cache.slot? pair = some entry) : state.bundle? pair = some entry.value :=
  congrArg (·.map (·.value)) here

theorem bundle_of_get {other : Pair} (cache : after.cache = (state.cache.get other now).2)
    (found : after.bundle? pair = some bundle) : state.bundle? pair = some bundle := by
  rw [State.bundle?, cache] at found
  obtain ⟨entry, here, same⟩ := Option.map_eq_some_iff.mp found
  obtain ⟨old, there, kept⟩ := Lru.slot?_of_get here
  rw [State.bundle?_of_slot? there, ← same, kept]

/-- **A bundle that is cached after a move was cached before, or is stored by whoever has collected
it**, who is done with it then. -/
theorem Move.bundle_cases (move : Move now state event after effects)
    (found : after.bundle? pair = some bundle) :
    state.bundle? pair = some bundle ∨
      ∃ owner : Owner, event = .proceed owner.task ∧
        state.errand? owner = some (pair, bundle.collection) ∧ after.errand? owner = none ∧
        ((∃ id, state.calls.get? id = some (.fetch pair (.storing bundle))) ∨
          state.outcome? bundle.collection = some (.ok bundle.metadata)) := by
  cases move with
  | hit | miss => exact Or.inl (bundle_of_get rfl found)
  | @store id place stored here =>
    obtain ⟨entry, there, rfl⟩ := Option.map_eq_some_iff.mp found
    rcases Lru.slot?_of_insert there with old | ⟨rfl, same, _⟩
    · exact Or.inl (State.bundle?_of_slot? old)
    · rw [same]
      have quits : ((state.store pair stored).moveTo id pair (.releasing (.ok stored))).errand?
          (.call id) = (Call.fetch pair (.releasing (.ok stored))).errand? :=
        State.errand?_of_get? (Table.get?_put_self ..)
      exact Or.inr ⟨.call id, rfl, State.errand?_of_get? here, quits, Or.inl ⟨id, here⟩⟩
  | @renew owner place collection remaining metadata making outcome =>
    obtain ⟨entry, there, rfl⟩ := Option.map_eq_some_iff.mp found
    rcases Lru.slot?_of_update there with old | ⟨rfl, same, _⟩
    · exact Or.inl (State.bundle?_of_slot? old)
    · rw [same]
      exact Or.inr ⟨owner, rfl, State.errand?_of_pass? making,
        State.errand?_of_pass? (State.pass?_setPass making), Or.inr outcome⟩
  | _ => exact Or.inl found

end

/-! ### Stores -/

/-- The step in which the bundle of a collection comes to be cached for a pair. -/
def Stores (pair : Pair) (id : CollectionId) (taken : Occurrence) : Prop :=
  (taken.before.bundle? pair).map (·.collection) ≠ some id ∧
    (taken.after.bundle? pair).map (·.collection) = some id

/-- The step in which the bundle that is cached for a pair is replaced by that of another
collection. -/
def Replaces (pair : Pair) (old new : CollectionId) (taken : Occurrence) : Prop :=
  (taken.before.bundle? pair).map (·.collection) = some old ∧
    (taken.after.bundle? pair).map (·.collection) = some new ∧ old ≠ new

/-- Two collections for a pair that are under way at once, for two calls or loops of which one at
least makes a pass. -/
def State.Racing (state : State) (pair : Pair) (id other : CollectionId) : Prop :=
  ∃ owner owner', owner ≠ owner' ∧ state.errand? owner = some (pair, id) ∧
    state.errand? owner' = some (pair, other) ∧
    (state.pass? owner ≠ none ∨ state.pass? owner' ≠ none)

theorem Replaces.stores {pair : Pair} {old new : CollectionId} {taken : Occurrence}
    (replaces : Replaces pair old new taken) : Stores pair new taken := by
  obtain ⟨before, after, differs⟩ := replaces
  refine ⟨?_, after⟩
  rw [before]
  exact fun same => differs (Option.some.inj same)

/-- Bundles for a pair are cached in the order in which the oracle's answers behind them have come,
unless the collections race. -/
structure Chronological (history : List Occurrence) : Prop where
  /-- Before a bundle is cached for a pair its collection has heard of the candidates for that very
  pair. -/
  received : ∀ position pair id, At history position (Stores pair id) →
    ∃ heard candidates, heard < position ∧ At history heard (Receives pair id candidates)
  /-- A collection hears of its candidates once. -/
  once : ∀ first second pair pair' id candidates candidates',
    At history first (Receives pair id candidates) →
    At history second (Receives pair' id candidates') → first = second
  /-- Of two bundles that come to be cached for a pair one after the other, whatever has become of
  the first one in the meantime, the second comes from a later answer, unless the collections were
  racing when the first one was stored. -/
  succession : ∀ earlier later pair old new heard heard' candidates candidates', earlier < later →
    At history earlier (Stores pair old) → At history later (Stores pair new) →
    At history heard (Receives pair old candidates) →
    At history heard' (Receives pair new candidates') →
    heard < heard' ∨ At history earlier (·.before.Racing pair old new)
  /-- A bundle that replaces another one in the cache comes from a later answer, unless it has been
  overtaken: its collection had heard first, and while it went on surveying, the other one heard and
  was stored. -/
  replacement : ∀ position pair old new heard heard' candidates candidates',
    At history position (Replaces pair old new) →
    At history heard (Receives pair old candidates) →
    At history heard' (Receives pair new candidates') →
    heard < heard' ∨ ∃ stored, heard' < heard ∧ heard < stored ∧ stored < position ∧
      At history stored fun taken => Stores pair old taken ∧ taken.before.Racing pair old new

namespace Run

variable {capacity : Nat} {geolocating : Bool} {timeout interval : Duration}
  {history : List Occurrence} {state : State}

/-- A bundle is stored by whoever has collected it and has heard of the candidates. -/
theorem stored_by (run : Run capacity geolocating timeout interval history state) {position : Nat}
    {pair : Pair} {id : CollectionId} {taken : Occurrence} (here : history[position]? = some taken)
    (stores : Stores pair id taken) :
    ∃ owner, taken.before.errand? owner = some (pair, id) ∧ taken.after.errand? owner = none ∧
      taken.before.Heard pair id := by
  obtain ⟨absent, present⟩ := stores
  obtain ⟨bundle, found, rfl⟩ := Option.map_eq_some_iff.mp present
  rcases (move_taken taken).bundle_cases found with old | ⟨owner, _, working, quits, collected⟩
  · rw [old] at absent
    exact absurd rfl absent
  · refine ⟨owner, working, quits, ?_⟩
    rcases collected with ⟨call, storing⟩ | outcome
    · exact Or.inr ⟨call, bundle, storing, rfl⟩
    · obtain ⟨collection, fragments, there, surveying, _⟩ :=
        State.surveying_of_outcome outcome
      exact Or.inl ⟨collection, fragments, there, errand_pair (run.take here) working there,
        surveying⟩

/-- Before a bundle is stored its collection has heard of the candidates. -/
theorem received_before (run : Run capacity geolocating timeout interval history state)
    {position : Nat} {pair : Pair} {id : CollectionId}
    (stores : At history position (Stores pair id)) :
    ∃ heard candidates, heard < position ∧ At history heard (Receives pair id candidates) := by
  obtain ⟨taken, here, stores⟩ := stores
  obtain ⟨_, _, _, heard⟩ := run.stored_by here stores
  exact run.received_earlier here heard

/-- **Of two bundles stored one after the other, the second one's collection begins after the first
one is stored, or the two collections race.** -/
theorem begins_or_races (run : Run capacity geolocating timeout interval history state)
    {earlier later : Nat} {pair : Pair} {old new : CollectionId} {first second : Occurrence}
    (before : earlier < later) (here : history[earlier]? = some first)
    (there : history[later]? = some second) (stores : Stores pair old first)
    (stores' : Stores pair new second) :
    first.before.nextCollection ≤ new ∨ first.before.Racing pair old new := by
  rcases Nat.lt_or_ge new first.before.nextCollection with given | fresh
  · obtain ⟨owner, working, quits, _⟩ := run.stored_by here stores
    obtain ⟨owner', working', _, _⟩ := run.stored_by there stores'
    have earlier' : (history.take later)[earlier]? = some first := by
      rw [List.getElem?_take_of_lt before, here]
    obtain ⟨already, still⟩ := errand_at (run.take there) earlier' working' given
    have differs : owner ≠ owner' := by
      rintro rfl
      rw [quits] at still
      cases still
    exact Or.inr ⟨owner, owner', differs, working, already,
      pass_of_errands (run.take here) differs working already⟩
  · exact Or.inl fresh

/-- **Bundles for a pair are stored in the order of the answers, unless the collections race.** -/
theorem order_of_stores (run : Run capacity geolocating timeout interval history state)
    {earlier later : Nat} {pair : Pair} {old new : CollectionId} {heard heard' : Nat}
    {candidates candidates' : List Candidate} (before : earlier < later)
    (stores : At history earlier (Stores pair old)) (stores' : At history later (Stores pair new))
    (receives : At history heard (Receives pair old candidates))
    (receives' : At history heard' (Receives pair new candidates')) :
    heard < heard' ∨ At history earlier (·.before.Racing pair old new) := by
  obtain ⟨first, here, storing⟩ := stores
  obtain ⟨second, there, storing'⟩ := stores'
  rcases run.begins_or_races before here there storing storing' with fresh | races
  · obtain ⟨sure, _, sooner, surely⟩ := run.received_before ⟨first, here, storing⟩
    have same := run.receives_unique receives surely
    obtain ⟨taken, at', receiving⟩ := receives'
    have given := run.lt_of_receives at' receiving
    refine Or.inl ?_
    rcases Nat.lt_or_ge earlier heard' with after | notAfter
    · omega
    · -- the answer would have come to a collection that had not begun
      exfalso
      rcases Nat.eq_or_lt_of_le notAfter with rfl | sooner'
      · rw [here] at at'
        cases at'
        exact absurd given (Nat.not_lt_of_le fresh)
      · have grown := run.measure_le (fun taken => (move_taken taken).nextCollection_le) at' here
          sooner'
        have bound := Nat.le_trans (move_taken taken).nextCollection_le grown
        exact absurd given (Nat.not_lt_of_le (Nat.le_trans bound fresh))
  · exact Or.inr ⟨first, here, races⟩

/-- What is cached for a pair has been stored. -/
theorem stored_before (run : Run capacity geolocating timeout interval history state) {pair : Pair}
    {id : CollectionId} (cached : (state.bundle? pair).map (·.collection) = some id) :
    ∃ position, At history position (Stores pair id) := by
  let holds : State → Prop := fun state => (state.bundle? pair).map (·.collection) = some id
  have none : ¬ holds (.initial capacity geolocating timeout interval) :=
    fun found => by cases found
  have held : holds state := cached
  obtain ⟨position, stores, _⟩ := run.brought_about none held
  exact ⟨position, stores⟩

end Run

/-! ### An answer that is overtaken -/

/-- The pair of the run that is replayed. -/
def racePair : Pair := (Resolver.sampleSrc, Resolver.sampleDst)

/-- A candidate between the nodes of the pair, the first hop at some place or nowhere. -/
def raceCandidate (bandwidth : UInt64) (place : Option Coordinates) : Candidate :=
  { hops := [⟨racePair.1, 1⟩, ⟨racePair.2, 1⟩]
    expiry := ⟨0, false⟩
    bandwidth := [some bandwidth]
    places := [place, none] }

/-- A pair is cached and then refreshed by two calls. The first one hears first, but the countries
of a place keep it waiting; meanwhile the second one hears and stores. -/
def raced : List Occurrence :=
  automaton.replay (.initial 4 true 1000 60000)
    [(0, .fetch 0 { src := "7-70", dst := "7-71" }), (0, .proceed (.call 0)),
      (0, .proceed (.call 0)), (0, .answer (.call 0) (.candidates (.ok []))),
      (0, .proceed (.call 0)), (0, .proceed (.call 0)), (0, .proceed (.call 0)),
      (0, .proceed (.call 0)), (0, .refresh 1), (0, .proceed (.call 1)),
      (0, .answer (.call 1) (.candidates (.ok
        [raceCandidate 2 (some ⟨.finite false ⟨3, -1⟩, .finite false ⟨5, -1⟩, none⟩)]))),
      (0, .proceed (.survey 1 0)), (100, .refresh 2), (100, .proceed (.call 2)),
      (100, .answer (.call 2) (.candidates (.ok [raceCandidate 3 none]))),
      (100, .proceed (.survey 2 0)), (100, .proceed (.call 2)),
      (500, .answer (.survey 1 0) (.countries (.ok ["CH"]))), (500, .proceed (.survey 1 0)),
      (500, .proceed (.call 1))]

theorem raced_run : ∃ state, Run 4 true 1000 60000 raced state :=
  ⟨_, Automaton.Run.of_replay automaton _ _ (by decide)⟩

/-- The last step puts the bundle of the first refresh in the place of that of the second. -/
theorem raced_replaces : At raced 19 (Replaces racePair 2 1) :=
  ⟨_, rfl, by decide +kernel, by decide +kernel, by decide⟩

theorem raced_first : At raced 10 (Receives racePair 1
    [raceCandidate 2 (some ⟨.finite false ⟨3, -1⟩, .finite false ⟨5, -1⟩, none⟩)]) :=
  ⟨_, rfl, .call 1, _, rfl, by decide +kernel, rfl, rfl, rfl⟩

theorem raced_second : At raced 14 (Receives racePair 2 [raceCandidate 3 none]) :=
  ⟨_, rfl, .call 2, _, rfl, by decide +kernel, rfl, rfl, rfl⟩

/-- **A bundle can be replaced by one from an older answer.** -/
theorem older_answer_replaces :
    ¬ ∀ history state, Run 4 true 1000 60000 history state →
      ∀ position pair old new heard heard' candidates candidates',
        At history position (Replaces pair old new) →
        At history heard (Receives pair old candidates) →
        At history heard' (Receives pair new candidates') → heard < heard' := by
  intro ordered
  obtain ⟨state, run⟩ := raced_run
  have later := ordered raced state run 19 racePair 2 1 14 10 _ _ raced_replaces raced_second
    raced_first
  omega

namespace Run

variable {capacity : Nat} {geolocating : Bool} {timeout interval : Duration}
  {history : List Occurrence} {state : State}

/-- **In every run bundles are cached in the order of the oracle's answers, unless collections for
one pair race.** -/
theorem chronological (run : Run capacity geolocating timeout interval history state) :
    Chronological history where
  received := fun _ _ _ stores => run.received_before stores
  once := fun _ _ _ _ _ _ _ receives again => run.receives_unique receives again
  succession := fun _ _ _ _ _ _ _ _ _ before stores stores' receives receives' =>
    run.order_of_stores before stores stores' receives receives'
  replacement := by
    rintro position pair old new heard heard' candidates candidates' replaces receives receives'
    obtain ⟨taken, here, replacing⟩ := replaces
    obtain ⟨stored, stores⟩ := stored_before (run.take here) replacing.1
    obtain ⟨before, stores⟩ := stores.of_take
    rcases run.order_of_stores before stores ⟨taken, here, replacing.stores⟩ receives receives' with
      later | races
    · exact Or.inl later
    · rcases Nat.lt_trichotomy heard heard' with later | same | overtaken
      · exact Or.inl later
      · subst same
        obtain ⟨_, _, receiving, receiving'⟩ := receives.and receives'
        exact absurd (receiving.id_eq receiving') replacing.2.2
      · obtain ⟨sure, _, sooner, surely⟩ := run.received_before stores
        have same := run.receives_unique receives surely
        exact Or.inr ⟨stored, overtaken, by omega, before, stores.and races⟩

end Run

/-- In the run in which an older answer replaces a newer one, the collections were racing. -/
theorem chronological_raced : ∃ stored, 10 < 14 ∧ 14 < stored ∧ stored < 19 ∧
    At raced stored fun taken => Stores racePair 2 taken ∧ taken.before.Racing racePair 2 1 := by
  obtain ⟨state, run⟩ := raced_run
  rcases run.chronological.replacement 19 racePair 2 1 14 10 _ _ raced_replaces raced_second
    raced_first with later | overtaken
  · exact absurd later (by decide)
  · exact overtaken

end Wayfinder.Atlas
