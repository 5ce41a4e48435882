/-
**Where cached bundles come from.**

Every bundle that is cached for a pair comes from one answer of the oracle to the question for that
very pair: it joins what the surveys of all candidates of the answer have found, in the order of the
candidates. In which order the surveys have ended does not matter. Nothing else gets into the cache:
collections that fail or are given up leave it as it is, and a look-up finds what was put last.

* `Inquires`, `Run.inquired`: who works on a collection has asked the oracle for its pair;
* `Merges`: how a bundle has come about;
* `Run.merges`: every bundle that is put has come about so;
* `Traced`, `Run.traced`: where what is cached comes from, in every run without broken surveys.
-/

import Wayfinder.Proofs.Atlas.Endings
import Wayfinder.Proofs.Atlas.Puts

namespace Wayfinder.Atlas

/-- The step in which a call or a loop begins a collection: it asks the oracle for the candidates
between the nodes of the pair. -/
def Inquires (owner : Owner) (pair : Pair) (id : CollectionId) (taken : Occurrence) : Prop :=
  taken.event = .proceed owner.task ∧ taken.before.nextCollection = id ∧
    taken.effects = [.ask owner.task (.candidates pair.2 pair.1 false) (some taken.before.timeout)]

/-- How a bundle for a pair has come about. -/
structure Merges (geolocating : Bool) (history : List Occurrence) (pair : Pair) (bundle : Bundle)
    (asked heard gathered : Nat) (candidates : List Candidate) : Prop where
  /-- Whoever collects asks the oracle for the pair, then hears of the candidates, and then, when all
  of them have been surveyed, gathers what was found. -/
  ordered : asked < heard ∧ heard < gathered
  /-- The answer is one to the question. -/
  answered : ∃ owner, At history asked (Inquires owner pair bundle.collection) ∧
    At history heard fun taken => taken.event = .answer owner.task (.candidates (.ok candidates)) ∧
      Receives pair bundle.collection candidates taken
  /-- The survey of each candidate has passed all its hops. -/
  surveyed : ∀ position candidate, candidates[position]? = some candidate →
    (reached geolocating (history.take gathered) bundle.collection position candidate).isOver = true
  /-- The bundle joins what they have found in the order of the candidates. -/
  merged : bundle.metadata =
    Metadata.concat (findings geolocating (history.take gathered) bundle.collection candidates)
  /-- That is what they have found in the order of their ends, sorted by position. -/
  sorted : bundle.metadata = Metadata.concat
    (((endings (history.take gathered) bundle.collection).mergeSort (·.2 ≤ ·.2)).map Prod.fst)

/-- Where what is cached comes from. -/
structure Traced (geolocating : Bool) (history : List Occurrence) (state : State) : Prop where
  /-- A bundle that is cached for a pair joins what was found about all candidates of one answer for
  that pair. -/
  cached : ∀ pair bundle, state.bundle? pair = some bundle → ∃ asked heard gathered candidates,
    Merges geolocating history pair bundle asked heard gathered candidates
  /-- The same holds of every bundle that is ever put into the cache. -/
  put : ∀ position pair bundle, At history position (Puts pair bundle) →
    ∃ asked heard gathered candidates,
      Merges geolocating history pair bundle asked heard gathered candidates
  /-- A bundle that is put is in the cache afterwards, if the cache holds anything at all. -/
  held : ∀ position pair bundle, state.cache.capacity ≠ 0 →
    At history position (Puts pair bundle) →
    At history position fun taken => taken.after.bundle? pair = some bundle
  /-- Whatever changes in the cache changes because a bundle is put there. -/
  changed : ∀ position pair,
    (At history position fun taken => taken.after.bundle? pair ≠ taken.before.bundle? pair) →
    ∃ pair' bundle, At history position (Puts pair' bundle)
  /-- A collection that the oracle refuses puts nothing. -/
  refused : ∀ refused position pair bundle,
    At history refused (Refuses bundle.collection) → ¬ At history position (Puts pair bundle)
  /-- A collection whose call is given up puts nothing. -/
  cancelled : ∀ dropped position pair bundle,
    At history dropped (Cancels bundle.collection) → ¬ At history position (Puts pair bundle)
  /-- A call that is answered when it looks its pair up gets the bundle that was put last for it. -/
  latest : ∀ position id pair outcome, (At history position fun taken =>
      LooksUp id pair taken ∧ .finish id outcome ∈ taken.effects) →
    ∃ bundle put, outcome = .ok (some bundle) ∧ put < position ∧
      At history put (Puts pair bundle) ∧
      ∀ later bundle', put < later → later < position → ¬ At history later (Puts pair bundle')

namespace Run

variable {capacity : Nat} {geolocating : Bool} {timeout interval : Duration}
  {history : List Occurrence} {state : State}

/-- Who works on a collection has asked the oracle for its pair. -/
theorem inquired (run : Run capacity geolocating timeout interval history state) {owner : Owner}
    {pair : Pair} {id : CollectionId} (working : state.errand? owner = some (pair, id)) :
    ∃ asked, At history asked (Inquires owner pair id) := by
  let holds : State → Prop := fun state => state.errand? owner = some (pair, id)
  have none : ¬ holds (.initial capacity geolocating timeout interval) := by
    intro found
    cases owner <;> cases found
  have held : holds state := working
  obtain ⟨asked, ⟨taken, here, idle, busy⟩, _⟩ := run.brought_about none held
  rcases (move_taken taken).errand_cases busy with old | ⟨turn, next, _, asks⟩
  · exact absurd old idle
  · exact ⟨asked, taken, here, turn, next.symm, asks⟩

/-- **The answer that a collection hears is one to a question of its owner's.** -/
theorem answered (run : Run capacity geolocating timeout interval history state) {heard : Nat}
    {pair : Pair} {id : CollectionId} {candidates : List Candidate}
    (receives : At history heard (Receives pair id candidates)) :
    ∃ owner asked, asked < heard ∧ At history asked (Inquires owner pair id) ∧
      At history heard fun taken => taken.event = .answer owner.task (.candidates (.ok candidates)) ∧
        Receives pair id candidates taken := by
  obtain ⟨taken, here, receives⟩ := receives
  have received := receives
  obtain ⟨task, collection, event, awaited, there, rfl, exploring⟩ := received
  have earlier := run.take here
  obtain ⟨owner, rfl⟩ : ∃ owner : Owner, task = owner.task := by
    cases task with
    | call call => exact ⟨.call call, rfl⟩
    | loop loop => exact ⟨.loop loop, rfl⟩
    | survey other position => cases awaited
  obtain ⟨place, working⟩ := State.errand?_of_awaited? awaited
  have same := errand_pair earlier working there
  subst same
  obtain ⟨asked, inquires⟩ := inquired earlier working
  obtain ⟨before, inquires⟩ := inquires.of_take
  exact ⟨owner, asked, before, inquires, taken, here, event, receives⟩

/-- **Every bundle that is put joins what was found about all candidates of one answer.** -/
theorem merges (run : Run capacity geolocating timeout interval history state)
    (sound : Sound history) {position : Nat} {pair : Pair} {bundle : Bundle}
    (puts : At history position (Puts pair bundle)) : ∃ asked heard gathered candidates,
      Merges geolocating history pair bundle asked heard gathered candidates := by
  obtain ⟨gathered, _, taken, here, ⟨owner, working⟩, found⟩ := run.gathered puts
  have earlier := run.take here
  obtain ⟨collection, heard, candidates, there, receives, surveyed, complete⟩ :=
    completed earlier (sound.take gathered) found
  have same := errand_pair earlier working there
  rw [same] at receives
  obtain ⟨before, receives⟩ := receives.of_take
  obtain ⟨owner, asked, sooner, inquires, answers⟩ := run.answered receives
  have merged := outcome_of_complete there complete
  rw [found] at merged
  exact ⟨asked, heard, gathered, candidates, ⟨sooner, before⟩, ⟨owner, inquires, answers⟩, surveyed,
    Except.ok.inj (Option.some.inj merged), sorted_endings earlier (sound.take gathered) found⟩

/-- **As long as no survey breaks down, whatever is cached comes from one answer for its pair.** -/
theorem traced (run : Run capacity geolocating timeout interval history state)
    (sound : Sound history) : Traced geolocating history state where
  cached := by
    intro pair bundle cached
    let holds : State → Prop := fun state => state.bundle? pair = some bundle
    have none : ¬ holds (.initial capacity geolocating timeout interval) := by
      intro found
      cases found
    have held : holds state := cached
    obtain ⟨put, ⟨taken, here, old, new⟩, _⟩ := run.brought_about none held
    exact run.merges sound ⟨taken, here, puts_of_new new old⟩
  put := fun _ _ _ puts => run.merges sound puts
  held := fun _ _ _ room puts => run.cached_of_puts (run.capacity_eq ▸ room) puts
  changed := by
    rintro position pair ⟨taken, here, changed⟩
    obtain ⟨pair', bundle, puts⟩ := run.puts_of_changed here changed
    exact ⟨pair', bundle, taken, here, puts⟩
  refused := fun _ _ _ _ refuses => run.refused_unput refuses
  cancelled := fun _ _ _ _ cancels => run.cancelled_unput cancels
  latest := fun _ _ _ _ hits => run.last_put hits

end Run

/-! ### Surveys that end in the reverse order -/

/-- The survey of the first candidate waits for the countries of a place, and that of the second one
ends before it. Then the bundle is stored, and another call finds it. -/
def reversedSteps : List (Timestamp × Event) :=
  [(0, .fetch 0 { src := "7-70", dst := "7-71" }), (0, .proceed (.call 0)),
    (0, .proceed (.call 0)),
    (0, .answer (.call 0) (.candidates (.ok
      [raceCandidate 2 (some ⟨.finite false ⟨3, -1⟩, .finite false ⟨5, -1⟩, none⟩),
        raceCandidate 3 none]))),
    (0, .proceed (.survey 0 0)), (0, .proceed (.survey 0 1)),
    (50, .answer (.survey 0 0) (.countries (.ok ["CH"]))), (50, .proceed (.survey 0 0)),
    (50, .proceed (.call 0)), (50, .proceed (.call 0)), (50, .proceed (.call 0)),
    (50, .proceed (.call 0)), (60, .fetch 1 { src := "7-70", dst := "7-71" }),
    (60, .proceed (.call 1))]

/-- The history of those steps. -/
def reversed : List Occurrence := automaton.replay (.initial 4 true 1000 60000) reversedSteps

/-- What was found about both candidates, the first one first. -/
def reversedBundle : Bundle where
  metadata :=
    { nodes := [⟨"operates", racePair.1, .string "CH"⟩]
      links := [⟨"bandwidth", ⟨⟨racePair.1, 1⟩, ⟨racePair.2, 1⟩⟩, .int32 2⟩,
        ⟨"bandwidth", ⟨⟨racePair.1, 1⟩, ⟨racePair.2, 1⟩⟩, .int32 3⟩] }
  collection := 0

/-- The bundle that joins what was found about both candidates is put into the cache and held there,
and the other call finds it. -/
theorem traced_reversed :
    (∃ asked heard gathered candidates,
      Merges true reversed racePair reversedBundle asked heard gathered candidates) ∧
    (∃ put < 13, At reversed put (Puts racePair reversedBundle) ∧
      At reversed put (·.after.bundle? racePair = some reversedBundle)) ∧
    At reversed 13 fun taken =>
      LooksUp 1 racePair taken ∧ .finish 1 (.ok (some reversedBundle)) ∈ taken.effects := by
  have run : Run 4 true 1000 60000 reversed _ :=
    Automaton.Run.of_replay automaton _ reversedSteps (by decide)
  have sound : Sound reversed := by decide +kernel
  have traced := run.traced sound
  have hits : At reversed 13 fun taken =>
      LooksUp 1 racePair taken ∧ .finish 1 (.ok (some reversedBundle)) ∈ taken.effects :=
    ⟨_, rfl, ⟨rfl, rfl⟩, List.mem_singleton_self _⟩
  obtain ⟨bundle, put, same, before, puts, _⟩ := traced.latest 13 1 racePair _ hits
  cases same
  exact ⟨traced.put put racePair _ puts,
    ⟨put, before, puts, traced.held put racePair _ (by decide) puts⟩, hits⟩

end Wayfinder.Atlas
