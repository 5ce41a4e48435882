/-
**One collection for all who miss.**

Calls that find nothing for one pair share one collection: the first of them leads, those who come
while it leads follow it and hear its result. When it is given up while it collects, nothing of what
it has collected is kept, and those who followed it start over; the first of them leads in its place,
unless the pair has been cached or somebody else has begun to lead.

* `Withdraws`: a leading call is given up while it collects;
* `Run.withdrawn`: nothing of its collection is stored, neither before nor afterwards;
* `Run.takes_over`: who followed it is answered from the cache, leads alone, or follows a call that
  has begun to lead since;
* `Shared`: what holds in every run;
* `Run.shared`: that it holds.
-/

import Wayfinder.Proofs.Atlas.Access
import Wayfinder.Proofs.Atlas.Followers
import Wayfinder.Proofs.Atlas.Owners

namespace Wayfinder.Atlas

/-- The step in which a leading call is given up while it collects. -/
def Withdraws (id : CallId) (pair : Pair) (collection : CollectionId) (taken : Occurrence) : Prop :=
  taken.event = .cancel id ∧
    ∃ began, taken.before.calls.get? id = some (.fetch pair (.collecting began collection))

/-- The step in which the turn of a call that has joined another one comes. -/
def Retries (id leader : CallId) (pair : Pair) (taken : Occurrence) : Prop :=
  taken.event = .proceed (.call id) ∧
    taken.before.calls.get? id = some (.fetch pair (.following leader))

namespace Withdraws

variable {id : CallId} {pair : Pair} {collection : CollectionId} {taken : Occurrence}

theorem after_eq (withdraws : Withdraws id pair collection taken) :
    taken.after = ((({ taken.before with
      markers := taken.before.markers.erase pair }.forget collection).dismiss id).announce id
        .closed).1 := by
  obtain ⟨event, began, here⟩ := withdraws
  show (step taken.now taken.event taken.before).1 = _
  simp only [event, step, cancel, here, cancelFetch]

theorem drops (withdraws : Withdraws id pair collection taken) : Drops id taken := by
  obtain ⟨event, began, here⟩ := withdraws
  exact ⟨event, pair, State.telling?_of_get? here⟩

/-- Who is given up while collecting leaves the cache as it is. -/
theorem cache (withdraws : Withdraws id pair collection taken) :
    taken.after.cache = taken.before.cache := by
  rw [withdraws.after_eq]
  rfl

theorem forgets (withdraws : Withdraws id pair collection taken) :
    taken.after.collections.get? collection = none := by
  rw [withdraws.after_eq]
  exact Table.get?_erase_self ..

theorem unmarks (withdraws : Withdraws id pair collection taken) :
    taken.after.markers.get? pair = none := by
  rw [withdraws.after_eq]
  exact Table.get?_erase_self ..

/-- Who is given up while collecting quits the collection and has not stored it. -/
theorem quits (withdraws : Withdraws id pair collection taken) (pair' : Pair) :
    Quits (.call id) (pair, collection) taken ∧ ¬ Stores pair' collection taken := by
  have same := withdraws.cache
  obtain ⟨event, began, here⟩ := withdraws
  refine ⟨quits_of_cancel event (State.errand?_of_get? here), fun stores => ?_⟩
  obtain ⟨absent, present⟩ := stores
  rw [State.bundle?, same] at present
  exact absent present

end Withdraws

namespace Run

variable {capacity : Nat} {geolocating : Bool} {timeout interval : Duration}
  {history : List Occurrence} {state : State}

/-! ### One turn after another -/

/-- A call that is left alone is at its next turn where the last one has left it. -/
theorem next_turn (run : Run capacity geolocating timeout interval history state) {position : Nat}
    {id : CallId} {call : Call} (found : At history position (·.after.calls.get? id = some call))
    (turn : At history (position + 1) (·.event = .proceed (.call id))) :
    At history (position + 1) fun taken =>
      taken.event = .proceed (.call id) ∧ taken.before.calls.get? id = some call := by
  obtain ⟨taken, here, left⟩ := found
  obtain ⟨next, there, event⟩ := turn
  refine ⟨next, there, event, ?_⟩
  rw [Automaton.Run.before_eq_after run here there]
  exact left

/-- **Whoever starts, or starts over, is answered from the cache**, or goes on to join; left alone,
it then follows the call that leads, or leads alone. -/
theorem access (run : Run capacity geolocating timeout interval history state) {position : Nat}
    {id : CallId} {pair : Pair} (looks : At history position (LooksUp id pair)) :
    (∃ bundle, At history position (Hits id pair bundle)) ∨
      At history position (Misses id pair) ∧
        (At history (position + 1) (·.event = .proceed (.call id)) →
          At history (position + 1) fun taken =>
            (∃ leader, Joins id leader pair taken) ∨ LeadsAlone id pair taken) := by
  obtain ⟨taken, here, looking⟩ := looks
  rcases run.hits_or_misses here looking with ⟨bundle, hits⟩ | misses
  · exact Or.inl ⟨bundle, taken, here, hits⟩
  · refine Or.inr ⟨⟨taken, here, misses⟩, fun turn => ?_⟩
    obtain ⟨next, there, arrives⟩ := run.next_turn ⟨taken, here, misses.2.2.1⟩ turn
    exact ⟨next, there, run.joins_or_leads there arrives⟩

/-! ### After a leading call has been given up -/

/-- **Nothing of a collection whose call is given up while it collects is stored.** -/
theorem withdrawn (run : Run capacity geolocating timeout interval history state) {dropped : Nat}
    {id : CallId} {pair pair' : Pair} {collection : CollectionId}
    (withdraws : At history dropped (Withdraws id pair collection)) (position : Nat) :
    ¬ At history position (Stores pair' collection) :=
  run.never_stored (withdraws.mono fun _ withdraws => withdraws.quits pair') position

/-- Who goes on to join after a leading call has been given up leads alone, or follows a call that
has begun to lead since. -/
theorem leads_or_led_since (run : Run capacity geolocating timeout interval history state)
    {dropped position : Nat} {leader id : CallId} {pair : Pair} {collection : CollectionId}
    (withdraws : At history dropped (Withdraws leader pair collection)) (after : dropped < position)
    (arrives : At history position (Arrives id pair)) :
    At history position (LeadsAlone id pair) ∨ ∃ other began, dropped < began ∧
      began < position ∧ At history began (Leads other pair) ∧
        At history position (Joins id other pair) := by
  obtain ⟨taken, here, arrives⟩ := arrives
  rcases run.joins_or_leads here arrives with ⟨other, joins⟩ | alone
  · have unmarked : At (history.take position) dropped (·.after.markers.get? pair = none) :=
      (withdraws.take after).mono fun _ withdraws => withdraws.unmarks
    obtain ⟨began, since, leads⟩ := led_since (run.take here) unmarked joins.2.1
    obtain ⟨before, leads⟩ := leads.of_take
    exact Or.inr ⟨other, began, since, before, leads, taken, here, joins⟩
  · exact Or.inl ⟨taken, here, alone⟩

/-- **Who followed a call that was given up while it collected takes over**: left alone from its next
turn on, it is answered from the cache, or leads alone, or follows a call that has begun to lead
since. -/
theorem takes_over (run : Run capacity geolocating timeout interval history state)
    {dropped position : Nat} {leader id : CallId} {pair : Pair} {collection : CollectionId}
    (withdraws : At history dropped (Withdraws leader pair collection)) (after : dropped < position)
    (retries : At history position (Retries id leader pair))
    (looking : At history (position + 1) (·.event = .proceed (.call id)))
    (joining : At history (position + 2) (·.event = .proceed (.call id))) :
    (∃ bundle, At history (position + 1) (Hits id pair bundle)) ∨
      At history (position + 2) (LeadsAlone id pair) ∨ ∃ other began, dropped < began ∧
        began < position + 2 ∧ At history began (Leads other pair) ∧
          At history (position + 2) (Joins id other pair) := by
  have drops : At history dropped (Drops leader) :=
    withdraws.mono fun _ withdraws => withdraws.drops
  have restarts := run.starts_over drops after retries
  have looks : At history (position + 1) (LooksUp id pair) :=
    run.next_turn (restarts.mono fun _ restarted => restarted.1) looking
  rcases run.access looks with hits | ⟨misses, _⟩
  · exact Or.inl hits
  · have arrives : At history (position + 2) (Arrives id pair) :=
      run.next_turn (misses.mono fun _ missed => missed.2.2.1) joining
    exact Or.inr (run.leads_or_led_since withdraws (by omega) arrives)

end Run

/-! ### What holds in every run -/

/-- Calls that miss one pair share one collection. -/
structure Shared (history : List Occurrence) (state : State) : Prop where
  /-- For a pair at most one collection is under way that is not a pass's. -/
  single : ∀ first second collection collection',
    state.collections.get? first = some collection →
    state.collections.get? second = some collection' → collection.pair = collection'.pair →
    state.pass? collection.owner = none → state.pass? collection'.owner = none → first = second
  /-- Such a collection belongs to a call that leads for the pair. -/
  owned : ∀ id collection, state.collections.get? id = some collection →
    state.pass? collection.owner = none →
    ∃ call, collection.owner = .call call ∧ state.leading? call = some collection.pair
  /-- A mark is that of the one call that leads for the pair. -/
  marked : ∀ pair id, state.markers.get? pair = some id ↔ state.leading? id = some pair
  /-- While no call for metadata is under way there are no marks. -/
  clear : (∀ id pair stage, state.calls.get? id ≠ some (.fetch pair stage)) →
    state.markers.entries = []
  /-- A channel at which a call waits is shut, or its other end is held by a call that has yet to
  tell its result for the same pair. -/
  served : ∀ id leader pair, state.calls.get? id = some (.fetch pair (.following leader)) →
    ∃ channel, state.channels.get? leader = some channel ∧
      (channel = .open → state.telling? leader = some pair)
  /-- When a channel is shut, everyone who waits at it is roused. -/
  roused : ∀ position id leader pair, (At history position fun taken =>
      taken.before.calls.get? id = some (.fetch pair (.following leader)) ∧
        taken.before.channels.get? leader = some .open ∧
        taken.after.channels.get? leader ≠ some .open) →
    At history position (.rouse (.call id) ∈ ·.effects)
  /-- Who waits at a channel that is shut can go on. -/
  ready : ∀ id leader pair channel,
    state.calls.get? id = some (.fetch pair (.following leader)) →
    state.channels.get? leader = some channel → channel ≠ .open →
    ∀ now, proceed now (.call id) state ≠ none
  /-- A call that has joined another one ends with the very result that the other one tells. -/
  heard : ∀ position id leader pair outcome, (At history position fun taken =>
      taken.before.calls.get? id = some (.fetch pair (.following leader)) ∧
        .finish id outcome ∈ taken.effects) →
    ∃ told result, told < position ∧ At history told (Tells leader pair result) ∧
      outcome = result.map some
  /-- When a leading call is given up while it collects, its collection is forgotten and nothing of
  it is ever stored. -/
  withdrawn : ∀ dropped leader pair collection,
    At history dropped (Withdraws leader pair collection) →
    (At history dropped fun taken => taken.after.cache = taken.before.cache ∧
      taken.after.collections.get? collection = none) ∧
    (∀ position pair', ¬ At history position (Stores pair' collection)) ∧
    ∀ pair' bundle, state.bundle? pair' = some bundle → bundle.collection ≠ collection
  /-- Who followed a call that was given up starts over when its turn comes. -/
  startsOver : ∀ dropped position id leader pair, At history dropped (Drops leader) →
    dropped < position → At history position (Retries id leader pair) →
    At history position fun taken =>
      taken.after.calls.get? id = some (.fetch pair .lookingUp) ∧ taken.effects = []
  /-- Whoever starts, or starts over, is answered from the cache or goes on to join; left alone, it
  then follows the call that leads, or leads alone. -/
  access : ∀ position id pair, At history position (LooksUp id pair) →
    (∃ bundle, At history position (Hits id pair bundle)) ∨
      At history position (Misses id pair) ∧
        (At history (position + 1) (·.event = .proceed (.call id)) →
          At history (position + 1) fun taken =>
            (∃ leader, Joins id leader pair taken) ∨ LeadsAlone id pair taken)
  /-- Who followed a call that was given up while it collected and is left alone from its next turn
  on leads alone, unless the pair has been cached or another call has begun to lead since. -/
  takesOver : ∀ dropped position leader id pair collection,
    At history dropped (Withdraws leader pair collection) → dropped < position →
    At history position (Retries id leader pair) →
    At history (position + 1) (·.event = .proceed (.call id)) →
    At history (position + 2) (·.event = .proceed (.call id)) →
    (∃ bundle, At history (position + 1) (Hits id pair bundle)) ∨
      At history (position + 2) (LeadsAlone id pair) ∨ ∃ other began, dropped < began ∧
        began < position + 2 ∧ At history began (Leads other pair) ∧
          At history (position + 2) (Joins id other pair)

namespace Run

variable {capacity : Nat} {geolocating : Bool} {timeout interval : Duration}
  {history : List Occurrence} {state : State}

/-- While no call for metadata is under way there are no marks. -/
theorem clear (run : Run capacity geolocating timeout interval history state)
    (idle : ∀ id pair stage, state.calls.get? id ≠ some (.fetch pair stage)) :
    state.markers.entries = [] := by
  refine Table.entries_eq_nil fun pair => ?_
  cases marked : state.markers.get? pair with
  | none => rfl
  | some id =>
    have leading := (run.marked_iff pair id).mp marked
    obtain ⟨stage, here, _⟩ := State.telling?_eq_some (State.telling?_of_leading? leading)
    exact absurd here (idle id pair stage)

/-- **In every run those who miss a pair share one collection.** -/
theorem shared (run : Run capacity geolocating timeout interval history state) :
    Shared history state where
  single := fun _ _ _ _ here there same leads leads' =>
    run.collection_unique here there same leads leads'
  owned := fun _ _ here leads => leads_of_errand (run.errand_of_collection here) leads
  marked := run.marked_iff
  clear := run.clear
  served := fun _ _ _ following => run.served following
  roused := by
    rintro position id leader pair ⟨taken, here, following, opened, shut⟩
    exact ⟨taken, here, (move_taken taken).rouses following opened shut⟩
  ready := fun _ _ _ _ following here shut now => proceed_of_shut following here shut now
  heard := fun _ _ _ _ _ hears => run.heard hears
  withdrawn := by
    intro dropped leader pair collection withdraws
    refine ⟨?_, fun position pair' => run.withdrawn withdraws position, ?_⟩
    · exact withdraws.mono fun _ withdraws => ⟨withdraws.cache, withdraws.forgets⟩
    · rintro pair' bundle cached rfl
      have kept : (state.bundle? pair').map (·.collection) = some bundle.collection := by
        rw [cached, Option.map_some]
      obtain ⟨position, stores⟩ := run.stored_before kept
      exact run.withdrawn withdraws position stores
  startsOver := fun _ _ _ _ _ drops after retries => run.starts_over drops after retries
  access := fun _ _ _ looks => run.access looks
  takesOver := fun _ _ _ _ _ _ withdraws after retries looking joining =>
    run.takes_over withdraws after retries looking joining

end Run

/-! ### A call that takes over -/

/-- Two calls follow one that is given up while it collects. The first of them to retry leads in its
place, the other one follows it and hears its result. -/
def handedOver : List Occurrence :=
  automaton.replay (.initial 4 false 1000 60000)
    [(0, .fetch 0 { src := "7-70", dst := "7-71" }), (0, .proceed (.call 0)),
      (0, .proceed (.call 0)), (0, .fetch 1 { src := "7-70", dst := "7-71" }),
      (0, .proceed (.call 1)), (0, .proceed (.call 1)),
      (0, .fetch 2 { src := "7-70", dst := "7-71" }), (0, .proceed (.call 2)),
      (0, .proceed (.call 2)), (10, .cancel 0), (10, .proceed (.call 1)), (10, .proceed (.call 1)),
      (10, .proceed (.call 1)), (10, .proceed (.call 2)), (10, .proceed (.call 2)),
      (10, .proceed (.call 2)), (20, .answer (.call 1) (.candidates (.ok []))),
      (20, .proceed (.call 1)), (20, .proceed (.call 1)), (20, .proceed (.call 1)),
      (20, .proceed (.call 1)), (20, .proceed (.call 2))]

theorem handedOver_withdraws : At handedOver 9 (Withdraws 0 racePair 0) :=
  ⟨_, rfl, rfl, 0, rfl⟩

/-- The call that takes over is the only one to lead, nothing of the first collection is stored, and
the other call hears what the one that has taken over tells. -/
theorem shared_handedOver : At handedOver 12 (LeadsAlone 1 racePair) ∧
    (∀ position pair, ¬ At handedOver position (Stores pair 0)) ∧
    ∃ told result, told < 21 ∧ At handedOver told (Tells 1 racePair result) := by
  have run : Run 4 false 1000 60000 handedOver _ :=
    Automaton.Run.of_replay automaton _ _ (by decide)
  have shared := run.shared
  have retries : At handedOver 10 (Retries 1 0 racePair) := ⟨_, rfl, rfl, rfl⟩
  have hears : At handedOver 21 fun taken =>
      taken.before.calls.get? 2 = some (.fetch racePair (.following 1)) ∧
        .finish 2 (.ok (some ⟨{}, 1⟩)) ∈ taken.effects :=
    ⟨_, rfl, rfl, List.mem_singleton_self _⟩
  refine ⟨?_, (shared.withdrawn 9 0 racePair 0 handedOver_withdraws).2.1, ?_⟩
  · rcases shared.takesOver 9 10 0 1 racePair 0 handedOver_withdraws (by decide) retries
      ⟨_, rfl, rfl⟩ ⟨_, rfl, rfl⟩ with hits | alone | ⟨_, _, _, _, _, joins⟩
    · obtain ⟨bundle, taken, here, _, cached, _⟩ := hits
      cases here
      cases cached
    · exact alone
    · obtain ⟨taken, here, _, _, follows⟩ := joins
      cases here
      cases follows
  · obtain ⟨told, result, before, tells, _⟩ := shared.heard 21 2 1 racePair _ hears
    exact ⟨told, result, before, tells⟩

end Wayfinder.Atlas
