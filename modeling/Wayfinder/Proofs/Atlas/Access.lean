/-
**The turn of a call.**

A call looks its pair up, and finds whatever is cached: bundles do not expire. If there is nothing it
goes on to join; it then follows the call that leads for the pair, or leads, and nobody else does.

* `Run.get_eq_bundle?`: a look-up finds what is cached;
* `Run.hits_or_misses`: a call that looks its pair up is answered from the cache or goes on to join;
* `Run.joins_or_leads`: a call that goes on to join follows the one that leads, or leads alone;
* `Run.led_since`: a pair that had no mark has one because a call has begun to lead since.
-/

import Wayfinder.Proofs.Atlas.Chronology

namespace Wayfinder.Atlas

/-- The step in which a call looks its pair up. -/
def LooksUp (id : CallId) (pair : Pair) (taken : Occurrence) : Prop :=
  taken.event = .proceed (.call id) ∧ taken.before.calls.get? id = some (.fetch pair .lookingUp)

/-- The step in which a call finds a bundle in the cache and ends with it. -/
def Hits (id : CallId) (pair : Pair) (bundle : Bundle) (taken : Occurrence) : Prop :=
  LooksUp id pair taken ∧ taken.before.bundle? pair = some bundle ∧
    taken.effects = [.finish id (.ok (some bundle))]

/-- The step in which a call finds nothing in the cache and goes on to join. -/
def Misses (id : CallId) (pair : Pair) (taken : Occurrence) : Prop :=
  LooksUp id pair taken ∧ taken.before.bundle? pair = none ∧
    taken.after.calls.get? id = some (.fetch pair .joining) ∧ taken.effects = []

/-- The step in which a call that has found nothing joins another one or leads. -/
def Arrives (id : CallId) (pair : Pair) (taken : Occurrence) : Prop :=
  taken.event = .proceed (.call id) ∧ taken.before.calls.get? id = some (.fetch pair .joining)

/-- The step in which a call joins another one that leads. -/
def Joins (id leader : CallId) (pair : Pair) (taken : Occurrence) : Prop :=
  Arrives id pair taken ∧ taken.before.leading? leader = some pair ∧
    taken.after.calls.get? id = some (.fetch pair (.following leader))

/-- The step in which a call begins to lead: it asks the oracle. -/
def Leads (id : CallId) (pair : Pair) (taken : Occurrence) : Prop :=
  Arrives id pair taken ∧
    .ask (.call id) (.candidates pair.2 pair.1 false) (some taken.before.timeout) ∈ taken.effects

/-- The step in which a call begins to lead, and is the only one then. -/
def LeadsAlone (id : CallId) (pair : Pair) (taken : Occurrence) : Prop :=
  Leads id pair taken ∧ (∀ other, taken.before.leading? other ≠ some pair) ∧
    ∀ other, taken.after.leading? other = some pair ↔ other = id

section

variable {now : Timestamp} {state after : State} {event : Event} {effects : Effects}
  {id leader : CallId} {pair : Pair}

/-! ### Bundles do not expire -/

/-- No move gives a bundle an expiry. -/
theorem Move.lasting (move : Move now state event after effects)
    (lasting : ∀ pair entry, state.cache.slot? pair = some entry → entry.expires = none)
    {entry : Lru.Entry Bundle} (found : after.cache.slot? pair = some entry) :
    entry.expires = none := by
  cases move with
  | hit | miss =>
    obtain ⟨old, here, same⟩ := Lru.slot?_of_get found
    rw [same]
    exact lasting pair old here
  | store =>
    rcases Lru.slot?_of_insert found with old | ⟨_, _, expires⟩
    · exact lasting pair entry old
    · exact expires
  | renew =>
    obtain ⟨old, here, same⟩ := Lru.expires_of_update found
    exact same.symm.trans (lasting pair old here)
  | _ => exact lasting pair entry found

/-! ### One step of a call -/

theorem step_hit (here : state.calls.get? id = some (.fetch pair .lookingUp)) {bundle : Bundle}
    (found : (state.cache.get pair now).1 = some bundle) :
    (step now (.proceed (.call id)) state).2 = [.finish id (.ok (some bundle))] := by
  simp only [step, proceed, here, Option.bind_some, proceedCall, proceedFetch, found,
    Option.getD_some]

theorem step_miss (here : state.calls.get? id = some (.fetch pair .lookingUp))
    (found : (state.cache.get pair now).1 = none) :
    (step now (.proceed (.call id)) state).1.calls.get? id = some (.fetch pair .joining) ∧
      (step now (.proceed (.call id)) state).2 = [] := by
  simp only [step, proceed, here, Option.bind_some, proceedCall, proceedFetch, found,
    Option.getD_some, State.moveTo, Table.get?_put_self, and_self]

theorem step_follow (here : state.calls.get? id = some (.fetch pair .joining))
    (marked : state.markers.get? pair = some leader) :
    (step now (.proceed (.call id)) state).1 = state.moveTo id pair (.following leader) := by
  simp only [step, proceed, here, Option.bind_some, proceedCall, proceedFetch, marked,
    Option.getD_some]

theorem step_lead (now : Timestamp)
    (here : state.calls.get? id = some (.fetch pair .joining))
    (unmarked : state.markers.get? pair = none) :
    (step now (.proceed (.call id)) state).1.calls =
        state.calls.put id (.fetch pair (.collecting now state.nextCollection)) ∧
      (step now (.proceed (.call id)) state).2 =
        [.ask (.call id) (.candidates pair.2 pair.1 false) (some state.timeout)] := by
  simp only [step, proceed, here, Option.bind_some, proceedCall, proceedFetch, unmarked,
    Option.getD_some, State.moveTo, State.collect, Owner.task, and_self]

/-- A mark after a move was there before, or its call begins to lead in the move. -/
theorem Move.marked_cases (move : Move now state event after effects)
    (marked : after.markers.get? pair = some id) :
    state.markers.get? pair = some id ∨ event = .proceed (.call id) ∧
      state.calls.get? id = some (.fetch pair .joining) ∧
      .ask (.call id) (.candidates pair.2 pair.1 false) (some state.timeout) ∈ effects := by
  cases move with
  | lead here unmarked =>
    rcases Table.get?_of_put marked with ⟨rfl, rfl⟩ | old
    · exact Or.inr ⟨rfl, here, List.mem_singleton_self _⟩
    · exact Or.inl old
  | release | abandon => exact Or.inl (Table.get?_of_erase marked)
  | _ => exact Or.inl marked

end

namespace Run

variable {capacity : Nat} {geolocating : Bool} {timeout interval : Duration}
  {history : List Occurrence} {state : State}

/-! ### Looking up -/

/-- What is cached does not expire. -/
theorem lasting (run : Run capacity geolocating timeout interval history state) {pair : Pair}
    {entry : Lru.Entry Bundle} (here : state.cache.slot? pair = some entry) :
    entry.expires = none := by
  induction run generalizing pair entry with
  | initial => cases here
  | @step history state run now event fresh hypothesis =>
    exact (move_step now event state).lasting (fun _ _ old => hypothesis old) here

/-- What is cached is never stale. -/
theorem live (run : Run capacity geolocating timeout interval history state) {pair : Pair}
    {entry : Lru.Entry Bundle} (here : state.cache.slot? pair = some entry) (now : Timestamp) :
    entry.isStale now = false := by
  rw [Lru.Entry.isStale, run.lasting here]

/-- **A look-up finds what is cached.** -/
theorem get_eq_bundle? (run : Run capacity geolocating timeout interval history state)
    (pair : Pair) (now : Timestamp) : (state.cache.get pair now).1 = state.bundle? pair := by
  cases here : state.cache.slot? pair with
  | none => rw [Lru.get_of_slot?_none here, State.bundle?, here, Option.map_none]
  | some entry =>
    rw [Lru.get_of_slot? here (run.live here now), State.bundle?_of_slot? here]

/-- **A call that looks its pair up is answered from the cache, or goes on to join.** -/
theorem hits_or_misses (run : Run capacity geolocating timeout interval history state)
    {position : Nat} {taken : Occurrence} (here : history[position]? = some taken) {id : CallId}
    {pair : Pair} (looks : LooksUp id pair taken) :
    (∃ bundle, Hits id pair bundle taken) ∨ Misses id pair taken := by
  obtain ⟨event, looking⟩ := looks
  have found := get_eq_bundle? (run.take here) pair taken.now
  have stepped : automaton.step taken.now taken.event taken.before =
      step taken.now (.proceed (.call id)) taken.before := by rw [event]; rfl
  cases cached : taken.before.bundle? pair with
  | some bundle =>
    refine Or.inl ⟨bundle, ⟨event, looking⟩, cached, ?_⟩
    rw [Automaton.Occurrence.effects, stepped]
    exact step_hit looking (found.trans cached)
  | none =>
    refine Or.inr ⟨⟨event, looking⟩, cached, ?_⟩
    rw [Automaton.Occurrence.after, Automaton.Occurrence.effects, stepped]
    exact step_miss looking (found.trans cached)

/-! ### Joining -/

/-- **A call that goes on to join follows the call that leads for its pair, or leads alone.** -/
theorem joins_or_leads (run : Run capacity geolocating timeout interval history state)
    {position : Nat} {taken : Occurrence} (here : history[position]? = some taken) {id : CallId}
    {pair : Pair} (arrives : Arrives id pair taken) :
    (∃ leader, Joins id leader pair taken) ∨ LeadsAlone id pair taken := by
  have earlier := run.take here
  obtain ⟨event, joining⟩ := arrives
  have stepped : automaton.step taken.now taken.event taken.before =
      step taken.now (.proceed (.call id)) taken.before := by rw [event]; rfl
  cases marked : taken.before.markers.get? pair with
  | some leader =>
    refine Or.inl ⟨leader, ⟨event, joining⟩, (marked_iff earlier pair leader).mp marked, ?_⟩
    rw [Automaton.Occurrence.after, stepped, step_follow joining marked]
    exact Table.get?_put_self ..
  | none =>
    obtain ⟨calls, asks⟩ := step_lead taken.now joining marked
    have alone : ∀ other, taken.before.leading? other ≠ some pair := by
      intro other leads
      rw [← marked_iff earlier, marked] at leads
      cases leads
    refine Or.inr ⟨⟨⟨event, joining⟩, ?_⟩, alone, fun other => ?_⟩
    · rw [Automaton.Occurrence.effects, stepped, asks]
      exact List.mem_singleton_self _
    · rw [Automaton.Occurrence.after, stepped, leading?_put calls rfl]
      by_cases same : id = other
      · rw [if_pos same]
        exact iff_of_true rfl same.symm
      · rw [if_neg same]
        exact iff_of_false (alone other) (Ne.symm same)

/-- **A pair that had no mark has one because its call has begun to lead since.** -/
theorem led_since (run : Run capacity geolocating timeout interval history state)
    {position : Nat} {pair : Pair} {id : CallId}
    (unmarked : At history position (·.after.markers.get? pair = none))
    (leads : state.leading? id = some pair) :
    ∃ began, position < began ∧ At history began (Leads id pair) := by
  let holds : State → Prop := fun state => state.markers.get? pair = some id
  have bare : At history position (¬ holds ·.after) := by
    refine unmarked.mono fun taken none found => ?_
    rw [show taken.after.markers.get? pair = some id from found] at none
    cases none
  have held : holds state := (run.marked_iff pair id).mpr leads
  obtain ⟨began, since, taken, here, old, marked⟩ := run.brought_about_since bare held
  rcases (move_taken taken).marked_cases marked with before | ⟨event, joining, asks⟩
  · exact absurd before old
  · exact ⟨began, since, taken, here, ⟨event, joining⟩, asks⟩

end Run

end Wayfinder.Atlas
