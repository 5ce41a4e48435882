/-
**Answers from the cache.**

Once routes to a destination have been stored, whoever looks it up is answered with them, until they
expire, a purge comes, or so many other destinations are used that there is no room left. Two things
could come in between. A timer could take the entry out: it does not before its deadline. And another
call could store other routes in the place: in the present generation none leads to the destination
besides the one that has stored, and none begins to while everybody finds what it has stored.

* `State.Cached`: the routes are there, or have been driven out;
* `State.Calm`: no call is on its way to other routes;
* `Occurrence.cached_step`, `Occurrence.calm_step`: both stay so in a step;
* `Run.enduring`: both hold from the step that has stored on;
* `Run.answered_from_cache`: who looks the destination up is answered with the routes;
* `answers_differ`: other routes can come in their place once they have been driven out.
-/

import Wayfinder.Proofs.Resolver.Uses

namespace Wayfinder.Resolver

/-! ### What the cache holds -/

/-- The cache holds the routes of a destination until an instant, and the destinations that have been
used since the last use of this one are in a set; or the routes have been driven out, and the set has
grown beyond what there is room for. -/
def State.Cached (state : State) (dst : Node) (finding : Finding) (expiry : Timestamp)
    (others : Finset Node) : Prop :=
  (∃ stamp, state.cache.entries.Keeps ⟨dst, finding, some expiry, stamp⟩ others) ∨
    state.cache.slot? dst = none ∧ state.cache.entries.capacity ≤ others.card

section Step

variable {occurrence : Occurrence} {dst : Node} {finding : Finding} {expiry : Timestamp}
  {others : Finset Node}

theorem isStale_ofEntry {entry : Lru.Entry Finding} {stamp : Nat} {now : Timestamp}
    (live : now < expiry)
    (same : Recency.Item.ofEntry (dst, entry) = ⟨dst, finding, some expiry, stamp⟩) :
    entry.isStale now = false := by
  have expires : entry.expires = some expiry := congrArg Recency.Item.expires same
  rw [Lru.Entry.isStale, expires]
  exact decide_eq_false (Int.not_le.mpr live)

/-- **Who looks up what has not expired and has not been driven out is answered with it.** -/
theorem State.Cached.found {state : State} (cached : state.Cached dst finding expiry others)
    {now : Timestamp} (live : now < expiry) (free : others.card < state.cache.entries.capacity) :
    (state.cache.get dst now).1 = some finding := by
  rcases cached with ⟨stamp, keeps⟩ | ⟨_, crowded⟩
  · obtain ⟨entry, here, same⟩ := keeps.slot?
    have value : entry.value = finding := congrArg Recency.Item.value same
    rw [← value]
    exact Lru.get_of_slot? here (isStale_ofEntry live same)
  · exact absurd free (Nat.not_lt.mpr crowded)

/-- Where nothing is kept for a destination, an entry of it was there before. -/
theorem Occurrence.slot_before
    (unstored : ∀ id lead routes expiry', ¬ occurrence.Keeps id dst lead routes expiry')
    {entry : Lru.Entry Finding} (found : occurrence.after.cache.slot? dst = some entry) :
    ∃ old, occurrence.before.cache.slot? dst = some old := by
  cases occurrence.cacheChange with
  | hit _ after | miss _ after =>
    rw [after] at found
    obtain ⟨old, here, _⟩ := RouteCache.slot?_of_get found
    exact ⟨old, here⟩
  | keep keeps after =>
    rw [after] at found
    rcases RouteCache.slot?_of_insert found with old | ⟨rfl, _⟩
    · exact ⟨entry, old⟩
    · exact absurd keeps (unstored _ _ _ _)
  | ring _ _ after =>
    rw [after] at found
    exact ⟨entry, RouteCache.slot?_of_fire found⟩
  | purge _ after =>
    rw [after] at found
    cases found
  | spare _ after =>
    rw [after] at found
    exact ⟨entry, found⟩

/-- What is not there and is not stored is not used. -/
theorem Occurrence.use?_ne (absent : occurrence.before.cache.slot? dst = none)
    (unstored : ∀ id lead routes expiry', ¬ occurrence.Keeps id dst lead routes expiry') :
    occurrence.use? ≠ some dst := by
  intro used
  cases occurrence.cacheChange with
  | hit hits _ use =>
    cases use.symm.trans used
    have none := RouteCache.get_of_slot?_none absent occurrence.now
    cases none.symm.trans hits.2
  | keep keeps _ use =>
    cases use.symm.trans used
    exact absurd keeps (unstored _ _ _ _)
  | miss _ _ use => cases use.symm.trans used
  | ring _ _ _ use => cases use.symm.trans used
  | purge _ _ use => cases use.symm.trans used
  | spare _ _ use => cases use.symm.trans used

/-- As long as a destination is not used itself, none of the others is forgotten. -/
theorem Occurrence.subset_crowd (unused : occurrence.use? ≠ some dst) :
    others ⊆ occurrence.crowd dst others := by
  unfold Occurrence.crowd
  split
  · next place use =>
    have differs : place ≠ dst := fun same => unused (same ▸ use)
    rw [if_neg differs]
    exact Finset.subset_union_left
  · exact Finset.Subset.refl _

/-- What has been driven out does not come back by what others do. -/
theorem Occurrence.driven_step (absent : occurrence.before.cache.slot? dst = none)
    (crowded : occurrence.before.cache.entries.capacity ≤ others.card)
    (unstored : ∀ id lead routes expiry', ¬ occurrence.Keeps id dst lead routes expiry') :
    occurrence.after.cache.slot? dst = none ∧
      occurrence.after.cache.entries.capacity ≤ (occurrence.crowd dst others).card := by
  constructor
  · cases found : occurrence.after.cache.slot? dst with
    | none => rfl
    | some entry =>
      obtain ⟨old, here⟩ := Occurrence.slot_before unstored found
      cases absent.symm.trans here
  · rw [occurrence.counts.2.2]
    exact Nat.le_trans crowded
      (Finset.card_le_card (Occurrence.subset_crowd (Occurrence.use?_ne absent unstored)))

/-- What is in the cache stays there, or it is driven out by others. -/
theorem Occurrence.keeps_step {stamp : Nat}
    (keeps : occurrence.before.cache.entries.Keeps ⟨dst, finding, some expiry, stamp⟩ others)
    (timed : occurrence.before.cache.Timed)
    (early : occurrence.use? ≠ none → occurrence.before.cache.entries.clock.toNat + 1 < UInt64.size ∧
      occurrence.before.cache.entries.lastStamp.toNat + 1 < UInt64.size)
    (live : occurrence.now < expiry) (unpurged : occurrence.event ≠ .purge)
    (unstored : ∀ id lead routes expiry', ¬ occurrence.Keeps id dst lead routes expiry') :
    occurrence.after.Cached dst finding expiry (occurrence.crowd dst others) := by
  have stays {more : Finset Node}
      (kept : occurrence.after.cache.entries.Keeps ⟨dst, finding, some expiry, stamp⟩ more) :
      occurrence.after.Cached dst finding expiry more := Or.inl ⟨stamp, kept⟩
  unfold Occurrence.crowd
  cases occurrence.cacheChange with
  | @hit id place found hits after use =>
    obtain ⟨clock, _⟩ := early (by rw [use]; exact Option.some_ne_none _)
    simp only [use]
    by_cases same : place = dst
    · subst same
      rw [if_pos rfl]
      refine stays ?_
      rw [after]
      exact (keeps.renewed clock (decide_eq_false (Int.not_le.mpr live))).2
    · rw [if_neg same]
      refine stays ?_
      rw [after]
      exact keeps.passed clock (Ne.symm same) hits.2
  | @miss id place misses after use =>
    simp only [use]
    by_cases same : place = dst
    · subst same
      obtain ⟨entry, here, item⟩ := keeps.slot?
      have stale := (RouteCache.get_eq_none misses.2).1 entry here
      rw [isStale_ofEntry live item] at stale
      cases stale
    · refine stays ?_
      rw [after]
      exact keeps.missed (Ne.symm same) misses.2
  | @keep id place lead routes expiry' accepted after use =>
    obtain ⟨clock, stamps⟩ := early (by rw [use]; exact Option.some_ne_none _)
    simp only [use]
    have differs : place ≠ dst := by
      rintro rfl
      exact unstored _ _ _ _ accepted
    rw [if_neg differs]
    have entries := (RouteCache.insert_accepted accepted.2.1 accepted.2.2 place
      (⟨routes, id⟩ : Finding)).1
    rcases keeps.insert clock stamps (Ne.symm differs) ⟨routes, id⟩ (some expiry') with
      kept | ⟨crowded, gone⟩
    · refine stays ?_
      rw [after, entries]
      exact kept
    · refine Or.inr ⟨?_, occurrence.counts.2.2 ▸ crowded⟩
      rw [after, RouteCache.slot?, entries]
      exact gone
  | @ring timer due pending ripe after use =>
    simp only [use]
    obtain ⟨entry, here, item⟩ := keeps.slot?
    have other := timed.kept_of_fire pending ripe here (isStale_ofEntry live item)
    refine stays ?_
    rw [after, RouteCache.fire_entries pending]
    refine keeps.removeStamped (other.imp Ne.symm fun differs equal => differs ?_)
    exact UInt64.toNat_inj.mp ((congrArg Recency.Item.stamp item).trans equal)
  | purge event => exact absurd event unpurged
  | spare tally after use =>
    simp only [use]
    refine stays ?_
    rw [after]
    exact keeps

/-- **What the cache holds it holds after a step**, or it has been driven out by others. -/
theorem Occurrence.cached_step (cached : occurrence.before.Cached dst finding expiry others)
    (timed : occurrence.before.cache.Timed)
    (early : occurrence.use? ≠ none → occurrence.before.cache.entries.clock.toNat + 1 < UInt64.size ∧
      occurrence.before.cache.entries.lastStamp.toNat + 1 < UInt64.size)
    (live : occurrence.now < expiry) (unpurged : occurrence.event ≠ .purge)
    (unstored : ∀ id lead routes expiry', ¬ occurrence.Keeps id dst lead routes expiry') :
    occurrence.after.Cached dst finding expiry (occurrence.crowd dst others) := by
  rcases cached with ⟨stamp, keeps⟩ | ⟨absent, crowded⟩
  · exact Occurrence.keeps_step keeps timed early live unpurged unstored
  · exact Or.inr (Occurrence.driven_step absent crowded unstored)

/-! ### Calls on their way -/

/-- Nobody leads to a destination in the present generation but a call that has an outcome, and
nobody is about to. -/
structure State.Calm (state : State) (dst : Node) (leader : CallId) : Prop where
  leading : ∀ other lead, state.marking? other = some (dst, lead) →
    lead.generation = state.cache.generation → other = leader
  accessing : ∀ other stage, state.calls.get? other = some ⟨dst, stage⟩ → stage.accessing = false
  concluded : ∀ call, state.calls.get? leader = some call → call.stage.outcome? ≠ none

/-- Whoever stands between its lookup and its access to the marks has stood there before, or has just
missed. -/
theorem Move.accessing_before {now : Timestamp} {state after : State} {event : Event}
    {effects : Effects} (move : Move now state event after effects) {id : CallId} {stage : Stage}
    (found : after.calls.get? id = some ⟨dst, stage⟩) (accessing : stage.accessing = true) :
    (∃ before, state.calls.get? id = some ⟨dst, before⟩ ∧ before.accessing = true) ∨
      event = .proceed (.call id) ∧ state.calls.get? id = some ⟨dst, .lookingUp⟩ ∧
        (state.cache.get dst now).1 = none := by
  cases move.call_change found with
  | kept here => exact Or.inl ⟨stage, here, accessing⟩
  | begun => cases accessing
  | onward here goes =>
    cases goes with
    | miss missed => exact Or.inr ⟨rfl, here, missed⟩
    | read => exact Or.inl ⟨_, here, rfl⟩
    | follow | lead | retry | locate | explore | consult | fail | store | release => cases accessing

theorem Occurrence.generation_after (unpurged : occurrence.event ≠ .purge) :
    occurrence.after.cache.generation = occurrence.before.cache.generation := by
  rw [occurrence.move.generation, if_neg]
  intro purge
  cases event : occurrence.event with
  | purge => exact unpurged event
  | start | proceed | answer | cancel =>
    rw [event] at purge
    cases purge

/-- **Nobody sets out while everybody finds what is stored.** -/
theorem Occurrence.calm_step {leader : CallId} (calm : occurrence.before.Calm dst leader)
    (change : LeadChange occurrence.now occurrence.before occurrence.after)
    (unpurged : occurrence.event ≠ .purge)
    (running : ∀ destination, occurrence.event ≠ .start leader destination)
    (found : ∀ id, ¬ occurrence.Misses id dst) : occurrence.after.Calm dst leader where
  leading other lead marking current := by
    rw [Occurrence.generation_after unpurged] at current
    rcases change.marking_before marking with old | ⟨joining, _⟩
    · exact calm.leading other lead old current
    · cases calm.accessing other _ joining
  accessing other stage here := by
    cases accessing : stage.accessing with
    | false => rfl
    | true =>
      rcases occurrence.move.accessing_before here accessing with
        ⟨before, calling, accessing⟩ | ⟨event, looking, missed⟩
      · rw [calm.accessing other before calling] at accessing
        cases accessing
      · exact absurd ⟨⟨event, looking⟩, missed⟩ (found other)
  concluded call here := by
    rcases occurrence.move.call_before here with ⟨stage, before⟩ | ⟨destination, start, _⟩
    · exact occurrence.move.outcome_stays running before (calm.concluded _ before) here
    · exact absurd start (running destination)

end Step

/-! ### From the step that has stored on -/

/-- Instants never go back. -/
def Forward (history : List Occurrence) : Prop :=
  history.Pairwise fun earlier later => earlier.now ≤ later.now

theorem Forward.le {history : List Occurrence} (forward : Forward history) {first second : Nat}
    {earlier later : Occurrence} (here : history[first]? = some earlier)
    (there : history[second]? = some later) (order : first ≤ second) : earlier.now ≤ later.now := by
  obtain ⟨bound, rfl⟩ := List.getElem?_eq_some_iff.mp here
  obtain ⟨bound', rfl⟩ := List.getElem?_eq_some_iff.mp there
  rcases Nat.lt_or_eq_of_le order with before | rfl
  · exact List.pairwise_iff_getElem.mp forward first second bound bound' before
  · exact Int.le_refl _

/-- A destination is looked up when at least as many others have been used since its last use as
there is room for. -/
def CrowdedOut (capacity : Nat) (history : List Occurrence) (dst : Node) (position : Nat) : Prop :=
  At history position (fun occurrence => ∃ id, occurrence.LooksUp id dst) ∧
    capacity ≤ (crowd dst (history.take position)).card

/-- Routes to a destination are stored. -/
def Renewed (history : List Occurrence) (dst : Node) (position : Nat) : Prop :=
  At history position fun occurrence =>
    ∃ id lead routes expiry, occurrence.Keeps id dst lead routes expiry

theorem Occurrence.Keeps.use? {occurrence : Occurrence} {id : CallId} {dst : Node} {lead : Lead}
    {routes : List Route} {expiry : Timestamp} (keeps : occurrence.Keeps id dst lead routes expiry) :
    occurrence.use? = some dst := by
  obtain ⟨⟨event, here⟩, accepted⟩ := keeps
  unfold Occurrence.use?
  simp only [event, here]
  exact if_pos accepted

namespace Run

variable {capacity : Nat} {timeout : Duration} {history : List Occurrence} {state : State}
  {id other : CallId} {dst : Node} {lead : Lead} {routes : List Route} {expiry : Timestamp}
  {stored looked : Nat} {occurrence : Occurrence}

/-- Before a use at any position, clock and stamps can go on. -/
theorem early_at (run : Run capacity timeout history state) (counted : uses history < UInt64.size)
    {position : Nat} (here : history[position]? = some occurrence) (use : occurrence.use? ≠ none) :
    occurrence.before.cache.entries.clock.toNat + 1 < UInt64.size ∧
      occurrence.before.cache.entries.lastStamp.toNat + 1 < UInt64.size := by
  obtain ⟨place, use⟩ := Option.ne_none_iff_exists'.mp use
  refine Run.early_of_use (run.take here) ?_ use
  have upTo := uses_take_le history (position + 1)
  rw [List.take_add_one, here] at upTo
  exact Nat.lt_of_le_of_lt upTo counted

/-- **What has just been stored is in the cache.** -/
theorem cached_of_keeps (run : Run capacity timeout history state)
    (counted : uses history < UInt64.size) (room : capacity ≠ 0)
    (here : history[stored]? = some occurrence)
    (keeps : occurrence.Keeps id dst lead routes expiry) :
    occurrence.after.Cached dst ⟨routes, id⟩ expiry (crowd dst (history.take (stored + 1))) := by
  have earlier := run.take here
  obtain ⟨recency, ordered, mirrors⟩ :=
    earlier.mirrors (Nat.lt_of_le_of_lt (uses_take_le ..) counted)
  obtain ⟨clock, stamps⟩ :=
    run.early_at counted here (by rw [keeps.use?]; exact Option.some_ne_none _)
  have alone : crowd dst (history.take (stored + 1)) = ∅ := by
    rw [List.take_add_one, here]
    show crowd dst (history.take stored ++ [occurrence]) = ∅
    rw [crowd_append_singleton, Occurrence.crowd]
    simp only [keeps.use?, if_true]
  have entries : occurrence.after.cache.entries =
      (occurrence.before.cache.entries.insert dst ⟨routes, id⟩ (some expiry)).2 := by
    rw [Occurrence.after_eq, keeps.1.1, step_storing keeps.1.2, State.moveTo_cache]
    exact (RouteCache.insert_accepted keeps.2.1 keeps.2.2 dst _).1
  rw [alone]
  refine Or.inl ⟨recency.stored + 1, ?_⟩
  rw [entries]
  exact mirrors.keeps_insert clock stamps (earlier.counts.2.2 ▸ room) dst ⟨routes, id⟩ (some expiry)

/-- **Whoever has just stored is the only one that leads in the present generation**, and nobody is
about to. -/
theorem calm_of_keeps (run : Run capacity timeout history state)
    (uninterrupted : Uninterrupted history) (few : purges history < UInt64.size)
    (here : history[stored]? = some occurrence)
    (keeps : occurrence.Keeps id dst lead routes expiry) : occurrence.after.Calm dst id := by
  obtain ⟨⟨event, storing⟩, _, current⟩ := keeps
  obtain ⟨earlier, fresh⟩ := run.take_and_fresh here
  have exclusive := run.exclusive_take uninterrupted few here
  have unpurged : occurrence.event ≠ .purge := by
    rw [event]
    intro same
    cases same
  -- it is the turn of the call that stores, so that no other has been interrupted
  have still {other : CallId} {stage : Stage}
      (calling : occurrence.before.calls.get? other = some ⟨dst, stage⟩) :
      stage.accessing = false := by
    cases accessing : stage.accessing with
    | false => rfl
    | true =>
      have turn := uninterrupted occurrence (List.mem_of_getElem? here) other _ calling accessing
      cases event.symm.trans turn
      cases storing.symm.trans calling
      cases accessing
  constructor
  · intro other lead' marking present
    rw [Occurrence.generation_after unpurged] at present
    rcases (leadChange earlier fresh occurrence.now).marking_before marking with
      old | ⟨joining, _⟩
    · have marking' : occurrence.before.marking? id = some (dst, lead) :=
        leadOf_eq_some.mpr ⟨_, storing, rfl⟩
      exact exclusive.single other id dst lead' lead old marking' (present.trans current)
    · cases still joining
  · intro other stage calling
    cases accessing : stage.accessing with
    | false => rfl
    | true =>
      rcases occurrence.move.accessing_before calling accessing with
        ⟨before, calling', accessing'⟩ | ⟨turn, looking, _⟩
      · rw [still calling'] at accessing'
        cases accessing'
      · cases event.symm.trans turn
        cases storing.symm.trans looking
  · intro call calling
    rw [Occurrence.after_eq, event, step_storing storing, State.moveTo_calls,
      Table.get?_put_self] at calling
    cases calling
    exact Option.some_ne_none _

/-- A calm destination gets no new routes. -/
theorem not_keeps_of_calm (calm : occurrence.before.Calm dst id) {lead' : Lead}
    {routes' : List Route} {expiry' : Timestamp} :
    ¬ occurrence.Keeps other dst lead' routes' expiry' := by
  rintro ⟨⟨_, storing⟩, _, current⟩
  have marking : occurrence.before.marking? other = some (dst, lead') :=
    leadOf_eq_some.mpr ⟨_, storing, rfl⟩
  obtain rfl := calm.leading other lead' marking current.symm
  exact calm.concluded _ storing rfl

/-- **From the step that has stored on the cache holds the routes, or they have been driven out; and
no call is on its way to others**, unless it has looked the destination up when they had been driven
out. -/
theorem enduring (run : Run capacity timeout history state) (uninterrupted : Uninterrupted history)
    (few : purges history < UInt64.size) (counted : uses history < UInt64.size)
    (room : capacity ≠ 0) (keeps : At history stored (·.Keeps id dst lead routes expiry))
    (live : ∀ position ≤ looked, At history position (·.now < expiry))
    (unpurged : ∀ position, stored < position → position < looked →
      ¬ At history position (·.event = .purge))
    (unrenewed : ∀ crowded renewed, stored < crowded → CrowdedOut capacity history dst crowded →
      crowded < renewed → renewed < looked → ¬ Renewed history dst renewed)
    (position : Nat) (later : stored < position) (upTo : position ≤ looked) :
    At history position fun occurrence =>
      occurrence.before.Cached dst ⟨routes, id⟩ expiry (crowd dst (history.take position)) ∧
        (occurrence.before.Calm dst id ∨ ∃ crowded, stored < crowded ∧ crowded < position ∧
          CrowdedOut capacity history dst crowded) := by
  induction position with
  | zero => omega
  | succ position hypothesis =>
    obtain ⟨next, there, _⟩ := live (position + 1) upTo
    rcases Nat.lt_succ_iff_lt_or_eq.mp later with between | rfl
    · obtain ⟨occurrence, here, cached, calm⟩ := hypothesis between (Nat.le_of_lt upTo)
      obtain ⟨_, here', fresh⟩ := live position (Nat.le_of_lt upTo)
      cases here.symm.trans here'
      obtain ⟨earlier, new⟩ := run.take_and_fresh here
      have notPurge : occurrence.event ≠ .purge := fun event =>
        unpurged position between upTo ⟨occurrence, here, event⟩
      have unstored (id' : CallId) (lead' : Lead) (routes' : List Route) (expiry' : Timestamp) :
          ¬ occurrence.Keeps id' dst lead' routes' expiry' := by
        rcases calm with calm | ⟨crowded, after, before, driven⟩
        · exact not_keeps_of_calm calm
        · exact fun keeps' => unrenewed crowded position after driven before upTo
            ⟨occurrence, here, _, _, _, _, keeps'⟩
      have running : ∀ destination, occurrence.event ≠ .start id destination :=
        run.not_start_of_le (keeps.mono fun _ keeps => keeps.1.2) (Nat.le_of_lt between) here
      have cached' := Occurrence.cached_step cached
        (timed earlier (Nat.lt_of_le_of_lt (uses_take_le ..) counted) room)
        (run.early_at counted here) fresh notPurge unstored
      rw [← crowd_append_singleton] at cached'
      have whole : history.take (position + 1) = history.take position ++ [occurrence] := by
        rw [List.take_add_one, here]
        rfl
      refine ⟨next, there, ?_, ?_⟩
      · rw [whole, run.before_eq_after here there]
        exact cached'
      · rw [run.before_eq_after here there]
        rcases calm with calm | ⟨crowded, after, before, driven⟩
        · by_cases driven : CrowdedOut capacity history dst position
          · exact Or.inr ⟨position, between, Nat.lt_succ_self _, driven⟩
          · refine Or.inl (Occurrence.calm_step calm (leadChange earlier new occurrence.now)
              notPurge running fun id' misses => ?_)
            have free : (crowd dst (history.take position)).card < capacity := by
              refine Nat.lt_of_not_le fun crowded => driven ⟨⟨occurrence, here, id', ?_⟩, crowded⟩
              exact misses.1
            have found := cached.found fresh ((counts earlier).2.2 ▸ free)
            cases found.symm.trans misses.2
        · exact Or.inr ⟨crowded, after, Nat.lt_succ_of_lt before, driven⟩
    · obtain ⟨occurrence, here, keeps'⟩ := keeps
      refine ⟨next, there, ?_, Or.inl ?_⟩
      · rw [run.before_eq_after here there]
        exact run.cached_of_keeps counted room here keeps'
      · rw [run.before_eq_after here there]
        exact run.calm_of_keeps uninterrupted few here keeps'

/-! ### Answers from the cache -/

/-- Whoever asks has begun to lead. -/
theorem led_of_asks (run : Run capacity timeout history state) {position : Nat} {query : Query}
    (asks : At history position (·.Asks id query)) :
    ∃ located ≤ position, ∃ place lead, At history located (·.Leads id place lead) := by
  obtain ⟨occurrence, earlier, here, limit, asked⟩ := run.take_of_at asks
  rcases occurrence.move.ask_cases asked with
    ⟨rfl, limited, event, place, generation, calling, _⟩ | ⟨_, place, stage, lead, calling, telling⟩
  · exact ⟨position, Nat.le_refl _, place, ⟨generation, occurrence.now⟩, occurrence, here, event,
      calling, rfl, limited ▸ asked⟩
  · obtain ⟨trip, ⟨rfl, rfl, rfl⟩, begun⟩ := (earlier.documented.calls _ _ calling).begun telling
    obtain ⟨before, leads⟩ := begun.leads.of_take
    exact ⟨trip.located, Nat.le_of_lt before, _, _, leads⟩

/-- **A call that is answered from the cache asks nothing**, before or after. -/
theorem silent_of_hit (run : Run capacity timeout history state) {finding : Finding}
    (hits : At history looked (·.Hits id dst finding)) (position : Nat) (query : Query) :
    ¬ At history position (·.Asks id query) := by
  intro asks
  obtain ⟨occurrence, earlier, here, ⟨event, looking⟩, found⟩ := run.take_of_at hits
  rcases Nat.lt_trichotomy position looked with before | rfl | after
  · obtain ⟨located, _, place, lead, leads⟩ := earlier.led_of_asks (asks.take before)
    obtain ⟨channel, opened⟩ := earlier.linked.led id place lead located leads
    cases opened.symm.trans (earlier.linked.silent id _ looking rfl)
  · obtain ⟨other, there, limit, asked⟩ := asks
    cases here.symm.trans there
    rw [Occurrence.effects_eq, event, step_hit looking found] at asked
    cases List.mem_singleton.mp asked
  · have ended : At history looked fun occurrence =>
        (∃ call, occurrence.before.calls.get? id = some call) ∧
          occurrence.after.Severed id dst ⟨0, 0⟩ (.invalidDestination "") := by
      refine ⟨occurrence, here, ⟨_, looking⟩, fun call calling => ?_⟩
      rw [Occurrence.after_eq, event, step_hit looking found, State.dismiss_calls, Table.get?_erase,
        if_pos rfl] at calling
      cases calling
    obtain ⟨other, there, limit, asked⟩ := asks
    obtain ⟨place, stage, calling, waiting, _⟩ := other.move.ask_waiting asked
    have severed := (run.take there).severed_of_after (ended.take after)
    rw [severed.outcome? calling] at waiting
    cases waiting

/-- **What is stored is what everybody finds.** Where calls go on from their lookup to the marks
without interruption and instants never go back, and with fewer than `2 ^ 64` purges and uses,
consider routes to a destination that have been stored and a call that looks it up later, before they
expire, with no purge in between and with fewer others used since the last use of the destination
than there is room for. The call is answered with these very routes at once, and asks nothing, unless
the destination has been looked up in between when it had been driven out, and other routes have been
stored after that. -/
theorem answered_from_cache (run : Run capacity timeout history state)
    (uninterrupted : Uninterrupted history) (forward : Forward history)
    (few : purges history < UInt64.size) (counted : uses history < UInt64.size)
    (room : capacity ≠ 0) (keeps : At history stored (·.Keeps id dst lead routes expiry))
    (looks : At history looked (·.LooksUp other dst)) (later : stored < looked)
    (live : At history looked (·.now < expiry))
    (unpurged : ∀ position, stored < position → position < looked →
      ¬ At history position (·.event = .purge))
    (free : (crowd dst (history.take looked)).card < capacity) :
    (At history looked (·.effects = [.finish other (.ok ⟨routes, id⟩)]) ∧
        ∀ position query, ¬ At history position (·.Asks other query)) ∨
      ∃ crowded renewed, stored < crowded ∧ CrowdedOut capacity history dst crowded ∧
        crowded < renewed ∧ renewed < looked ∧ Renewed history dst renewed := by
  by_cases renewed : ∃ crowded renewed, stored < crowded ∧ CrowdedOut capacity history dst crowded ∧
      crowded < renewed ∧ renewed < looked ∧ Renewed history dst renewed
  · exact Or.inr renewed
  refine Or.inl ?_
  obtain ⟨occurrence, here, event, looking⟩ := looks
  obtain ⟨_, there, fresh⟩ := live
  cases here.symm.trans there
  have early : ∀ position ≤ looked, At history position (·.now < expiry) := by
    intro position order
    have bound := Nat.lt_of_le_of_lt order (List.getElem?_eq_some_iff.mp here).1
    exact ⟨_, List.getElem?_eq_getElem bound,
      Int.lt_of_le_of_lt (forward.le (List.getElem?_eq_getElem bound) here order) fresh⟩
  obtain ⟨_, there, cached, _⟩ := run.enduring uninterrupted few counted room keeps early unpurged
    (fun crowded again after driven before upTo stores =>
      renewed ⟨crowded, again, after, driven, before, upTo, stores⟩) looked later (Nat.le_refl _)
  cases here.symm.trans there
  have found := cached.found fresh ((run.take here).counts.2.2 ▸ free)
  refine ⟨⟨occurrence, here, ?_⟩, run.silent_of_hit ⟨occurrence, here, ⟨event, looking⟩, found⟩⟩
  show occurrence.effects = _
  rw [Occurrence.effects_eq, event, step_hit looking found]

end Run

/-- Where no purge is counted there is none. -/
theorem not_purge_of_purges {history : List Occurrence} (none : purges history = 0)
    (position : Nat) : ¬ At history position (·.event = .purge) := by
  intro purge
  have more := purges_take_lt purge (Nat.zero_le _) purge.lt_length
  rw [List.take_length, none] at more
  exact Nat.not_lt_zero _ more

/-- A leading call hears an answer to each of its questions, stores what it has found until an
instant, and tells it. -/
def roundTrip (now : Timestamp) (id : CallId) (expiry : Moment) (answers : List (List Link)) :
    List (Timestamp × Event) :=
  [(now, .answer id (.node (.ok sampleSrc))),
    (now, .answer id (.candidates (.ok [⟨[], expiry, [], [], []⟩]))),
    (now, .answer id (.compliant (.ok answers))), (now, .proceed (.call id)),
    (now, .proceed (.call id)), (now, .proceed (.call id))]

/-- Routes are stored. The oracle fails a call for another destination, and a third one for it is
given up. Then the first destination is looked up again. -/
def undisturbed : List Occurrence :=
  automaton.replay (.initial 1 100) <|
    turns 0 0 "7-71" ++ roundTrip 1 0 ⟨9, false⟩ [[]] ++ turns 2 1 "7-72" ++
      [(3, .answer 1 (.node (.error (.timeout topologyOracle 1)))), (3, .proceed (.call 1)),
        (3, .proceed (.call 1))] ++
      turns 4 2 "7-72" ++ [(5, .cancel 2), (6, .start 3 "7-71"), (6, .proceed (.call 3))]

/-- There the last call is answered with what the first one has stored, and asks nothing. -/
theorem answered_from_cache_undisturbed :
    At undisturbed 23 (·.effects = [.finish 3 (.ok ⟨[⟨sampleSrc, sampleDst, []⟩], 0⟩)]) ∧
      ∀ position query, ¬ At undisturbed position (·.Asks 3 query) := by
  have run : Run 1 100 undisturbed _ := Run.of_replay 1 100 _ (by decide)
  have uninterrupted : Uninterrupted undisturbed := uninterrupted_of_entries (by decide +kernel)
  have forward : Forward undisturbed := by
    unfold Forward
    decide +kernel
  have keeps : At undisturbed 7
      (·.Keeps 0 sampleDst ⟨0, 0⟩ [⟨sampleSrc, sampleDst, []⟩] 9) :=
    ⟨_, rfl, ⟨rfl, by decide +kernel⟩, by decide, by decide +kernel⟩
  have looks : At undisturbed 23 (·.LooksUp 3 sampleDst) := ⟨_, rfl, rfl, by decide +kernel⟩
  have unpurged : ∀ position, 7 < position → position < 23 →
      ¬ At undisturbed position (·.event = .purge) :=
    fun position _ _ => not_purge_of_purges (by decide +kernel) position
  rcases run.answered_from_cache uninterrupted forward (by decide +kernel) (by decide +kernel)
    (by decide) keeps looks (by decide) ⟨_, rfl, by decide⟩ unpurged (by decide +kernel) with
    answered | ⟨crowded, renewed, after, _, before, upTo, stores⟩
  · exact answered
  · -- nothing is stored for the destination in between
    have unused : ∀ position < 23, 7 < position →
        ¬ At undisturbed position (·.use? = some sampleDst) := by decide +kernel
    have later := Nat.lt_trans after before
    refine absurd (stores.mono fun occurrence keeps' => ?_) (unused renewed upTo later)
    obtain ⟨_, _, _, _, keeps'⟩ := keeps'
    exact keeps'.use?

/-- The cache has room for one destination. Routes are stored, driven out by those of another
destination, looked for anew and stored again, but those that are found now are others. -/
def renewed : List Occurrence :=
  automaton.replay (.initial 1 100) <|
    turns 0 0 "7-71" ++ roundTrip 1 0 ⟨9, false⟩ [[]] ++
      turns 2 1 "7-72" ++ roundTrip 2 1 ⟨9, false⟩ [[]] ++
      turns 3 2 "7-71" ++ roundTrip 3 2 ⟨9, false⟩ [[], []] ++
      [(4, .start 3 "7-71"), (4, .proceed (.call 3))]

/-- **Other routes can come in the place of those that were stored**, even if no other destination
has been used since the last use. -/
theorem answers_differ :
    ¬ ∀ history state, Run 1 100 history state → Uninterrupted history → Forward history →
      purges history < UInt64.size → uses history < UInt64.size →
      ∀ id other dst lead routes expiry stored looked,
        At history stored (·.Keeps id dst lead routes expiry) →
        At history looked (·.LooksUp other dst) → stored < looked →
        At history looked (·.now < expiry) →
        (∀ position, stored < position → position < looked →
          ¬ At history position (·.event = .purge)) →
        (crowd dst (history.take looked)).card < 1 →
        At history looked fun occurrence =>
          ∃ leader, .finish other (.ok ⟨routes, leader⟩) ∈ occurrence.effects := by
  intro same
  have run : Run 1 100 renewed _ := Run.of_replay 1 100 _ (by decide)
  have forward : Forward renewed := by
    unfold Forward
    decide +kernel
  have keeps : At renewed 7 (·.Keeps 0 sampleDst ⟨0, 0⟩ [⟨sampleSrc, sampleDst, []⟩] 9) :=
    ⟨_, rfl, ⟨rfl, by decide +kernel⟩, by decide, by decide +kernel⟩
  have looks : At renewed 31 (·.LooksUp 3 sampleDst) := ⟨_, rfl, rfl, by decide +kernel⟩
  obtain ⟨occurrence, here, leader, finished⟩ := same renewed _ run
    (uninterrupted_of_entries (by decide +kernel)) forward (by decide +kernel) (by decide +kernel)
    0 3 _ _ _ _ 7 31 keeps looks (by decide) ⟨_, rfl, by decide⟩
    (fun position _ _ => not_purge_of_purges (by decide +kernel) position) (by decide +kernel)
  have other : At renewed 31 (·.effects =
      [.finish 3 (.ok ⟨[⟨sampleSrc, sampleDst, []⟩, ⟨sampleSrc, sampleDst, []⟩], 2⟩)]) := by
    decide +kernel
  obtain ⟨_, there, effects⟩ := other
  cases here.symm.trans there
  rw [effects] at finished
  cases List.mem_singleton.mp finished

end Wayfinder.Resolver
