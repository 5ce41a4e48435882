/-
**What steps do to the cache.**

A step looks a destination up, stores routes, lets a timer ring, begins a new generation, or leaves
the cache alone but for its counts. Destinations are used by lookups that find something and by
routes that are stored; between two uses of a destination others may be used, and as many of them as
the cache has room for can drive it out.

* `CacheChange`, `Occurrence.cacheChange`: what a step does to the cache;
* `Occurrence.use?`, `uses`, `crowd`: which destinations are used, how often, and which others since
  the last use of a destination;
* `Run.counts`: clock and stamps of the cache count uses;
* `Run.mirrors`, `Run.timed`: while they do not overflow, the cache stands for a list of recency, and
  timers ring at the deadlines of their entries.
-/

import Wayfinder.Proofs.Lru.Retention
import Wayfinder.Proofs.Resolver.Failures
import Wayfinder.Proofs.RouteCache.Timers

namespace Wayfinder

/-! ### Counts of a bounded cache -/

namespace Lru

variable {κ ν : Type} [DecidableEq κ]

/-- A lookup that finds nothing does not count as a use. -/
theorem clock_of_missed {cache : Lru κ ν} {key : κ} {now : Timestamp}
    (miss : (cache.get key now).1 = none) : (cache.get key now).2.clock = cache.clock := by
  rcases get_of_missed miss with same | taken
  · rw [same]
  · rw [taken]

@[simp] theorem removeStamped_clock (cache : Lru κ ν) (key : κ) (stamp : UInt64) :
    (cache.removeStamped key stamp).2.clock = cache.clock := by
  unfold removeStamped
  split
  · rfl
  · split <;> rfl

end Lru

namespace Resolver

/-! ### What a step does to the cache -/

/-- The step in which a call looks its destination up and finds routes. -/
def Occurrence.Hits (occurrence : Occurrence) (id : CallId) (dst : Node) (finding : Finding) :
    Prop :=
  occurrence.LooksUp id dst ∧ (occurrence.before.cache.get dst occurrence.now).1 = some finding

/-- The step in which a leading call comes to store routes, and the cache takes them: they have not
expired, and there has been no purge since the call read the generation. -/
def Occurrence.Keeps (occurrence : Occurrence) (id : CallId) (dst : Node) (lead : Lead)
    (routes : List Route) (expiry : Timestamp) : Prop :=
  occurrence.Stores id dst lead routes (some expiry) ∧ occurrence.now < expiry ∧
    occurrence.before.cache.generation = lead.generation

/-- The destination that is used in a step: one that is found, or for which routes are kept. -/
def Occurrence.use? (occurrence : Occurrence) : Option Node :=
  match occurrence.event with
  | .proceed (.call id) =>
    match occurrence.before.calls.get? id with
    | some ⟨dst, .lookingUp⟩ =>
      (occurrence.before.cache.get dst occurrence.now).1.map fun _ => dst
    | some ⟨dst, .storing lead _ (some expiry)⟩ =>
      if occurrence.now < expiry ∧ occurrence.before.cache.generation = lead.generation
      then some dst else none
    | _ => none
  | _ => none

/-- The ways in which a step can change the cache. -/
inductive CacheChange (occurrence : Occurrence) : Prop
  | hit {id : CallId} {dst : Node} {finding : Finding} (hits : occurrence.Hits id dst finding)
      (after : occurrence.after.cache = (occurrence.before.cache.get dst occurrence.now).2)
      (use : occurrence.use? = some dst)
  | miss {id : CallId} {dst : Node} (misses : occurrence.Misses id dst)
      (after : occurrence.after.cache = (occurrence.before.cache.get dst occurrence.now).2)
      (use : occurrence.use? = none)
  | keep {id : CallId} {dst : Node} {lead : Lead} {routes : List Route} {expiry : Timestamp}
      (keeps : occurrence.Keeps id dst lead routes expiry)
      (after : occurrence.after.cache =
        (occurrence.before.cache.insert dst ⟨routes, id⟩ expiry lead.generation occurrence.now).2)
      (use : occurrence.use? = some dst)
  /-- A timer rings at its deadline or later. -/
  | ring {timer : TimerId} {due : RouteCache.Timer}
      (pending : occurrence.before.cache.timers.get? timer = some due)
      (ripe : due.deadline ≤ occurrence.now)
      (after : occurrence.after.cache = occurrence.before.cache.fire timer)
      (use : occurrence.use? = none)
  | purge (event : occurrence.event = .purge)
      (after : occurrence.after.cache = occurrence.before.cache.purge)
      (use : occurrence.use? = none)
  /-- Nothing changes but the counts. -/
  | spare (tally : Tally) (after : occurrence.after.cache = { occurrence.before.cache with tally })
      (use : occurrence.use? = none)

/-- A call that neither looks up nor stores uses nothing. -/
theorem Occurrence.use?_eq_none {occurrence : Occurrence}
    (looks : ∀ id dst, ¬ occurrence.LooksUp id dst)
    (stores : ∀ id dst lead routes expiry, ¬ occurrence.Stores id dst lead routes expiry) :
    occurrence.use? = none := by
  unfold use?
  split
  · next id event =>
    split
    · next dst here => exact absurd ⟨event, here⟩ (looks id dst)
    · next dst lead routes expiry here =>
      exact absurd ⟨event, here⟩ (stores id dst lead routes (some expiry))
    · rfl
  · rfl

/-- **Every step changes the cache in one of those ways.** -/
theorem Occurrence.cacheChange (occurrence : Occurrence) : CacheChange occurrence := by
  by_cases looks : ∃ id dst, occurrence.LooksUp id dst
  · obtain ⟨id, dst, event, here⟩ := looks
    have use : occurrence.use? =
        (occurrence.before.cache.get dst occurrence.now).1.map fun _ => dst := by
      unfold use?
      simp only [event, here]
    cases looked : (occurrence.before.cache.get dst occurrence.now).1 with
    | some finding =>
      refine .hit ⟨⟨event, here⟩, looked⟩ ?_ (by rw [use, looked]; rfl)
      rw [Occurrence.after_eq, event, step_hit here looked, State.dismiss_cache]
    | none =>
      refine .miss ⟨⟨event, here⟩, looked⟩ ?_ (by rw [use, looked]; rfl)
      rw [Occurrence.after_eq, event, step_miss here looked, State.moveTo_cache]
  by_cases stores : ∃ id dst lead routes expiry, occurrence.Stores id dst lead routes expiry
  · obtain ⟨id, dst, lead, routes, expiry, event, here⟩ := stores
    have after : occurrence.after.cache =
        storedCache occurrence.now id dst lead routes expiry occurrence.before.cache := by
      rw [Occurrence.after_eq, event, step_storing here, State.moveTo_cache]
    cases expiry with
    | none =>
      refine .spare occurrence.before.cache.tally after ?_
      unfold use?
      simp only [event, here]
    | some expiry =>
      have use : occurrence.use? = if occurrence.now < expiry ∧
          occurrence.before.cache.generation = lead.generation then some dst else none := by
        unfold use?
        simp only [event, here]
      by_cases accepted : occurrence.now < expiry ∧
          occurrence.before.cache.generation = lead.generation
      · exact .keep ⟨⟨event, here⟩, accepted⟩ after (by rw [use, if_pos accepted])
      · refine .spare occurrence.before.cache.tally ?_ (by rw [use, if_neg accepted])
        exact after.trans (RouteCache.insert_refused accepted)
  · have use : occurrence.use? = none := use?_eq_none (fun id dst found => looks ⟨id, dst, found⟩)
      fun id dst lead routes expiry found => stores ⟨id, dst, lead, routes, expiry, found⟩
    obtain ⟨before, now, event⟩ := occurrence
    have move := Occurrence.move ⟨before, now, event⟩
    generalize reached : (⟨before, now, event⟩ : Occurrence).after = after at move
    generalize (⟨before, now, event⟩ : Occurrence).effects = effects at move
    have spare (tally : Tally) (same : after.cache = { before.cache with tally }) :
        CacheChange ⟨before, now, event⟩ := .spare tally (reached ▸ same) use
    cases move with
    | hit here | miss here => exact absurd ⟨_, _, rfl, here⟩ looks
    | store here => exact absurd ⟨_, _, _, _, _, rfl, here⟩ stores
    | fire pending ripe => exact .ring pending ripe (by rw [reached]) use
    | purge => exact .purge rfl (by rw [reached]) use
    | release =>
      refine spare before.cache.tally ?_
      rw [State.moveTo_cache, State.unmark_cache]
    | abandon =>
      refine spare before.cache.tally ?_
      rw [State.announce_cache, State.dismiss_cache, State.unmark_cache]
    | consult tally => exact spare tally rfl
    | _ => exact spare before.cache.tally rfl

/-! ### Uses -/

/-- How often destinations are used in a history. -/
def uses (history : List Occurrence) : Nat := history.countP fun occurrence => occurrence.use?.isSome

theorem uses_append (first second : List Occurrence) :
    uses (first ++ second) = uses first + uses second := List.countP_append

theorem uses_take_le (history : List Occurrence) (count : Nat) :
    uses (history.take count) ≤ uses history :=
  (List.take_sublist count history).countP_le

/-- The other destinations that have been used since the last use of a destination, after one more
step. -/
def Occurrence.crowd (dst : Node) (others : Finset Node) (occurrence : Occurrence) : Finset Node :=
  match occurrence.use? with
  | some place => if place = dst then ∅ else others ∪ {place}
  | none => others

/-- The other destinations that have been used since the last use of a destination. -/
def crowd (dst : Node) (history : List Occurrence) : Finset Node :=
  history.foldl (Occurrence.crowd dst) ∅

theorem crowd_append_singleton (dst : Node) (history : List Occurrence) (occurrence : Occurrence) :
    crowd dst (history ++ [occurrence]) = occurrence.crowd dst (crowd dst history) := by
  rw [crowd, List.foldl_append]
  rfl

/-- A step moves clock and stamps of the cache on by one if it is a use, and not at all otherwise. -/
theorem Occurrence.counts (occurrence : Occurrence) :
    occurrence.after.cache.entries.clock.toNat ≤
        occurrence.before.cache.entries.clock.toNat + uses [occurrence] ∧
      occurrence.after.cache.entries.lastStamp.toNat ≤
        occurrence.before.cache.entries.lastStamp.toNat + uses [occurrence] ∧
      occurrence.after.cache.entries.capacity = occurrence.before.cache.entries.capacity := by
  have performed (operation : Lru.Operation Node Finding) {place : Node}
      (same : occurrence.after.cache.entries =
        (occurrence.before.cache.entries.perform operation).2)
      (use : occurrence.use? = some place) :
      occurrence.after.cache.entries.clock.toNat ≤
          occurrence.before.cache.entries.clock.toNat + uses [occurrence] ∧
        occurrence.after.cache.entries.lastStamp.toNat ≤
          occurrence.before.cache.entries.lastStamp.toNat + uses [occurrence] ∧
        occurrence.after.cache.entries.capacity = occurrence.before.cache.entries.capacity := by
    have used : uses [occurrence] = 1 := by simp [uses, use]
    rw [same, used]
    exact Lru.perform_counts ..
  have kept (clock : occurrence.after.cache.entries.clock = occurrence.before.cache.entries.clock)
      (stamp : occurrence.after.cache.entries.lastStamp =
        occurrence.before.cache.entries.lastStamp)
      (room : occurrence.after.cache.entries.capacity =
        occurrence.before.cache.entries.capacity) :
      occurrence.after.cache.entries.clock.toNat ≤
          occurrence.before.cache.entries.clock.toNat + uses [occurrence] ∧
        occurrence.after.cache.entries.lastStamp.toNat ≤
          occurrence.before.cache.entries.lastStamp.toNat + uses [occurrence] ∧
        occurrence.after.cache.entries.capacity = occurrence.before.cache.entries.capacity := by
    rw [clock, stamp, room]
    exact ⟨Nat.le_add_right .., Nat.le_add_right .., rfl⟩
  cases occurrence.cacheChange with
  | @hit id dst finding hits after use =>
    exact performed (.get dst occurrence.now) (by rw [after]; rfl) use
  | @keep id dst lead routes expiry keeps after use =>
    refine performed (.insert dst ⟨routes, id⟩ (some expiry)) ?_ use
    rw [after]
    exact (RouteCache.insert_accepted keeps.2.1 keeps.2.2 _ _).1
  | miss misses after use =>
    refine kept ?_ ?_ ?_ <;> rw [after]
    · exact Lru.clock_of_missed misses.2
    · exact Lru.get_lastStamp ..
    · exact Lru.get_capacity ..
  | ring pending ripe after use =>
    refine kept ?_ ?_ ?_ <;> rw [after, RouteCache.fire_entries pending]
    · exact Lru.removeStamped_clock ..
    · exact Lru.removeStamped_lastStamp ..
    · exact Lru.removeStamped_capacity ..
  | purge event after use => refine kept ?_ ?_ ?_ <;> rw [after] <;> rfl
  | spare tally after use => refine kept ?_ ?_ ?_ <;> rw [after]

namespace Run

variable {capacity : Nat} {timeout : Duration} {history : List Occurrence} {state : State}

/-- **Clock and stamps of the cache count uses.** -/
theorem counts (run : Run capacity timeout history state) :
    state.cache.entries.clock.toNat ≤ uses history ∧
      state.cache.entries.lastStamp.toNat ≤ uses history ∧
      state.cache.entries.capacity = capacity := by
  induction run with
  | initial => exact ⟨Nat.le_refl _, Nat.le_refl _, rfl⟩
  | @step history state run now event fresh hypothesis =>
    obtain ⟨clock, stamp, room⟩ := hypothesis
    obtain ⟨clock', stamp', room'⟩ := Occurrence.counts ⟨state, now, event⟩
    rw [uses_append]
    exact ⟨Nat.le_trans clock' (Nat.add_le_add_right clock _),
      Nat.le_trans stamp' (Nat.add_le_add_right stamp _), room'.trans room⟩

/-- Before a use, clock and stamps can go on. -/
theorem early_of_use (run : Run capacity timeout history state) {now : Timestamp} {event : Event}
    (few : uses (history ++ [⟨state, now, event⟩]) < UInt64.size) {place : Node}
    (use : Occurrence.use? ⟨state, now, event⟩ = some place) :
    state.cache.entries.clock.toNat + 1 < UInt64.size ∧
      state.cache.entries.lastStamp.toNat + 1 < UInt64.size := by
  obtain ⟨clock, stamp, _⟩ := run.counts
  have used : uses [⟨state, now, event⟩] = 1 := by simp [uses, use]
  rw [uses_append, used] at few
  omega

/-- **While fewer than `2 ^ 64` uses have been counted, the cache stands for a list of recency.** -/
theorem mirrors (run : Run capacity timeout history state) (few : uses history < UInt64.size) :
    ∃ recency ordered, state.cache.entries.Mirrors recency ordered := by
  induction run with
  | initial => exact ⟨{ capacity }, [], rfl, rfl, rfl, Lru.Ordered.empty _, Nat.zero_le _⟩
  | @step history state run now event fresh hypothesis =>
    obtain ⟨recency, ordered, mirrors⟩ := hypothesis
      (Nat.lt_of_le_of_lt (by rw [uses_append]; exact Nat.le_add_right ..) few)
    show ∃ recency ordered,
      (⟨state, now, event⟩ : Occurrence).after.cache.entries.Mirrors recency ordered
    cases Occurrence.cacheChange ⟨state, now, event⟩ with
    | @hit id dst finding hits after use =>
      rw [after]
      exact ⟨_, (mirrors.get (early_of_use run few use).1 dst now).2⟩
    | miss misses after use =>
      rw [after]
      exact mirrors.missed misses.2
    | @keep id dst lead routes expiry keeps after use =>
      obtain ⟨early, room⟩ := early_of_use run few use
      rw [after, (RouteCache.insert_accepted keeps.2.1 keeps.2.2 _ _).1]
      exact ⟨_, (mirrors.insert early room dst ⟨routes, id⟩ (some expiry)).2.2⟩
    | @ring timer due pending ripe after use =>
      rw [after, RouteCache.fire_entries pending]
      exact ⟨_, (mirrors.removeStamped due.dst due.stamp).2⟩
    | purge event after use =>
      rw [after]
      exact ⟨_, _, mirrors.purge⟩
    | spare tally after use =>
      rw [after]
      exact ⟨_, _, mirrors⟩

/-- **While fewer than `2 ^ 64` uses have been counted, timers ring at the deadlines of their
entries.** -/
theorem timed (run : Run capacity timeout history state) (few : uses history < UInt64.size)
    (room : capacity ≠ 0) : state.cache.Timed := by
  induction run with
  | initial =>
    constructor
    · intro timer due pending
      cases pending
    · intro timer due entry pending
      cases pending
  | @step history state run now event fresh hypothesis =>
    have timed := hypothesis
      (Nat.lt_of_le_of_lt (by rw [uses_append]; exact Nat.le_add_right ..) few)
    show (⟨state, now, event⟩ : Occurrence).after.cache.Timed
    cases Occurrence.cacheChange ⟨state, now, event⟩ with
    | hit _ after | miss _ after =>
      rw [after]
      exact timed.get ..
    | keep keeps after use =>
      rw [after]
      exact timed.insert ((counts run).2.2 ▸ room) (early_of_use run few use).2 ..
    | ring _ _ after =>
      rw [after]
      exact timed.fire _
    | purge _ after =>
      rw [after]
      exact timed.purge
    | spare tally after =>
      rw [after]
      exact ⟨timed.stamped, timed.ends⟩

end Run

end Resolver

end Wayfinder
