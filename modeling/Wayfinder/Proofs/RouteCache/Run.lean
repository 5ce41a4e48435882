/-
**Runs of a cache of routes.**

A cache of routes as an automaton: destinations are looked up, routes are stored, timers ring and
purges come, in any order and at any instants. Nothing is said about when a timer rings, so that it
may ring as late as it likes; one that has been called off does nothing.

* `RouteCache.automaton`, `RouteCache.Run`: the runs of an empty cache;
* `RouteCache.Occurrence.Stores`: a step that stores routes and starts their timer;
* `insert_cases`: an insertion is refused, or it gives up some destinations and starts a timer;
* `handles_stored`, `timers_stored`, `handles_fire`, `timers_fire`, `timers_purge`: handles and timers
  after each operation.
-/

import Wayfinder.Proofs.History
import Wayfinder.Proofs.Lru.Items
import Wayfinder.Proofs.RouteCache.Timers

namespace Wayfinder.RouteCache

/-! ### The automaton -/

/-- What can happen to a cache of routes. -/
inductive Event (ν : Type) where
  | get (dst : Node)
  | insert (dst : Node) (value : ν) (expiry : Timestamp) (generation : UInt64)
  | fire (timer : TimerId)
  | purge

/-- What a cache of routes answers. -/
inductive Answer (ν : Type) where
  | found (value : Option ν)
  | inserted (outcome : Outcome)
  | done

variable {ν : Type}

/-- One step of a cache. -/
def step (now : Timestamp) (event : Event ν) (cache : RouteCache ν) : RouteCache ν × Answer ν :=
  match event with
  | .get dst => ((cache.get dst now).2, .found (cache.get dst now).1)
  | .insert dst value expiry generation =>
    ((cache.insert dst value expiry generation now).2,
      .inserted (cache.insert dst value expiry generation now).1)
  | .fire timer => (cache.fire timer, .done)
  | .purge => (cache.purge, .done)

variable (ν) in
/-- A cache of routes as an automaton. It knows no calls. -/
def automaton : Automaton (RouteCache ν) (Event ν) (Answer ν) := ⟨step, fun _ => none⟩

variable (ν) in
/-- A step that was taken. -/
abbrev Occurrence := (automaton ν).Occurrence

/-- The runs of an empty cache. -/
abbrev Run (capacity : Nat) : List (Occurrence ν) → RouteCache ν → Prop :=
  (automaton ν).Run (ofCapacity capacity)

/-- The step stores routes for a destination and starts a timer for them. -/
def Occurrence.Stores (taken : Occurrence ν) (timer : TimerId) (dst : Node) (value : ν)
    (expiry : Timestamp) : Prop :=
  ∃ generation, taken.event = .insert dst value expiry generation ∧
    taken.effects = .inserted (.stored timer)

/-- What the cache holds for a destination, its last use apart. -/
def item? (cache : RouteCache ν) (dst : Node) : Option (Recency.Item Node ν) :=
  cache.entries.item? dst

theorem item?_eq_none {cache : RouteCache ν} {dst : Node} :
    cache.item? dst = none ↔ cache.slot? dst = none := Lru.item?_eq_none

/-- **What a look-up leaves**: it takes out an expired item that it meets. -/
theorem item?_get (cache : RouteCache ν) (dst other : Node) (now : Timestamp) :
    (cache.get dst now).2.item? other =
      if (cache.get dst now).1 = none ∧ dst = other then none else cache.item? other := by
  cases found : (cache.get dst now).1 with
  | none =>
    rw [item?, item?]
    simp only [true_and]
    exact Lru.item?_of_missed found other
  | some value =>
    rw [if_neg fun both => Option.some_ne_none value both.1]
    exact Lru.item?_of_found found other

/-! ### Calling timers off -/

section Calling

variable (cache : RouteCache ν) (dst other : Node) (evicted : List Node) (timer : TimerId)

theorem handles_cancelTimer : (cache.cancelTimer dst).handles.get? other =
    if dst = other then none else cache.handles.get? other := by
  unfold cancelTimer
  split
  · exact Table.get?_erase ..
  · next unknown =>
    split
    · next same => exact same ▸ unknown
    · rfl

theorem timers_cancelTimer : (cache.cancelTimer dst).timers.get? timer =
    if cache.handles.get? dst = some timer then none else cache.timers.get? timer := by
  unfold cancelTimer
  split
  · next known found => simp only [Table.get?_erase, found, Option.some.injEq]
  · next unknown => simp only [unknown, reduceCtorEq, if_false]

@[simp] theorem cancelTimer_nextTimer : (cache.cancelTimer dst).nextTimer = cache.nextTimer := by
  unfold cancelTimer
  split <;> rfl

@[simp] theorem cancelTimer_tally : (cache.cancelTimer dst).tally = cache.tally := by
  unfold cancelTimer
  split <;> rfl

@[simp] theorem dropEvicted_nextTimer :
    (cache.dropEvicted evicted).nextTimer = cache.nextTimer := by
  induction evicted generalizing cache with
  | nil => rfl
  | cons first rest hypothesis =>
    unfold dropEvicted
    rw [hypothesis]
    exact cancelTimer_nextTimer ..

/-- Each destination that is given up is counted. -/
theorem evictions_dropEvicted : (cache.dropEvicted evicted).tally.evictions =
    cache.tally.evictions + evicted.length := by
  induction evicted generalizing cache with
  | nil => rfl
  | cons first rest hypothesis =>
    unfold dropEvicted
    rw [hypothesis, List.length_cons, cancelTimer_tally]
    show cache.tally.evictions + 1 + rest.length = _
    omega

theorem handles_dropEvicted : (cache.dropEvicted evicted).handles.get? other =
    if other ∈ evicted then none else cache.handles.get? other := by
  induction evicted generalizing cache with
  | nil => rfl
  | cons first rest hypothesis =>
    unfold dropEvicted
    simp only [hypothesis, handles_cancelTimer, List.mem_cons, eq_comm (a := other)]
    by_cases same : first = other <;> simp [same]

/-- **A timer is called off if it is the one of a destination that is given up.** -/
theorem timers_dropEvicted : (cache.dropEvicted evicted).timers.get? timer =
    if ∃ dst ∈ evicted, cache.handles.get? dst = some timer then none
    else cache.timers.get? timer := by
  induction evicted generalizing cache with
  | nil => simp [dropEvicted]
  | cons first rest hypothesis =>
    unfold dropEvicted
    simp only [hypothesis, timers_cancelTimer, handles_cancelTimer, List.exists_mem_cons_iff]
    by_cases here : cache.handles.get? first = some timer
    · simp [here]
    · -- the handle of the first one is gone when the rest is given up
      have same : (∃ dst ∈ rest,
            (if first = dst then none else cache.handles.get? dst) = some timer) ↔
          ∃ dst ∈ rest, cache.handles.get? dst = some timer := by
        refine exists_congr fun dst => and_congr_right fun _ => ?_
        split
        · next same => exact iff_of_false (Option.some_ne_none _).symm (same ▸ here)
        · rfl
      simp only [here, if_false, false_or, same]

end Calling

/-! ### Insertions -/

section Insertion

variable {cache : RouteCache ν} {dst : Node} {value : ν} {expiry now : Timestamp}
  {generation : UInt64}

/-- What is given up when routes are stored. -/
def evicted (cache : RouteCache ν) (dst : Node) (value : ν) (expiry : Timestamp) : List Node :=
  (cache.entries.insert dst value (some expiry)).1.2

/-- What becomes of a cache when routes are stored. -/
def stored (cache : RouteCache ν) (dst : Node) (value : ν) (expiry : Timestamp) : RouteCache ν :=
  let inserted := cache.entries.insert dst value (some expiry)
  let called := ({ cache with entries := inserted.2 }.cancelTimer dst).dropEvicted inserted.1.2
  { called with
    handles := called.handles.put dst cache.nextTimer
    timers := called.timers.put cache.nextTimer ⟨dst, inserted.1.1, expiry⟩
    nextTimer := cache.nextTimer + 1 }

/-- **An insertion stores the routes and starts a timer, or it changes nothing.** -/
theorem insert_cases (cache : RouteCache ν) (dst : Node) (value : ν) (expiry : Timestamp)
    (generation : UInt64) (now : Timestamp) :
    cache.insert dst value expiry generation now =
        (.stored cache.nextTimer, cache.stored dst value expiry) ∨
      (cache.insert dst value expiry generation now).2 = cache ∧
        ∀ timer, (cache.insert dst value expiry generation now).1 ≠ .stored timer := by
  unfold insert
  split
  · exact Or.inr ⟨rfl, fun _ => Outcome.noConfusion⟩
  · split
    · exact Or.inr ⟨rfl, fun _ => Outcome.noConfusion⟩
    · refine Or.inl ?_
      simp only [dropEvicted_nextTimer, cancelTimer_nextTimer]
      rfl

theorem stored_entries : (cache.stored dst value expiry).entries =
    (cache.entries.insert dst value (some expiry)).2 := by
  simp [stored]

theorem item?_stored (room : cache.entries.capacity ≠ 0) (other : Node) :
    (cache.stored dst value expiry).item? other =
      if dst = other then
        some ⟨dst, value, some expiry, (cache.entries.lastStamp + 1).toNat⟩
      else if other ∈ cache.evicted dst value expiry then none else cache.item? other := by
  rw [item?, stored_entries]
  exact Lru.item?_insert room ..

theorem evicted_present {other : Node} (given : other ∈ cache.evicted dst value expiry) :
    dst ≠ other ∧ cache.item? other ≠ none := by
  obtain ⟨differs, present⟩ := Lru.slot?_of_mem_evicted given
  exact ⟨differs, fun none => present (item?_eq_none.mp none)⟩

theorem handles_stored (other : Node) : (cache.stored dst value expiry).handles.get? other =
    if dst = other then some cache.nextTimer
    else if other ∈ cache.evicted dst value expiry then none
    else cache.handles.get? other := by
  simp only [stored, Table.get?_put, handles_dropEvicted, handles_cancelTimer]
  by_cases same : dst = other
  · rw [if_pos same, if_pos same]
  · rw [if_neg same, if_neg same, if_neg same]
    rfl

/-- **Storing routes calls off the timers of the old routes and of those that are given up**, and
starts a new one. -/
theorem timers_stored (room : cache.entries.capacity ≠ 0) (timer : TimerId) :
    (cache.stored dst value expiry).timers.get? timer =
      if cache.nextTimer = timer then some ⟨dst, cache.entries.lastStamp + 1, expiry⟩
      else if ∃ other ∈ dst :: cache.evicted dst value expiry,
          cache.handles.get? other = some timer then none
      else cache.timers.get? timer := by
  have stamp : (cache.entries.insert dst value (some expiry)).1.1 = cache.entries.lastStamp + 1 := by
    rw [Lru.insert_eq room rfl]
  have apart : ∀ other ∈ (cache.entries.insert dst value (some expiry)).1.2,
      (if dst = other then none else cache.handles.get? other) = some timer ↔
        cache.handles.get? other = some timer := by
    intro other given
    rw [if_neg (evicted_present given).1]
  have same : (∃ other ∈ (cache.entries.insert dst value (some expiry)).1.2,
        (if dst = other then none else cache.handles.get? other) = some timer) ↔
      ∃ other ∈ cache.evicted dst value expiry, cache.handles.get? other = some timer :=
    exists_congr fun other => and_congr_right fun given => apart other given
  simp only [stored, Table.get?_put, timers_dropEvicted, handles_cancelTimer, timers_cancelTimer,
    stamp, same, List.exists_mem_cons_iff]
  by_cases here : cache.handles.get? dst = some timer <;> simp [here]

theorem evictions_stored : (cache.stored dst value expiry).tally.evictions =
    cache.tally.evictions + (cache.evicted dst value expiry).length := by
  simp only [stored, evictions_dropEvicted, cancelTimer_tally]
  rfl

end Insertion

/-! ### Timers that ring, and purges -/

section Ringing

variable {cache : RouteCache ν} {timer : TimerId} {due : Timer}

/-- Whether a timer takes its entry out when it rings. -/
def takes (cache : RouteCache ν) (due : Timer) : Bool :=
  (cache.entries.removeStamped due.dst due.stamp).1

theorem takes_iff : cache.takes due = true ↔
    ∃ item, cache.item? due.dst = some item ∧ item.stamp = due.stamp.toNat :=
  Lru.removeStamped_iff

/-- A timer that is not pending does nothing. -/
theorem fire_of_none (none : cache.timers.get? timer = none) : cache.fire timer = cache := by
  unfold fire
  rw [none]

theorem item?_fire (pending : cache.timers.get? timer = some due) (dst : Node) :
    (cache.fire timer).item? dst =
      if cache.takes due = true ∧ due.dst = dst then none else cache.item? dst := by
  rw [item?, fire_entries pending]
  exact Lru.item?_removeStamped ..

theorem handles_fire (pending : cache.timers.get? timer = some due) (dst : Node) :
    (cache.fire timer).handles.get? dst =
      if cache.takes due = true ∧ due.dst = dst then none else cache.handles.get? dst := by
  unfold fire takes
  rw [pending]
  simp only
  split
  · next taken => simp only [taken, true_and, Table.get?_erase]
  · next kept => rw [if_neg fun both => kept both.1]

theorem timers_fire (pending : cache.timers.get? timer = some due) (other : TimerId) :
    (cache.fire timer).timers.get? other =
      if timer = other then none else cache.timers.get? other := by
  unfold fire
  rw [pending]
  simp only
  split
  · exact Table.get?_erase ..
  · exact Table.get?_erase ..

theorem fire_nextTimer (cache : RouteCache ν) (timer : TimerId) :
    (cache.fire timer).nextTimer = cache.nextTimer := by
  unfold fire
  split
  · rfl
  · simp only
    split <;> rfl

theorem evictions_fire (pending : cache.timers.get? timer = some due) :
    (cache.fire timer).tally.evictions =
      cache.tally.evictions + if cache.takes due = true then 1 else 0 := by
  unfold fire takes
  rw [pending]
  simp only
  split
  · rfl
  · rfl

/-- The timers that a purge leaves were no destination's. -/
theorem timers_purge (found : cache.purge.timers.get? timer = some due) :
    cache.timers.get? timer = some due ∧ ∀ dst, cache.handles.get? dst ≠ some timer := by
  refine ⟨Table.get?_of_eraseWhere (fun _ _ _ => rfl) found, fun dst handle => ?_⟩
  have kept := (List.mem_filter.mp (Table.mem_entries_of_get? found)).2
  have known : cache.handles.entries.any (fun handle => decide (handle.2 = timer)) = true :=
    List.any_eq_true.mpr ⟨_, Table.mem_entries_of_get? handle, decide_eq_true rfl⟩
  simp only [known] at kept
  cases kept

end Ringing

end Wayfinder.RouteCache
