/-
**Every entry has its timer.**

An entry is watched by one timer, which has the stamp of the entry and rings at its deadline. Handles
carry this: the handle of a destination is the timer that was started last for it, and a timer that
is pending is still the handle of its destination, since whatever replaces or gives up an entry calls
the handle off.

* `RouteCache.Watched`: what handles, timers and entries know of each other;
* `Watched.step`, `Run.watched`: it stays so, whenever timers ring;
* `Occurrence.item_before`: an item was there before, with the same handle, or it was just stored;
* `RouteCache.Guarded`, `Run.guarded`: an entry has one timer, and a timer takes out nothing but the
  entry with which it was started.
-/

import Wayfinder.Proofs.RouteCache.Run

namespace Wayfinder.RouteCache

variable {ν : Type} {cache : RouteCache ν}

/-! ### What handles, timers and entries know of each other -/

/-- Handles and pending timers belong together, and each entry has a pending timer. -/
structure Watched (cache : RouteCache ν) : Prop where
  room : cache.entries.capacity ≠ 0
  /-- A pending timer is the handle of its destination, and of no other one. -/
  handled : ∀ timer due, cache.timers.get? timer = some due →
    ∀ dst, cache.handles.get? dst = some timer ↔ due.dst = dst
  counted : ∀ dst timer, cache.handles.get? dst = some timer → timer < cache.nextTimer
  /-- Each entry has a pending timer with its stamp and its deadline. -/
  pending : ∀ dst item, cache.item? dst = some item → ∃ timer due,
    cache.timers.get? timer = some due ∧ due.dst = dst ∧ due.stamp.toNat = item.stamp ∧
      item.expires = some due.deadline
  /-- Timers and stamps are counted alike, stamps in 64 bits. -/
  stamped : ∀ timer due, cache.timers.get? timer = some due →
    due.stamp = UInt64.ofNat (timer + 1)
  numbered : cache.entries.lastStamp = UInt64.ofNat cache.nextTimer

namespace Watched

theorem initial {capacity : Nat} (room : capacity ≠ 0) :
    (ofCapacity capacity : RouteCache ν).Watched where
  room := room
  handled _ _ pending := nomatch pending
  counted _ _ known := nomatch known
  pending _ _ here := nomatch here
  stamped _ _ pending := nomatch pending
  numbered := rfl

theorem handle_of_pending (watched : cache.Watched) {timer : TimerId} {due : Timer}
    (pending : cache.timers.get? timer = some due) : cache.handles.get? due.dst = some timer :=
  (watched.handled timer due pending due.dst).mpr rfl

/-- A destination has one pending timer. -/
theorem pending_unique (watched : cache.Watched) {first second : TimerId} {due due' : Timer}
    (one : cache.timers.get? first = some due) (two : cache.timers.get? second = some due')
    (same : due.dst = due'.dst) : first = second := by
  have handle := watched.handle_of_pending one
  rw [same, watched.handle_of_pending two] at handle
  exact (Option.some.inj handle).symm

theorem timer_lt (watched : cache.Watched) {timer : TimerId} {due : Timer}
    (pending : cache.timers.get? timer = some due) : timer < cache.nextTimer :=
  watched.counted due.dst timer (watched.handle_of_pending pending)

theorem get (watched : cache.Watched) (dst : Node) (now : Timestamp) :
    (cache.get dst now).2.Watched where
  room := by
    show (cache.entries.get dst now).2.capacity ≠ 0
    rw [Lru.get_capacity]
    exact watched.room
  handled := watched.handled
  counted := watched.counted
  pending other item here := by
    rw [item?_get] at here
    split at here
    · cases here
    · exact watched.pending other item here
  stamped := watched.stamped
  numbered := by
    show (cache.entries.get dst now).2.lastStamp = UInt64.ofNat cache.nextTimer
    rw [Lru.get_lastStamp]
    exact watched.numbered

/-- The new timer is the handle of what is stored, and those that stay pending keep their
destinations. -/
theorem handled_stored (watched : cache.Watched) {dst : Node} {value : ν} {expiry : Timestamp}
    {timer : TimerId} {due : Timer}
    (pending : (cache.stored dst value expiry).timers.get? timer = some due) (other : Node) :
    (cache.stored dst value expiry).handles.get? other = some timer ↔ due.dst = other := by
  rw [timers_stored watched.room] at pending
  rw [handles_stored]
  split at pending
  · next new =>
    -- the new timer is the handle of no other destination: these are older
    subst new
    cases pending
    split
    · next same => exact iff_of_true rfl same
    · next differs =>
      refine iff_of_false (fun known => ?_) differs
      split at known
      · cases known
      · exact absurd (watched.counted other _ known) (Nat.lt_irrefl _)
  · next old =>
    split at pending
    · cases pending
    · next spared =>
      have handle := watched.handle_of_pending pending
      have apart (given : other ∈ dst :: cache.evicted dst value expiry) : due.dst ≠ other :=
        fun same => spared ⟨other, given, same ▸ handle⟩
      split
      · next same =>
        refine iff_of_false (fun known => old (Option.some.inj known)) ?_
        exact apart (same ▸ List.mem_cons_self)
      · split
        · next given =>
          exact iff_of_false (Option.some_ne_none _).symm
            (apart (List.mem_cons_of_mem _ given))
        · exact watched.handled timer due pending other

/-- What is stored has the new timer, and what stays cached keeps its own. -/
theorem pending_stored (watched : cache.Watched) {dst other : Node} {value : ν}
    {expiry : Timestamp} {item : Recency.Item Node ν}
    (here : (cache.stored dst value expiry).item? other = some item) :
    ∃ timer due, (cache.stored dst value expiry).timers.get? timer = some due ∧
      due.dst = other ∧ due.stamp.toNat = item.stamp ∧ item.expires = some due.deadline := by
  rw [item?_stored watched.room] at here
  simp only [timers_stored watched.room]
  split at here
  · next same =>
    cases here
    exact ⟨cache.nextTimer, _, if_pos rfl, same, rfl, rfl⟩
  · next differs =>
    split at here
    · cases here
    · next spared =>
      obtain ⟨timer, due, pending, place, stamp, expires⟩ := watched.pending other item here
      refine ⟨timer, due, ?_, place, stamp, expires⟩
      rw [if_neg (Nat.ne_of_gt (watched.timer_lt pending)), if_neg]
      · exact pending
      · rintro ⟨victim, given, known⟩
        have same := (watched.handled timer due pending victim).mp known
        rw [place] at same
        rcases List.mem_cons.mp given with rfl | evicted
        · exact differs same.symm
        · exact spared (same ▸ evicted)

/-- **What is stored is watched by a timer of its own**, and no other entry loses its timer. -/
theorem stored (watched : cache.Watched) (dst : Node) (value : ν) (expiry : Timestamp) :
    (cache.stored dst value expiry).Watched where
  room := by
    rw [stored_entries, Lru.insert_capacity]
    exact watched.room
  handled _ _ pending := watched.handled_stored pending
  counted other timer known := by
    rw [handles_stored] at known
    show timer < cache.nextTimer + 1
    split at known
    · cases known
      exact Nat.lt_succ_self _
    · split at known
      · cases known
      · exact Nat.lt_succ_of_lt (watched.counted other timer known)
  pending _ _ here := watched.pending_stored here
  stamped timer due pending := by
    rw [timers_stored watched.room] at pending
    split at pending
    · next new =>
      subst new
      cases pending
      show cache.entries.lastStamp + 1 = _
      rw [watched.numbered, UInt64.ofNat_add]
      rfl
    · split at pending
      · cases pending
      · exact watched.stamped timer due pending
  numbered := by
    rw [stored_entries, Lru.insert_lastStamp watched.room, watched.numbered]
    exact (UInt64.ofNat_add ..).symm

theorem insert (watched : cache.Watched) (dst : Node) (value : ν) (expiry : Timestamp)
    (generation : UInt64) (now : Timestamp) :
    (cache.insert dst value expiry generation now).2.Watched := by
  rcases cache.insert_cases dst value expiry generation now with accepted | ⟨refused, _⟩
  · rw [accepted]
    exact watched.stored dst value expiry
  · rw [refused]
    exact watched

/-- The timer of an entry takes it out when it rings. -/
theorem takes_of_item (watched : cache.Watched) {timer : TimerId} {due : Timer}
    (pending : cache.timers.get? timer = some due) {item : Recency.Item Node ν}
    (here : cache.item? due.dst = some item) : cache.takes due = true := by
  obtain ⟨other, due', pending', place, stamp, _⟩ := watched.pending due.dst item here
  obtain rfl := watched.pending_unique pending pending' place.symm
  rw [pending] at pending'
  cases pending'
  exact takes_iff.mpr ⟨item, here, stamp.symm⟩

theorem fire (watched : cache.Watched) (timer : TimerId) : (cache.fire timer).Watched := by
  cases rings : cache.timers.get? timer with
  | none =>
    rw [fire_of_none rings]
    exact watched
  | some ringing =>
    constructor
    · rw [fire_entries rings, Lru.removeStamped_capacity]
      exact watched.room
    · intro other due pending dst
      have old := timers_of_fire pending
      rw [timers_fire rings] at pending
      rw [handles_fire rings]
      split at pending
      · cases pending
      · next differs =>
        split
        · next gone =>
          refine iff_of_false (Option.some_ne_none _).symm fun same => differs ?_
          exact watched.pending_unique rings old (gone.2.trans same.symm)
        · exact watched.handled other due old dst
    · intro dst other known
      rw [fire_nextTimer]
      rw [handles_fire rings] at known
      split at known
      · cases known
      · exact watched.counted dst other known
    · intro dst item here
      rw [item?_fire rings] at here
      split at here
      · cases here
      · next spared =>
        obtain ⟨other, due, pending, place, stamp, expires⟩ := watched.pending dst item here
        refine ⟨other, due, ?_, place, stamp, expires⟩
        rw [timers_fire rings, if_neg]
        · exact pending
        · rintro rfl
          rw [rings] at pending
          cases pending
          exact spared ⟨watched.takes_of_item rings (place ▸ here), place⟩
    · intro other due pending
      exact watched.stamped other due (timers_of_fire pending)
    · rw [fire_entries rings, Lru.removeStamped_lastStamp, fire_nextTimer]
      exact watched.numbered

/-- A purge leaves no timer. -/
theorem purge (watched : cache.Watched) : cache.purge.Watched := by
  have idle (timer : TimerId) (due : Timer) : cache.purge.timers.get? timer ≠ some due := by
    intro found
    obtain ⟨pending, unknown⟩ := timers_purge found
    exact unknown due.dst (watched.handle_of_pending pending)
  exact {
    room := watched.room
    handled := fun timer due found => absurd found (idle timer due)
    counted := fun _ _ known => nomatch known
    pending := fun _ _ here => nomatch here
    stamped := fun timer due found => absurd found (idle timer due)
    numbered := watched.numbered }

theorem step (watched : cache.Watched) (now : Timestamp) (event : Event ν) :
    (RouteCache.step now event cache).1.Watched := by
  cases event with
  | get dst => exact watched.get dst now
  | insert dst value expiry generation => exact watched.insert dst value expiry generation now
  | fire timer => exact watched.fire timer
  | purge => exact watched.purge

end Watched

variable {capacity : Nat} {history : List (Occurrence ν)}

/-- **In every run handles, timers and entries belong together.** -/
theorem Run.watched (room : capacity ≠ 0) (run : Run capacity history cache) : cache.Watched := by
  induction run with
  | initial => exact Watched.initial room
  | step run now event fresh hypothesis => exact hypothesis.step now event

/-! ### Where an item comes from -/

/-- **An item was there before, with the same handle, or the step has stored it.** -/
theorem Occurrence.item_before (taken : Occurrence ν) (room : taken.before.entries.capacity ≠ 0)
    {dst : Node} {item : Recency.Item Node ν} (here : taken.after.item? dst = some item) :
    (taken.before.item? dst = some item ∧
        taken.after.handles.get? dst = taken.before.handles.get? dst) ∨
      ∃ timer expiry, taken.Stores timer dst item.value expiry ∧ item.expires = some expiry ∧
        taken.after.handles.get? dst = some timer := by
  obtain ⟨before, now, event⟩ := taken
  cases event with
  | get other =>
    change (before.get other now).2.item? dst = some item at here
    rw [item?_get] at here
    split at here
    · cases here
    · exact Or.inl ⟨here, rfl⟩
  | insert other value expiry generation =>
    change (before.insert other value expiry generation now).2.item? dst = some item at here
    simp only [Automaton.Occurrence.after, automaton, step, Occurrence.Stores,
      Automaton.Occurrence.effects]
    rcases before.insert_cases other value expiry generation now with accepted | ⟨refused, _⟩
    · simp only [accepted] at here ⊢
      rw [item?_stored room] at here
      rw [handles_stored]
      split at here
      · next same =>
        subst same
        cases here
        exact Or.inr ⟨before.nextTimer, expiry, ⟨generation, rfl, rfl⟩, rfl, if_pos rfl⟩
      · next differs =>
        split at here
        · cases here
        · next spared => exact Or.inl ⟨here, by rw [if_neg differs, if_neg spared]⟩
    · rw [refused] at here ⊢
      exact Or.inl ⟨here, rfl⟩
  | fire timer =>
    change (before.fire timer).item? dst = some item at here
    show _ ∧ (before.fire timer).handles.get? dst = _ ∨ _
    cases rings : before.timers.get? timer with
    | none =>
      rw [fire_of_none rings] at here ⊢
      exact Or.inl ⟨here, rfl⟩
    | some due =>
      rw [item?_fire rings] at here
      split at here
      · cases here
      · next spared =>
        refine Or.inl ⟨here, ?_⟩
        rw [handles_fire rings, if_neg spared]
  | purge => cases here

/-- A step that stores routes for a destination changes its handle. -/
theorem Occurrence.Stores.handle {taken : Occurrence ν} {timer : TimerId} {dst : Node} {value : ν}
    {expiry : Timestamp} (stores : taken.Stores timer dst value expiry) :
    timer = taken.before.nextTimer ∧ taken.after.handles.get? dst = some timer := by
  obtain ⟨before, now, event⟩ := taken
  obtain ⟨generation, rfl, effects⟩ := stores
  change Answer.inserted (before.insert dst value expiry generation now).1 = _ at effects
  show _ ∧ (before.insert dst value expiry generation now).2.handles.get? dst = _
  rcases before.insert_cases dst value expiry generation now with accepted | ⟨_, other⟩
  · rw [accepted] at effects ⊢
    cases effects
    exact ⟨rfl, by rw [handles_stored, if_pos rfl]⟩
  · exact absurd (Answer.inserted.inj effects) (other timer)

/-! ### Timers are counted -/

theorem Occurrence.nextTimer_le (taken : Occurrence ν) :
    taken.before.nextTimer ≤ taken.after.nextTimer := by
  obtain ⟨before, now, event⟩ := taken
  cases event with
  | get dst => exact Nat.le_refl _
  | insert dst value expiry generation =>
    show _ ≤ (before.insert dst value expiry generation now).2.nextTimer
    rcases before.insert_cases dst value expiry generation now with accepted | ⟨refused, _⟩
    · rw [accepted]
      exact Nat.le_succ _
    · exact Nat.le_of_eq (congrArg RouteCache.nextTimer refused).symm
  | fire timer => exact Nat.le_of_eq (before.fire_nextTimer timer).symm
  | purge => exact Nat.le_refl _

theorem Occurrence.Stores.nextTimer {taken : Occurrence ν} {timer : TimerId} {dst : Node}
    {value : ν} {expiry : Timestamp} (stores : taken.Stores timer dst value expiry) :
    taken.after.nextTimer = timer + 1 := by
  obtain ⟨before, now, event⟩ := taken
  obtain ⟨generation, rfl, effects⟩ := stores
  change Answer.inserted (before.insert dst value expiry generation now).1 = _ at effects
  show (before.insert dst value expiry generation now).2.nextTimer = _
  rcases before.insert_cases dst value expiry generation now with accepted | ⟨_, other⟩
  · rw [accepted] at effects ⊢
    cases effects
    rfl
  · exact absurd (Answer.inserted.inj effects) (other timer)

theorem Run.nextTimer_le (run : Run capacity history cache) {position : Nat}
    {taken : Occurrence ν} (here : history[position]? = some taken) :
    taken.before.nextTimer ≤ cache.nextTimer := by
  let holds : RouteCache ν → Prop := fun state => taken.before.nextTimer ≤ state.nextTimer
  have found : At history position (holds ·.after) := ⟨taken, here, taken.nextTimer_le⟩
  exact (run.stays found fun _ next _ _ bound => Nat.le_trans bound (Occurrence.nextTimer_le next)).2

/-- **A timer is started once.** -/
theorem Run.stores_unique (run : Run capacity history cache) {first second : Nat}
    {timer : TimerId} {dst dst' : Node} {value value' : ν} {expiry expiry' : Timestamp}
    (one : At history first (·.Stores timer dst value expiry))
    (two : At history second (·.Stores timer dst' value' expiry')) : first = second := by
  -- after the earlier one, higher numbers are given
  have ordered {first second : Nat} {dst dst' : Node} {value value' : ν}
      {expiry expiry' : Timestamp} (one : At history first (·.Stores timer dst value expiry))
      (two : At history second (·.Stores timer dst' value' expiry')) : second ≤ first := by
    refine Nat.le_of_not_lt fun before => ?_
    obtain ⟨taken, here, stores⟩ := one
    obtain ⟨taken', there, stores'⟩ := two
    have grown := run.measure_le Occurrence.nextTimer_le here there before
    rw [stores.nextTimer, ← stores'.handle.1] at grown
    exact absurd grown (Nat.not_succ_le_self _)
  exact Nat.le_antisymm (ordered two one) (ordered one two)

/-! ### Timers that ring one after another -/

/-- What is left when timers have rung one after another. -/
def fireAll (cache : RouteCache ν) (rings : List TimerId) : RouteCache ν := rings.foldl fire cache

theorem Watched.fireAll (watched : cache.Watched) (rings : List TimerId) :
    (cache.fireAll rings).Watched := by
  induction rings generalizing cache with
  | nil => exact watched
  | cons first rest hypothesis => exact hypothesis (watched.fire first)

theorem timers_fireAll {rings : List TimerId} {timer : TimerId} {due : Timer}
    (found : (cache.fireAll rings).timers.get? timer = some due) :
    cache.timers.get? timer = some due ∧ timer ∉ rings := by
  induction rings generalizing cache with
  | nil => exact ⟨found, List.not_mem_nil⟩
  | cons first rest hypothesis =>
    obtain ⟨left, silent⟩ := hypothesis found
    refine ⟨timers_of_fire left, fun member => ?_⟩
    rcases List.mem_cons.mp member with rfl | later
    · have pending := timers_of_fire left
      rw [timers_fire pending, if_pos rfl] at left
      cases left
    · exact silent later

/-! ### Guarded caches -/

/-- **Every entry has its timer, and every timer its entry.** -/
structure Guarded (history : List (Occurrence ν)) (cache : RouteCache ν) : Prop where
  /-- An entry has one pending timer, which has the stamp and the deadline of the entry. -/
  one : ∀ dst entry, cache.slot? dst = some entry → ∃ timer deadline,
    entry.expires = some deadline ∧
      cache.timers.get? timer = some ⟨dst, entry.stamp, deadline⟩ ∧
      ∀ other due, cache.timers.get? other = some due → due.dst = dst → other = timer
  /-- A timer is started by one insertion. -/
  once : ∀ timer first second dst dst' value value' expiry expiry',
    At history first (·.Stores timer dst value expiry) →
    At history second (·.Stores timer dst' value' expiry') → first = second
  /-- What a timer changes when it rings is that it takes out the item that was stored when it was
  started, which nothing has replaced or taken out in between. -/
  own : ∀ position timer dst,
    At history position (fun taken =>
      taken.event = .fire timer ∧ taken.after.item? dst ≠ taken.before.item? dst) →
    ∃ start item expiry, start < position ∧ item.expires = some expiry ∧
      At history start (fun taken =>
        taken.Stores timer dst item.value expiry ∧ taken.after.item? dst = some item) ∧
      (∀ between taken, start < between → between < position →
        history[between]? = some taken →
        taken.before.item? dst = some item ∧ taken.after.item? dst = some item ∧
          ∀ other value expiry', ¬ taken.Stores other dst value expiry') ∧
      At history position fun taken =>
        taken.before.item? dst = some item ∧ taken.after.item? dst = none
  /-- When all timers that are due have rung, others among them or not, no entry is expired. -/
  prompt : ∀ now rings,
    (∀ timer due, cache.timers.get? timer = some due → due.deadline ≤ now → timer ∈ rings) →
    ∀ dst entry, (cache.fireAll rings).slot? dst = some entry → entry.isStale now = false
  /-- A timer that was called off would find nothing to take out even if it rang after all, as long
  as no stamp has been given twice. -/
  spent : cache.nextTimer ≤ UInt64.size → ∀ position timer due,
    At history position (·.before.timers.get? timer = some due) →
    cache.timers.get? timer = none →
    ({ cache with timers := cache.timers.put timer due }.fire timer).entries = cache.entries

theorem Watched.one (watched : cache.Watched) {dst : Node} {entry : Lru.Entry ν}
    (here : cache.slot? dst = some entry) : ∃ timer deadline,
    entry.expires = some deadline ∧
      cache.timers.get? timer = some ⟨dst, entry.stamp, deadline⟩ ∧
      ∀ other due, cache.timers.get? other = some due → due.dst = dst → other = timer := by
  obtain ⟨timer, ⟨place, stamp, deadline⟩, pending, rfl, same, expires⟩ :=
    watched.pending dst _ (Lru.item?_of_slot? here)
  obtain rfl : stamp = entry.stamp := UInt64.toNat_inj.mp same
  exact ⟨timer, deadline, expires, pending, fun other due pending' place =>
    watched.pending_unique pending' pending place⟩

/-- When all timers that are due have rung no entry is expired. -/
theorem Watched.prompt (watched : cache.Watched) {now : Timestamp} {rings : List TimerId}
    (all : ∀ timer due, cache.timers.get? timer = some due → due.deadline ≤ now → timer ∈ rings)
    {dst : Node} {entry : Lru.Entry ν} (here : (cache.fireAll rings).slot? dst = some entry) :
    entry.isStale now = false := by
  obtain ⟨timer, deadline, expires, pending, _⟩ := (watched.fireAll rings).one here
  obtain ⟨before, silent⟩ := timers_fireAll pending
  rw [Lru.Entry.isStale, expires]
  exact decide_eq_false fun due => silent (all timer _ before due)

/-- A timer that rings changes something only at its destination, and only if it is the handle. -/
theorem Watched.of_fire (watched : cache.Watched) {timer : TimerId} {dst : Node}
    (changed : (cache.fire timer).item? dst ≠ cache.item? dst) :
    cache.handles.get? dst = some timer ∧ (cache.fire timer).item? dst = none := by
  cases rings : cache.timers.get? timer with
  | none =>
    rw [fire_of_none rings] at changed
    exact absurd rfl changed
  | some due =>
    rw [item?_fire rings] at changed ⊢
    split at changed
    · next taken =>
      rw [if_pos taken]
      exact ⟨taken.2 ▸ watched.handle_of_pending rings, rfl⟩
    · exact absurd rfl changed

/-- A timer that has been called off has a stamp that no entry has. -/
theorem Watched.spent (watched : cache.Watched) (few : cache.nextTimer ≤ UInt64.size)
    {timer : TimerId} {due : Timer} (old : timer < cache.nextTimer)
    (stamp : due.stamp = UInt64.ofNat (timer + 1)) (off : cache.timers.get? timer = none) :
    cache.takes due = false := by
  refine Bool.eq_false_iff.mpr fun taken => ?_
  obtain ⟨item, here, same⟩ := takes_iff.mp taken
  obtain ⟨other, due', pending, _, stamp', _⟩ := watched.pending due.dst item here
  have bound := watched.timer_lt pending
  rw [← stamp', watched.stamped other due' pending, stamp, UInt64.toNat_ofNat', UInt64.toNat_ofNat']
    at same
  -- timers with numbers below `2 ^ 64` have stamps of their own
  have apart (first second : Nat) (one : first < 2 ^ 64) (two : second < 2 ^ 64)
      (equal : (first + 1) % 2 ^ 64 = (second + 1) % 2 ^ 64) : first = second := by omega
  obtain rfl := apart other timer (Nat.lt_of_lt_of_le bound few) (Nat.lt_of_lt_of_le old few) same
  rw [off] at pending
  cases pending

/-- **In every run of a cache with capacity, every entry has its timer and every timer its entry.** -/
theorem Run.guarded (room : capacity ≠ 0) (run : Run capacity history cache) :
    Guarded history cache where
  one _ _ here := (run.watched room).one here
  once _ _ _ _ _ _ _ _ _ one two := run.stores_unique one two
  own := by
    intro position timer dst found
    obtain ⟨⟨before, now, event⟩, here, rfl, changed⟩ := found
    have earlier := run.take here
    obtain ⟨handle, gone⟩ := (Run.watched room earlier).of_fire changed
    change (before.fire timer).item? dst ≠ before.item? dst at changed
    rw [gone] at changed
    obtain ⟨item, held⟩ := Option.ne_none_iff_exists'.mp changed.symm
    -- since when the destination has had both the handle and the item
    let holds : RouteCache ν → Prop := fun state =>
      state.handles.get? dst = some timer ∧ state.item? dst = some item
    have absent : ¬ holds (ofCapacity capacity) := fun both => nomatch both.2
    obtain ⟨start, began, since⟩ := earlier.brought_about absent ⟨handle, held⟩
    obtain ⟨bound, taken, there, not, holding⟩ := began.of_take
    have watched := Run.watched room (run.take there)
    rcases Occurrence.item_before taken watched.room holding.2 with
      ⟨same, kept⟩ | ⟨other, expiry, stores, ends, _⟩
    · exact absurd ⟨kept ▸ holding.1, same⟩ not
    · obtain rfl : other = timer := by
        have new := stores.handle.2
        rw [holding.1] at new
        exact (Option.some.inj new).symm
      refine ⟨start, item, expiry, bound, ends, ⟨taken, there, stores, holding.2⟩, ?_,
        ⟨_, here, held, gone⟩⟩
      intro between next after within here'
      have steady := since between next after (by rwa [List.getElem?_take_of_lt within])
      refine ⟨steady.1.2, steady.2.2, fun third value expiry' again => ?_⟩
      -- an insertion in between would have replaced the handle
      have older := (Run.watched room (run.take here')).counted dst other steady.1.1
      obtain ⟨new, replaced⟩ := again.handle
      rw [steady.2.1] at replaced
      cases replaced
      exact absurd new (Nat.ne_of_lt older)
  prompt _ _ all _ _ here := (run.watched room).prompt all here
  spent := by
    intro few position timer due found off
    obtain ⟨taken, here, pending⟩ := found
    have watched := Run.watched room (run.take here)
    have old := Nat.lt_of_lt_of_le (watched.timer_lt pending) (run.nextTimer_le here)
    have unmoved := (run.watched room).spent few old (watched.stamped timer due pending) off
    have rings : (cache.timers.put timer due).get? timer = some due := Table.get?_put_self ..
    rw [fire_entries rings]
    exact Lru.removeStamped_of_false unmoved

/-! ### A late timer -/

/-- Destinations of the runs that are replayed. -/
def firstDst : Node := { isd := 3, asn := 30 }

def secondDst : Node := { isd := 3, asn := 31 }

def thirdDst : Node := { isd := 3, asn := 32 }

/-- A destination is stored anew, another one is given up for a third one, and after a purge two are
stored again. The timer of the first one rings long after its deadline, that of the second one not
at all so far. -/
def lateTimer : List (Occurrence Nat) :=
  (automaton Nat).replay (ofCapacity 2)
    [(0, .insert firstDst 10 80 0), (0, .insert firstDst 11 100 0), (10, .insert secondDst 20 50 0),
      (20, .get firstDst), (30, .insert thirdDst 30 200 0), (40, .purge),
      (50, .insert firstDst 12 90 1), (50, .insert secondDst 21 60 1), (300, .fire 2), (300, .fire 4)]

/-- The late timer takes out what the insertion after the purge has stored, and when the other timer
has rung nothing is left. -/
theorem guarded_lateTimer :
    (∃ start < 9, At lateTimer start (·.Stores 4 firstDst 12 90)) ∧
      ∃ cache, Run 2 lateTimer cache ∧ cache.size = 1 ∧
        ∀ dst entry, (cache.fireAll [5]).slot? dst = some entry → entry.isStale 300 = false := by
  have run : Run 2 lateTimer _ := Automaton.Run.of_replay (automaton Nat) _ _ (by decide)
  have guarded := run.guarded (by decide)
  constructor
  · obtain ⟨start, item, expiry, before, ends, ⟨taken, there, stores, _⟩, _, ⟨_, here, held, _⟩⟩ :=
      guarded.own 9 4 firstDst ⟨_, rfl, rfl, (Option.some_ne_none _).symm⟩
    cases here
    cases held
    cases ends
    exact ⟨start, before, taken, there, stores⟩
  · refine ⟨_, run, rfl, fun dst entry here => ?_⟩
    refine guarded.prompt 300 [5] (fun timer due pending _ => ?_) dst entry here
    have member := Table.mem_entries_of_get? pending
    obtain ⟨rfl, _⟩ := Prod.mk.inj (List.mem_singleton.mp member)
    exact List.mem_singleton_self 5

end Wayfinder.RouteCache
