/-
**The timers of a cache.**

A timer takes out the entry that has its stamp. No two insertions have the same stamp, and the timer
of an insertion rings at the deadline of its entry. So a timer never takes out an entry before its
deadline: an older one of the same destination finds another stamp there.

* `RouteCache.Timed`: what timers know of entries;
* `RouteCache.Timed.get`, `.insert`, `.fire`, `.purge`: it stays so;
* `RouteCache.Timed.kept_of_fire`: a timer that rings leaves the entries that have not expired.
-/

import Wayfinder.Proofs.RouteCache.Entries
import Wayfinder.Proofs.Lru.Refinement

namespace Wayfinder

/-- A key that is found after entries were taken out had that value before, if it is the keys alone
that tell which ones go. -/
theorem Table.get?_of_eraseWhere {κ ν : Type} [DecidableEq κ] {table : Table κ ν}
    {test : κ → ν → Bool} (byKey : ∀ key first second, test key first = test key second) {key : κ}
    {value : ν} (found : (table.eraseWhere test).get? key = some value) :
    table.get? key = some value := by
  obtain ⟨entries⟩ := table
  change Table.find? key (entries.filter _) = some value at found
  change Table.find? key entries = some value
  induction entries with
  | nil => exact found
  | cons entry rest hypothesis =>
    obtain ⟨other, old⟩ := entry
    rw [List.filter_cons] at found
    by_cases same : other = key
    · subst same
      by_cases gone : test other old = true
      · -- then every entry of the key goes
        have rid := hypothesis (by simpa [gone] using found)
        simp only [gone, Bool.not_true, Bool.false_eq_true, if_false] at found
        have member : (other, value) ∈ rest.filter (fun entry => !test entry.1 entry.2) :=
          Table.mem_entries_of_get? found
        have kept := (List.mem_filter.mp member).2
        rw [byKey other value old, gone] at kept
        cases kept
      · simp only [gone, Bool.not_false, if_true, Table.find?] at found ⊢
        exact found
    · rw [Table.find?, if_neg same]
      refine hypothesis ?_
      split at found
      · rwa [Table.find?, if_neg same] at found
      · exact found

namespace Lru

variable {κ ν : Type} [DecidableEq κ]

/-- A cache with capacity holds what was just inserted, with a new stamp. -/
theorem slot?_insert_self {cache : Lru κ ν} (room : cache.capacity ≠ 0) (key : κ) (value : ν)
    (expires : Option Timestamp) :
    (cache.insert key value expires).2.slot? key =
      some ⟨value, expires, cache.lastStamp + 1, cache.nextUse⟩ := by
  rw [insert_eq room rfl]
  exact Table.get?_put_self ..

theorem insert_lastStamp {cache : Lru κ ν} (room : cache.capacity ≠ 0) (key : κ) (value : ν)
    (expires : Option Timestamp) :
    (cache.insert key value expires).2.lastStamp = cache.lastStamp + 1 := by
  rw [insert_eq room rfl]

@[simp] theorem get_lastStamp (cache : Lru κ ν) (key : κ) (now : Timestamp) :
    (cache.get key now).2.lastStamp = cache.lastStamp := by
  unfold get
  split
  · rfl
  · split <;> rfl

@[simp] theorem removeStamped_lastStamp (cache : Lru κ ν) (key : κ) (stamp : UInt64) :
    (cache.removeStamped key stamp).2.lastStamp = cache.lastStamp := by
  unfold removeStamped
  split
  · rfl
  · split <;> rfl

@[simp] theorem removeStamped_capacity (cache : Lru κ ν) (key : κ) (stamp : UInt64) :
    (cache.removeStamped key stamp).2.capacity = cache.capacity := by
  unfold removeStamped
  split
  · rfl
  · split <;> rfl

end Lru

namespace RouteCache

variable {ν : Type} {cache : RouteCache ν}

/-! ### Which timers there are -/

theorem timers_of_cancelTimer {dst : Node} {timer : TimerId} {due : Timer}
    (found : (cache.cancelTimer dst).timers.get? timer = some due) :
    cache.timers.get? timer = some due := by
  unfold cancelTimer at found
  split at found
  · exact Table.get?_of_erase found
  · exact found

theorem timers_of_dropEvicted {evicted : List Node} {timer : TimerId} {due : Timer}
    (found : (cache.dropEvicted evicted).timers.get? timer = some due) :
    cache.timers.get? timer = some due := by
  induction evicted generalizing cache with
  | nil => exact found
  | cons dst rest hypothesis =>
    unfold dropEvicted at found
    have before := hypothesis found
    exact timers_of_cancelTimer before

/-- What an insertion makes of a cache, if it is not refused. -/
theorem insert_accepted {expiry now : Timestamp} (early : now < expiry) {generation : UInt64}
    (current : cache.generation = generation) (dst : Node) (value : ν) :
    (cache.insert dst value expiry generation now).2.entries =
        (cache.entries.insert dst value (some expiry)).2 ∧
      ∀ timer due,
        (cache.insert dst value expiry generation now).2.timers.get? timer = some due →
        cache.timers.get? timer = some due ∨
          due = ⟨dst, (cache.entries.insert dst value (some expiry)).1.1, expiry⟩ := by
  unfold insert
  rw [if_neg (Int.not_le.mpr early), if_neg (not_not_intro current)]
  constructor
  · simp
  · intro timer due found
    rcases Table.get?_of_put found with ⟨_, same⟩ | old
    · exact Or.inr same.symm
    · have before := timers_of_cancelTimer (timers_of_dropEvicted old)
      exact Or.inl before

/-- An insertion that comes too late, or for another generation, changes nothing. -/
theorem insert_refused {dst : Node} {value : ν} {expiry now : Timestamp} {generation : UInt64}
    (refused : ¬(now < expiry ∧ cache.generation = generation)) :
    (cache.insert dst value expiry generation now).2 = cache := by
  unfold insert
  split
  · rfl
  · next early =>
    split
    · rfl
    · next current =>
      exact absurd ⟨Int.not_le.mp early, Decidable.not_not.mp current⟩ refused

theorem timers_of_fire {rings timer : TimerId} {due : Timer}
    (found : (cache.fire rings).timers.get? timer = some due) :
    cache.timers.get? timer = some due := by
  unfold fire at found
  split at found
  · exact found
  · simp only at found
    split at found <;> exact Table.get?_of_erase found

theorem fire_entries {timer : TimerId} {due : Timer}
    (pending : cache.timers.get? timer = some due) :
    (cache.fire timer).entries = (cache.entries.removeStamped due.dst due.stamp).2 := by
  unfold fire
  rw [pending]
  simp only
  split
  · rfl
  · next kept =>
    unfold Lru.removeStamped at kept ⊢
    split at kept
    · rfl
    · split at kept
      · exact absurd rfl kept
      · next other => rw [if_neg other]

/-! ### What timers know of entries -/

/-- A timer has a stamp that was handed out, and rings at the deadline of the entry that has its
stamp. -/
structure Timed (cache : RouteCache ν) : Prop where
  stamped : ∀ timer due, cache.timers.get? timer = some due →
    due.stamp.toNat ≤ cache.entries.lastStamp.toNat
  ends : ∀ timer due entry, cache.timers.get? timer = some due →
    cache.slot? due.dst = some entry → entry.stamp = due.stamp → entry.expires = some due.deadline

namespace Timed

theorem get (timed : cache.Timed) (dst : Node) (now : Timestamp) :
    (cache.get dst now).2.Timed where
  stamped timer due pending := by
    show due.stamp.toNat ≤ (cache.entries.get dst now).2.lastStamp.toNat
    rw [Lru.get_lastStamp]
    exact timed.stamped timer due pending
  ends timer due entry pending found same := by
    obtain ⟨old, here, kept⟩ := RouteCache.slot?_of_get found
    rw [kept] at same ⊢
    exact timed.ends timer due old pending here same

/-- **The timer of an insertion has a stamp that no other has.** -/
theorem insert (timed : cache.Timed) (room : cache.entries.capacity ≠ 0)
    (few : cache.entries.lastStamp.toNat + 1 < UInt64.size) (dst : Node) (value : ν)
    (expiry : Timestamp) (generation : UInt64) (now : Timestamp) :
    (cache.insert dst value expiry generation now).2.Timed := by
  by_cases accepted : now < expiry ∧ cache.generation = generation
  · obtain ⟨early, current⟩ := accepted
    obtain ⟨entries, timers⟩ := cache.insert_accepted early current dst value
    have stamp : (cache.entries.insert dst value (some expiry)).1.1 = cache.entries.lastStamp + 1 := by
      rw [Lru.insert_eq room rfl]
    rw [stamp] at timers
    have next := Lru.lastStamp_succ few
    constructor
    · intro timer due pending
      rw [entries, Lru.insert_lastStamp room, next]
      rcases timers timer due pending with old | rfl
      · exact Nat.le_succ_of_le (timed.stamped timer due old)
      · exact Nat.le_of_eq next
    · intro timer due entry pending found same
      rw [slot?, entries] at found
      by_cases place : due.dst = dst
      · rw [place, Lru.slot?_insert_self room] at found
        cases found
        rcases timers timer due pending with old | rfl
        · have bound := timed.stamped timer due old
          rw [← same] at bound
          simp only [next] at bound
          exact absurd bound (Nat.not_succ_le_self _)
        · rfl
      · rcases Lru.slot?_of_insert found with kept | ⟨equal, _⟩
        · rcases timers timer due pending with old | rfl
          · exact timed.ends timer due entry old kept same
          · exact absurd rfl place
        · exact absurd equal place
  · rw [insert_refused accepted]
    exact timed

theorem fire (timed : cache.Timed) (timer : TimerId) : (cache.fire timer).Timed where
  stamped other due pending := by
    have bound := timed.stamped other due (timers_of_fire pending)
    cases rings : cache.timers.get? timer with
    | none =>
      unfold RouteCache.fire
      rw [rings]
      exact bound
    | some ringing =>
      rw [fire_entries rings, Lru.removeStamped_lastStamp]
      exact bound
  ends other due entry pending found same :=
    timed.ends other due entry (timers_of_fire pending) (slot?_of_fire found) same

theorem purge (timed : cache.Timed) : cache.purge.Timed where
  stamped timer due pending :=
    timed.stamped timer due (Table.get?_of_eraseWhere (fun _ _ _ => rfl) pending)
  ends timer due entry _ found _ := by
    rw [slot?_purge] at found
    cases found

/-- **A timer that rings in time leaves the entries that have not expired.** -/
theorem kept_of_fire (timed : cache.Timed) {timer : TimerId} {due : Timer} {now : Timestamp}
    (pending : cache.timers.get? timer = some due) (ripe : due.deadline ≤ now) {dst : Node}
    {entry : Lru.Entry ν} (here : cache.slot? dst = some entry) (live : entry.isStale now = false) :
    due.dst ≠ dst ∨ entry.stamp ≠ due.stamp := by
  refine Classical.or_iff_not_imp_left.mpr fun same stamp => ?_
  obtain rfl := Decidable.not_not.mp same
  rw [Lru.Entry.isStale, timed.ends timer due entry pending here stamp] at live
  exact absurd ripe (of_decide_eq_false live)

end Timed

end RouteCache

end Wayfinder
