/-
**What the operations of a cache do to its entries.**

A cache is looked at through `slot?`, the entry of a key. No operation invents an entry: whatever a
key has afterwards it had before, up to the reading of the clock at its last use, or it is the one
that was just inserted.

* `Lru.slot?_of_get`, `Lru.slot?_of_insert`: lookups and insertions of a bounded cache;
* `RouteCache.slot?_of_insert`: an insertion also passes the check of the generation;
* `RouteCache.insert_rejected`: an insertion that is refused changes nothing.
-/

import Wayfinder.RouteCache

namespace Wayfinder

namespace Lru

variable {κ ν : Type} [DecidableEq κ]

/-- The entry of a key, stale or not. -/
def slot? (cache : Lru κ ν) (key : κ) : Option (Entry ν) := cache.entries.get? key

/-- Making room gives no key another entry. -/
theorem get?_of_makeRoom {capacity rounds : Nat} {entries : Table κ (Entry ν)} {key : κ}
    {entry : Entry ν} (found : (makeRoom capacity rounds entries).2.get? key = some entry) :
    entries.get? key = some entry := by
  induction rounds generalizing entries with
  | zero => exact found
  | succ rounds hypothesis =>
    unfold makeRoom at found
    split at found
    · exact found
    · split at found
      · exact found
      · next victim _ _ =>
        have kept := hypothesis found
        rw [Table.get?_erase] at kept
        split at kept
        · cases kept
        · exact kept

/-- A value that is found belongs to an entry that is not stale. -/
theorem get_eq_some {cache : Lru κ ν} {key : κ} {now : Timestamp} {value : ν}
    (found : (cache.get key now).1 = some value) :
    ∃ entry, cache.slot? key = some entry ∧ entry.value = value ∧ entry.isStale now = false := by
  unfold get at found
  split at found
  · cases found
  · next entry here =>
    split at found
    · cases found
    · next live =>
      exact ⟨entry, here, Option.some.inj found, Bool.eq_false_iff.mpr live⟩

/-- Where there is no entry nothing is found. -/
theorem get_of_slot?_none {cache : Lru κ ν} {key : κ} (none : cache.slot? key = none)
    (now : Timestamp) : cache.get key now = (Option.none, cache) := by
  unfold get
  rw [show cache.entries.get? key = Option.none from none]

/-- **Where nothing is found there is no entry, or a stale one**, which goes. -/
theorem get_eq_none {cache : Lru κ ν} {key : κ} {now : Timestamp}
    (missed : (cache.get key now).1 = none) :
    (∀ entry, cache.slot? key = some entry → entry.isStale now = true) ∧
      ∀ other, (cache.get key now).2.slot? other =
        if key = other then none else cache.slot? other := by
  unfold get at missed ⊢
  split at missed
  · next absent =>
    refine ⟨fun entry here => ?_, fun other => ?_⟩
    · cases absent.symm.trans here
    · split
      · next same => exact same ▸ absent
      · rfl
  · next entry present =>
    split at missed
    · next stale =>
      refine ⟨fun other here => ?_, fun other => ?_⟩
      · cases present.symm.trans here
        exact stale
      · simp only [stale, if_true, slot?, Table.get?_erase]
    · cases missed

/-- A lookup leaves of every entry all but the reading of its last use. -/
theorem slot?_of_get {cache : Lru κ ν} {key other : κ} {now : Timestamp} {entry : Entry ν}
    (found : (cache.get key now).2.slot? other = some entry) :
    ∃ old, cache.slot? other = some old ∧ entry = { old with lastUse := entry.lastUse } := by
  unfold get at found
  split at found
  · exact ⟨entry, found, rfl⟩
  · next used here =>
    split at found
    · simp only [slot?, Table.get?_erase] at found
      split at found
      · cases found
      · exact ⟨entry, found, rfl⟩
    · simp only [slot?, Table.get?_put] at found
      split at found
      · next same =>
        subst same
        cases found
        exact ⟨used, here, rfl⟩
      · exact ⟨entry, found, rfl⟩

/-- After an insertion a key has the new entry or the one that it had. -/
theorem slot?_of_insert {cache : Lru κ ν} {key other : κ} {value : ν} {expires : Option Timestamp}
    {entry : Entry ν} (found : (cache.insert key value expires).2.slot? other = some entry) :
    cache.slot? other = some entry ∨
      other = key ∧ entry.value = value ∧ entry.expires = expires := by
  unfold insert at found
  split at found
  · exact Or.inl found
  · simp only [slot?, Table.get?_put] at found
    split at found
    · next same =>
      cases found
      exact Or.inr ⟨same.symm, rfl, rfl⟩
    · have kept := get?_of_makeRoom found
      rw [Table.get?_erase] at kept
      split at kept
      · cases kept
      · exact Or.inl kept

/-- After an update a key has what it had, or the new value if it had one before. -/
theorem slot?_of_update {cache : Lru κ ν} {key other : κ} {value : ν} {entry : Entry ν}
    (found : (cache.update key value).2.slot? other = some entry) :
    cache.slot? other = some entry ∨
      other = key ∧ entry.value = value ∧ cache.slot? key ≠ none := by
  unfold update at found
  split at found
  · exact Or.inl found
  · next old here =>
    simp only [slot?, Table.get?_put] at found
    split at found
    · next same =>
      cases found
      refine Or.inr ⟨same.symm, rfl, ?_⟩
      rw [slot?, here]
      exact Option.some_ne_none old
    · exact Or.inl found

/-- An update leaves every expiry as it was. -/
theorem expires_of_update {cache : Lru κ ν} {key other : κ} {value : ν} {entry : Entry ν}
    (found : (cache.update key value).2.slot? other = some entry) :
    ∃ old, cache.slot? other = some old ∧ old.expires = entry.expires := by
  unfold update at found
  split at found
  · exact ⟨entry, found, rfl⟩
  · next old here =>
    simp only [slot?, Table.get?_put] at found
    split at found
    · next same =>
      cases found
      exact ⟨old, same ▸ here, rfl⟩
    · exact ⟨entry, found, rfl⟩

/-- An entry that is not stale is found. -/
theorem get_of_slot? {cache : Lru κ ν} {key : κ} {now : Timestamp} {entry : Entry ν}
    (here : cache.slot? key = some entry) (live : entry.isStale now = false) :
    (cache.get key now).1 = some entry.value := by
  unfold get
  rw [show cache.entries.get? key = some entry from here]
  simp only [live, Bool.false_eq_true, if_false]

/-- A lookup of an entry that is not stale changes no value. -/
theorem value_get_of_live {cache : Lru κ ν} {key : κ} {now : Timestamp}
    (live : ∀ entry, cache.slot? key = some entry → entry.isStale now = false) (other : κ) :
    ((cache.get key now).2.slot? other).map (·.value) = (cache.slot? other).map (·.value) := by
  unfold get
  split
  · rfl
  · next entry here =>
    simp only [live entry here, Bool.false_eq_true, if_false, slot?, Table.get?_put]
    by_cases same : key = other
    · subst same
      rw [if_pos rfl, here]
      rfl
    · rw [if_neg same]

/-- A cache with capacity holds what was just inserted. -/
theorem value_insert_self {cache : Lru κ ν} (room : cache.capacity ≠ 0) (key : κ) (value : ν)
    (expires : Option Timestamp) :
    ((cache.insert key value expires).2.slot? key).map (·.value) = some value := by
  unfold insert
  simp only [if_neg room, slot?, Table.get?_put_self, Option.map_some]

/-- A cache without capacity stores nothing. -/
theorem insert_of_full {cache : Lru κ ν} (full : cache.capacity = 0) (key : κ) (value : ν)
    (expires : Option Timestamp) : (cache.insert key value expires).2 = cache := by
  unfold insert
  rw [if_pos full]

/-- A key that is present has the value with which it was just updated. -/
theorem value_update_self {cache : Lru κ ν} {key : κ} (present : cache.slot? key ≠ none)
    (value : ν) : ((cache.update key value).2.slot? key).map (·.value) = some value := by
  obtain ⟨entry, here⟩ := Option.ne_none_iff_exists'.mp present
  unfold update
  rw [show cache.entries.get? key = some entry from here]
  simp only [slot?, Table.get?_put_self, Option.map_some]

/-- An update of a key that is not present changes nothing. -/
theorem update_of_absent {cache : Lru κ ν} {key : κ} (absent : cache.slot? key = none)
    (value : ν) : (cache.update key value).2 = cache := by
  unfold update
  rw [show cache.entries.get? key = none from absent]

@[simp] theorem get_capacity (cache : Lru κ ν) (key : κ) (now : Timestamp) :
    (cache.get key now).2.capacity = cache.capacity := by
  unfold get
  split
  · rfl
  · split <;> rfl

@[simp] theorem insert_capacity (cache : Lru κ ν) (key : κ) (value : ν)
    (expires : Option Timestamp) :
    (cache.insert key value expires).2.capacity = cache.capacity := by
  unfold insert
  split <;> rfl

@[simp] theorem update_capacity (cache : Lru κ ν) (key : κ) (value : ν) :
    (cache.update key value).2.capacity = cache.capacity := by
  unfold update
  split <;> rfl

theorem slot?_of_removeStamped {cache : Lru κ ν} {key other : κ} {stamp : UInt64}
    {entry : Entry ν} (found : (cache.removeStamped key stamp).2.slot? other = some entry) :
    cache.slot? other = some entry := by
  unfold removeStamped at found
  split at found
  · exact found
  · split at found
    · simp only [slot?, Table.get?_erase] at found
      split at found
      · cases found
      · exact found
    · exact found

end Lru

namespace RouteCache

variable {ν : Type}

/-- The entry of a destination, expired or not. -/
def slot? (cache : RouteCache ν) (dst : Node) : Option (Lru.Entry ν) := cache.entries.slot? dst

/-! ### The timers of other entries -/

@[simp] theorem cancelTimer_entries (cache : RouteCache ν) (dst : Node) :
    (cache.cancelTimer dst).entries = cache.entries := by
  unfold cancelTimer
  split <;> rfl

@[simp] theorem cancelTimer_generation (cache : RouteCache ν) (dst : Node) :
    (cache.cancelTimer dst).generation = cache.generation := by
  unfold cancelTimer
  split <;> rfl

@[simp] theorem dropEvicted_entries (cache : RouteCache ν) (evicted : List Node) :
    (cache.dropEvicted evicted).entries = cache.entries := by
  induction evicted generalizing cache with
  | nil => rfl
  | cons dst rest hypothesis =>
    unfold dropEvicted
    rw [hypothesis]
    exact cancelTimer_entries cache dst

@[simp] theorem dropEvicted_generation (cache : RouteCache ν) (evicted : List Node) :
    (cache.dropEvicted evicted).generation = cache.generation := by
  induction evicted generalizing cache with
  | nil => rfl
  | cons dst rest hypothesis =>
    unfold dropEvicted
    rw [hypothesis]
    exact cancelTimer_generation cache dst

/-! ### The generation -/

@[simp] theorem insert_generation (cache : RouteCache ν) (dst : Node) (value : ν)
    (expiry : Timestamp) (generation : UInt64) (now : Timestamp) :
    (cache.insert dst value expiry generation now).2.generation = cache.generation := by
  unfold insert
  split
  · rfl
  · split
    · rfl
    · simp

@[simp] theorem fire_generation (cache : RouteCache ν) (timer : TimerId) :
    (cache.fire timer).generation = cache.generation := by
  unfold fire
  split
  · rfl
  · simp only
    split <;> rfl

@[simp] theorem purge_generation (cache : RouteCache ν) :
    cache.purge.generation = cache.generation + 1 := rfl

/-! ### The entries -/

/-- Routes that are found belong to an entry whose deadline has not come. -/
theorem get_eq_some {cache : RouteCache ν} {dst : Node} {now : Timestamp} {value : ν}
    (found : (cache.get dst now).1 = some value) :
    ∃ entry, cache.slot? dst = some entry ∧ entry.value = value ∧ entry.isStale now = false :=
  Lru.get_eq_some found

theorem get_of_slot?_none {cache : RouteCache ν} {dst : Node} (none : cache.slot? dst = none)
    (now : Timestamp) : (cache.get dst now).1 = Option.none := by
  rw [get, Lru.get_of_slot?_none none]

theorem get_eq_none {cache : RouteCache ν} {dst : Node} {now : Timestamp}
    (missed : (cache.get dst now).1 = none) :
    (∀ entry, cache.slot? dst = some entry → entry.isStale now = true) ∧
      ∀ other, (cache.get dst now).2.slot? other =
        if dst = other then none else cache.slot? other :=
  Lru.get_eq_none missed

theorem slot?_of_get {cache : RouteCache ν} {dst other : Node} {now : Timestamp}
    {entry : Lru.Entry ν} (found : (cache.get dst now).2.slot? other = some entry) :
    ∃ old, cache.slot? other = some old ∧ entry = { old with lastUse := entry.lastUse } :=
  Lru.slot?_of_get found

/-- **A new entry is for the destination that was stored and ends when its routes expire**, and the
generation that was handed over is the present one. -/
theorem slot?_of_insert {cache : RouteCache ν} {dst other : Node} {value : ν} {expiry : Timestamp}
    {generation : UInt64} {now : Timestamp} {entry : Lru.Entry ν}
    (found : (cache.insert dst value expiry generation now).2.slot? other = some entry) :
    cache.slot? other = some entry ∨
      other = dst ∧ entry.value = value ∧ entry.expires = some expiry ∧
        cache.generation = generation := by
  unfold insert at found
  split at found
  · exact Or.inl found
  · split at found
    · exact Or.inl found
    · next current =>
      simp only [slot?, dropEvicted_entries, cancelTimer_entries] at found
      rcases Lru.slot?_of_insert found with kept | ⟨same, valued, expiring⟩
      · exact Or.inl kept
      · exact Or.inr ⟨same, valued, expiring, Decidable.not_not.mp current⟩

theorem slot?_of_fire {cache : RouteCache ν} {timer : TimerId} {dst : Node} {entry : Lru.Entry ν}
    (found : (cache.fire timer).slot? dst = some entry) : cache.slot? dst = some entry := by
  unfold fire at found
  split at found
  · exact found
  · next due _ =>
    simp only at found
    split at found
    · exact Lru.slot?_of_removeStamped found
    · exact found

theorem slot?_purge (cache : RouteCache ν) (dst : Node) : cache.purge.slot? dst = none := rfl

end RouteCache

end Wayfinder
