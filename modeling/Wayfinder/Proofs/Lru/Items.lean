/-
**What becomes of the items of a cache.**

An operation either leaves an item as it is, its last use apart, or the item is gone, or it is the one
that was just inserted. For each operation it is known which of the three: a look-up takes out the
stale item that it meets, an insertion those that it gives up, a removal by stamp the insertion that
has the stamp.

* `Table.distinct_put`, `Table.distinct_erase`: no key is repeated;
* `Lru.get?_makeRoom`, `Lru.makeRoom_listed`: the keys that are given up, each once;
* `Lru.item?`: what a cache holds for a key;
* `Lru.item?_of_found`, `.item?_of_missed`, `.item?_insert`, `.item?_removeStamped`: what becomes of
  it.
-/

import Wayfinder.Proofs.Lru.Refinement
import Wayfinder.Proofs.RouteCache.Entries

namespace Wayfinder

/-! ### Tables without repeated keys -/

namespace Table

variable {κ ν : Type}

theorem mem_keys {table : Table κ ν} {key : κ} :
    key ∈ table.keys ↔ ∃ value, (key, value) ∈ table.entries := by
  unfold keys
  simp

variable [DecidableEq κ]

/-- A key is listed if and only if it has a value. -/
theorem mem_keys_iff {table : Table κ ν} {key : κ} :
    key ∈ table.keys ↔ table.get? key ≠ none := by
  constructor
  · exact fun listed none => absent_of_find? none listed
  · intro present
    obtain ⟨value, found⟩ := Option.ne_none_iff_exists'.mp present
    exact mem_keys.mpr ⟨value, mem_entries_of_get? found⟩

theorem keys_place (key : κ) (value : ν) (entries : List (κ × ν)) :
    (place key value entries).map (·.1) =
      if key ∈ entries.map (·.1) then entries.map (·.1) else entries.map (·.1) ++ [key] := by
  induction entries with
  | nil => rfl
  | cons entry rest hypothesis =>
    obtain ⟨other, old⟩ := entry
    by_cases same : other = key
    · subst same
      rw [place, if_pos rfl, List.map_cons, List.map_cons, if_pos List.mem_cons_self]
    · rw [place, if_neg same, List.map_cons, hypothesis, List.map_cons]
      by_cases later : key ∈ rest.map (·.1)
      · rw [if_pos later, if_pos (List.mem_cons_of_mem _ later)]
      · rw [if_neg later, if_neg, List.cons_append]
        rw [List.mem_cons, not_or]
        exact ⟨Ne.symm same, later⟩

/-- A key that is given a value is listed once. -/
theorem distinct_put {table : Table κ ν} (distinct : table.keys.Nodup) (key : κ) (value : ν) :
    (table.put key value).keys.Nodup := by
  show ((place key value table.entries).map (·.1)).Nodup
  rw [keys_place]
  split
  · exact distinct
  · next new =>
    refine List.nodup_append.mpr ⟨distinct, List.pairwise_singleton _ _, ?_⟩
    intro other old last among same
    rw [List.mem_singleton.mp among] at same
    exact new (same ▸ old)

theorem distinct_erase {table : Table κ ν} (distinct : table.keys.Nodup) (key : κ) :
    (table.erase key).keys.Nodup :=
  distinct.sublist (List.filter_sublist.map _)

end Table

namespace Lru

variable {κ ν : Type} [DecidableEq κ]

/-! ### Keys that are given up -/

section MakeRoom

variable {capacity rounds : Nat} {entries : Table κ (Entry ν)} {key : κ}

/-- **A key that is given up is gone, and the others keep their entries.** -/
theorem get?_makeRoom (capacity rounds : Nat) (entries : Table κ (Entry ν)) (key : κ) :
    (makeRoom capacity rounds entries).2.get? key =
      if key ∈ (makeRoom capacity rounds entries).1 then none else entries.get? key := by
  induction rounds generalizing entries with
  | zero => rfl
  | succ rounds hypothesis =>
    unfold makeRoom
    split
    · rfl
    · split
      · rfl
      · next victim old _ =>
        simp only [hypothesis, Table.get?_erase, List.mem_cons]
        by_cases same : victim = key
        · subst same
          simp
        · simp [same, Ne.symm same]

/-- A key that is given up was there. -/
theorem get?_of_mem_makeRoom (given : key ∈ (makeRoom capacity rounds entries).1) :
    entries.get? key ≠ none := by
  induction rounds generalizing entries with
  | zero => cases given
  | succ rounds hypothesis =>
    unfold makeRoom at given
    split at given
    · cases given
    · split at given
      · cases given
      · next victim old found =>
        rcases List.mem_cons.mp given with rfl | later
        · have member := (oldest?_eq_some found).1
          exact Table.mem_keys_iff.mp (Table.mem_keys.mpr ⟨_, member⟩)
        · have left := hypothesis later
          rw [Table.get?_erase] at left
          split at left
          · exact absurd rfl left
          · exact left

/-- A key is given up once. -/
theorem makeRoom_listed (capacity rounds : Nat) (entries : Table κ (Entry ν)) :
    (makeRoom capacity rounds entries).1.Nodup := by
  induction rounds generalizing entries with
  | zero => exact List.nodup_nil
  | succ rounds hypothesis =>
    unfold makeRoom
    split
    · exact List.nodup_nil
    · split
      · exact List.nodup_nil
      · next victim old found =>
        refine List.nodup_cons.mpr ⟨fun again => ?_, hypothesis _⟩
        have left := get?_of_mem_makeRoom again
        exact left (Table.get?_erase_self ..)

theorem distinct_makeRoom (distinct : entries.keys.Nodup) :
    (makeRoom capacity rounds entries).2.keys.Nodup := by
  induction rounds generalizing entries with
  | zero => exact distinct
  | succ rounds hypothesis =>
    unfold makeRoom
    split
    · exact distinct
    · split
      · exact distinct
      · exact hypothesis (Table.distinct_erase distinct _)

end MakeRoom

variable {cache : Lru κ ν} {key other : κ} {value : ν} {expires : Option Timestamp}

/-- **What an insertion leaves**: the new entry, and those that were not given up. -/
theorem slot?_insert (room : cache.capacity ≠ 0) (key other : κ) (value : ν)
    (expires : Option Timestamp) :
    (cache.insert key value expires).2.slot? other =
      if key = other then some ⟨value, expires, cache.lastStamp + 1, cache.nextUse⟩
      else if other ∈ (cache.insert key value expires).1.2 then none
      else cache.slot? other := by
  rw [insert_eq room rfl]
  simp only [slot?, Table.get?_put, get?_makeRoom]
  by_cases same : key = other
  · rw [if_pos same, if_pos same]
  · rw [if_neg same, if_neg same, Table.get?_erase, if_neg same]

/-- An insertion gives up other keys, which were there. -/
theorem slot?_of_mem_evicted (evicted : other ∈ (cache.insert key value expires).1.2) :
    key ≠ other ∧ cache.slot? other ≠ none := by
  by_cases room : cache.capacity = 0
  · rw [insert, if_pos room] at evicted
    cases evicted
  · rw [insert_eq room rfl] at evicted
    have present := get?_of_mem_makeRoom evicted
    rw [Table.get?_erase] at present
    split at present
    · exact absurd rfl present
    · next differs => exact ⟨differs, present⟩

theorem evicted_nodup : (cache.insert key value expires).1.2.Nodup := by
  by_cases room : cache.capacity = 0
  · rw [insert, if_pos room]
    exact List.nodup_nil
  · rw [insert_eq room rfl]
    exact makeRoom_listed ..

/-! ### No key is repeated -/

theorem distinct_get (distinct : cache.keys.Nodup) (key : κ) (now : Timestamp) :
    (cache.get key now).2.keys.Nodup := by
  unfold get
  split
  · exact distinct
  · split
    · exact Table.distinct_erase distinct key
    · exact Table.distinct_put distinct key _

theorem distinct_insert (distinct : cache.keys.Nodup) (key : κ) (value : ν)
    (expires : Option Timestamp) : (cache.insert key value expires).2.keys.Nodup := by
  unfold insert
  split
  · exact distinct
  · exact Table.distinct_put (distinct_makeRoom (Table.distinct_erase distinct key)) key _

theorem distinct_removeStamped (distinct : cache.keys.Nodup) (key : κ) (stamp : UInt64) :
    (cache.removeStamped key stamp).2.keys.Nodup := by
  unfold removeStamped
  split
  · exact distinct
  · split
    · exact Table.distinct_erase distinct key
    · exact distinct

/-! ### Items -/

/-- What a cache holds for a key, the last use apart. -/
def item? (cache : Lru κ ν) (key : κ) : Option (Recency.Item κ ν) :=
  (cache.slot? key).map fun entry => .ofEntry (key, entry)

theorem item?_eq_none : cache.item? key = none ↔ cache.slot? key = none := Option.map_eq_none_iff

theorem item?_of_slot? {entry : Entry ν} (here : cache.slot? key = some entry) :
    cache.item? key = some (.ofEntry (key, entry)) := by
  rw [item?, here, Option.map_some]

/-- A look-up that finds something leaves all items as they are. -/
theorem item?_of_found {now : Timestamp} (found : (cache.get key now).1 = some value) (other : κ) :
    (cache.get key now).2.item? other = cache.item? other := by
  unfold get at found ⊢
  split at found
  · cases found
  · next entry here =>
    split at found
    · cases found
    · next live =>
      simp only [live, Bool.false_eq_true, if_false, item?, slot?, Table.get?_put]
      by_cases same : key = other
      · subst same
        rw [if_pos rfl, here]
        rfl
      · rw [if_neg same]

/-- After a look-up that finds nothing there is nothing for the key. -/
theorem item?_of_missed {now : Timestamp} (missed : (cache.get key now).1 = none) (other : κ) :
    (cache.get key now).2.item? other = if key = other then none else cache.item? other := by
  rw [item?, (get_eq_none missed).2 other]
  split
  · rfl
  · rfl

/-- **What an insertion leaves**: the new item, and those that were not given up. -/
theorem item?_insert (room : cache.capacity ≠ 0) (key other : κ) (value : ν)
    (expires : Option Timestamp) :
    (cache.insert key value expires).2.item? other =
      if key = other then some ⟨key, value, expires, (cache.lastStamp + 1).toNat⟩
      else if other ∈ (cache.insert key value expires).1.2 then none
      else cache.item? other := by
  rw [item?, slot?_insert room]
  by_cases same : key = other
  · subst same
    rw [if_pos rfl, if_pos rfl]
    rfl
  · rw [if_neg same, if_neg same]
    split
    · rfl
    · rfl

/-- A removal by stamp takes out the insertion that has the stamp, and tells so. -/
theorem item?_removeStamped (key other : κ) (stamp : UInt64) :
    (cache.removeStamped key stamp).2.item? other =
      if (cache.removeStamped key stamp).1 = true ∧ key = other then none
      else cache.item? other := by
  unfold removeStamped
  split
  · rw [if_neg fun taken => Bool.noConfusion taken.1]
  · split
    · simp only [item?, slot?, Table.get?_erase]
      by_cases same : key = other <;> simp [same]
    · rw [if_neg fun taken => Bool.noConfusion taken.1]

theorem removeStamped_iff {stamp : UInt64} :
    (cache.removeStamped key stamp).1 = true ↔
      ∃ item, cache.item? key = some item ∧ item.stamp = stamp.toNat := by
  unfold removeStamped item? slot?
  cases cache.entries.get? key with
  | none => simp
  | some entry =>
    simp only [Option.map_some, Option.some.injEq, exists_eq_left', Recency.Item.ofEntry,
      UInt64.toNat_inj]
    split <;> simp_all

/-- A removal by stamp that finds another insertion changes nothing. -/
theorem removeStamped_of_false {stamp : UInt64}
    (kept : (cache.removeStamped key stamp).1 = false) :
    (cache.removeStamped key stamp).2 = cache := by
  unfold removeStamped at kept ⊢
  split at kept
  · rfl
  · split at kept
    · cases kept
    · next other => rw [if_neg other]

end Lru

end Wayfinder
