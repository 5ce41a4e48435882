/-
**How long a cache keeps an item.**

An item is given up when a new key meets a full cache in which no item was used before it. So it
stays as long as fewer other keys have been used since its own last use than the cache has room for:
all items behind it in the list of recency are of such keys.

* `Recency.Keeps`: an item is in the list, and the keys of those behind it are in a set;
* `Recency.Keeps.insert`: another insertion leaves it there, unless the set has grown too large;
* `Lru.Keeps`: the same for a cache that stands for such a list;
* `Lru.Keeps.renewed`, `.passed`, `.missed`, `.insert`, `.removeStamped`: what the operations of a
  cache leave.
-/

import Mathlib.Data.Finset.Card
import Wayfinder.Proofs.Lru.Refinement
import Wayfinder.Proofs.RouteCache.Entries

namespace Wayfinder

variable {κ ν : Type} [DecidableEq κ]

namespace Recency

/-- An item is in a list, and all that have been used after it have keys of a set. -/
def Keeps (recency : Recency κ ν) (item : Item κ ν) (newer : Finset κ) : Prop :=
  ∃ older later, recency.items = older ++ item :: later ∧ ∀ other ∈ later, other.key ∈ newer

namespace Keeps

variable {recency : Recency κ ν} {item : Item κ ν} {newer : Finset κ} {key : κ}

omit [DecidableEq κ] in
/-- The last item of a list has been used last. -/
theorem last {items : List (Item κ ν)} (whole : recency.items = items ++ [item]) :
    recency.Keeps item ∅ :=
  ⟨items, [], whole, fun _ member => absurd member List.not_mem_nil⟩

/-- When other items are taken out the item stays. -/
theorem others (keeps : recency.Keeps item newer) (differs : item.key ≠ key) :
    Keeps { recency with items := recency.others key } item newer := by
  obtain ⟨older, later, whole, bounded⟩ := keeps
  refine ⟨older.filter fun other => !decide (other.key = key),
    later.filter fun other => !decide (other.key = key), ?_, fun other member => ?_⟩
  · show recency.items.filter _ = _
    rw [whole, List.filter_append, List.filter_cons_of_pos (by simp [differs])]
  · exact bounded other (List.mem_filter.mp member).1

/-- When another item is put behind it, its key is one more that has been used. -/
theorem append (keeps : recency.Keeps item newer) (next : Item κ ν) :
    Keeps { recency with items := recency.items ++ [next] } item (newer ∪ {next.key}) := by
  obtain ⟨older, later, whole, bounded⟩ := keeps
  refine ⟨older, later ++ [next], ?_, fun other member => ?_⟩
  · show recency.items ++ [next] = _
    rw [whole, List.append_assoc, List.cons_append]
  · rcases List.mem_append.mp member with old | new
    · exact Finset.mem_union_left _ (bounded other old)
    · rw [List.mem_singleton.mp new]
      exact Finset.mem_union_right _ (Finset.mem_singleton_self _)

/-- An item of the list is the one of its key. -/
theorem find?_eq (keeps : recency.Keeps item newer)
    (distinct : (recency.items.map (·.key)).Nodup) : recency.find? item.key = some item := by
  obtain ⟨older, later, whole, _⟩ := keeps
  rw [find?, whole, List.find?_append]
  rw [whole, List.map_append, List.map_cons, List.nodup_append] at distinct
  have absent : older.find? (fun other => decide (other.key = item.key)) = none := by
    rw [List.find?_eq_none]
    intro other member same
    exact distinct.2.2 other.key (List.mem_map_of_mem member) item.key List.mem_cons_self
      (of_decide_eq_true same)
  rw [absent, Option.none_or, List.find?_cons_of_pos (by simp)]

/-- **The insertion of another key leaves the item in the list, unless so many others have been used
after it that there is no room.** -/
theorem insert (keeps : recency.Keeps item newer) (distinct : (recency.items.map (·.key)).Nodup)
    (differs : item.key ≠ key) (value : ν) (expires : Option Timestamp) :
    (recency.insert key value expires).2.Keeps item (newer ∪ {key}) ∨
      recency.capacity ≤ (newer ∪ {key}).card ∧
        (recency.insert key value expires).2.find? item.key = none := by
  unfold Recency.insert
  simp only
  split
  · obtain ⟨older, later, whole, bounded⟩ := keeps
    exact Or.inl ⟨older, later, whole, fun other member =>
      Finset.mem_union_left _ (bounded other member)⟩
  · split
    · exact Or.inl ((keeps.others differs).append _)
    · next full =>
      obtain ⟨older, later, whole, bounded⟩ := keeps
      rw [not_or, Option.not_isSome_iff_eq_none, Nat.not_lt] at full
      cases older with
      | cons first older =>
        have tail : recency.items.tail = older ++ item :: later := by rw [whole]; rfl
        have kept : Keeps { recency with items := recency.items.tail } item newer :=
          ⟨older, later, tail, bounded⟩
        exact Or.inl (kept.append _)
      | nil =>
        -- the item is the first one, and all others have been used after it
        rw [List.nil_append] at whole
        rw [whole, List.map_cons, List.nodup_cons] at distinct
        have unknown : key ∉ later.map (·.key) := by
          intro known
          obtain ⟨other, member, same⟩ := List.mem_map.mp known
          have absent := List.find?_eq_none.mp full.1 other (by
            rw [whole]
            exact List.mem_cons_of_mem _ member)
          exact absent (decide_eq_true same)
        have spread : (key :: later.map (·.key)).Nodup := List.nodup_cons.mpr ⟨unknown, distinct.2⟩
        have within : (key :: later.map (·.key)).toFinset ⊆ newer ∪ {key} := by
          intro other member
          rw [List.mem_toFinset, List.mem_cons] at member
          rcases member with rfl | member
          · exact Finset.mem_union_right _ (Finset.mem_singleton_self _)
          · obtain ⟨found, among, rfl⟩ := List.mem_map.mp member
            exact Finset.mem_union_left _ (bounded found among)
        have counted := Finset.card_le_card within
        rw [List.toFinset_card_of_nodup spread, List.length_cons, List.length_map] at counted
        refine Or.inr ⟨?_, ?_⟩
        · rw [whole, List.length_cons] at full
          exact Nat.le_trans full.2 counted
        · rw [find?, whole, List.tail_cons, List.find?_eq_none]
          intro other member same
          have equal := of_decide_eq_true same
          rcases List.mem_append.mp member with old | new
          · exact distinct.1 (equal ▸ List.mem_map_of_mem old)
          · rw [List.mem_singleton.mp new] at equal
            exact differs equal.symm

end Keeps

end Recency

namespace Lru

variable {cache : Lru κ ν}

omit [DecidableEq κ] in
theorem Mirrors.distinct {recency : Recency κ ν} {ordered : List (κ × Entry ν)}
    (mirrors : cache.Mirrors recency ordered) : (recency.items.map (·.key)).Nodup := by
  rw [mirrors.items, List.map_map]
  exact mirrors.order.distinct

/-- A lookup that finds nothing takes its key out, if it does anything. -/
theorem get_of_missed {key : κ} {now : Timestamp} (miss : (cache.get key now).1 = none) :
    (cache.get key now).2 = cache ∨
      (cache.get key now).2 = { cache with entries := cache.entries.erase key } := by
  unfold get at miss ⊢
  split at miss
  · exact Or.inl rfl
  · split at miss
    · next stale => exact Or.inr (by rw [if_pos stale])
    · cases miss

/-- A lookup that finds nothing keeps a cache and its list in step. -/
theorem Mirrors.missed {recency : Recency κ ν} {ordered : List (κ × Entry ν)}
    (mirrors : cache.Mirrors recency ordered) {key : κ} {now : Timestamp}
    (miss : (cache.get key now).1 = none) :
    ∃ recency' ordered', (cache.get key now).2.Mirrors recency' ordered' := by
  rcases get_of_missed miss with same | taken
  · rw [same]
    exact ⟨recency, ordered, mirrors⟩
  · rw [taken]
    exact ⟨_, _, mirrors.erase key⟩

/-- An item is in a cache, and all that have been used after it have keys of a set. -/
def Keeps (cache : Lru κ ν) (item : Recency.Item κ ν) (newer : Finset κ) : Prop :=
  ∃ recency ordered, cache.Mirrors recency ordered ∧ recency.Keeps item newer

namespace Keeps

variable {item : Recency.Item κ ν} {newer : Finset κ} {key : κ}

/-- The entry of an item that is kept. -/
theorem slot? (keeps : cache.Keeps item newer) :
    ∃ entry, cache.slot? item.key = some entry ∧ Recency.Item.ofEntry (item.key, entry) = item := by
  obtain ⟨recency, ordered, mirrors, kept⟩ := keeps
  have found := mirrors.find?_eq item.key
  rw [kept.find?_eq mirrors.distinct] at found
  obtain ⟨entry, here, same⟩ := Option.map_eq_some_iff.mp found.symm
  exact ⟨entry, here, same⟩

/-- **A lookup of a live item finds it, and it has been used last then.** -/
theorem renewed (keeps : cache.Keeps item newer) (early : cache.clock.toNat + 1 < UInt64.size)
    {now : Timestamp} (live : item.isStale now = false) :
    (cache.get item.key now).1 = some item.value ∧ (cache.get item.key now).2.Keeps item ∅ := by
  obtain ⟨recency, ordered, mirrors, kept⟩ := keeps
  obtain ⟨found, ordered', mirrors'⟩ := mirrors.get early item.key now
  have looked : recency.get item.key now =
      (some item.value, { recency with items := recency.others item.key ++ [item] }) := by
    rw [Recency.get, kept.find?_eq mirrors.distinct]
    simp only [live, Bool.false_eq_true, if_false]
  rw [looked] at found mirrors'
  exact ⟨found, _, ordered', mirrors', .last rfl⟩

/-- **A lookup that finds another key leaves an item where it is**, and that key has been used after
it. -/
theorem passed (keeps : cache.Keeps item newer) (early : cache.clock.toNat + 1 < UInt64.size)
    (differs : item.key ≠ key) {now : Timestamp} {value : ν}
    (hit : (cache.get key now).1 = some value) :
    (cache.get key now).2.Keeps item (newer ∪ {key}) := by
  obtain ⟨recency, ordered, mirrors, kept⟩ := keeps
  obtain ⟨found, ordered', mirrors'⟩ := mirrors.get early key now
  refine ⟨_, ordered', mirrors', ?_⟩
  rw [hit] at found
  unfold Recency.get at found ⊢
  split at found
  · cases found
  · next other here =>
    split at found
    · cases found
    · next live =>
      have same : other.key = key := by
        have this := List.find?_some here
        exact of_decide_eq_true this
      rw [if_neg live]
      exact same ▸ (kept.others differs).append other

/-- A lookup that finds nothing leaves the items of other keys where they are. -/
theorem missed (keeps : cache.Keeps item newer) (differs : item.key ≠ key) {now : Timestamp}
    (miss : (cache.get key now).1 = none) : (cache.get key now).2.Keeps item newer := by
  obtain ⟨recency, ordered, mirrors, kept⟩ := keeps
  rcases get_of_missed miss with same | taken
  · rw [same]
    exact ⟨recency, ordered, mirrors, kept⟩
  · rw [taken]
    exact ⟨_, _, mirrors.erase key, kept.others differs⟩

/-- **The insertion of another key leaves an item where it is, unless so many others have been used
after it that there is no room.** -/
theorem insert (keeps : cache.Keeps item newer) (early : cache.clock.toNat + 1 < UInt64.size)
    (few : cache.lastStamp.toNat + 1 < UInt64.size) (differs : item.key ≠ key) (value : ν)
    (expires : Option Timestamp) :
    (cache.insert key value expires).2.Keeps item (newer ∪ {key}) ∨
      cache.capacity ≤ (newer ∪ {key}).card ∧
        (cache.insert key value expires).2.slot? item.key = none := by
  obtain ⟨recency, ordered, mirrors, kept⟩ := keeps
  obtain ⟨_, _, ordered', mirrors'⟩ := mirrors.insert early few key value expires
  rcases kept.insert mirrors.distinct differs value expires with stays | ⟨crowded, gone⟩
  · exact Or.inl ⟨_, ordered', mirrors', stays⟩
  · rw [mirrors'.find?_eq] at gone
    exact Or.inr ⟨mirrors.capacity ▸ crowded, Option.map_eq_none_iff.mp gone⟩

/-- An insertion that is not that of an item is taken out without it. -/
theorem removeStamped (keeps : cache.Keeps item newer) {stamp : UInt64}
    (other : item.key ≠ key ∨ item.stamp ≠ stamp.toNat) :
    (cache.removeStamped key stamp).2.Keeps item newer := by
  obtain ⟨recency, ordered, mirrors, kept⟩ := keeps
  obtain ⟨_, ordered', mirrors'⟩ := mirrors.removeStamped key stamp
  refine ⟨_, ordered', mirrors', ?_⟩
  unfold Recency.removeStamped
  split
  · next hit =>
    by_cases differs : item.key = key
    · rw [← differs, kept.find?_eq mirrors.distinct, Option.any_some] at hit
      exact absurd (of_decide_eq_true hit) (other.resolve_left (not_not_intro differs))
    · exact kept.others differs
  · exact kept

end Keeps

/-- **What was just inserted is kept, and nothing has been used after it.** -/
theorem Mirrors.keeps_insert {recency : Recency κ ν} {ordered : List (κ × Entry ν)}
    (mirrors : cache.Mirrors recency ordered) (early : cache.clock.toNat + 1 < UInt64.size)
    (few : cache.lastStamp.toNat + 1 < UInt64.size) (room : cache.capacity ≠ 0) (key : κ)
    (value : ν) (expires : Option Timestamp) :
    (cache.insert key value expires).2.Keeps ⟨key, value, expires, recency.stored + 1⟩ ∅ := by
  obtain ⟨_, _, ordered', mirrors'⟩ := mirrors.insert early few key value expires
  refine ⟨_, ordered', mirrors', ?_⟩
  unfold Recency.insert
  simp only
  rw [if_neg (mirrors.capacity ▸ room)]
  split
  · exact .last rfl
  · exact .last rfl

end Lru

end Wayfinder
