/-
**Values do not matter.**

Which keys a cache holds, and which it gives up, depends on the uses of keys alone. A cache without
its values and deadlines goes through the same changes; and a value that is replaced in its place
does not show at all.

* `Table.mapValues`: a table with other values;
* `Lru.bare`: a cache without values and deadlines;
* `Lru.bare_insert`, `Lru.bare_get`, `Lru.bare_update`: the operations do not look at values.
-/

import Wayfinder.Proofs.RouteCache.Entries

namespace Wayfinder

/-! ### Tables with other values -/

namespace Table

variable {κ ν μ : Type}

/-- The values of a table, each put through a function. -/
def mapValues (change : ν → μ) (table : Table κ ν) : Table κ μ :=
  ⟨table.entries.map fun entry => (entry.1, change entry.2)⟩

theorem keys_mapValues (change : ν → μ) (table : Table κ ν) :
    (table.mapValues change).keys = table.keys := by
  simp only [keys, mapValues, List.map_map]
  rfl

theorem size_mapValues (change : ν → μ) (table : Table κ ν) :
    (table.mapValues change).size = table.size := List.length_map _

variable [DecidableEq κ]

theorem get?_mapValues (change : ν → μ) (table : Table κ ν) (key : κ) :
    (table.mapValues change).get? key = (table.get? key).map change := by
  obtain ⟨entries⟩ := table
  show find? key (entries.map _) = (find? key entries).map change
  induction entries with
  | nil => rfl
  | cons entry rest hypothesis =>
    rw [List.map_cons, find?, find?]
    by_cases same : entry.1 = key
    · rw [if_pos same, if_pos same]
      rfl
    · rw [if_neg same, if_neg same]
      exact hypothesis

theorem put_mapValues (change : ν → μ) (table : Table κ ν) (key : κ) (value : ν) :
    (table.put key value).mapValues change = (table.mapValues change).put key (change value) := by
  obtain ⟨entries⟩ := table
  refine congrArg Table.mk ?_
  show (place key value entries).map _ = place key (change value) (entries.map _)
  induction entries with
  | nil => rfl
  | cons entry rest hypothesis =>
    rw [List.map_cons, place, place]
    by_cases same : entry.1 = key
    · rw [if_pos same, if_pos same]
      rfl
    · rw [if_neg same, if_neg same, List.map_cons, hypothesis]

theorem erase_mapValues (change : ν → μ) (table : Table κ ν) (key : κ) :
    (table.erase key).mapValues change = (table.mapValues change).erase key := by
  obtain ⟨entries⟩ := table
  refine congrArg Table.mk ?_
  show (entries.filter _).map _ = (entries.map _).filter _
  rw [List.filter_map]
  rfl

/-- A key that is given the value that it has changes nothing. -/
theorem put_of_get? {table : Table κ ν} {key : κ} {value : ν}
    (here : table.get? key = some value) : table.put key value = table := by
  obtain ⟨entries⟩ := table
  refine congrArg Table.mk ?_
  change find? key entries = some value at here
  induction entries with
  | nil => cases here
  | cons entry rest hypothesis =>
    rw [find?] at here
    rw [place]
    split at here
    · next same =>
      cases here
      rw [if_pos same, ← same]
    · next differs => rw [if_neg differs, hypothesis here]

end Table

namespace Lru

variable {κ ν : Type}

/-- An entry without its value and its deadline. -/
def Entry.bare (entry : Entry ν) : Entry Unit := ⟨(), none, entry.stamp, entry.lastUse⟩

/-- A cache without values and deadlines. -/
def bare (cache : Lru κ ν) : Lru κ Unit where
  capacity := cache.capacity
  entries := cache.entries.mapValues Entry.bare
  clock := cache.clock
  lastStamp := cache.lastStamp

theorem keys_bare (cache : Lru κ ν) : cache.bare.keys = cache.keys :=
  Table.keys_mapValues Entry.bare cache.entries

/-- The oldest entry is found by its last use. -/
theorem oldest?_bare (entries : List (κ × Entry ν)) :
    oldest? (entries.map fun entry => (entry.1, entry.2.bare)) =
      (oldest? entries).map fun entry => (entry.1, entry.2.bare) := by
  induction entries with
  | nil => rfl
  | cons entry rest hypothesis =>
    rw [List.map_cons, oldest?, oldest?, hypothesis]
    cases oldest? rest with
    | none => rfl
    | some other =>
      show (if other.2.lastUse < entry.2.lastUse then _ else _) = Option.map _ (if _ then _ else _)
      split
      · rfl
      · rfl

variable [DecidableEq κ]

/-- Which keys are given up does not depend on values. -/
theorem makeRoom_bare (capacity rounds : Nat) (entries : Table κ (Entry ν)) :
    makeRoom capacity rounds (entries.mapValues Entry.bare) =
      ((makeRoom capacity rounds entries).1,
        (makeRoom capacity rounds entries).2.mapValues Entry.bare) := by
  induction rounds generalizing entries with
  | zero => rfl
  | succ rounds hypothesis =>
    rw [makeRoom, makeRoom, Table.size_mapValues]
    split
    · rfl
    · have oldest : oldest? (entries.mapValues Entry.bare).entries =
          (oldest? entries.entries).map fun entry => (entry.1, entry.2.bare) :=
        oldest?_bare entries.entries
      rw [oldest]
      cases oldest? entries.entries with
      | none => rfl
      | some victim =>
        simp only [Option.map_some, ← Table.erase_mapValues, hypothesis]

/-- **An insertion gives up the same keys whatever the values are.** -/
theorem bare_insert (cache : Lru κ ν) (key : κ) (value : ν) (expires : Option Timestamp) :
    cache.bare.insert key () none =
      ((cache.insert key value expires).1, (cache.insert key value expires).2.bare) := by
  unfold insert
  by_cases full : cache.capacity = 0
  · rw [if_pos full, if_pos (show cache.bare.capacity = 0 from full)]
  · rw [if_neg full, if_neg (show ¬ cache.bare.capacity = 0 from full)]
    simp only [bare, ← Table.erase_mapValues, makeRoom_bare, Table.size_mapValues,
      Table.put_mapValues]
    rfl

/-- **A value that is replaced does not show.** -/
theorem bare_update (cache : Lru κ ν) (key : κ) (value : ν) :
    (cache.update key value).2.bare = cache.bare := by
  unfold update
  split
  · rfl
  · next entry here =>
    have kept : (cache.entries.put key { entry with value }).mapValues Entry.bare =
        cache.entries.mapValues Entry.bare := by
      rw [Table.put_mapValues]
      refine Table.put_of_get? ?_
      rw [Table.get?_mapValues, here]
      rfl
    simp only [bare, kept]

/-- **A look-up of a key without a deadline finds it or not whatever the values are**, at any
instant. -/
theorem bare_get {cache : Lru κ ν} {key : κ}
    (lasting : ∀ entry, cache.slot? key = some entry → entry.expires = none)
    (now now' : Timestamp) :
    (cache.bare.get key now').1.isSome = (cache.get key now).1.isSome ∧
      (cache.bare.get key now').2 = (cache.get key now).2.bare := by
  have bared : cache.bare.entries.get? key = (cache.entries.get? key).map Entry.bare :=
    Table.get?_mapValues ..
  unfold get
  rw [bared]
  cases here : cache.entries.get? key with
  | none => exact ⟨rfl, rfl⟩
  | some entry =>
    have fresh : entry.isStale now = false := by rw [Entry.isStale, lasting entry here]
    simp only [Option.map_some, fresh, Bool.false_eq_true, if_false]
    refine ⟨rfl, ?_⟩
    simp only [bare, Table.put_mapValues]
    rfl

end Lru

end Wayfinder
