/-
**Bounded caches.**

A cache holds at most `capacity` values. When a new key meets a full cache, the key whose last use
lies farthest back is given up. Uses are told apart by a clock that counts them; reading the
current value without a use is possible, too. An entry may have an instant from which on it is
stale: a lookup then drops it.

Each insertion has a stamp of its own, so that a removal planned for one insertion does not hit a
later one of the same key.

* `Lru.get`, `Lru.peek`: lookups with and without a use;
* `Lru.insert`: a new value, with the keys given up for it;
* `Lru.update`, `Lru.remove`, `Lru.removeStamped`, `Lru.purge`: the other operations.
-/

import Wayfinder.Table
import Wayfinder.Time.Duration

namespace Wayfinder

/-- A value in a cache. -/
structure Lru.Entry (ν : Type) where
  value : ν
  /-- The instant from which on the entry is stale. -/
  expires : Option Timestamp
  /-- The number of the insertion. -/
  stamp : UInt64
  /-- The reading of the clock at the last use. -/
  lastUse : UInt64
deriving Repr

/-- A cache that gives up the least recently used key when it is full. -/
structure Lru (κ ν : Type) where
  capacity : Nat
  entries : Table κ (Lru.Entry ν) := {}
  /-- The number of uses so far. It stays at its greatest value once it has reached it. -/
  clock : UInt64 := 0
  /-- The stamp of the last insertion. -/
  lastStamp : UInt64 := 0
deriving Repr

namespace Lru

variable {κ ν : Type} [DecidableEq κ]

/-- Whether an entry is stale. -/
def Entry.isStale (entry : Entry ν) (now : Timestamp) : Bool :=
  match entry.expires with
  | some deadline => decide (deadline ≤ now)
  | none => false

/-- The number of entries, stale ones included. -/
def size (cache : Lru κ ν) : Nat := cache.entries.size

/-- The keys, stale ones included. -/
def keys (cache : Lru κ ν) : List κ := cache.entries.keys

/-- The next reading of the clock. -/
def nextUse (cache : Lru κ ν) : UInt64 :=
  if cache.clock = 0xFFFFFFFFFFFFFFFF then cache.clock else cache.clock + 1

/-- Looks a key up and counts that as a use. A stale entry is dropped and not found. -/
def get (cache : Lru κ ν) (key : κ) (now : Timestamp) : Option ν × Lru κ ν :=
  match cache.entries.get? key with
  | none => (none, cache)
  | some entry =>
    if entry.isStale now then
      (none, { cache with entries := cache.entries.erase key })
    else
      let used : Entry ν := { entry with lastUse := cache.nextUse }
      (some entry.value,
        { cache with entries := cache.entries.put key used, clock := cache.nextUse })

/-- Looks a key up without a use. -/
def peek (cache : Lru κ ν) (key : κ) (now : Timestamp) : Option ν :=
  ((cache.entries.get? key).filter fun entry => !entry.isStale now).map (·.value)

/-- The entry whose last use lies farthest back, the first one of several. -/
def oldest? : List (κ × Entry ν) → Option (κ × Entry ν)
  | [] => none
  | entry :: rest =>
    match oldest? rest with
    | none => some entry
    | some other => if other.2.lastUse < entry.2.lastUse then some other else some entry

/-- Gives up keys until there is room for one more. Each round takes at least one entry out, so that
as many rounds as entries are enough. -/
def makeRoom (capacity : Nat) : Nat → Table κ (Entry ν) → List κ × Table κ (Entry ν)
  | 0, entries => ([], entries)
  | rounds + 1, entries =>
    if entries.size < capacity then ([], entries)
    else
      match oldest? entries.entries with
      | none => ([], entries)
      | some (key, _) =>
        let (others, left) := makeRoom capacity rounds (entries.erase key)
        (key :: others, left)

/-- Gives a key a value. Answers with the stamp of the insertion and the keys that were given up. A
cache without capacity stores nothing and has no stamps. -/
def insert (cache : Lru κ ν) (key : κ) (value : ν) (expires : Option Timestamp) :
    (UInt64 × List κ) × Lru κ ν :=
  if cache.capacity = 0 then ((0, []), cache)
  else
    let others := cache.entries.erase key
    let (evicted, left) := makeRoom cache.capacity others.size others
    let stamp := cache.lastStamp + 1
    let entry : Entry ν := ⟨value, expires, stamp, cache.nextUse⟩
    ((stamp, evicted),
      { cache with
        entries := left.put key entry
        clock := cache.nextUse
        lastStamp := stamp })

/-- Gives a key that is present another value; its last use and its end stay. Tells whether the key
was present. -/
def update (cache : Lru κ ν) (key : κ) (value : ν) : Bool × Lru κ ν :=
  match cache.entries.get? key with
  | none => (false, cache)
  | some entry => (true, { cache with entries := cache.entries.put key { entry with value } })

/-- Takes a key out. -/
def remove (cache : Lru κ ν) (key : κ) : Option ν × Lru κ ν :=
  ((cache.entries.get? key).map (·.value), { cache with entries := cache.entries.erase key })

/-- Takes a key out if it still holds the insertion with the given stamp, and tells whether. -/
def removeStamped (cache : Lru κ ν) (key : κ) (stamp : UInt64) : Bool × Lru κ ν :=
  match cache.entries.get? key with
  | none => (false, cache)
  | some entry =>
    if entry.stamp = stamp then (true, { cache with entries := cache.entries.erase key })
    else (false, cache)

/-- Takes all keys out. Clock and stamps go on. -/
def purge (cache : Lru κ ν) : Lru κ ν := { cache with entries := .empty }

end Lru

end Wayfinder
