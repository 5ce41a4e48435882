/-
**The cache of routes.**

Routes are kept by destination until the first candidate behind them expires, until another
destination needs the room, or until a purge. Each entry has a timer that takes it out when it
expires; the timer knows its entry by the stamp of the insertion. A purge also begins a new
generation: routes that were looked for in an earlier one are no longer stored.

* `RouteCache.get`: a counted lookup;
* `RouteCache.insert`: a new entry with its timer, unless it is expired or superseded;
* `RouteCache.fire`: a timer that has come due;
* `RouteCache.purge`: a new generation.
-/

import Wayfinder.Lru
import Wayfinder.Node
import Wayfinder.Tally

namespace Wayfinder

/-- The number of a timer. -/
abbrev TimerId := Nat

/-- A timer that takes an entry out. -/
structure RouteCache.Timer where
  dst : Node
  stamp : UInt64
  deadline : Timestamp
deriving DecidableEq, Repr

/-- What became of an insertion. -/
inductive RouteCache.Outcome where
  | stored (timer : TimerId)
  | expired
  | superseded
deriving DecidableEq, Repr

/-- A cache by destination. -/
structure RouteCache (ν : Type) where
  entries : Lru Node ν
  /-- The number of purges, counted in 64 bits. -/
  generation : UInt64 := 0
  /-- The timer last started for each destination. -/
  handles : Table Node TimerId := {}
  /-- The timers that have neither fired nor been called off. -/
  timers : Table TimerId RouteCache.Timer := {}
  nextTimer : TimerId := 0
  tally : Tally := {}
deriving Repr

namespace RouteCache

variable {ν : Type}

/-- An empty cache. -/
def ofCapacity (capacity : Nat) : RouteCache ν := { entries := { capacity } }

/-- The number of entries, expired ones that are still stored included. -/
def size (cache : RouteCache ν) : Nat := cache.entries.size

/-- Looks a destination up and counts the lookup. An expired entry is not found, even if its timer
has not fired yet. -/
def get (cache : RouteCache ν) (dst : Node) (now : Timestamp) : Option ν × RouteCache ν :=
  let (found, entries) := cache.entries.get dst now
  (found, { cache with entries, tally := cache.tally.recordLookup found.isSome })

/-- Calls off the timer of a destination. -/
def cancelTimer (cache : RouteCache ν) (dst : Node) : RouteCache ν :=
  match cache.handles.get? dst with
  | some timer =>
    { cache with handles := cache.handles.erase dst, timers := cache.timers.erase timer }
  | none => cache

/-- Calls off the timers of destinations that were given up, and counts them. -/
def dropEvicted (cache : RouteCache ν) : List Node → RouteCache ν
  | [] => cache
  | dst :: rest =>
    let called := cache.cancelTimer dst
    dropEvicted { called with tally := called.tally.recordEviction } rest

/-- Stores what was found for a destination until it expires, provided that it has not expired yet
and that no purge came after the generation was read. -/
def insert (cache : RouteCache ν) (dst : Node) (value : ν) (expiry : Timestamp)
    (generation : UInt64) (now : Timestamp) : Outcome × RouteCache ν :=
  if expiry ≤ now then (.expired, cache)
  else if cache.generation ≠ generation then (.superseded, cache)
  else
    let ((stamp, evicted), entries) := cache.entries.insert dst value (some expiry)
    let called := ({ cache with entries }.cancelTimer dst).dropEvicted evicted
    let timer := called.nextTimer
    (.stored timer,
      { called with
        handles := called.handles.put dst timer
        timers := called.timers.put timer ⟨dst, stamp, expiry⟩
        nextTimer := timer + 1 })

/-- Lets a timer take its entry out, if the destination still holds that very insertion. A timer
that has been called off does nothing. -/
def fire (cache : RouteCache ν) (timer : TimerId) : RouteCache ν :=
  match cache.timers.get? timer with
  | none => cache
  | some due =>
    let (removed, entries) := cache.entries.removeStamped due.dst due.stamp
    let timers := cache.timers.erase timer
    if removed then
      { cache with
        entries, timers
        handles := cache.handles.erase due.dst
        tally := cache.tally.recordEviction }
    else { cache with timers }

/-- Takes all entries out, calls off all timers that are known by destination and begins a new
generation. -/
def purge (cache : RouteCache ν) : RouteCache ν :=
  { cache with
    generation := cache.generation + 1
    entries := cache.entries.purge
    handles := .empty
    timers := cache.timers.eraseWhere fun timer _ =>
      cache.handles.entries.any fun handle => decide (handle.2 = timer) }

end RouteCache

end Wayfinder
