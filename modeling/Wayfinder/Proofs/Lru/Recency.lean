/-
**Caches as lists of recency.**

What a cache that gives up the least recently used key is meant to do can be said without a clock:
it is the list of its entries from the least to the most recently used one. A use moves an entry to
the end of the list, a new entry goes to the end, and the entry that is given up is the first one.

* `Recency`: such a list, with its operations;
* `Lru.Operation`, `Lru.Answer`: what can be asked of a cache, and what it answers;
* `Recency.answers`: the answers to operations, one after another;
* `Recency.stamps_rising`, `Recency.answers_stamps_zero`: the stamps that are handed out.
-/

import Mathlib.Data.List.Forall2
import Wayfinder.Lru

namespace Wayfinder

/-- A value in a list of recency. -/
structure Recency.Item (κ ν : Type) where
  key : κ
  value : ν
  /-- The instant from which on the item is stale. -/
  expires : Option Timestamp
  /-- The number of the insertion. -/
  stamp : Nat

/-- The entries of a cache, the least recently used one first. -/
structure Recency (κ ν : Type) where
  capacity : Nat
  items : List (Recency.Item κ ν) := []
  /-- How many insertions have been stored. -/
  stored : Nat := 0

namespace Recency

variable {κ ν : Type} [DecidableEq κ]

/-- Whether an item is stale. -/
def Item.isStale (item : Item κ ν) (now : Timestamp) : Bool :=
  match item.expires with
  | some deadline => decide (deadline ≤ now)
  | none => false

/-- The item of a key. -/
def find? (recency : Recency κ ν) (key : κ) : Option (Item κ ν) :=
  recency.items.find? fun item => decide (item.key = key)

/-- The items of the other keys. -/
def others (recency : Recency κ ν) (key : κ) : List (Item κ ν) :=
  recency.items.filter fun item => !decide (item.key = key)

/-- A live item that is looked up moves to the end; a stale one is dropped and not found. -/
def get (recency : Recency κ ν) (key : κ) (now : Timestamp) : Option ν × Recency κ ν :=
  match recency.find? key with
  | none => (none, recency)
  | some item =>
    if item.isStale now then (none, { recency with items := recency.others key })
    else (some item.value, { recency with items := recency.others key ++ [item] })

/-- Looks a live item up and leaves it in its place. -/
def peek (recency : Recency κ ν) (key : κ) (now : Timestamp) : Option ν :=
  ((recency.find? key).filter fun item => !item.isStale now).map (·.value)

/-- A new item goes to the end. The first item is given up for it where a new key meets a full list.
Nothing is stored where there is no room for a single item. -/
def insert (recency : Recency κ ν) (key : κ) (value : ν) (expires : Option Timestamp) :
    (Nat × List κ) × Recency κ ν :=
  let stamp := recency.stored + 1
  let item : Item κ ν := ⟨key, value, expires, stamp⟩
  if recency.capacity = 0 then ((0, []), recency)
  else if (recency.find? key).isSome ∨ recency.items.length < recency.capacity then
    ((stamp, []), { recency with items := recency.others key ++ [item], stored := stamp })
  else
    ((stamp, (recency.items.head?.map (·.key)).toList),
      { recency with items := recency.items.tail ++ [item], stored := stamp })

/-- Gives a key that is present another value, in its place. -/
def update (recency : Recency κ ν) (key : κ) (value : ν) : Bool × Recency κ ν :=
  ((recency.find? key).isSome,
    { recency with
      items := recency.items.map fun item => if item.key = key then { item with value } else item })

/-- Takes a key out. -/
def remove (recency : Recency κ ν) (key : κ) : Option ν × Recency κ ν :=
  ((recency.find? key).map (·.value), { recency with items := recency.others key })

/-- Takes a key out if it holds the insertion with a stamp. -/
def removeStamped (recency : Recency κ ν) (key : κ) (stamp : Nat) : Bool × Recency κ ν :=
  if (recency.find? key).any fun item => decide (item.stamp = stamp)
  then (true, { recency with items := recency.others key })
  else (false, recency)

/-- Takes all keys out. The stamps go on. -/
def purge (recency : Recency κ ν) : Recency κ ν := { recency with items := [] }

end Recency

/-! ### Operations and answers -/

/-- What can be asked of a cache. -/
inductive Lru.Operation (κ ν : Type) where
  | insert (key : κ) (value : ν) (expires : Option Timestamp)
  | get (key : κ) (now : Timestamp)
  | peek (key : κ) (now : Timestamp)
  | update (key : κ) (value : ν)
  | remove (key : κ)
  | removeStamped (key : κ) (stamp : UInt64)
  | purge
  | size
  | keys

/-- What a cache answers. -/
inductive Lru.Answer (κ ν : Type) where
  | stored (stamp : Nat) (evicted : List κ)
  | value (found : Option ν)
  | changed (whether : Bool)
  | done
  | size (count : Nat)
  | keys (keys : List κ)

/-- Answers agree if they are the same, but for the order of keys that were asked for. -/
inductive Lru.Answer.Agrees {κ ν : Type} : Answer κ ν → Answer κ ν → Prop
  | same (answer : Answer κ ν) : Agrees answer answer
  | keys {first second : List κ} (reordered : first.Perm second) :
      Agrees (.keys first) (.keys second)

/-- The stamp of an answer to an insertion. -/
def Lru.Answer.stamp? {κ ν : Type} : Answer κ ν → Option Nat
  | .stored stamp _ => some stamp
  | _ => none

namespace Lru.Answer.Agrees

variable {κ ν : Type} {first second third : Lru.Answer κ ν}

theorem of_eq (equal : first = second) : first.Agrees second := by
  subst equal
  exact .same first

/-- Two answers that agree with a third one agree. -/
theorem meet (agrees : first.Agrees third) (agrees' : second.Agrees third) :
    first.Agrees second := by
  cases agrees with
  | same =>
    cases agrees' with
    | same => exact .same _
    | keys reordered => exact .keys reordered.symm
  | keys reordered =>
    cases agrees' with
    | same => exact .keys reordered
    | keys reordered' => exact .keys (reordered.trans reordered'.symm)

/-- Answers to insertions agree only if they are the same. -/
theorem of_stored {stamp : Nat} {evicted : List κ}
    (agrees : (Lru.Answer.stored stamp evicted : Lru.Answer κ ν).Agrees second) :
    second = .stored stamp evicted := by
  cases agrees
  rfl

theorem stamp?_eq (agrees : first.Agrees second) : first.stamp? = second.stamp? := by
  cases agrees <;> rfl

end Lru.Answer.Agrees

section Answers

variable {κ ν : Type} {first second third : List (Lru.Answer κ ν)}

/-- Answers that agree with the same answers agree. -/
theorem Lru.Answer.forall₂_meet (agree : List.Forall₂ Lru.Answer.Agrees first third)
    (agree' : List.Forall₂ Lru.Answer.Agrees second third) :
    List.Forall₂ Lru.Answer.Agrees first second := by
  induction agree generalizing second with
  | nil =>
    cases agree'
    exact .nil
  | cons head tail hypothesis =>
    cases agree' with
    | cons head' tail' => exact .cons (head.meet head') (hypothesis tail')

/-- Answers that agree have the same stamps. -/
theorem Lru.Answer.filterMap_stamp?_eq (agree : List.Forall₂ Lru.Answer.Agrees first second) :
    first.filterMap Lru.Answer.stamp? = second.filterMap Lru.Answer.stamp? := by
  induction agree with
  | nil => rfl
  | cons head tail hypothesis =>
    rw [List.filterMap_cons, List.filterMap_cons, head.stamp?_eq, hypothesis]

theorem Lru.Answer.stored_mem (agree : List.Forall₂ Lru.Answer.Agrees first second) {stamp : Nat}
    {evicted : List κ} (member : .stored stamp evicted ∈ first) :
    .stored stamp evicted ∈ second := by
  induction agree with
  | nil => cases member
  | cons head tail hypothesis =>
    rcases List.mem_cons.mp member with here | later
    · subst here
      rw [head.of_stored]
      exact List.mem_cons_self
    · exact List.mem_cons_of_mem _ (hypothesis later)

end Answers

variable {κ ν : Type} [DecidableEq κ]

/-- A cache carries an operation out. -/
def Lru.perform (cache : Lru κ ν) : Operation κ ν → Answer κ ν × Lru κ ν
  | .insert key value expires =>
    let ((stamp, evicted), after) := cache.insert key value expires
    (.stored stamp.toNat evicted, after)
  | .get key now =>
    let (found, after) := cache.get key now
    (.value found, after)
  | .peek key now => (.value (cache.peek key now), cache)
  | .update key value =>
    let (whether, after) := cache.update key value
    (.changed whether, after)
  | .remove key =>
    let (found, after) := cache.remove key
    (.value found, after)
  | .removeStamped key stamp =>
    let (whether, after) := cache.removeStamped key stamp
    (.changed whether, after)
  | .purge => (.done, cache.purge)
  | .size => (.size cache.size, cache)
  | .keys => (.keys cache.keys, cache)

namespace Recency

/-- A list of recency carries an operation out. -/
def perform (recency : Recency κ ν) : Lru.Operation κ ν → Lru.Answer κ ν × Recency κ ν
  | .insert key value expires =>
    let ((stamp, evicted), after) := recency.insert key value expires
    (.stored stamp evicted, after)
  | .get key now =>
    let (found, after) := recency.get key now
    (.value found, after)
  | .peek key now => (.value (recency.peek key now), recency)
  | .update key value =>
    let (whether, after) := recency.update key value
    (.changed whether, after)
  | .remove key =>
    let (found, after) := recency.remove key
    (.value found, after)
  | .removeStamped key stamp =>
    let (whether, after) := recency.removeStamped key stamp.toNat
    (.changed whether, after)
  | .purge => (.done, recency.purge)
  | .size => (.size recency.items.length, recency)
  | .keys => (.keys (recency.items.map (·.key)), recency)

/-- The list after operations, one after another. -/
def after (recency : Recency κ ν) : List (Lru.Operation κ ν) → Recency κ ν
  | [] => recency
  | operation :: rest => after (recency.perform operation).2 rest

/-- The answers to operations, one after another. -/
def answers (recency : Recency κ ν) : List (Lru.Operation κ ν) → List (Lru.Answer κ ν)
  | [] => []
  | operation :: rest => (recency.perform operation).1 :: answers (recency.perform operation).2 rest

theorem after_append (recency : Recency κ ν) (first second : List (Lru.Operation κ ν)) :
    recency.after (first ++ second) = (recency.after first).after second := by
  induction first generalizing recency with
  | nil => rfl
  | cons operation rest hypothesis =>
    rw [List.cons_append, after, after, hypothesis]

theorem answers_append (recency : Recency κ ν) (first second : List (Lru.Operation κ ν)) :
    recency.answers (first ++ second) =
      recency.answers first ++ (recency.after first).answers second := by
  induction first generalizing recency with
  | nil => rfl
  | cons operation rest hypothesis =>
    rw [List.cons_append, answers, answers, after, hypothesis, List.cons_append]

/-! ### Stamps -/

/-- An insertion that is stored has the next stamp; no other operation has one. -/
theorem perform_stamp (recency : Recency κ ν) (operation : Lru.Operation κ ν)
    (room : recency.capacity ≠ 0) :
    (recency.perform operation).2.capacity = recency.capacity ∧
      ((recency.perform operation).1.stamp? = none ∧
          (recency.perform operation).2.stored = recency.stored ∨
        (recency.perform operation).1.stamp? = some (recency.stored + 1) ∧
          (recency.perform operation).2.stored = recency.stored + 1) := by
  cases operation with
  | insert key value expires =>
    simp only [perform, insert, if_neg room]
    split
    · exact ⟨rfl, Or.inr ⟨rfl, rfl⟩⟩
    · exact ⟨rfl, Or.inr ⟨rfl, rfl⟩⟩
  | get key now =>
    simp only [perform, get]
    split
    · exact ⟨rfl, Or.inl ⟨rfl, rfl⟩⟩
    · split
      · exact ⟨rfl, Or.inl ⟨rfl, rfl⟩⟩
      · exact ⟨rfl, Or.inl ⟨rfl, rfl⟩⟩
  | removeStamped key stamp =>
    simp only [perform, removeStamped]
    split
    · exact ⟨rfl, Or.inl ⟨rfl, rfl⟩⟩
    · exact ⟨rfl, Or.inl ⟨rfl, rfl⟩⟩
  | peek | update | remove | purge | size | keys => exact ⟨rfl, Or.inl ⟨rfl, rfl⟩⟩

/-- **The stamps of stored insertions strictly increase**, whatever comes in between. -/
theorem stamps_rising (recency : Recency κ ν) (operations : List (Lru.Operation κ ν))
    (room : recency.capacity ≠ 0) :
    (∀ stamp ∈ (recency.answers operations).filterMap Lru.Answer.stamp?, recency.stored < stamp) ∧
      ((recency.answers operations).filterMap Lru.Answer.stamp?).Pairwise (· < ·) := by
  induction operations generalizing recency with
  | nil => exact ⟨fun stamp member => (by cases member), List.Pairwise.nil⟩
  | cons operation rest hypothesis =>
    obtain ⟨capacity, counted⟩ := recency.perform_stamp operation room
    obtain ⟨above, rising⟩ := hypothesis (recency.perform operation).2 (by rwa [capacity])
    rw [answers, List.filterMap_cons]
    rcases counted with ⟨none, same⟩ | ⟨some', next⟩
    · rw [none]
      exact ⟨same ▸ above, rising⟩
    · rw [some']
      rw [next] at above
      refine ⟨fun stamp member => ?_, List.Pairwise.cons above rising⟩
      rcases List.mem_cons.mp member with rfl | later
      · exact Nat.lt_succ_self _
      · exact Nat.lt_trans (Nat.lt_succ_self _) (above stamp later)

/-- **Without capacity nothing is stored**, and the stamp of every insertion is zero. -/
theorem answers_stamps_zero (recency : Recency κ ν) (operations : List (Lru.Operation κ ν))
    (full : recency.capacity = 0) (empty : recency.items = []) :
    (recency.after operations).items = [] ∧
      ∀ stamp evicted, .stored stamp evicted ∈ recency.answers operations →
        stamp = 0 ∧ evicted = [] := by
  induction operations generalizing recency with
  | nil => exact ⟨empty, fun stamp evicted member => (by cases member)⟩
  | cons operation rest hypothesis =>
    have kept : (recency.perform operation).2 = recency ∧
        ∀ stamp evicted, (recency.perform operation).1 = .stored stamp evicted →
          stamp = 0 ∧ evicted = [] := by
      obtain ⟨capacity, items, stored⟩ := recency
      subst full
      subst empty
      cases operation with
      | insert key value expires =>
        refine ⟨rfl, fun stamp evicted answer => ?_⟩
        cases answer
        exact ⟨rfl, rfl⟩
      | get | peek | update | remove | removeStamped | purge | size | keys =>
        exact ⟨rfl, fun stamp evicted answer => (by cases answer)⟩
    obtain ⟨same, zero⟩ := kept
    rw [after, answers, same]
    obtain ⟨later, zeros⟩ := hypothesis recency full empty
    refine ⟨later, fun stamp evicted member => ?_⟩
    rcases List.mem_cons.mp member with here | there
    · exact zero stamp evicted here.symm
    · exact zeros stamp evicted there

end Recency

end Wayfinder
