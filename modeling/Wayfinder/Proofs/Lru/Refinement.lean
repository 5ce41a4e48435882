/-
**A bounded cache is a list of recency.**

The entries of a cache, in the order of their last uses, are the list of recency that it stands for.
Every operation keeps the two in step and gives one answer on both sides. So the answers of a cache
do not depend on the order in which its table keeps the entries, which may change at any time.

* `Lru.Mirrors`: a cache and the list that it stands for;
* `Lru.Mirrors.perform`: an operation gives one answer and keeps the two in step;
* `Lru.Run`: operations on a cache, one after another, between which the table may be reordered;
* `Lru.Run.mirrors`: after any run the cache stands for the list after the same operations;
* `Lru.Run.refines`: all answers are those of the list.
-/

import Wayfinder.Proofs.Lru.Order
import Wayfinder.Proofs.Lru.Recency

namespace Wayfinder

variable {κ ν : Type}

/-- The item that an entry stands for. -/
def Recency.Item.ofEntry (entry : κ × Lru.Entry ν) : Recency.Item κ ν :=
  ⟨entry.1, entry.2.value, entry.2.expires, entry.2.stamp.toNat⟩

namespace Lru

/-- A cache with a clock that goes on stands for a list of recency: that of its entries in the order
of their last uses. -/
structure Mirrors (cache : Lru κ ν) (recency : Recency κ ν) (ordered : List (κ × Entry ν)) :
    Prop where
  capacity : recency.capacity = cache.capacity
  stored : recency.stored = cache.lastStamp.toNat
  items : recency.items = ordered.map Recency.Item.ofEntry
  order : Ordered cache.clock cache.entries ordered
  within : ordered.length ≤ cache.capacity

/-! ### The clock and the stamps -/

/-- The clock goes on until it has reached its greatest value. -/
theorem lt_nextUse {cache : Lru κ ν} (early : cache.clock.toNat + 1 < UInt64.size) :
    cache.clock < cache.nextUse := by
  have notLast : cache.clock ≠ 0xFFFFFFFFFFFFFFFF := by
    intro last
    rw [last] at early
    exact absurd early (by decide)
  rw [nextUse, if_neg notLast, UInt64.lt_iff_toNat_lt, UInt64.toNat_add]
  simp only [UInt64.size] at early
  simp only [UInt64.reduceToNat]
  omega

/-- A reading of the clock is at most one beyond the one before. -/
theorem nextUse_le (cache : Lru κ ν) : cache.nextUse.toNat ≤ cache.clock.toNat + 1 := by
  unfold nextUse
  split
  · exact Nat.le_succ _
  · rw [UInt64.toNat_add]
    exact Nat.mod_le _ _

/-- A stamp is one beyond the last one. -/
theorem lastStamp_succ {cache : Lru κ ν} (few : cache.lastStamp.toNat + 1 < UInt64.size) :
    (cache.lastStamp + 1).toNat = cache.lastStamp.toNat + 1 := by
  rw [UInt64.toNat_add, UInt64.toNat_one]
  exact Nat.mod_eq_of_lt few

variable [DecidableEq κ]

/-- What an insertion makes of a cache with a capacity. -/
theorem insert_eq {cache : Lru κ ν} (some' : cache.capacity ≠ 0) {key : κ} {evicted : List κ}
    {left : Table κ (Entry ν)}
    (made : makeRoom cache.capacity (cache.entries.erase key).size (cache.entries.erase key) =
      (evicted, left)) (value : ν) (expires : Option Timestamp) :
    cache.insert key value expires = ((cache.lastStamp + 1, evicted),
      { cache with
        entries := left.put key ⟨value, expires, cache.lastStamp + 1, cache.nextUse⟩
        clock := cache.nextUse
        lastStamp := cache.lastStamp + 1 }) := by
  simp only [insert, if_neg some', made]

/-! ### A cache and its list -/

namespace Mirrors

variable {cache : Lru κ ν} {recency : Recency κ ν} {ordered : List (κ × Entry ν)}

/-- A cache finds the entry that stands for the item of the list. -/
theorem find?_eq (mirrors : cache.Mirrors recency ordered) (key : κ) :
    recency.find? key =
      (cache.entries.get? key).map fun entry => Recency.Item.ofEntry (key, entry) := by
  rw [mirrors.order.get?_eq, Recency.find?, mirrors.items]
  clear mirrors
  induction ordered with
  | nil => rfl
  | cons entry rest hypothesis =>
    obtain ⟨other, old⟩ := entry
    rw [List.map_cons, Table.find?]
    by_cases same : other = key
    · subst same
      rw [List.find?_cons_of_pos (by simp [Recency.Item.ofEntry]), if_pos rfl]
      rfl
    · rw [List.find?_cons_of_neg (by simp [Recency.Item.ofEntry, same]), if_neg same, hypothesis]

theorem others_eq (mirrors : cache.Mirrors recency ordered) (key : κ) :
    recency.others key =
      (ordered.filter fun entry => !decide (entry.1 = key)).map Recency.Item.ofEntry := by
  rw [Recency.others, mirrors.items, List.filter_map]
  rfl

/-- A key that is taken out on both sides. -/
theorem erase (mirrors : cache.Mirrors recency ordered) (key : κ) :
    Mirrors { cache with entries := cache.entries.erase key }
      { recency with items := recency.others key }
      (ordered.filter fun entry => !decide (entry.1 = key)) where
  capacity := mirrors.capacity
  stored := mirrors.stored
  items := mirrors.others_eq key
  order := mirrors.order.erase key
  within := Nat.le_trans (List.length_filter_le _ _) mirrors.within

/-- Where a key is present, taking it out makes the entries fewer. -/
theorem length_others_lt (mirrors : cache.Mirrors recency ordered) {key : κ} {entry : Entry ν}
    (here : cache.entries.get? key = some entry) :
    (ordered.filter fun other => !decide (other.1 = key)).length < ordered.length := by
  rw [mirrors.order.get?_eq, Table.find?_eq_some_iff mirrors.order.distinct] at here
  refine List.length_filter_lt_length_iff_exists.mpr ⟨_, here, ?_⟩
  simp

/-! ### One operation -/

theorem get (mirrors : cache.Mirrors recency ordered)
    (early : cache.clock.toNat + 1 < UInt64.size) (key : κ) (now : Timestamp) :
    (cache.get key now).1 = (recency.get key now).1 ∧
      ∃ ordered', (cache.get key now).2.Mirrors (recency.get key now).2 ordered' := by
  unfold Lru.get Recency.get
  rw [mirrors.find?_eq]
  cases here : cache.entries.get? key with
  | none => exact ⟨rfl, _, mirrors⟩
  | some entry =>
    have stale : (Recency.Item.ofEntry (key, entry)).isStale now = entry.isStale now := rfl
    simp only [Option.map_some, stale]
    split
    · exact ⟨rfl, _, mirrors.erase key⟩
    · refine ⟨rfl, (ordered.filter fun other => !decide (other.1 = key)) ++
        [(key, { entry with lastUse := cache.nextUse })], mirrors.capacity, mirrors.stored, ?_,
        mirrors.order.use key (lt_nextUse early) rfl, ?_⟩
      · show recency.others key ++ [_] = _
        rw [List.map_append, mirrors.others_eq key]
        rfl
      · have fewer := mirrors.length_others_lt here
        rw [List.length_append, List.length_singleton]
        exact Nat.le_trans fewer mirrors.within

theorem peek (mirrors : cache.Mirrors recency ordered) (key : κ) (now : Timestamp) :
    cache.peek key now = recency.peek key now := by
  unfold Lru.peek Recency.peek
  rw [mirrors.find?_eq]
  cases here : cache.entries.get? key with
  | none => rfl
  | some entry =>
    have stale : (Recency.Item.ofEntry (key, entry)).isStale now = entry.isStale now := rfl
    simp only [Option.map_some, Option.filter_some, stale]
    split <;> rfl

/-- A new entry goes to the end of what has been left for it. -/
theorem store (mirrors : cache.Mirrors recency ordered)
    (early : cache.clock.toNat + 1 < UInt64.size)
    (few : cache.lastStamp.toNat + 1 < UInt64.size) {left : Table κ (Entry ν)}
    {kept : List (κ × Entry ν)} (order : Ordered cache.clock left kept) {key : κ}
    (absent : key ∉ kept.map (·.1)) (room : kept.length < cache.capacity) (value : ν)
    (expires : Option Timestamp) :
    Mirrors
      { cache with
        entries := left.put key ⟨value, expires, cache.lastStamp + 1, cache.nextUse⟩
        clock := cache.nextUse
        lastStamp := cache.lastStamp + 1 }
      { recency with
        items := kept.map Recency.Item.ofEntry ++ [⟨key, value, expires, recency.stored + 1⟩]
        stored := recency.stored + 1 }
      (kept ++ [(key, ⟨value, expires, cache.lastStamp + 1, cache.nextUse⟩)]) where
  capacity := mirrors.capacity
  stored := by
    show recency.stored + 1 = (cache.lastStamp + 1).toNat
    rw [lastStamp_succ few, mirrors.stored]
  items := by
    rw [List.map_append, mirrors.stored, ← lastStamp_succ few]
    rfl
  order := order.append absent (lt_nextUse early) rfl
  within := by
    rw [List.length_append, List.length_singleton]
    exact room

/-- **One entry is given up where a new key meets a full cache**: the first one of the list. -/
theorem insert (mirrors : cache.Mirrors recency ordered)
    (early : cache.clock.toNat + 1 < UInt64.size)
    (few : cache.lastStamp.toNat + 1 < UInt64.size) (key : κ) (value : ν)
    (expires : Option Timestamp) :
    (cache.insert key value expires).1.1.toNat = (recency.insert key value expires).1.1 ∧
      (cache.insert key value expires).1.2 = (recency.insert key value expires).1.2 ∧
      ∃ ordered', (cache.insert key value expires).2.Mirrors
        (recency.insert key value expires).2 ordered' := by
  have same : recency.capacity = cache.capacity := mirrors.capacity
  have number : (cache.lastStamp + 1).toNat = recency.stored + 1 := by
    rw [lastStamp_succ few, mirrors.stored]
  have items : recency.items.length = ordered.length := by rw [mirrors.items, List.length_map]
  by_cases none : cache.capacity = 0
  · rw [Lru.insert, if_pos none, Recency.insert, if_pos (same.trans none)]
    exact ⟨rfl, rfl, ordered, mirrors⟩
  have others := mirrors.order.erase key
  have absent : key ∉ (ordered.filter fun other => !decide (other.1 = key)).map (·.1) := by simp
  by_cases room : (ordered.filter fun other => !decide (other.1 = key)).length < cache.capacity
  · -- there is room once the key itself is out
    have roomy : (recency.find? key).isSome ∨ recency.items.length < recency.capacity := by
      rw [mirrors.find?_eq, items, same]
      cases here : cache.entries.get? key with
      | some entry => exact Or.inl rfl
      | none =>
        rw [mirrors.order.get?_eq] at here
        right
        rwa [Table.filter_of_absent (Table.absent_of_find? here)] at room
    have space : (cache.entries.erase key).size < cache.capacity := by rwa [others.size_eq]
    have made := makeRoom_of_lt space (cache.entries.erase key).size
    rw [insert_eq none made, Recency.insert, if_neg (same ▸ none), if_pos roomy,
      mirrors.others_eq key]
    exact ⟨number, rfl, _, mirrors.store early few others absent room value expires⟩
  · -- the cache is full, and the key is not in it
    have unknown : cache.entries.get? key = Option.none := by
      cases here : cache.entries.get? key with
      | none => rfl
      | some entry =>
        have fewer := Nat.lt_of_lt_of_le (mirrors.length_others_lt here) mirrors.within
        exact absurd fewer room
    have whole : (ordered.filter fun other => !decide (other.1 = key)) = ordered := by
      rw [mirrors.order.get?_eq] at unknown
      exact Table.filter_of_absent (Table.absent_of_find? unknown)
    rw [whole] at others absent room
    have full : ¬((recency.find? key).isSome ∨ recency.items.length < recency.capacity) := by
      rw [mirrors.find?_eq, unknown, items, same]
      simpa using room
    have size : (cache.entries.erase key).size = cache.capacity := by
      rw [others.size_eq]
      have within := mirrors.within
      omega
    cases ordered with
    | nil => exact absurd (Nat.pos_of_ne_zero none) room
    | cons first rest =>
      obtain ⟨made, order⟩ := others.makeRoom_eq size
      rw [List.map_cons, List.mem_cons, not_or] at absent
      have space : rest.length < cache.capacity := mirrors.within
      rw [insert_eq none made, Recency.insert, if_neg (same ▸ none), if_neg full, mirrors.items]
      exact ⟨number, rfl, _, mirrors.store early few order absent.2 space value expires⟩

/-- Another value in the place of an old one. -/
theorem update (mirrors : cache.Mirrors recency ordered) (key : κ) (value : ν) :
    (cache.update key value).1 = (recency.update key value).1 ∧
      ∃ ordered', (cache.update key value).2.Mirrors (recency.update key value).2 ordered' := by
  unfold Lru.update Recency.update
  rw [mirrors.find?_eq]
  cases here : cache.entries.get? key with
  | none =>
    refine ⟨rfl, ordered, mirrors.capacity, mirrors.stored, ?_, mirrors.order, mirrors.within⟩
    show recency.items.map _ = ordered.map Recency.Item.ofEntry
    rw [mirrors.items, List.map_map]
    refine List.map_congr_left fun entry member => if_neg ?_
    rw [mirrors.order.get?_eq] at here
    rintro rfl
    exact Table.absent_of_find? here (List.mem_map_of_mem member)
  | some entry =>
    have found : Table.find? key ordered = some entry := by rw [← mirrors.order.get?_eq, here]
    refine ⟨rfl, _, mirrors.capacity, mirrors.stored, ?_, mirrors.order.replace here rfl, ?_⟩
    · show recency.items.map _ = List.map _ (List.map _ ordered)
      rw [mirrors.items, List.map_map, List.map_map]
      refine List.map_congr_left fun other member => ?_
      obtain ⟨name, old⟩ := other
      by_cases this : name = key
      · subst this
        have same : old = entry := by
          rw [(Table.find?_eq_some_iff mirrors.order.distinct).mpr member] at found
          exact Option.some.inj found
        simp [Recency.Item.ofEntry, same]
      · simp [Recency.Item.ofEntry, this]
    · rw [List.length_map]
      exact mirrors.within

theorem remove (mirrors : cache.Mirrors recency ordered) (key : κ) :
    (cache.remove key).1 = (recency.remove key).1 ∧
      ∃ ordered', (cache.remove key).2.Mirrors (recency.remove key).2 ordered' := by
  unfold Lru.remove Recency.remove
  rw [mirrors.find?_eq, Option.map_map]
  exact ⟨rfl, _, mirrors.erase key⟩

theorem removeStamped (mirrors : cache.Mirrors recency ordered) (key : κ) (stamp : UInt64) :
    (cache.removeStamped key stamp).1 = (recency.removeStamped key stamp.toNat).1 ∧
      ∃ ordered', (cache.removeStamped key stamp).2.Mirrors
        (recency.removeStamped key stamp.toNat).2 ordered' := by
  unfold Lru.removeStamped Recency.removeStamped
  rw [mirrors.find?_eq]
  cases here : cache.entries.get? key with
  | none => exact ⟨rfl, _, mirrors⟩
  | some entry =>
    by_cases same : entry.stamp = stamp
    · subst same
      simp only [Option.map_some, Option.any_some, Recency.Item.ofEntry, if_pos, decide_true]
      exact ⟨trivial, _, mirrors.erase key⟩
    · have differs : entry.stamp.toNat ≠ stamp.toNat :=
        fun equal => same (UInt64.toNat_inj.mp equal)
      simp only [Option.map_some, Option.any_some, Recency.Item.ofEntry, if_neg same, differs,
        decide_false, Bool.false_eq_true, if_false]
      exact ⟨trivial, _, mirrors⟩

omit [DecidableEq κ] in
theorem purge (mirrors : cache.Mirrors recency ordered) :
    cache.purge.Mirrors recency.purge [] where
  capacity := mirrors.capacity
  stored := mirrors.stored
  items := rfl
  order := Ordered.empty _
  within := Nat.zero_le _

/-- **An operation gives one answer on both sides and keeps them in step.** -/
theorem perform (mirrors : cache.Mirrors recency ordered)
    (early : cache.clock.toNat + 1 < UInt64.size)
    (few : cache.lastStamp.toNat + 1 < UInt64.size) (operation : Operation κ ν) :
    (cache.perform operation).1.Agrees (recency.perform operation).1 ∧
      ∃ ordered', (cache.perform operation).2.Mirrors (recency.perform operation).2 ordered' := by
  cases operation with
  | insert key value expires =>
    obtain ⟨stamp, evicted, after⟩ := mirrors.insert early few key value expires
    exact ⟨.of_eq (congrArg₂ Answer.stored stamp evicted), after⟩
  | get key now =>
    obtain ⟨found, after⟩ := mirrors.get early key now
    exact ⟨.of_eq (congrArg Answer.value found), after⟩
  | peek key now => exact ⟨.of_eq (congrArg Answer.value (mirrors.peek key now)), ordered, mirrors⟩
  | update key value =>
    obtain ⟨whether, after⟩ := mirrors.update key value
    exact ⟨.of_eq (congrArg Answer.changed whether), after⟩
  | remove key =>
    obtain ⟨found, after⟩ := mirrors.remove key
    exact ⟨.of_eq (congrArg Answer.value found), after⟩
  | removeStamped key stamp =>
    obtain ⟨whether, after⟩ := mirrors.removeStamped key stamp
    exact ⟨.of_eq (congrArg Answer.changed whether), after⟩
  | purge => exact ⟨.same _, _, mirrors.purge⟩
  | size =>
    have size : cache.entries.size = recency.items.length := by
      rw [mirrors.order.size_eq, mirrors.items, List.length_map]
    exact ⟨.of_eq (congrArg Answer.size size), ordered, mirrors⟩
  | keys =>
    refine ⟨.keys ?_, ordered, mirrors⟩
    show (cache.entries.entries.map (·.1)).Perm (recency.items.map (·.key))
    rw [mirrors.items, List.map_map]
    exact (mirrors.order.perm.map (·.1)).symm

end Mirrors

/-! ### Runs -/

/-- Operations on a cache, one after another, each with its answer. Between two operations the table
may take on any other order of its entries. -/
inductive Run (capacity : Nat) : List (Operation κ ν × Answer κ ν) → Lru κ ν → Prop
  | empty : Run capacity [] { capacity }
  | shuffle {log : List (Operation κ ν × Answer κ ν)} {cache : Lru κ ν}
      (run : Run capacity log cache) {entries : Table κ (Entry ν)}
      (reordered : entries.entries.Perm cache.entries.entries) :
      Run capacity log { cache with entries }
  | perform {log : List (Operation κ ν × Answer κ ν)} {cache : Lru κ ν}
      (run : Run capacity log cache) (operation : Operation κ ν) :
      Run capacity (log ++ [(operation, (cache.perform operation).1)]) (cache.perform operation).2

/-- An operation moves the clock and the stamps on by one at most and keeps the capacity. -/
theorem perform_counts (cache : Lru κ ν) (operation : Operation κ ν) :
    (cache.perform operation).2.clock.toNat ≤ cache.clock.toNat + 1 ∧
      (cache.perform operation).2.lastStamp.toNat ≤ cache.lastStamp.toNat + 1 ∧
      (cache.perform operation).2.capacity = cache.capacity := by
  have same (cache : Lru κ ν) : cache.clock.toNat ≤ cache.clock.toNat + 1 ∧
      cache.lastStamp.toNat ≤ cache.lastStamp.toNat + 1 ∧ cache.capacity = cache.capacity :=
    ⟨Nat.le_succ _, Nat.le_succ _, rfl⟩
  cases operation with
  | insert key value expires =>
    by_cases none : cache.capacity = 0
    · simp only [Lru.perform, Lru.insert, if_pos none]
      exact ⟨Nat.le_succ _, Nat.le_succ _, trivial⟩
    · simp only [Lru.perform, insert_eq none rfl]
      refine ⟨nextUse_le cache, ?_, trivial⟩
      rw [UInt64.toNat_add]
      exact Nat.mod_le _ _
  | get key now =>
    simp only [Lru.perform, Lru.get]
    split
    · exact same cache
    · split
      · exact same cache
      · exact ⟨nextUse_le cache, Nat.le_succ _, rfl⟩
  | update key value =>
    simp only [Lru.perform, Lru.update]
    split <;> exact same cache
  | removeStamped key stamp =>
    simp only [Lru.perform, Lru.removeStamped]
    split
    · exact same cache
    · split <;> exact same cache
  | peek | remove | purge | size | keys => exact same cache

namespace Run

variable {capacity : Nat} {log : List (Operation κ ν × Answer κ ν)} {cache : Lru κ ν}

/-- Clock and stamps count operations, and the capacity stays. -/
theorem counts (run : Run capacity log cache) :
    cache.clock.toNat ≤ log.length ∧ cache.lastStamp.toNat ≤ log.length ∧
      cache.capacity = capacity := by
  induction run with
  | empty => exact ⟨Nat.le_refl _, Nat.le_refl _, rfl⟩
  | shuffle run reordered hypothesis => exact hypothesis
  | @perform log cache run operation hypothesis =>
    obtain ⟨clock, stamp, same⟩ := cache.perform_counts operation
    rw [List.length_append, List.length_singleton]
    exact ⟨Nat.le_trans clock (Nat.succ_le_succ hypothesis.1),
      Nat.le_trans stamp (Nat.succ_le_succ hypothesis.2.1), same.trans hypothesis.2.2⟩

/-- **After any operations, the cache stands for the list after the same operations, and each of
them had the answer of the list.** -/
theorem mirrors (run : Run capacity log cache) (few : log.length < UInt64.size - 1) :
    List.Forall₂ Answer.Agrees (log.map (·.2))
        (Recency.answers { capacity } (log.map (·.1))) ∧
      ∃ ordered, cache.Mirrors (Recency.after { capacity } (log.map (·.1))) ordered := by
  induction run with
  | empty =>
    refine ⟨.nil, [], rfl, rfl, rfl, Ordered.empty 0, Nat.zero_le _⟩
  | shuffle run reordered hypothesis =>
    obtain ⟨answers, ordered, mirrors⟩ := hypothesis few
    exact ⟨answers, ordered, { mirrors with order := mirrors.order.shuffle reordered }⟩
  | @perform log cache run operation hypothesis =>
    rw [List.length_append, List.length_singleton] at few
    obtain ⟨answers, ordered, mirrors⟩ := hypothesis (by omega)
    obtain ⟨clock, stamp, _⟩ := run.counts
    obtain ⟨agrees, after⟩ := mirrors.perform (by omega) (by omega) operation
    rw [List.map_append, List.map_append, Recency.answers_append, Recency.after_append]
    exact ⟨List.rel_append answers (.cons agrees .nil), after⟩

/-- **A cache is a list of recency.** Whatever operations it carries out and in whatever order its
table keeps the entries meanwhile, each answer is that of the list, so that two caches give the same
answers to the same operations. There are never more entries than the capacity allows. The stamps of
insertions strictly increase; without capacity nothing is stored and they are zero. -/
theorem refines (run : Run capacity log cache) (few : log.length < UInt64.size - 1) :
    List.Forall₂ Answer.Agrees (log.map (·.2)) (Recency.answers { capacity } (log.map (·.1))) ∧
      (∀ log' cache', Run capacity log' cache' → log'.map (·.1) = log.map (·.1) →
        List.Forall₂ Answer.Agrees (log'.map (·.2)) (log.map (·.2))) ∧
      cache.size ≤ capacity ∧
      (capacity ≠ 0 → ((log.map (·.2)).filterMap Answer.stamp?).Pairwise (· < ·)) ∧
      (capacity = 0 → cache.size = 0 ∧ ∀ stamp evicted, .stored stamp evicted ∈ log.map (·.2) →
        stamp = 0 ∧ evicted = []) := by
  obtain ⟨answers, ordered, mirrors⟩ := run.mirrors few
  have within : cache.size ≤ capacity := by
    have size : cache.size = ordered.length := mirrors.order.size_eq
    rw [size, ← run.counts.2.2]
    exact mirrors.within
  refine ⟨answers, fun log' cache' run' same => ?_, within, fun some' => ?_, fun none => ?_⟩
  · have length : log'.length = log.length := by
      simpa using congrArg List.length same
    have answers' := (run'.mirrors (by omega)).1
    rw [same] at answers'
    exact Answer.forall₂_meet answers' answers
  · rw [Answer.filterMap_stamp?_eq answers]
    exact (Recency.stamps_rising { capacity } _ some').2
  · refine ⟨by omega, fun stamp evicted member => ?_⟩
    exact (Recency.answers_stamps_zero { capacity } _ none rfl).2 stamp evicted
      (Answer.stored_mem answers member)

end Run

/-- A key that has been looked up stays where a third one meets a cache for two, although the table
has come to keep it last. -/
theorem refines_evicting :
    List.Forall₂ Answer.Agrees
      [.stored 1 [], .stored 2 [], .value (some "red"), .stored 3 [20], .keys [30, 10]]
      (Recency.answers { capacity := 2 } [.insert 10 "red" none, .insert 20 "blue" (some 5),
        .get 10 7, .insert 30 "green" none, .keys]) := by
  have run : Run 2 _ _ := ((((Run.empty.perform (.insert 10 "red" none)).perform
    (.insert 20 "blue" (some 5))).perform (.get 10 7)).shuffle (List.Perm.swap _ _ _)).perform
      (.insert 30 "green" none)
  have run' := (run.shuffle (List.Perm.swap _ _ _)).perform .keys
  exact (run'.refines (by decide)).1

end Lru

end Wayfinder
