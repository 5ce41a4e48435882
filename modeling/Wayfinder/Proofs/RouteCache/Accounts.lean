/-
**The accounts of a cache of routes.**

Entries leave a cache because another destination needs the room, because their timer rings, or
because a look-up meets them after their deadline. The first two ways out are counted and forget the
handle of the destination. A look-up does neither: it leaves the handle, and when the timer rings at
last it finds nothing, so that it does neither as well.

* `RouteCache.leavers`, `RouteCache.lapsed`: the destinations whose entries have left without a
  purge, and those of them that a look-up has dropped;
* `RouteCache.Abandoned`: a destination whose entry a look-up has dropped and that has not come back;
* `handles_of_get`, `handles_of_insert`, `handles_of_fire`: what becomes of handles in a step;
* `Run.accounted`: handles are those of cached and of abandoned destinations, and what has left is
  what was counted and what has lapsed;
* `overlooked`: the shortest run in which a handle outlives its entry and an expiry is not counted.
-/

import Wayfinder.Proofs.RouteCache.Guards

namespace Wayfinder.RouteCache

variable {ν : Type}

/-! ### Who leaves -/

/-- The destinations that are cached before something happens and not afterwards. -/
def departed (before after : RouteCache ν) : List Node :=
  before.entries.keys.filter fun dst => (after.item? dst).isNone

namespace Occurrence

/-- The destinations that leave in the step, unless it is a purge. -/
def leavers (taken : Occurrence ν) : List Node :=
  match taken.event with
  | .purge => []
  | _ => departed taken.before taken.after

/-- The destination whose entry a look-up drops. -/
def lapsed (taken : Occurrence ν) : List Node :=
  match taken.event with
  | .get _ => departed taken.before taken.after
  | _ => []

/-- A look-up drops the entry that it was to find. -/
def Lapses (taken : Occurrence ν) (dst : Node) : Prop :=
  taken.event = .get dst ∧ taken.before.item? dst ≠ none ∧ taken.after.item? dst = none

/-- Routes are stored for a destination, or all entries are taken out. -/
def Renews (taken : Occurrence ν) (dst : Node) : Prop :=
  taken.event = .purge ∨ ∃ timer value expiry, taken.Stores timer dst value expiry

end Occurrence

/-- The destinations whose entries have left, other than by a purge. A destination that is stored
anew does not leave. -/
def leavers (history : List (Occurrence ν)) : List Node := history.flatMap Occurrence.leavers

/-- The destinations whose entries look-ups have dropped. -/
def lapsed (history : List (Occurrence ν)) : List Node := history.flatMap Occurrence.lapsed

/-- A look-up has dropped the entry of a destination. Since then nothing was stored for it, and no
purge has come. -/
def Abandoned (history : List (Occurrence ν)) (dst : Node) : Prop :=
  ∃ position, At history position (·.Lapses dst) ∧
    ∀ later, position < later → ¬ At history later (·.Renews dst)

/-- Destinations are looked up only when the timers that are due have rung. -/
def Punctual (history : List (Occurrence ν)) : Prop :=
  ∀ taken ∈ history, ∀ dst, taken.event = .get dst →
    ∀ timer due, taken.before.timers.get? timer = some due → taken.now < due.deadline

/-! ### What leaves is counted or has lapsed -/

section Counting

variable {capacity : Nat} {history : List (Occurrence ν)} {cache : RouteCache ν}

theorem step_distinct (distinct : cache.entries.keys.Nodup) (now : Timestamp) (event : Event ν) :
    (step now event cache).1.entries.keys.Nodup := by
  cases event with
  | get dst => exact Lru.distinct_get distinct dst now
  | insert dst value expiry generation =>
    show (cache.insert dst value expiry generation now).2.entries.keys.Nodup
    rcases cache.insert_cases dst value expiry generation now with accepted | ⟨refused, _⟩
    · rw [accepted, stored_entries]
      exact Lru.distinct_insert distinct ..
    · rw [refused]
      exact distinct
  | fire timer =>
    show (cache.fire timer).entries.keys.Nodup
    cases rings : cache.timers.get? timer with
    | none =>
      rw [fire_of_none rings]
      exact distinct
    | some due =>
      rw [fire_entries rings]
      exact Lru.distinct_removeStamped distinct ..
  | purge => exact List.nodup_nil

/-- No destination is cached twice. -/
theorem Run.distinct (run : Run capacity history cache) : cache.entries.keys.Nodup := by
  induction run with
  | initial => exact List.nodup_nil
  | step run now event fresh hypothesis => exact step_distinct hypothesis now event

theorem mem_keys_iff {dst : Node} : dst ∈ cache.entries.keys ↔ cache.item? dst ≠ none :=
  Table.mem_keys_iff.trans (not_congr item?_eq_none.symm)

variable {after : RouteCache ν}

theorem mem_departed {dst : Node} :
    dst ∈ departed cache after ↔ cache.item? dst ≠ none ∧ after.item? dst = none := by
  rw [departed, List.mem_filter, mem_keys_iff, Option.isNone_iff_eq_none]

/-- Who departs is known by who is missed afterwards. -/
theorem departed_length (distinct : cache.entries.keys.Nodup) {gone : List Node}
    (once : gone.Nodup)
    (same : ∀ dst, cache.item? dst ≠ none ∧ after.item? dst = none ↔ dst ∈ gone) :
    (departed cache after).length = gone.length := by
  refine ((List.perm_ext_iff_of_nodup (distinct.filter _) once).mpr fun dst => ?_).length_eq
  exact mem_departed.trans (same dst)

theorem departed_self (cache : RouteCache ν) : departed cache cache = [] := by
  refine List.eq_nil_iff_forall_not_mem.mpr fun dst member => ?_
  obtain ⟨here, gone⟩ := mem_departed.mp member
  exact here gone

/-- Storing routes makes those leave that are given up. -/
theorem departed_stored (room : cache.entries.capacity ≠ 0) (distinct : cache.entries.keys.Nodup)
    (dst : Node) (value : ν) (expiry : Timestamp) :
    (departed cache (cache.stored dst value expiry)).length =
      (cache.evicted dst value expiry).length := by
  refine departed_length distinct Lru.evicted_nodup fun other => ?_
  rw [item?_stored room]
  constructor
  · rintro ⟨cached, gone⟩
    split at gone
    · cases gone
    · split at gone
      · next given => exact given
      · exact absurd gone cached
  · intro given
    obtain ⟨differs, cached⟩ := evicted_present given
    exact ⟨cached, by rw [if_neg differs, if_pos given]⟩

/-- A timer that rings counts what it makes leave. -/
theorem departed_fire (distinct : cache.entries.keys.Nodup) (timer : TimerId) :
    (cache.fire timer).tally.evictions =
      cache.tally.evictions + (departed cache (cache.fire timer)).length := by
  cases rings : cache.timers.get? timer with
  | none =>
    rw [fire_of_none rings, departed_self]
    rfl
  | some due =>
    rw [evictions_fire rings]
    congr 1
    by_cases takes : cache.takes due = true
    · obtain ⟨item, here, _⟩ := takes_iff.mp takes
      have gone : (departed cache (cache.fire timer)).length = [due.dst].length := by
        refine departed_length distinct (List.pairwise_singleton _ _) fun dst => ?_
        rw [item?_fire rings, List.mem_singleton]
        by_cases same : due.dst = dst
        · subst same
          simp [takes, here]
        · simp [same, Ne.symm same]
      rw [if_pos takes, gone]
      rfl
    · rw [if_neg takes, eq_comm, List.length_eq_zero_iff]
      refine List.eq_nil_iff_forall_not_mem.mpr fun dst member => ?_
      obtain ⟨here, gone⟩ := mem_departed.mp member
      rw [item?_fire rings, if_neg fun both => takes both.1] at gone
      exact here gone

/-- **What leaves in a step is counted, or a look-up drops it.** -/
theorem Occurrence.evictions_step (taken : Occurrence ν)
    (room : taken.before.entries.capacity ≠ 0) (distinct : taken.before.entries.keys.Nodup) :
    taken.after.tally.evictions + (lapsed taken).length =
      taken.before.tally.evictions + (leavers taken).length := by
  obtain ⟨before, now, event⟩ := taken
  cases event with
  | get dst => rfl
  | insert dst value expiry generation =>
    show (before.insert dst value expiry generation now).2.tally.evictions =
      before.tally.evictions +
        (departed before (before.insert dst value expiry generation now).2).length
    rcases before.insert_cases dst value expiry generation now with accepted | ⟨refused, _⟩
    · rw [accepted, evictions_stored, departed_stored room distinct]
    · rw [refused, departed_self]
      rfl
  | fire timer => exact departed_fire distinct timer
  | purge => rfl

/-- **What has left was counted, or a look-up has dropped it.** -/
theorem Run.evictions (room : capacity ≠ 0) (run : Run capacity history cache) :
    cache.tally.evictions + (lapsed history).length = (leavers history).length := by
  induction run with
  | initial => rfl
  | @step history state run now event fresh hypothesis =>
    have here := Occurrence.evictions_step ⟨state, now, event⟩ (Run.watched room run).room
      (Run.distinct run)
    change (step now event state).1.tally.evictions + _ = state.tally.evictions + _ at here
    show (step now event state).1.tally.evictions + _ = _
    simp only [lapsed, leavers, List.flatMap_append, List.length_append, List.flatMap_singleton]
      at hypothesis ⊢
    omega

end Counting

/-! ### Whose handles there are -/

section Handles

variable {capacity : Nat} {history : List (Occurrence ν)} {cache : RouteCache ν} {dst : Node}

/-- A destination is abandoned by a look-up that drops its entry, and as long as it is not renewed. -/
theorem abandoned_concat {taken : Occurrence ν} : Abandoned (history ++ [taken]) dst ↔
    taken.Lapses dst ∨ Abandoned history dst ∧ ¬ taken.Renews dst := by
  constructor
  · rintro ⟨position, lapses, quiet⟩
    rcases lapses.append_singleton with old | ⟨rfl, now⟩
    · refine Or.inr ⟨⟨position, old, fun later after renews => ?_⟩, fun renews => ?_⟩
      · exact quiet later after (renews.append _)
      · exact quiet history.length old.lt_length (At.last renews)
    · exact Or.inl now
  · rintro (now | ⟨⟨position, old, quiet⟩, kept⟩)
    · refine ⟨history.length, At.last now, fun later after renews => ?_⟩
      have bound := renews.lt_length
      rw [List.length_append, List.length_singleton] at bound
      omega
    · refine ⟨position, old.append _, fun later after renews => ?_⟩
      rcases renews.append_singleton with earlier | ⟨rfl, last⟩
      · exact quiet later after earlier
      · exact kept last

/-- An abandoned destination is not cached. -/
theorem Run.uncached (room : capacity ≠ 0) (run : Run capacity history cache)
    (abandoned : Abandoned history dst) : cache.item? dst = none := by
  obtain ⟨position, lapses, quiet⟩ := abandoned
  let holds : RouteCache ν → Prop := fun state => state.item? dst = none
  have found : At history position (holds ·.after) := lapses.mono fun _ lapses => lapses.2.2
  refine (run.stays found fun later taken after here absent => ?_).2
  refine Option.eq_none_iff_forall_ne_some.mpr fun item held => ?_
  have watched := Run.watched room (run.take here)
  rcases Occurrence.item_before taken watched.room held with
    ⟨same, _⟩ | ⟨timer, expiry, stores, _⟩
  · rw [show taken.before.item? dst = none from absent] at same
    cases same
  · exact quiet later after ⟨taken, here, Or.inr ⟨timer, item.value, expiry, stores⟩⟩

/-- A destination is renewed by a purge, or by an insertion of its own. -/
theorem Occurrence.Renews.event {taken : Occurrence ν} (renews : taken.Renews dst) :
    taken.event = .purge ∨ ∃ value expiry generation,
      taken.event = .insert dst value expiry generation := by
  rcases renews with purge | ⟨_, value, expiry, generation, stores, _⟩
  · exact Or.inl purge
  · exact Or.inr ⟨value, expiry, generation, stores⟩

section Step

variable {abandoned : Prop} {now : Timestamp}

/-- A look-up that drops an entry abandons its destination. -/
theorem handles_of_get (known : cache.handles.get? dst ≠ none ↔ cache.item? dst ≠ none ∨ abandoned)
    (other : Node) {taken : Occurrence ν} (here : taken = ⟨cache, now, .get other⟩) :
    taken.after.handles.get? dst ≠ none ↔ taken.after.item? dst ≠ none ∨
      (taken.Lapses dst ∨ abandoned ∧ ¬ taken.Renews dst) := by
  subst here
  have kept : ¬ Occurrence.Renews (⟨cache, now, .get other⟩ : Occurrence ν) dst := fun renews => by
    rcases renews.event with purge | ⟨_, _, _, stores⟩
    · cases purge
    · cases stores
  show cache.handles.get? dst ≠ none ↔ (cache.get other now).2.item? dst ≠ none ∨ _
  rw [known, and_iff_left kept, Occurrence.Lapses, ← or_assoc]
  refine or_congr_left ?_
  show _ ↔ _ ∨ _ ∧ _ ∧ (cache.get other now).2.item? dst = none
  rw [item?_get]
  by_cases missed : (cache.get other now).1 = none ∧ other = dst
  · obtain ⟨missed, rfl⟩ := missed
    simp [missed]
  · simp [missed]

/-- An insertion forgets the handles of those that are given up. -/
theorem handles_of_insert (room : cache.entries.capacity ≠ 0)
    (known : cache.handles.get? dst ≠ none ↔ cache.item? dst ≠ none ∨ abandoned)
    (uncached : abandoned → cache.item? dst = none) (other : Node) (value : ν) (expiry : Timestamp)
    (generation : UInt64) {taken : Occurrence ν}
    (here : taken = ⟨cache, now, .insert other value expiry generation⟩) :
    taken.after.handles.get? dst ≠ none ↔ taken.after.item? dst ≠ none ∨
      (taken.Lapses dst ∨ abandoned ∧ ¬ taken.Renews dst) := by
  subst here
  show (cache.insert other value expiry generation now).2.handles.get? dst ≠ none ↔
    (cache.insert other value expiry generation now).2.item? dst ≠ none ∨ _
  have idle : ¬ Occurrence.Lapses (⟨cache, now, .insert other value expiry generation⟩ :
      Occurrence ν) dst := fun lapses => by cases lapses.1
  rw [or_iff_right idle]
  rcases cache.insert_cases other value expiry generation now with accepted | ⟨refused, unstored⟩
  · rw [accepted, handles_stored, item?_stored room]
    by_cases same : other = dst
    · rw [if_pos same, if_pos same]
      exact iff_of_true (Option.some_ne_none _) (Or.inl (Option.some_ne_none _))
    · have kept : ¬ Occurrence.Renews (⟨cache, now, .insert other value expiry generation⟩ :
          Occurrence ν) dst := fun renews => by
        rcases renews.event with purge | ⟨_, _, _, stores⟩
        · cases purge
        · cases stores
          exact same rfl
      rw [if_neg same, if_neg same, and_iff_left kept]
      by_cases given : dst ∈ cache.evicted other value expiry
      · rw [if_pos given, if_pos given]
        refine iff_of_false (fun known => known rfl) ?_
        rintro (cached | abandoned)
        · exact cached rfl
        · exact (evicted_present given).2 (uncached abandoned)
      · rw [if_neg given, if_neg given]
        exact known
  · have kept : ¬ Occurrence.Renews (⟨cache, now, .insert other value expiry generation⟩ :
        Occurrence ν) dst := by
      rintro (purge | ⟨timer, _, _, _, _, stores⟩)
      · cases purge
      · exact unstored timer (Answer.inserted.inj stores)
    rw [refused, and_iff_left kept]
    exact known

/-- A timer that rings forgets the handle of what it takes out. -/
theorem handles_of_fire
    (known : cache.handles.get? dst ≠ none ↔ cache.item? dst ≠ none ∨ abandoned)
    (uncached : abandoned → cache.item? dst = none) (timer : TimerId) {taken : Occurrence ν}
    (here : taken = ⟨cache, now, .fire timer⟩) :
    taken.after.handles.get? dst ≠ none ↔ taken.after.item? dst ≠ none ∨
      (taken.Lapses dst ∨ abandoned ∧ ¬ taken.Renews dst) := by
  subst here
  have kept : ¬ Occurrence.Renews (⟨cache, now, .fire timer⟩ : Occurrence ν) dst :=
    fun renews => by
      rcases renews.event with purge | ⟨_, _, _, stores⟩
      · cases purge
      · cases stores
  have idle : ¬ Occurrence.Lapses (⟨cache, now, .fire timer⟩ : Occurrence ν) dst :=
    fun lapses => by cases lapses.1
  show (cache.fire timer).handles.get? dst ≠ none ↔ (cache.fire timer).item? dst ≠ none ∨ _
  rw [or_iff_right idle, and_iff_left kept]
  cases rings : cache.timers.get? timer with
  | none =>
    rw [fire_of_none rings]
    exact known
  | some due =>
    rw [handles_fire rings, item?_fire rings]
    by_cases takes : cache.takes due = true ∧ due.dst = dst
    · rw [if_pos takes, if_pos takes]
      obtain ⟨takes, rfl⟩ := takes
      obtain ⟨item, present, _⟩ := takes_iff.mp takes
      refine iff_of_false (fun known => known rfl) ?_
      rintro (cached | abandoned)
      · exact cached rfl
      · rw [uncached abandoned] at present
        cases present
    · rw [if_neg takes, if_neg takes]
      exact known

end Step

/-- **There is a handle for each destination that is cached, and for each that is abandoned.** -/
theorem Run.handles (room : capacity ≠ 0) (run : Run capacity history cache) (dst : Node) :
    cache.handles.get? dst ≠ none ↔ cache.item? dst ≠ none ∨ Abandoned history dst := by
  induction run with
  | initial =>
    refine iff_of_false (fun known => known rfl) ?_
    rintro (cached | ⟨position, lapses, _⟩)
    · exact cached rfl
    · exact absurd lapses.lt_length (Nat.not_lt_zero _)
  | @step history state run now event fresh hypothesis =>
    have uncached : Abandoned history dst → state.item? dst = none := Run.uncached room run
    rw [abandoned_concat]
    cases event with
    | get other => exact handles_of_get hypothesis other rfl
    | insert other value expiry generation =>
      exact handles_of_insert (Run.watched room run).room hypothesis uncached other value expiry
        generation rfl
    | fire timer => exact handles_of_fire hypothesis uncached timer rfl
    | purge =>
      refine iff_of_false (fun known => known rfl) ?_
      rintro (cached | lapses | ⟨_, kept⟩)
      · exact cached rfl
      · cases lapses.1
      · exact kept (Or.inl rfl)

end Handles

/-! ### The accounts -/

section Accounts

variable {capacity : Nat} {history : List (Occurrence ν)} {cache : RouteCache ν}

/-- When timers ring in time no look-up meets an expired entry. -/
theorem Run.lapses_of_punctual (room : capacity ≠ 0) (run : Run capacity history cache)
    (punctual : Punctual history) {position : Nat} {dst : Node} :
    ¬ At history position (·.Lapses dst) := by
  rintro ⟨⟨before, now, event⟩, here, rfl, cached, gone⟩
  change (before.get dst now).2.item? dst = none at gone
  change before.item? dst ≠ none at cached
  rw [item?_get] at gone
  split at gone
  · next missed =>
    obtain ⟨entry, present⟩ := Option.ne_none_iff_exists'.mp (mt item?_eq_none.mpr cached)
    have stale := (get_eq_none missed.1).1 entry present
    obtain ⟨timer, deadline, expires, pending, _⟩ := (Run.watched room (run.take here)).one present
    have early := punctual _ (List.mem_of_getElem? here) dst rfl timer _ pending
    rw [Lru.Entry.isStale, expires] at stale
    exact absurd (of_decide_eq_true stale) (Int.not_le.mpr early)
  · exact cached gone

/-- Where a look-up drops an entry its destination has lapsed. -/
theorem Occurrence.mem_lapsed {taken : Occurrence ν} {dst : Node} :
    dst ∈ lapsed taken → ∃ dst, taken.Lapses dst := by
  obtain ⟨before, now, event⟩ := taken
  cases event with
  | get other =>
    intro member
    obtain ⟨cached, gone⟩ := mem_departed.mp member
    refine ⟨other, rfl, ?_⟩
    change (before.get other now).2.item? dst = none at gone
    change before.item? dst ≠ none at cached
    show before.item? other ≠ none ∧ (before.get other now).2.item? other = none
    rw [item?_get] at gone
    split at gone
    · next missed =>
      obtain ⟨missed, rfl⟩ := missed
      exact ⟨cached, by rw [item?_get, if_pos ⟨missed, rfl⟩]⟩
    · exact absurd gone cached
  | insert | fire | purge => exact fun member => absurd member List.not_mem_nil

/-- **How handles and evictions stand to the entries that are there and that have left.** -/
structure Accounted (history : List (Occurrence ν)) (cache : RouteCache ν) : Prop where
  /-- There are handles for the destinations that are cached and for those that are abandoned. -/
  handles : ∀ dst, cache.handles.get? dst ≠ none ↔ cache.slot? dst ≠ none ∨ Abandoned history dst
  /-- Of the entries that have left all are counted but those that a look-up has dropped. -/
  evictions : cache.tally.evictions + (lapsed history).length = (leavers history).length
  /-- If look-ups come only when the timers that are due have rung, there are handles for the cached
  destinations alone, and all entries that have left are counted. -/
  punctual : Punctual history →
    (∀ dst, cache.handles.get? dst ≠ none ↔ cache.slot? dst ≠ none) ∧
      cache.tally.evictions = (leavers history).length

/-- **In every run of a cache with capacity, a handle outlives its entry, and the end of an entry is
not counted, only where a look-up has dropped the entry.** -/
theorem Run.accounted (room : capacity ≠ 0) (run : Run capacity history cache) :
    Accounted history cache := by
  have handles (dst : Node) : cache.handles.get? dst ≠ none ↔
      cache.slot? dst ≠ none ∨ Abandoned history dst := by
    rw [run.handles room dst, Ne, item?_eq_none]
  refine ⟨handles, run.evictions room, fun punctual => ⟨fun dst => ?_, ?_⟩⟩
  · rw [handles dst]
    refine or_iff_left ?_
    rintro ⟨position, lapses, _⟩
    exact run.lapses_of_punctual room punctual lapses
  · have none : lapsed history = [] := by
      refine List.flatMap_eq_nil_iff.mpr fun taken member => ?_
      refine List.eq_nil_iff_forall_not_mem.mpr fun dst among => ?_
      obtain ⟨other, lapses⟩ := Occurrence.mem_lapsed among
      obtain ⟨position, here⟩ := List.getElem?_of_mem member
      exact run.lapses_of_punctual room punctual ⟨taken, here, lapses⟩
    rw [← run.evictions room, none]
    rfl

end Accounts

/-! ### A look-up past the deadline -/

/-- Of three entries one is given up, one is dropped by a look-up before its timer rings, and one is
taken out by its timer. -/
def mixedExits : List (Occurrence Nat) :=
  (automaton Nat).replay (ofCapacity 1)
    [(0, .insert firstDst 10 50 0), (10, .insert secondDst 20 60 0), (70, .get secondDst),
      (80, .fire 1), (80, .insert thirdDst 30 100 0), (110, .fire 2)]

/-- Two of the three are counted, and the one that was dropped by a look-up is abandoned. -/
theorem accounted_mixedExits : ∃ cache, Run 1 mixedExits cache ∧
    cache.tally.evictions = 2 ∧ (leavers mixedExits).length = 3 ∧
      Abandoned mixedExits secondDst := by
  have run : Run 1 mixedExits _ := Automaton.Run.of_replay (automaton Nat) _ _ (by decide)
  have accounted := run.accounted (by decide)
  refine ⟨_, run, rfl, accounted.evictions.symm, ?_⟩
  rcases (accounted.handles secondDst).mp (Option.some_ne_none _) with cached | abandoned
  · exact absurd rfl cached
  · exact abandoned

/-- An entry is looked up after its deadline, and its timer rings only then. -/
def overlooked : List (Occurrence Nat) :=
  (automaton Nat).replay (ofCapacity 4)
    [(0, .insert firstDst 10 50 0), (60, .get firstDst), (60, .fire 0)]

/-- **A handle can outlive its entry, and an expiry can go uncounted**, though no timer is left to
ring. -/
theorem handle_outlives_entry :
    (¬ ∀ history cache, Run 4 history cache → (∀ timer, cache.timers.get? timer = none) →
      ∀ dst : Node, (cache : RouteCache Nat).handles.get? dst ≠ none ↔ cache.slot? dst ≠ none) ∧
    ¬ ∀ history cache, Run 4 history cache → (∀ timer, cache.timers.get? timer = none) →
      (cache : RouteCache Nat).tally.evictions = (leavers history).length := by
  have run : Run 4 overlooked _ := Automaton.Run.of_replay (automaton Nat) _ _ (by decide)
  constructor
  · intro known
    have cached := (known overlooked _ run (fun _ => rfl) firstDst).mp (Option.some_ne_none _)
    exact cached rfl
  · intro counted
    exact absurd (counted overlooked _ run fun _ => rfl) (by decide)

end Wayfinder.RouteCache
