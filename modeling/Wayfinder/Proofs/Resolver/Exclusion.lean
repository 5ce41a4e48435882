/-
**One leading call for each destination and generation.**

Between its lookup and its access to the marks a call reads the generation. When nothing comes in
between, the generation that a call joins with is the present one, and this excludes that two calls
lead to one destination in one generation: whoever leads in the present generation holds the mark of
the destination, and in an earlier generation nobody begins to lead any more.

* `Uninterrupted`: histories in which nothing comes in between;
* `Sole`: what excludes two leading calls for a destination, as long as new marks are of the present
  generation;
* `Exclusive`: what then holds of all marks and leads;
* `Run.exclusive`: it holds in every such run with fewer than `2 ^ 64` purges.
-/

import Wayfinder.Proofs.Resolver.Trip

namespace Wayfinder.Resolver

/-- Whether a call stands between its lookup and its access to the marks. -/
def Stage.accessing : Stage → Bool
  | .readingGeneration | .joining _ => true
  | _ => false

/-- A call that has missed the cache goes on up to its access to the marks before anything else
happens. -/
def Uninterrupted (history : List Occurrence) : Prop :=
  ∀ occurrence ∈ history, ∀ id call, occurrence.before.calls.get? id = some call →
    call.stage.accessing = true → occurrence.event = .proceed (.call id)

/-- The call whose turn an event is. -/
def Event.turn? : Event → Option CallId
  | .proceed (.call id) => some id
  | _ => none

/-- Whether nothing comes in between can be checked on the entries of the tables. -/
theorem uninterrupted_of_entries {history : List Occurrence}
    (turns : ∀ occurrence ∈ history, ∀ entry ∈ occurrence.before.calls.entries,
      entry.2.stage.accessing = true → occurrence.event.turn? = some entry.1) :
    Uninterrupted history := by
  intro occurrence member id call here accessing
  have turn := turns occurrence member _ (Table.mem_entries_of_get? here) accessing
  unfold Event.turn? at turn
  split at turn
  · next event =>
    cases turn
    exact event
  · cases turn

/-- In what came before nothing came in between either. -/
theorem Uninterrupted.take {history : List Occurrence} (uninterrupted : Uninterrupted history)
    (count : Nat) : Uninterrupted (history.take count) :=
  fun occurrence member => uninterrupted occurrence (List.mem_of_mem_take member)

/-- What excludes two leading calls for a destination in one generation. -/
structure Sole (dst : Node) (state : State) : Prop where
  /-- Whoever leads in the present generation holds the mark. -/
  holder : ∀ id lead, state.marking? id = some (dst, lead) →
    lead.generation = state.cache.generation →
    state.markers.get? dst = some ⟨lead.generation, id⟩
  /-- Two leading calls differ in their generations. -/
  single : ∀ id other lead lead', state.marking? id = some (dst, lead) →
    state.marking? other = some (dst, lead') → lead.generation = lead'.generation → id = other

/-- What excludes two leading calls for one destination in one generation, where calls join with the
present generation. -/
structure Exclusive (state : State) : Prop where
  /-- A call joins with the present generation. -/
  joining : ∀ id dst generation, state.calls.get? id = some ⟨dst, .joining generation⟩ →
    generation = state.cache.generation
  /-- Whoever leads in the present generation holds the mark. -/
  holder : ∀ id dst lead, state.marking? id = some (dst, lead) →
    lead.generation = state.cache.generation →
    state.markers.get? dst = some ⟨lead.generation, id⟩
  /-- Two leading calls differ in their destinations or in their generations. -/
  single : ∀ id other dst lead lead', state.marking? id = some (dst, lead) →
    state.marking? other = some (dst, lead') → lead.generation = lead'.generation → id = other

theorem Exclusive.sole {state : State} (exclusive : Exclusive state) (dst : Node) :
    Sole dst state :=
  ⟨fun id lead => exclusive.holder id dst lead,
    fun id other lead lead' => exclusive.single id other dst lead lead'⟩

/-! ### What a step does to marks -/

section Marks

variable {now : Timestamp} {state after : State} {dst : Node}

/-- **A mark that is there after a step was there before, or its call has begun to lead** where no
mark of its generation stood. -/
theorem Move.marker_before {event : Event} {effects : Effects}
    (move : Move now state event after effects) {marker : Marker}
    (found : after.markers.get? dst = some marker) :
    state.markers.get? dst = some marker ∨
      event = .proceed (.call marker.leader) ∧
        state.calls.get? marker.leader = some ⟨dst, .joining marker.generation⟩ ∧
        (∀ leader, state.markers.get? dst ≠ some ⟨marker.generation, leader⟩) ∧
        .ask (.call marker.leader) .localNode (some state.timeout) ∈ effects := by
  cases move with
  | lead here unmarked =>
    rw [lead_markers] at found
    rcases Table.get?_of_put found with ⟨rfl, rfl⟩ | old
    · exact Or.inr ⟨rfl, here, unmarked, List.mem_singleton_self _⟩
    · exact Or.inl old
  | release | abandon =>
    simp only [State.moveTo_markers, State.announce_markers, State.dismiss_markers,
      State.get?_unmark_markers] at found
    split at found
    · cases found
    · exact Or.inl found
  | _ => exact Or.inl found

/-- A call that has its mark after a step had it before, or is the one that begins to lead. -/
theorem LeadChange.marking_before (change : LeadChange now state after) {id : CallId} {lead : Lead}
    (found : after.marking? id = some (dst, lead)) :
    state.marking? id = some (dst, lead) ∨
      state.calls.get? id = some ⟨dst, .joining lead.generation⟩ ∧
        after.markers.get? dst = some ⟨lead.generation, id⟩ ∧
        (∀ leader, state.markers.get? dst ≠ some ⟨lead.generation, leader⟩) ∧
        ∀ other, other ≠ id → after.marking? other = state.marking? other := by
  cases change with
  | keep markers channels marking telling => exact Or.inl ((marking id).symm.trans found)
  | @lead other place generation here unmarked =>
    rw [State.marking?, lead_calls, leadOf_put] at found
    split at found
    · next same =>
      subst same
      cases found
      refine Or.inr ⟨here, ?_, unmarked, fun another differs => ?_⟩
      · rw [lead_markers, Table.get?_put_self]
      · rw [State.marking?, lead_calls, leadOf_put, if_neg differs.symm]
    · exact Or.inl found
  | release here =>
    rw [State.marking?, State.moveTo_calls, State.unmark_calls, leadOf_put] at found
    split at found
    · cases found
    · exact Or.inl found
  | settle here shut =>
    rw [State.marking?, State.dismiss_calls, State.announce_calls, leadOf_erase] at found
    split at found
    · cases found
    · exact Or.inl found
  | abandon here leading =>
    rw [State.marking?, State.announce_calls, State.dismiss_calls, State.unmark_calls,
      leadOf_erase] at found
    split at found
    · cases found
    · exact Or.inl found

end Marks

/-! ### Leading alone -/

namespace Sole

variable {dst : Node} {state : State}

/-- When a leading call gives its mark back, another one that leads in the present generation holds
its own still. -/
theorem held_of_unmark (sole : Sole dst state) {id other : CallId} {place : Node}
    {led lead : Lead} (leading : state.marking? id = some (place, led))
    (marking : state.marking? other = some (dst, lead)) (differs : id ≠ other)
    (current : lead.generation = state.cache.generation) :
    (state.unmark place led.generation).markers.get? dst = some ⟨lead.generation, other⟩ := by
  have held := sole.holder other lead marking current
  rw [State.get?_unmark_markers, held, Option.map_some]
  refine if_neg ?_
  rintro ⟨rfl, taken⟩
  exact differs (sole.single id other led lead leading marking (Option.some.inj taken).symm)

section Step

variable {now : Timestamp} {event : Event} {after : State} {effects : Effects}

/-- **After a step whoever leads in the present generation holds the mark**, if a new mark is of the
present generation. -/
theorem holder_step (sole : Sole dst state) (move : Move now state event after effects)
    (change : LeadChange now state after)
    (past : event = .purge → ∀ id lead, state.marking? id = some (dst, lead) →
      lead.generation ≠ state.cache.generation + 1)
    (present : ∀ marker, after.markers.get? dst = some marker →
      state.markers.get? dst ≠ some marker → marker.generation = state.cache.generation)
    (other : CallId) (lead : Lead) (found : after.marking? other = some (dst, lead))
    (current : lead.generation = after.cache.generation) :
    after.markers.get? dst = some ⟨lead.generation, other⟩ := by
  cases change with
  | keep markers channels marking telling =>
    rw [marking] at found
    rw [markers]
    rw [move.generation] at current
    split at current
    · next purge =>
      have event : event = .purge := by
        cases event <;> first | rfl | cases purge
      exact absurd current (past event other lead found)
    · exact sole.holder other lead found current
  | @lead id place generation here unmarked =>
    rw [State.marking?, lead_calls, leadOf_put] at found
    rw [lead_cache] at current
    rw [lead_markers, Table.get?_put] at present ⊢
    split at found
    · next same =>
      subst same
      cases found
      exact if_pos rfl
    · have held := sole.holder other lead found current
      split
      · next same =>
        subst same
        have same : generation = lead.generation :=
          (present _ (if_pos rfl) (unmarked id)).trans current.symm
        exact absurd held (same ▸ unmarked other)
      · exact held
  | release here =>
    rw [State.marking?, State.moveTo_calls, State.unmark_calls, leadOf_put] at found
    rw [State.moveTo_cache, State.unmark_cache] at current
    split at found
    · cases found
    · next differs =>
      exact sole.held_of_unmark (leadOf_eq_some.mpr ⟨_, here, rfl⟩) found differs current
  | settle here shut =>
    rw [State.marking?, State.dismiss_calls, State.announce_calls, leadOf_erase] at found
    split at found
    · cases found
    · exact sole.holder other lead found current
  | abandon here leading =>
    rw [State.marking?, State.announce_calls, State.dismiss_calls, State.unmark_calls,
      leadOf_erase] at found
    rw [State.announce_cache, State.dismiss_cache, State.unmark_cache] at current
    split at found
    · cases found
    · next differs =>
      exact sole.held_of_unmark (leadOf_eq_some.mpr ⟨_, here, leading⟩) found differs current

/-- **After a step there is one leading call at most.** A call that begins to lead finds no mark of
the present generation, and so nobody leads in it. -/
theorem single_step (sole : Sole dst state) (change : LeadChange now state after)
    (present : ∀ marker, after.markers.get? dst = some marker →
      state.markers.get? dst ≠ some marker → marker.generation = state.cache.generation)
    (id other : CallId) (lead lead' : Lead) (found : after.marking? id = some (dst, lead))
    (found' : after.marking? other = some (dst, lead'))
    (same : lead.generation = lead'.generation) : id = other := by
  -- nobody leads in the present generation while a call begins to
  have apart {id other : CallId} {lead lead' : Lead}
      (marked : after.markers.get? dst = some ⟨lead.generation, id⟩)
      (unmarked : ∀ leader, state.markers.get? dst ≠ some ⟨lead.generation, leader⟩)
      (marking : state.marking? other = some (dst, lead'))
      (same : lead.generation = lead'.generation) : False := by
    have current := present _ marked (unmarked id)
    have held := sole.holder other lead' marking (same ▸ current)
    exact unmarked other (same ▸ held)
  rcases change.marking_before found with old | ⟨calling, marked, unmarked, _⟩
  · rcases change.marking_before found' with old' | ⟨_, marked, unmarked, _⟩
    · exact sole.single id other lead lead' old old' same
    · exact (apart marked unmarked old same.symm).elim
  · rcases change.marking_before found' with old' | ⟨_, _, _, others⟩
    · exact (apart marked unmarked old' same).elim
    · by_cases equal : id = other
      · exact equal
      · rw [others id equal] at found
        obtain ⟨stage, here, leading⟩ := leadOf_eq_some.mp found
        rw [here] at calling
        cases calling
        cases leading

/-- **Leading calls for a destination exclude each other again**, if a new mark is of the present
generation. -/
theorem step (sole : Sole dst state) (move : Move now state event after effects)
    (change : LeadChange now state after)
    (past : event = .purge → ∀ id lead, state.marking? id = some (dst, lead) →
      lead.generation ≠ state.cache.generation + 1)
    (present : ∀ marker, after.markers.get? dst = some marker →
      state.markers.get? dst ≠ some marker → marker.generation = state.cache.generation) :
    Sole dst after :=
  ⟨sole.holder_step move change past present, sole.single_step change present⟩

end Step

end Sole

namespace Exclusive

variable {state : State}

/-- **After a step a call joins with the present generation again**: it has just read it. -/
theorem joining_step (exclusive : Exclusive state) {now : Timestamp} {event : Event}
    {after : State} {effects : Effects} (move : Move now state event after effects)
    (uninterrupted : ∀ id call, state.calls.get? id = some call → call.stage.accessing = true →
      event = .proceed (.call id)) (other : CallId) (place : Node) (generation : UInt64)
    (found : after.calls.get? other = some ⟨place, .joining generation⟩) :
    generation = after.cache.generation := by
  have turn (before : state.calls.get? other = some ⟨place, .joining generation⟩) :
      event = .proceed (.call other) := uninterrupted other _ before rfl
  cases move with
  | read here =>
    rw [State.moveTo_calls, Table.get?_put] at found
    split at found
    · cases found
      rfl
    · next differs =>
      cases turn found
      exact absurd rfl differs
  | miss | follow | lead | retry | store | release =>
    simp only [State.moveTo_calls, State.unmark_calls, lead_calls, Table.get?_put] at found
    split at found
    · cases found
    · next differs =>
      cases turn found
      exact absurd rfl differs
  | hit | hear | publish =>
    simp only [State.dismiss_calls, State.announce_calls, Table.get?_erase] at found
    split at found
    · cases found
    · next differs =>
      cases turn found
      exact absurd rfl differs
  | begin | locate | explore | consult | fail =>
    rcases Table.get?_of_put found with ⟨_, same⟩ | before
    · cases same
    · cases turn before
  | abandon =>
    rw [State.announce_calls, State.dismiss_calls, State.unmark_calls] at found
    cases turn (Table.get?_of_erase found)
  | withhold | leave => cases turn (Table.get?_of_erase found)
  | refuse | fire | purge => cases turn found
  | idle => exact exclusive.joining other place generation found

/-- **After a step leading calls exclude each other again.** -/
theorem step (exclusive : Exclusive state) {now : Timestamp} {event : Event} {after : State}
    {effects : Effects} (move : Move now state event after effects)
    (change : LeadChange now state after)
    (past : event = .purge → ∀ id dst lead, state.marking? id = some (dst, lead) →
      lead.generation ≠ state.cache.generation + 1)
    (uninterrupted : ∀ id call, state.calls.get? id = some call → call.stage.accessing = true →
      event = .proceed (.call id)) : Exclusive after := by
  have sole (dst : Node) : Sole dst after := by
    refine (exclusive.sole dst).step move change (fun purge id lead => past purge id dst lead) ?_
    intro marker found new
    rcases move.marker_before found with old | ⟨_, here, _⟩
    · exact absurd old new
    · exact exclusive.joining _ dst _ here
  exact ⟨exclusive.joining_step move uninterrupted, fun id dst => (sole dst).holder id,
    fun id other dst => (sole dst).single id other⟩

end Exclusive

namespace Run

variable {capacity : Nat} {timeout : Duration} {history : List Occurrence} {state : State}

/-- A leading call has read a generation that was present at some time. -/
theorem generation_le (run : Run capacity timeout history state)
    (few : purges history < UInt64.size) {id : CallId} {dst : Node} {lead : Lead}
    (telling : state.telling? id = some (dst, lead)) : lead.generation.toNat ≤ purges history := by
  obtain ⟨stage, here, told⟩ := leadOf_eq_some.mp telling
  obtain ⟨trip, ⟨rfl, rfl, rfl⟩, begun⟩ := (run.documented.calls id _ here).begun told
  rw [run.generation_at few (begun.reads.mono fun _ reads => reads.2.2)]
  exact purges_take_le ..

/-- The generation that a purge begins is not that of any leading call. -/
theorem generation_ne (run : Run capacity timeout history state) {now : Timestamp}
    (few : purges (history ++ [⟨state, now, .purge⟩]) < UInt64.size) {id : CallId} {dst : Node}
    {lead : Lead} (marking : state.marking? id = some (dst, lead)) :
    lead.generation ≠ state.cache.generation + 1 := by
  intro same
  rw [purges_append] at few
  have next : purges history + 1 < UInt64.size := few
  have earlier : purges history < UInt64.size := Nat.lt_of_succ_lt next
  have bound := run.generation_le earlier (State.telling?_of_marking? marking)
  rw [← run.generation_toNat earlier] at bound next
  rw [same, UInt64.toNat_add] at bound
  have sum : (state.cache.generation.toNat + (1 : UInt64).toNat) % 2 ^ 64 =
    state.cache.generation.toNat + 1 := Nat.mod_eq_of_lt next
  omega

/-- **In every uninterrupted run with fewer than `2 ^ 64` purges leading calls exclude each other.** -/
theorem exclusive (run : Run capacity timeout history state) (uninterrupted : Uninterrupted history)
    (few : purges history < UInt64.size) : Exclusive state := by
  induction run with
  | initial =>
    refine ⟨fun id dst generation found => ?_, fun id dst lead found => ?_,
      fun id other dst lead lead' found => ?_⟩
    · cases found
    · cases found
    · cases found
  | @step history state run now event fresh hypothesis =>
    have exclusive := hypothesis
      (fun occurrence member => uninterrupted occurrence (List.mem_append_left _ member))
      (Nat.lt_of_le_of_lt (by rw [purges_append]; exact Nat.le_add_right ..) few)
    have turn : ∀ id call, state.calls.get? id = some call → call.stage.accessing = true →
        event = .proceed (.call id) :=
      uninterrupted ⟨state, now, event⟩ (List.mem_append_right _ (List.mem_singleton_self _))
    exact exclusive.step (move_step now event state) (leadChange run fresh now)
      (fun purge id dst lead marking => generation_ne run (purge ▸ few) marking) turn

/-- Leading calls exclude each other before each step. -/
theorem exclusive_take (run : Run capacity timeout history state)
    (uninterrupted : Uninterrupted history) (few : purges history < UInt64.size) {position : Nat}
    {occurrence : Occurrence} (here : history[position]? = some occurrence) :
    Exclusive occurrence.before :=
  (run.take here).exclusive (uninterrupted.take position)
    (Nat.lt_of_le_of_lt (purges_take_le ..) few)

end Run

end Wayfinder.Resolver
