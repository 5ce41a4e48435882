/-
**Single flight.**

Calls for one destination share one round trip: the first one leads, those who come while it leads
join it, and hear its outcome. When it is given up they start over, and the first of them leads in
its place. A round trip is shared while it is under way only; what it has found is shared through the
cache, if it can be stored.

* `Run.access`: a call whose turn has come is answered from the cache, joins or leads;
* `SingleFlight`: what holds in every uninterrupted run;
* `Run.singleFlight`: that it holds;
* `single_flight_limits`: what does not hold, even then.
-/

import Wayfinder.Proofs.Resolver.Followers
import Wayfinder.Proofs.Resolver.Replay

namespace Wayfinder.Resolver

/-! ### The turn of a call -/

/-- The step in which a call joins another one that leads. -/
def Occurrence.Joins (occurrence : Occurrence) (id leader : CallId) (dst : Node)
    (generation : UInt64) : Prop :=
  occurrence.event = .proceed (.call id) ∧
    occurrence.before.calls.get? id = some ⟨dst, .joining generation⟩ ∧
    (∃ lead, occurrence.before.marking? leader = some (dst, lead) ∧
      lead.generation = generation) ∧
    occurrence.after.calls.get? id = some ⟨dst, .following leader generation⟩

/-- The step in which a call begins to lead, while no call leads to its destination in its
generation. -/
def Occurrence.LeadsAlone (occurrence : Occurrence) (id : CallId) (dst : Node)
    (generation : UInt64) : Prop :=
  occurrence.Leads id dst ⟨generation, occurrence.now⟩ ∧
    ∀ other lead, occurrence.before.marking? other = some (dst, lead) →
      lead.generation ≠ generation

/-- The step in which a call looks its destination up. -/
def Occurrence.LooksUp (occurrence : Occurrence) (id : CallId) (dst : Node) : Prop :=
  occurrence.event = .proceed (.call id) ∧
    occurrence.before.calls.get? id = some ⟨dst, .lookingUp⟩

namespace Run

variable {capacity : Nat} {timeout : Duration} {history : List Occurrence} {state : State}

/-- **A call that joins with the present generation joins the call that leads in it, or leads
alone.** -/
theorem joins_or_leads (run : Run capacity timeout history state)
    (uninterrupted : Uninterrupted history) (few : purges history < UInt64.size)
    {position : Nat} {occurrence : Occurrence} (here : history[position]? = some occurrence)
    {id : CallId} {dst : Node} {generation : UInt64}
    (event : occurrence.event = .proceed (.call id))
    (joining : occurrence.before.calls.get? id = some ⟨dst, .joining generation⟩) :
    (∃ leader, occurrence.Joins id leader dst generation) ∨
      occurrence.LeadsAlone id dst generation := by
  have earlier := run.take here
  have exclusive := run.exclusive_take uninterrupted few here
  by_cases marked : ∃ leader, occurrence.before.markers.get? dst = some ⟨generation, leader⟩
  · obtain ⟨leader, marked⟩ := marked
    obtain ⟨lead, marking, same⟩ := earlier.linked.marked dst _ marked
    refine Or.inl ⟨leader, event, joining, ⟨lead, marking, same⟩, ?_⟩
    rw [Occurrence.after_eq, event, step_follow joining marked]
    exact Table.get?_put_self ..
  · have unmarked : ∀ leader, occurrence.before.markers.get? dst ≠ some ⟨generation, leader⟩ :=
      fun leader found => marked ⟨leader, found⟩
    refine Or.inr ⟨⟨event, joining, rfl, ?_⟩, fun other lead marking same => ?_⟩
    · rw [Occurrence.effects_eq, event, step_lead joining unmarked]
      exact List.mem_singleton_self _
    · have current := exclusive.joining id dst generation joining
      have held := exclusive.holder other dst lead marking (same.trans current)
      exact unmarked other (same ▸ held)

/-- **A call that looks its destination up is answered from the cache, or goes on to read the
generation and joins or leads with it.** -/
theorem access (run : Run capacity timeout history state) (uninterrupted : Uninterrupted history)
    (few : purges history < UInt64.size) {position : Nat} {id : CallId} {dst : Node}
    (looks : At history position (·.LooksUp id dst)) :
    At history position (∃ finding, .finish id (.ok finding) ∈ ·.effects) ∨
      (position + 2 < history.length → ∃ generation,
        At history (position + 1) (·.Reads id dst generation) ∧
        At history (position + 2) fun occurrence =>
          (∃ leader, occurrence.Joins id leader dst generation) ∨
            occurrence.LeadsAlone id dst generation) := by
  obtain ⟨first, here, event, looking⟩ := looks
  cases looked : (first.before.cache.get dst first.now).1 with
  | some finding =>
    refine Or.inl ⟨first, here, finding, ?_⟩
    rw [Occurrence.effects_eq, event, step_hit looking looked]
    exact List.mem_singleton_self _
  | none =>
    refine Or.inr fun long => ?_
    obtain ⟨second, there⟩ : ∃ second, history[position + 1]? = some second :=
      ⟨_, List.getElem?_eq_getElem (by omega)⟩
    obtain ⟨third, last⟩ : ∃ third, history[position + 2]? = some third :=
      ⟨_, List.getElem?_eq_getElem long⟩
    have reading : second.before.calls.get? id = some ⟨dst, .readingGeneration⟩ := by
      rw [run.before_eq_after here there, Occurrence.after_eq, event, step_miss looking looked]
      exact Table.get?_put_self ..
    have event' := uninterrupted second (List.mem_of_getElem? there) id _ reading rfl
    have joining : third.before.calls.get? id =
        some ⟨dst, .joining second.before.cache.generation⟩ := by
      rw [run.before_eq_after there last, Occurrence.after_eq, event', step_read reading]
      exact Table.get?_put_self ..
    have event'' := uninterrupted third (List.mem_of_getElem? last) id _ joining rfl
    exact ⟨second.before.cache.generation, ⟨second, there, event', reading, rfl⟩, third, last,
      run.joins_or_leads uninterrupted few last event'' joining⟩

/-- **Whoever leads next in a generation finds the one before it without its mark.** -/
theorem relay (run : Run capacity timeout history state) (uninterrupted : Uninterrupted history)
    (few : purges history < UInt64.size) {first second : Nat} {id other : CallId} {dst : Node}
    {lead lead' : Lead} (leads : At history first (·.Leads id dst lead))
    (leads' : At history second (·.Leads other dst lead'))
    (same : lead.generation = lead'.generation) (before : first < second) :
    At history second (·.before.marking? id = none) := by
  obtain ⟨occurrence, earlier, here, event, joining, _, asked⟩ := run.take_of_at leads'
  have exclusive := run.exclusive_take uninterrupted few here
  refine ⟨occurrence, here, ?_⟩
  rcases occurrence.move.ask_cases asked with ⟨_, _, _, _, _, calling, unmarked, _⟩ | ⟨differs, _⟩
  · rw [joining] at calling
    cases calling
    cases marking : occurrence.before.marking? id with
    | none => rfl
    | some shown =>
      obtain ⟨place, led⟩ := shown
      obtain ⟨stage, here', marked⟩ := leadOf_eq_some.mp marking
      obtain ⟨trip, ⟨rfl, rfl, rfl⟩, begun⟩ :=
        (earlier.documented.calls _ _ here').begun (Stage.telling?_of_lead? marked)
      obtain ⟨_, toward, led⟩ := earlier.leads_unique begun.leads (leads.take before)
      have current := exclusive.joining other _ _ joining
      rw [toward, led] at marking
      have held := exclusive.holder _ _ _ marking (same.trans current)
      exact absurd (same ▸ held) (unmarked _)
  · exact absurd rfl differs

end Run

/-! ### What holds in every uninterrupted run -/

/-- Calls for one destination share one round trip. -/
structure SingleFlight (history : List Occurrence) (state : State) : Prop where
  /-- There is at most one call for a destination and a generation that leads and has not given its
  mark back. -/
  single : ∀ id other dst lead lead', state.marking? id = some (dst, lead) →
    state.marking? other = some (dst, lead') → lead.generation = lead'.generation → id = other
  /-- A mark belongs to a call that leads to its destination in its generation. -/
  marked : ∀ dst marker, state.markers.get? dst = some marker →
    ∃ lead, state.marking? marker.leader = some (dst, lead) ∧ lead.generation = marker.generation
  /-- A channel at which a call waits is shut, or its other end is held by a call that leads to the
  same destination in the generation with which the one who waits has joined. -/
  served : ∀ id leader dst generation,
    state.calls.get? id = some ⟨dst, .following leader generation⟩ →
    ∃ channel, state.channels.get? leader = some channel ∧ (channel = .open →
      ∃ lead, state.telling? leader = some (dst, lead) ∧ lead.generation = generation)
  /-- When a channel is shut, everyone who waits at it is roused. -/
  roused : ∀ position id leader dst generation, (At history position fun occurrence =>
      occurrence.before.calls.get? id = some ⟨dst, .following leader generation⟩ ∧
        occurrence.before.channels.get? leader = some .open ∧
        occurrence.after.channels.get? leader ≠ some .open) →
    At history position (.rouse (.call id) ∈ ·.effects)
  /-- While no call is under way there are no marks. -/
  clear : state.calls.entries = [] → state.markers.entries = []
  /-- A call that has joined ends with the very outcome that the one it follows has told. -/
  heard : ∀ position id leader dst generation outcome, (At history position fun occurrence =>
      occurrence.before.calls.get? id = some ⟨dst, .following leader generation⟩ ∧
        .finish id outcome ∈ occurrence.effects) →
    ∃ told lead, told < position ∧ lead.generation = generation ∧
      At history told (·.Tells leader dst lead outcome)
  /-- Who followed a call that was given up starts over. -/
  startsOver : ∀ dropped position id leader dst generation,
    At history dropped (·.Drops leader) → dropped < position →
    (At history position fun occurrence => occurrence.event = .proceed (.call id) ∧
      occurrence.before.calls.get? id = some ⟨dst, .following leader generation⟩) →
    At history position fun occurrence =>
      occurrence.after.calls.get? id = some ⟨dst, .lookingUp⟩ ∧ occurrence.effects = []
  /-- Whoever starts, or starts over, is answered from the cache, joins the call that leads in the
  generation that it then reads, or leads if there is none. -/
  access : ∀ position id dst, At history position (·.LooksUp id dst) →
    At history position (∃ finding, .finish id (.ok finding) ∈ ·.effects) ∨
      (position + 2 < history.length → ∃ generation,
        At history (position + 1) (·.Reads id dst generation) ∧
        At history (position + 2) fun occurrence =>
          (∃ leader, occurrence.Joins id leader dst generation) ∨
            occurrence.LeadsAlone id dst generation)
  /-- Whoever leads next in a generation finds the one before it without its mark. -/
  relay : ∀ first second id other dst lead lead', At history first (·.Leads id dst lead) →
    At history second (·.Leads other dst lead') → lead.generation = lead'.generation →
    first < second → At history second (·.before.marking? id = none)

/-! ### The limits -/

/-- The first call is given up. Of the two that have joined it one leads and ends without anything to
store, and then the other leads, in the same generation. -/
def retaken : List Occurrence :=
  automaton.replay (.initial 4 100) <|
    turns 0 0 "7-71" ++ turns 0 1 "7-71" ++ turns 0 2 "7-71" ++
      [(1, .cancel 0), (1, .proceed (.call 1)), (1, .proceed (.call 1)), (1, .proceed (.call 1)),
        (1, .proceed (.call 1)), (1, .answer 1 (.node (.ok sampleSrc))),
        (1, .answer 1 (.candidates (.ok []))), (1, .answer 1 (.compliant (.ok []))),
        (1, .proceed (.call 1)), (1, .proceed (.call 1)), (1, .proceed (.call 1)),
        (1, .proceed (.call 2)), (1, .proceed (.call 2)), (1, .proceed (.call 2)),
        (1, .proceed (.call 2))]

theorem retaken_uninterrupted : Uninterrupted retaken :=
  uninterrupted_of_entries (by decide +kernel)

theorem retaken_first : At retaken 16 (·.Leads 1 sampleDst ⟨0, 1⟩) :=
  ⟨_, rfl, rfl, by decide +kernel, rfl, by decide +kernel⟩

theorem retaken_second : At retaken 26 (·.Leads 2 sampleDst ⟨0, 1⟩) :=
  ⟨_, rfl, rfl, by decide +kernel, rfl, by decide +kernel⟩

/-- A call that has given its mark back but not told its outcome yet, and one that leads already. -/
def overlapping : List (Timestamp × Event) :=
  turns 0 0 "7-71" ++
    [(0, .answer 0 (.node (.ok sampleSrc))), (0, .answer 0 (.candidates (.ok []))),
      (0, .answer 0 (.compliant (.ok []))), (0, .proceed (.call 0)), (0, .proceed (.call 0))] ++
    turns 0 1 "7-71"

/-- The first call is overtaken by a purge and then by the second one, which is given up. -/
def deserted : List (Timestamp × Event) :=
  turns 0 0 "7-71" ++ (0, .purge) :: turns 0 1 "7-71" ++ [(0, .cancel 1)]

/-- When the generation has come back, a call leads beside one of the first time. -/
theorem leads_recur {count : Nat} (round : (1 : UInt64) + UInt64.ofNat count = 0) :
    ∃ history state, Run 4 100 history state ∧ Uninterrupted history ∧
      state.marking? 0 = some (sampleDst, ⟨0, 0⟩) ∧
      state.marking? 2 = some (sampleDst, ⟨0, 0⟩) := by
  have run := Run.of_replay 4 100
    (deserted ++ (List.replicate count (0, .purge) ++ turns 0 2 "7-71")) (by
      rw [List.filterMap_append, List.filterMap_append, List.filterMap_replicate_of_none rfl]
      decide)
  rw [Automaton.replay_append, Automaton.replay_append, Automaton.arrive_append,
    Automaton.arrive_append] at run
  have settled : (automaton.arrive (.initial 4 100) deserted).Settled :=
    settled_of_entries (by decide +kernel)
  have begun : (automaton.arrive (.initial 4 100) deserted).cache.generation = 1 := by decide +kernel
  have bare : (automaton.arrive (.initial 4 100) deserted).cache.slot? sampleDst = none := by
    rw [← Option.isNone_iff_eq_none]
    decide +kernel
  have free : (automaton.arrive (.initial 4 100) deserted).markers.get? sampleDst = none := by
    decide +kernel
  have leading :
      (automaton.arrive (.initial 4 100) deserted).marking? 0 = some (sampleDst, ⟨0, 0⟩) := by
    decide +kernel
  have before : Uninterrupted (automaton.replay (.initial 4 100) deserted) :=
    uninterrupted_of_entries (by decide +kernel)
  have parsed : Node.parseTrimmed "7-71" = .ok sampleDst := rfl
  generalize automaton.arrive (.initial 4 100) deserted = state at *
  obtain ⟨cache, arrived, generation, empty⟩ := arrive_purges state 0 count
  rw [begun, round] at generation
  have between := uninterrupted_purges settled 0 count
  rw [arrived] at run
  have settled' : ({ state with cache } : State).Settled := settled
  obtain ⟨after, leads, others⟩ :=
    turns_lead 2 0 settled' parsed (empty sampleDst bare) (by simp [free])
  refine ⟨_, _, run, uninterrupted_append before (uninterrupted_append between after),
    (others 0 (by decide)).trans leading, ?_⟩
  rw [leads, generation]

/-- **What does not hold, even in uninterrupted runs.** Two calls that followed the same one can both
lead in one generation, one after the other; a call can lead while another one of its generation has
yet to tell its outcome; and when the generation has run through all its values, two calls that have
their marks can lead in one generation. -/
theorem single_flight_limits :
    (¬ ∀ history state, Run 4 100 history state → Uninterrupted history →
      purges history < UInt64.size → ∀ leader first second dst lead lead' dropped one two,
        (At history dropped fun occurrence => occurrence.Drops leader ∧
          (∃ generation,
            occurrence.before.calls.get? first = some ⟨dst, .following leader generation⟩) ∧
          ∃ generation,
            occurrence.before.calls.get? second = some ⟨dst, .following leader generation⟩) →
        dropped < one → At history one (·.Leads first dst lead) →
        dropped < two → At history two (·.Leads second dst lead') →
        lead.generation = lead'.generation → first = second) ∧
    (¬ ∀ history state, Run 4 100 history state → Uninterrupted history →
      purges history < UInt64.size → ∀ first second dst lead lead',
        state.telling? first = some (dst, lead) → state.telling? second = some (dst, lead') →
        lead.generation = lead'.generation → first = second) ∧
    ¬ ∀ history state, Run 4 100 history state → Uninterrupted history →
      ∀ first second dst lead lead',
        state.marking? first = some (dst, lead) → state.marking? second = some (dst, lead') →
        lead.generation = lead'.generation → first = second := by
  refine ⟨fun alone => ?_, fun alone => ?_, fun alone => ?_⟩
  · have run : Run 4 100 retaken _ := Run.of_replay 4 100 _ (by decide)
    have dropped : At retaken 12 fun occurrence => occurrence.Drops 0 ∧
        (∃ generation,
          occurrence.before.calls.get? 1 = some ⟨sampleDst, .following 0 generation⟩) ∧
        ∃ generation,
          occurrence.before.calls.get? 2 = some ⟨sampleDst, .following 0 generation⟩ :=
      ⟨_, rfl, ⟨rfl, sampleDst, ⟨0, 0⟩, by decide +kernel⟩, ⟨0, by decide +kernel⟩, 0,
        by decide +kernel⟩
    have same := alone retaken _ run retaken_uninterrupted (by decide +kernel) 0 1 2 _ _ _ 12 16 26
      dropped (by decide) retaken_first (by decide) retaken_second rfl
    cases same
  · have run := Run.of_replay 4 100 overlapping (by decide)
    have uninterrupted : Uninterrupted (automaton.replay (.initial 4 100) overlapping) :=
      uninterrupted_of_entries (by decide +kernel)
    have first :
        (automaton.arrive (.initial 4 100) overlapping).telling? 0 = some (sampleDst, ⟨0, 0⟩) := by
      decide +kernel
    have second :
        (automaton.arrive (.initial 4 100) overlapping).telling? 1 = some (sampleDst, ⟨0, 0⟩) := by
      decide +kernel
    have same := alone _ _ run uninterrupted (by decide +kernel) 0 1 _ _ _ first second rfl
    cases same
  · obtain ⟨history, state, run, uninterrupted, first, second⟩ :=
      leads_recur (show (1 : UInt64) + UInt64.ofNat (UInt64.size - 1) = 0 by decide)
    have same := alone history state run uninterrupted 0 2 _ _ _ first second rfl
    cases same

namespace Run

variable {capacity : Nat} {timeout : Duration} {history : List Occurrence} {state : State}

/-- **Every uninterrupted run with fewer than `2 ^ 64` purges is single flight.** -/
theorem singleFlight (run : Run capacity timeout history state)
    (uninterrupted : Uninterrupted history) (few : purges history < UInt64.size) :
    SingleFlight history state where
  single := (run.exclusive uninterrupted few).single
  marked := run.linked.marked
  served := fun _ _ _ _ following => run.served following
  roused := by
    rintro position id leader dst generation ⟨occurrence, here, following, opened, shut⟩
    exact ⟨occurrence, here, occurrence.move.rouses following opened shut⟩
  clear := by
    intro none
    refine Table.entries_eq_nil fun dst => ?_
    cases found : state.markers.get? dst with
    | none => rfl
    | some marker =>
      obtain ⟨lead, marking, _⟩ := run.linked.marked dst marker found
      obtain ⟨stage, here, _⟩ := leadOf_eq_some.mp marking
      have member := Table.mem_entries_of_get? here
      rw [none] at member
      cases member
  heard := fun _ _ _ _ _ _ hears => run.heard hears
  startsOver := fun _ _ _ _ _ _ drops after turn => run.starts_over drops after turn
  access := fun _ _ _ looks => run.access uninterrupted few looks
  relay := fun _ _ _ _ _ _ _ leads leads' same before =>
    run.relay uninterrupted few leads leads' same before

end Run

/-- In the run in which two calls lead one after the other, the first has no mark when the second
begins. -/
theorem singleFlight_retaken : At retaken 26 (·.before.marking? 1 = none) := by
  have run : Run 4 100 retaken _ := Run.of_replay 4 100 _ (by decide)
  have few : purges retaken < UInt64.size := by decide +kernel
  exact (run.singleFlight retaken_uninterrupted few).relay 16 26 1 2 _ _ _ retaken_first
    retaken_second rfl (by decide)

end Wayfinder.Resolver
