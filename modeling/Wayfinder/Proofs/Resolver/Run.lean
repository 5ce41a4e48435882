/-
**Runs of the resolver.**

The resolver as an automaton, without routes at first: calls start, proceed, are answered and are
given up, timers ring, purges come in between, in any order and at any instants. The one condition is
that every call has a number of its own.

* `automaton`, `Run`: the runs of a resolver, with their histories and final states;
* `Run.generation_eq`: the generation counts the purges in 64 bits;
* `Run.purges_of_recurrence`, `Run.purged_lt`: between two steps with one generation there is no
  purge, or there are `2 ^ 64` of them;
* `Run.started_before`, `Run.started_unique`: a call that is under way has started, once.
-/

import Wayfinder.Proofs.History
import Wayfinder.Proofs.Resolver.Calls
import Wayfinder.Proofs.RouteCache.Entries

namespace Wayfinder.Resolver

/-- The number of the call that an event starts. -/
def Event.starting? : Event → Option CallId
  | .start id _ => some id
  | _ => none

/-- The resolver as an automaton. -/
def automaton : Automaton State Event Effects := ⟨step, Event.starting?⟩

theorem automaton_step (now : Timestamp) (event : Event) (state : State) :
    automaton.step now event state = step now event state := rfl

/-- A step that was taken. -/
abbrev Occurrence := automaton.Occurrence

/-- The runs of a resolver with a capacity and a timeout, with their histories and final states. -/
abbrev Run (capacity : Nat) (timeout : Duration) : List Occurrence → State → Prop :=
  automaton.Run (.initial capacity timeout)

theorem Occurrence.after_eq (occurrence : Occurrence) :
    occurrence.after = (step occurrence.now occurrence.event occurrence.before).1 := rfl

theorem Occurrence.effects_eq (occurrence : Occurrence) :
    occurrence.effects = (step occurrence.now occurrence.event occurrence.before).2 := rfl

/-- A step that was taken is a move. -/
theorem Occurrence.move (occurrence : Occurrence) :
    Move occurrence.now occurrence.before occurrence.event occurrence.after occurrence.effects :=
  move_step occurrence.now occurrence.event occurrence.before

/-! ### Purges -/

/-- How many purges a history holds. -/
def purges (history : List Occurrence) : Nat :=
  history.countP fun occurrence => occurrence.event.isPurge

theorem purges_append (first second : List Occurrence) :
    purges (first ++ second) = purges first + purges second := List.countP_append

theorem purges_take_le (history : List Occurrence) (count : Nat) :
    purges (history.take count) ≤ purges history :=
  (List.take_sublist count history).countP_le

/-- **A purge between two positions is counted at the second one only.** -/
theorem purges_take_lt {history : List Occurrence} {earlier purged later : Nat}
    (found : At history purged fun occurrence => occurrence.event = .purge)
    (after : earlier ≤ purged) (before : purged < later) :
    purges (history.take earlier) < purges (history.take later) := by
  obtain ⟨occurrence, here, purge⟩ := found
  have upTo : purges (history.take (purged + 1)) = purges (history.take purged) + 1 := by
    rw [List.take_add_one, here, purges_append]
    simp [purges, purge, Event.isPurge]
  have first : purges (history.take earlier) ≤ purges (history.take purged) := by
    have shorter := purges_take_le (history.take purged) earlier
    rwa [List.take_take, Nat.min_eq_left after] at shorter
  have second : purges (history.take (purged + 1)) ≤ purges (history.take later) := by
    have shorter := purges_take_le (history.take later) (purged + 1)
    rwa [List.take_take, Nat.min_eq_left before] at shorter
  omega

/-- Where more purges are counted at a position than at another one, there is a purge in between. -/
theorem purge_of_take_lt {history : List Occurrence} {earlier later : Nat}
    (more : purges (history.take earlier) < purges (history.take later)) :
    ∃ purged, earlier ≤ purged ∧ purged < later ∧ At history purged (·.event = .purge) := by
  induction later with
  | zero => exact absurd more (Nat.not_lt_zero _)
  | succ later hypothesis =>
    by_cases fewer : purges (history.take earlier) < purges (history.take later)
    · obtain ⟨purged, after, before, purge⟩ := hypothesis fewer
      exact ⟨purged, after, Nat.lt_succ_of_lt before, purge⟩
    · have after : earlier ≤ later := by
        refine Nat.le_of_not_lt fun beyond => Nat.not_lt.mpr ?_ more
        have shorter := purges_take_le (history.take earlier) (later + 1)
        rwa [List.take_take, Nat.min_eq_left beyond] at shorter
      rw [List.take_add_one, purges_append] at more
      cases here : history[later]? with
      | none =>
        rw [here] at more
        exact absurd more fewer
      | some occurrence =>
        refine ⟨later, after, Nat.lt_succ_self _, occurrence, here, ?_⟩
        cases event : occurrence.event with
        | purge => trivial
        | start | proceed | answer | cancel =>
          simp only [here, Option.toList_some, purges, List.countP_singleton, event, Event.isPurge,
            Bool.false_eq_true, if_false, Nat.add_zero] at more
          exact absurd more fewer

/-! ### Beginnings of runs -/

namespace Run

variable {capacity : Nat} {timeout : Duration} {history : List Occurrence} {state : State}

/-- What lies before a step is a run of the resolver. -/
theorem take (run : Run capacity timeout history state) {position : Nat} {occurrence : Occurrence}
    (here : history[position]? = some occurrence) :
    Run capacity timeout (history.take position) occurrence.before :=
  Automaton.Run.take run here

/-- A step at a position is a move out of a state that a run reaches. -/
theorem take_of_at (run : Run capacity timeout history state) {position : Nat}
    {holds : Occurrence → Prop} (found : At history position holds) :
    ∃ occurrence, Run capacity timeout (history.take position) occurrence.before ∧
      history[position]? = some occurrence ∧ holds occurrence := by
  obtain ⟨occurrence, here, held⟩ := found
  exact ⟨occurrence, run.take here, here, held⟩

end Run

/-! ### The generation -/

/-- A purge begins a new generation; no other step does. -/
theorem Move.generation {now : Timestamp} {state after : State} {event : Event} {effects : Effects}
    (move : Move now state event after effects) :
    after.cache.generation =
      if event.isPurge then state.cache.generation + 1 else state.cache.generation := by
  cases move with
  | store here quiet =>
    simp only [State.moveTo_cache, storedCache]
    split
    · rfl
    · exact RouteCache.insert_generation ..
  | release here => simp [Event.isPurge]
  | abandon here leading => simp [Event.isPurge]
  | fire => exact RouteCache.fire_generation ..
  | idle kept => rw [kept]; rfl
  | _ => rfl

namespace Run

variable {capacity : Nat} {timeout : Duration} {history : List Occurrence} {state : State}

/-- **The generation counts the purges in 64 bits.** -/
theorem generation_eq (run : Run capacity timeout history state) :
    state.cache.generation = UInt64.ofNat (purges history) := by
  induction run with
  | initial => rfl
  | @step history state run now event fresh hypothesis =>
    rw [automaton_step, (move_step now event state).generation, purges_append, hypothesis]
    cases purge : event.isPurge with
    | true => simp [purges, purge, UInt64.ofNat_add]
    | false => simp [purges, purge]

/-- While there are fewer than `2 ^ 64` purges, the generation is their number. -/
theorem generation_toNat (run : Run capacity timeout history state)
    (few : purges history < UInt64.size) : state.cache.generation.toNat = purges history := by
  rw [run.generation_eq, UInt64.toNat_ofNat_of_lt' few]

/-- The generation at a position is the number of purges before it. -/
theorem generation_at (run : Run capacity timeout history state)
    (few : purges history < UInt64.size) {position : Nat} {generation : UInt64}
    (found : At history position (·.before.cache.generation = generation)) :
    generation.toNat = purges (history.take position) := by
  obtain ⟨occurrence, earlier, _, same⟩ := run.take_of_at found
  rw [← same]
  exact earlier.generation_toNat (Nat.lt_of_le_of_lt (purges_take_le ..) few)

/-- **Where the generation has come back, at least `2 ^ 64` purges have been in between.** -/
theorem purges_of_recurrence (run : Run capacity timeout history state) {earlier purged : Nat}
    (read : At history earlier (·.before.cache.generation = state.cache.generation))
    (purge : At history purged (·.event = .purge)) (after : earlier ≤ purged) :
    purges (history.take earlier) + UInt64.size ≤ purges history := by
  obtain ⟨occurrence, before, _, same⟩ := run.take_of_at read
  have more : purges (history.take earlier) < purges history := by
    have counted := purges_take_lt purge after purge.lt_length
    rwa [List.take_length] at counted
  have congruent : purges (history.take earlier) % UInt64.size = purges history % UInt64.size := by
    rw [before.generation_eq, run.generation_eq] at same
    have numbers := congrArg UInt64.toNat same
    rwa [UInt64.toNat_ofNat', UInt64.toNat_ofNat'] at numbers
  simp only [UInt64.size] at congruent ⊢
  omega

/-- While there are fewer than `2 ^ 64` purges, none lies between two steps with one generation. -/
theorem purged_lt (run : Run capacity timeout history state) (few : purges history < UInt64.size)
    {earlier purged later : Nat} {generation : UInt64}
    (read : At history earlier (·.before.cache.generation = generation))
    (again : At history later (·.before.cache.generation = generation))
    (purge : At history purged (·.event = .purge)) (before : purged < later) :
    purged < earlier := by
  obtain ⟨occurrence, run, _, rfl⟩ := run.take_of_at again
  rcases Nat.lt_or_ge purged earlier with done | after
  · exact done
  · have recurred := run.purges_of_recurrence (read.take (Nat.lt_of_le_of_lt after before))
      (purge.take before) after
    have bound := purges_take_le history later
    omega

end Run

/-! ### Starts -/

/-- The step at which a call starts. -/
def Occurrence.Starts (occurrence : Occurrence) (id : CallId) : Prop :=
  ∃ destination, occurrence.event = .start id destination

/-- The step at which a call for a destination starts. -/
def Occurrence.StartsFor (occurrence : Occurrence) (id : CallId) (dst : Node) : Prop :=
  ∃ destination, occurrence.event = .start id destination ∧
    Node.parseTrimmed destination = .ok dst

theorem Occurrence.StartsFor.starts {occurrence : Occurrence} {id : CallId} {dst : Node}
    (started : occurrence.StartsFor id dst) : occurrence.Starts id := by
  obtain ⟨destination, event, _⟩ := started
  exact ⟨destination, event⟩

theorem Occurrence.Starts.starting?_eq {occurrence : Occurrence} {id : CallId}
    (started : occurrence.Starts id) : automaton.beginning? occurrence.event = some id := by
  obtain ⟨destination, event⟩ := started
  rw [event]
  rfl

theorem Occurrence.StartsFor.starting?_eq {occurrence : Occurrence} {id : CallId} {dst : Node}
    (started : occurrence.StartsFor id dst) : automaton.beginning? occurrence.event = some id :=
  started.starts.starting?_eq

namespace Run

variable {capacity : Nat} {timeout : Duration} {history : List Occurrence} {state : State}

/-- **A call that is under way has started.** -/
theorem started (run : Run capacity timeout history state) {id : CallId} {call : Call}
    (here : state.calls.get? id = some call) :
    ∃ position, At history position (·.StartsFor id call.dst) := by
  induction run generalizing call with
  | initial => cases here
  | @step history state run now event fresh hypothesis =>
    rcases (move_step now event state).call_before here with ⟨stage, earlier⟩ | started
    · obtain ⟨position, found⟩ := hypothesis earlier
      exact ⟨position, found.append _⟩
    · exact ⟨history.length, At.last started⟩

/-- A number that is fresh belongs to no call that is under way. -/
theorem free_of_fresh (run : Run capacity timeout history state) {id : CallId}
    {destination : String} (fresh : Automaton.Fresh history (.start id destination)) :
    state.calls.get? id = none := by
  cases here : state.calls.get? id with
  | none => rfl
  | some call =>
    obtain ⟨position, started⟩ := run.started here
    exact absurd rfl (fresh.running (started.mono fun _ => Occurrence.StartsFor.starting?_eq))

/-- A call that is under way does not start. -/
theorem not_start_of_calling (run : Run capacity timeout history state) {position : Nat}
    {occurrence : Occurrence} (here : history[position]? = some occurrence) {id : CallId}
    {call : Call} (calling : occurrence.before.calls.get? id = some call) (destination : String) :
    occurrence.event ≠ .start id destination := by
  intro start
  obtain ⟨earlier, fresh⟩ := Automaton.Run.take_and_fresh run here
  rw [free_of_fresh earlier (start ▸ fresh)] at calling
  cases calling

/-- **A call starts once.** -/
theorem started_unique (run : Run capacity timeout history state) {id : CallId} {first second : Nat}
    (one : At history first (·.Starts id)) (two : At history second (·.Starts id)) :
    first = second :=
  run.beginning_unique (one.mono fun _ => Occurrence.Starts.starting?_eq)
    (two.mono fun _ => Occurrence.Starts.starting?_eq)

/-- **A call that is under way in some step started before it**, for the same destination. -/
theorem started_before (run : Run capacity timeout history state) {id : CallId} {call : Call}
    {started position : Nat} (start : At history started (·.Starts id))
    (here : At history position (·.before.calls.get? id = some call)) :
    started < position ∧ At history started (·.StartsFor id call.dst) := by
  obtain ⟨occurrence, earlier, _, underWay⟩ := run.take_of_at here
  obtain ⟨start', found⟩ := earlier.started underWay
  obtain ⟨before, found⟩ := found.of_take
  rw [run.started_unique start (found.mono fun _ => Occurrence.StartsFor.starts)]
  exact ⟨before, found⟩

end Run

end Wayfinder.Resolver
