/-
**Runs of an automaton, and what came when.**

An automaton takes steps in any order and at any instants; the one condition is that every call has
a number of its own. The history of a run holds its steps, the first one first, each with the state
in which it was taken; a position is an index into it.

* `At`: what holds of the step at a position;
* `Automaton.Run`: the runs from a state, with their histories and final states;
* `Run.take`: what lies before a step is a run that ends where the step begins;
* `Run.stays`: what every later step keeps holds until the end;
* `Run.brought_about`: what holds at the end but not at the beginning has been brought about by a
  step, and has held ever since;
* `Run.of_replay`: given steps are a run if no number begins two calls.
-/

import Wayfinder.Collaborator

namespace Wayfinder

/-! ### Positions -/

/-- What holds of the element at a position. -/
def At {μ : Type} (history : List μ) (position : Nat) (holds : μ → Prop) : Prop :=
  ∃ element, history[position]? = some element ∧ holds element

/-- Whether a property that can be checked holds at a position can be checked. -/
instance {μ : Type} (history : List μ) (position : Nat) (holds : μ → Prop)
    [DecidablePred holds] : Decidable (At history position holds) :=
  match here : history[position]? with
  | some element => decidable_of_iff (holds element) (by simp [At, here])
  | none => isFalse (by simp [At, here])

namespace At

variable {μ : Type} {history : List μ} {position : Nat} {holds holds' : μ → Prop}

theorem lt_length (found : At history position holds) : position < history.length := by
  obtain ⟨element, here, _⟩ := found
  exact (List.getElem?_eq_some_iff.mp here).1

/-- There is one element at a position. -/
theorem and (found : At history position holds) (found' : At history position holds') :
    At history position fun element => holds element ∧ holds' element := by
  obtain ⟨element, here, held⟩ := found
  obtain ⟨other, here', held'⟩ := found'
  rw [here] at here'
  cases here'
  exact ⟨element, here, held, held'⟩

theorem mono (found : At history position holds)
    (weaker : ∀ element, holds element → holds' element) : At history position holds' := by
  obtain ⟨element, here, held⟩ := found
  exact ⟨element, here, weaker element held⟩

/-- What comes later changes nothing about what came before. -/
theorem append (found : At history position holds) (later : List μ) :
    At (history ++ later) position holds := by
  obtain ⟨element, here, held⟩ := found
  refine ⟨element, ?_, held⟩
  rw [List.getElem?_append_left (List.getElem?_eq_some_iff.mp here).1]
  exact here

/-- An element of a beginning is one of the whole, before the end of the beginning. -/
theorem of_take {count : Nat} (found : At (history.take count) position holds) :
    position < count ∧ At history position holds := by
  constructor
  · have bound := found.lt_length
    rw [List.length_take] at bound
    omega
  · have whole := found.append (history.drop count)
    rwa [List.take_append_drop] at whole

theorem take (found : At history position holds) {count : Nat} (before : position < count) :
    At (history.take count) position holds := by
  obtain ⟨element, here, held⟩ := found
  exact ⟨element, by rw [List.getElem?_take_of_lt before, here], held⟩

theorem last {element : μ} (held : holds element) :
    At (history ++ [element]) history.length holds :=
  ⟨element, List.getElem?_concat_length, held⟩

/-- An element of a longer list is one of the shorter list or the last one. -/
theorem append_singleton {element : μ} (found : At (history ++ [element]) position holds) :
    At history position holds ∨ position = history.length ∧ holds element := by
  obtain ⟨other, here, held⟩ := found
  rcases Nat.lt_or_ge position history.length with earlier | later
  · rw [List.getElem?_append_left earlier] at here
    exact Or.inl ⟨other, here, held⟩
  · rw [List.getElem?_append_right later, List.getElem?_singleton] at here
    split at here
    · next zero =>
      cases here
      exact Or.inr ⟨by omega, held⟩
    · cases here

end At

/-! ### Automata -/

/-- A machine as seen from outside: its states `σ`, the events `ε` that drive it and the effects `φ`
of its steps. -/
structure Automaton (σ ε φ : Type) where
  step : Timestamp → ε → σ → σ × φ
  /-- The number of the call that an event begins. -/
  beginning? : ε → Option CallId

variable {σ ε φ : Type}

/-- A step that was taken: in which state, when, and for which event. -/
structure Automaton.Occurrence (automaton : Automaton σ ε φ) where
  before : σ
  now : Timestamp
  event : ε

namespace Automaton

variable {automaton : Automaton σ ε φ}

/-- The state after the step. -/
def Occurrence.after (taken : automaton.Occurrence) : σ :=
  (automaton.step taken.now taken.event taken.before).1

/-- What the step asked of the outside. -/
def Occurrence.effects (taken : automaton.Occurrence) : φ :=
  (automaton.step taken.now taken.event taken.before).2

/-- A call that an event begins has a number that no call had before. -/
def Fresh (history : List automaton.Occurrence) (event : ε) : Prop :=
  ∀ id, automaton.beginning? event = some id →
    ∀ taken ∈ history, automaton.beginning? taken.event ≠ some id

/-- A number that has begun a call does not begin another one. -/
theorem Fresh.running {history : List automaton.Occurrence} {event : ε}
    (fresh : Fresh history event) {id : CallId} {start : Nat}
    (begun : At history start (automaton.beginning? ·.event = some id)) :
    automaton.beginning? event ≠ some id := by
  obtain ⟨first, here, starts⟩ := begun
  exact fun begins => fresh id begins first (List.mem_of_getElem? here) starts

variable (automaton) in
/-- The runs from a state, with their histories and final states. -/
inductive Run (initial : σ) : List automaton.Occurrence → σ → Prop
  | initial : Run initial [] initial
  | step {history : List automaton.Occurrence} {state : σ} (run : Run initial history state)
      (now : Timestamp) (event : ε) (fresh : Fresh history event) :
      Run initial (history ++ [⟨state, now, event⟩]) (automaton.step now event state).1

namespace Run

variable {initial state : σ} {history : List automaton.Occurrence}

theorem take_and_fresh (run : automaton.Run initial history state) {position : Nat}
    {taken : automaton.Occurrence} (here : history[position]? = some taken) :
    automaton.Run initial (history.take position) taken.before ∧
      Fresh (history.take position) taken.event := by
  induction run with
  | initial => cases here
  | @step history state run now event fresh hypothesis =>
    rcases Nat.lt_or_ge position history.length with earlier | later
    · rw [List.getElem?_append_left earlier] at here
      rw [List.take_append_of_le_length (Nat.le_of_lt earlier)]
      exact hypothesis here
    · rw [List.getElem?_append_right later, List.getElem?_singleton] at here
      split at here
      · next zero =>
        cases here
        rw [show position = history.length by omega, List.take_left]
        exact ⟨run, fresh⟩
      · cases here

/-- **What lies before a step is a run that ends where the step begins.** -/
theorem take (run : automaton.Run initial history state) {position : Nat}
    {taken : automaton.Occurrence} (here : history[position]? = some taken) :
    automaton.Run initial (history.take position) taken.before :=
  (run.take_and_fresh here).1

/-- What lies up to a step is a run that ends where the step does. -/
theorem take_succ (run : automaton.Run initial history state) {position : Nat}
    {taken : automaton.Occurrence} (here : history[position]? = some taken) :
    automaton.Run initial (history.take (position + 1)) taken.after := by
  obtain ⟨earlier, fresh⟩ := run.take_and_fresh here
  rw [List.take_add_one, here]
  exact earlier.step taken.now taken.event fresh

/-- The state of a run is the one after its last step. -/
theorem state_eq_after {taken : automaton.Occurrence}
    (run : automaton.Run initial (history ++ [taken]) state) : state = taken.after := by
  generalize whole : history ++ [taken] = longer at run
  cases run with
  | initial => cases (List.append_eq_nil_iff.mp whole).2
  | step run now event fresh =>
    obtain ⟨_, same⟩ := List.append_inj' whole rfl
    cases same
    rfl

/-- A step begins where the one before it has ended. -/
theorem before_eq_after (run : automaton.Run initial history state) {position : Nat}
    {taken next : automaton.Occurrence} (here : history[position]? = some taken)
    (there : history[position + 1]? = some next) : next.before = taken.after := by
  have earlier := run.take there
  rw [List.take_add_one, here] at earlier
  exact earlier.state_eq_after

/-- **A number begins one call.** -/
theorem beginning_unique (run : automaton.Run initial history state) {id : CallId}
    {first second : Nat} (one : At history first (automaton.beginning? ·.event = some id))
    (two : At history second (automaton.beginning? ·.event = some id)) : first = second := by
  -- the later of two beginnings would not be fresh
  have ordered {first second : Nat}
      (one : At history first (automaton.beginning? ·.event = some id))
      (two : At history second (automaton.beginning? ·.event = some id)) : second ≤ first := by
    refine Nat.le_of_not_lt fun before => ?_
    obtain ⟨taken, here, begins⟩ := two
    obtain ⟨other, there, begins'⟩ := one.take before
    exact (run.take_and_fresh here).2 id begins other (List.mem_of_getElem? there) begins'
  exact Nat.le_antisymm (ordered two one) (ordered one two)

/-! ### What stays, and what has come about -/

/-- **What holds after a step and is kept by every later one holds before every later one and at the
end.** -/
theorem stays (run : automaton.Run initial history state) {holds : σ → Prop} {position : Nat}
    (found : At history position (holds ·.after))
    (kept : ∀ later taken, position < later → history[later]? = some taken →
      holds taken.before → holds taken.after) :
    (∀ later taken, position < later → history[later]? = some taken → holds taken.before) ∧
      holds state := by
  induction run with
  | initial => exact absurd found.lt_length (Nat.not_lt_zero _)
  | @step history state run now event fresh hypothesis =>
    have shorter {later : Nat} {taken : automaton.Occurrence} (before : later < history.length)
        (here : (history ++ [⟨state, now, event⟩])[later]? = some taken) :
        history[later]? = some taken := by
      rwa [List.getElem?_append_left before] at here
    have longer {later : Nat} {taken : automaton.Occurrence}
        (here : history[later]? = some taken) :
        (history ++ [⟨state, now, event⟩])[later]? = some taken := by
      rwa [List.getElem?_append_left (List.getElem?_eq_some_iff.mp here).1]
    rcases At.append_singleton found with old | ⟨rfl, held⟩
    · obtain ⟨since, here⟩ := hypothesis old fun later taken after found =>
        kept later taken after (longer found)
      refine ⟨fun later taken after found => ?_, ?_⟩
      · rcases At.append_singleton ⟨taken, found, rfl⟩ with ⟨_, found', rfl⟩ | ⟨_, rfl⟩
        · exact since later taken after found'
        · exact here
      · exact kept history.length _ old.lt_length List.getElem?_concat_length here
    · refine ⟨fun later taken after found => ?_, held⟩
      have bound := (List.getElem?_eq_some_iff.mp found).1
      rw [List.length_append, List.length_singleton] at bound
      omega

/-- **What holds at the end but not at the beginning has been brought about by a step, and has held
ever since.** -/
theorem brought_about (run : automaton.Run initial history state) {holds : σ → Prop}
    (not : ¬ holds initial) (held : holds state) :
    ∃ position, (At history position fun taken => ¬ holds taken.before ∧ holds taken.after) ∧
      ∀ later taken, position < later → history[later]? = some taken →
        holds taken.before ∧ holds taken.after := by
  induction run with
  | initial => exact absurd held not
  | @step history state run now event fresh hypothesis =>
    by_cases already : holds state
    · obtain ⟨position, found, since⟩ := hypothesis already
      refine ⟨position, found.append _, fun later taken after here => ?_⟩
      rcases At.append_singleton ⟨taken, here, rfl⟩ with ⟨_, here', rfl⟩ | ⟨_, rfl⟩
      · exact since later taken after here'
      · exact ⟨already, held⟩
    · refine ⟨history.length, At.last ⟨already, held⟩, fun later taken after here => ?_⟩
      have bound := (List.getElem?_eq_some_iff.mp here).1
      rw [List.length_append, List.length_singleton] at bound
      omega

/-- What holds at the end but not after some step has been brought about by a later one. -/
theorem brought_about_since (run : automaton.Run initial history state) {holds : σ → Prop}
    {position : Nat} (not : At history position (¬ holds ·.after)) (held : holds state) :
    ∃ later, position < later ∧
      At history later fun taken => ¬ holds taken.before ∧ holds taken.after := by
  refine Classical.byContradiction fun never => ?_
  let fails : σ → Prop := fun state => ¬ holds state
  have found : At history position (fails ·.after) := not
  have kept := run.stays found fun later taken after here before brought =>
    never ⟨later, after, taken, here, before, brought⟩
  exact kept.2 held

/-- **A number that no step decreases is no greater after a step than before a later one.** -/
theorem measure_le (run : automaton.Run initial history state) {measure : σ → Nat}
    (grows : ∀ taken : automaton.Occurrence, measure taken.before ≤ measure taken.after)
    {earlier later : Nat} {taken taken' : automaton.Occurrence}
    (here : history[earlier]? = some taken) (there : history[later]? = some taken')
    (before : earlier < later) : measure taken.after ≤ measure taken'.before := by
  let holds : σ → Prop := fun state => measure taken.after ≤ measure state
  have found : At history earlier (holds ·.after) := ⟨taken, here, Nat.le_refl _⟩
  have kept := run.stays found fun _ next _ _ bound => Nat.le_trans bound (grows next)
  exact kept.1 later taken' before there

end Run

/-! ### Steps that are replayed -/

section Replay

variable (automaton)

/-- The history of steps that are taken one after another. -/
def replay (state : σ) : List (Timestamp × ε) → List automaton.Occurrence
  | [] => []
  | (now, event) :: rest =>
    ⟨state, now, event⟩ :: replay (automaton.step now event state).1 rest

/-- The state after steps that are taken one after another. -/
def arrive (state : σ) : List (Timestamp × ε) → σ
  | [] => state
  | (now, event) :: rest => arrive (automaton.step now event state).1 rest

end Replay

theorem replay_append (state : σ) (first second : List (Timestamp × ε)) :
    automaton.replay state (first ++ second) =
      automaton.replay state first ++ automaton.replay (automaton.arrive state first) second := by
  induction first generalizing state with
  | nil => rfl
  | cons head rest hypothesis =>
    rw [List.cons_append, replay, replay, arrive, hypothesis, List.cons_append]

theorem arrive_append (state : σ) (first second : List (Timestamp × ε)) :
    automaton.arrive state (first ++ second) =
      automaton.arrive (automaton.arrive state first) second := by
  induction first generalizing state with
  | nil => rfl
  | cons head rest hypothesis => rw [List.cons_append, arrive, arrive, hypothesis]

/-- Only given steps are taken, each at its instant. -/
theorem mem_of_mem_replay {state : σ} {steps : List (Timestamp × ε)}
    {taken : automaton.Occurrence} (member : taken ∈ automaton.replay state steps) :
    (taken.now, taken.event) ∈ steps := by
  induction steps generalizing state with
  | nil => cases member
  | cons head rest hypothesis =>
    rcases List.mem_cons.mp member with rfl | later
    · exact List.mem_cons_self
    · exact List.mem_cons_of_mem _ (hypothesis later)

theorem Run.continue {initial state : σ} {history : List automaton.Occurrence}
    (run : automaton.Run initial history state) (steps : List (Timestamp × ε))
    (distinct : (steps.filterMap (automaton.beginning? ·.2)).Nodup)
    (apart : ∀ id ∈ steps.filterMap (automaton.beginning? ·.2), ∀ taken ∈ history,
      automaton.beginning? taken.event ≠ some id) :
    automaton.Run initial (history ++ automaton.replay state steps)
      (automaton.arrive state steps) := by
  induction steps generalizing history state with
  | nil =>
    rw [replay, List.append_nil]
    exact run
  | cons head rest hypothesis =>
    obtain ⟨now, event⟩ := head
    have fresh : Fresh history event := fun id begins =>
      apart id (List.mem_filterMap.mpr ⟨(now, event), List.mem_cons_self, begins⟩)
    have fewer : (rest.filterMap (automaton.beginning? ·.2)).Nodup :=
      distinct.sublist ((List.sublist_cons_self _ rest).filterMap _)
    have next := hypothesis (run.step now event fresh) fewer fun id later taken member => ?_
    · rwa [List.append_assoc] at next
    · rcases List.mem_append.mp member with old | new
      · obtain ⟨step, among, begins⟩ := List.mem_filterMap.mp later
        exact apart id (List.mem_filterMap.mpr ⟨step, List.mem_cons_of_mem _ among, begins⟩) taken old
      · -- the number of the first step does not come again
        cases List.mem_singleton.mp new
        intro begins
        rw [List.filterMap_cons, begins] at distinct
        exact (List.nodup_cons.mp distinct).1 later

/-- **Steps in which no number begins two calls are a run.** -/
theorem Run.of_replay (automaton : Automaton σ ε φ) (initial : σ) (steps : List (Timestamp × ε))
    (distinct : (steps.filterMap (automaton.beginning? ·.2)).Nodup) :
    automaton.Run initial (automaton.replay initial steps) (automaton.arrive initial steps) :=
  Run.initial.continue steps distinct fun _ _ _ member => absurd member List.not_mem_nil

end Automaton

end Wayfinder
