/-
**Calls that a step of the panel is not about.**

A step is about one call at most: the one that begins, goes on, hears an answer or is given up. Every
other call stays where it is, in the panel and in each of its atlases; nothing is asked in its name
and it does not end. The atlases know this of themselves (`Atlas.Move.call_kept`, `ask_caller`,
`finish_caller`); what they ask of the outside passes through the panel, which takes outcomes for
itself and hands the rest on.

* `Effect.caller?`, `Spares`: whom effects are about;
* `Atlas.Kept`, `Source.Kept`, `Kept`: what stays in an atlas, in a source and in the panel;
* `step_bypasses`: what a step does to the calls that it is not about.
-/

import Wayfinder.Panel
import Wayfinder.Proofs.Atlas.Loops

namespace Wayfinder

/-! ### Whom effects are about -/

section Effects

variable {τ υ κ ο π : Type} {inner? : τ → Option CallId} {outer? : υ → Option CallId} {id : CallId}

/-- The call that an effect is about: the one in whose name something is asked, or the one that has
its outcome. -/
def Effect.caller? (owner? : τ → Option CallId) : Effect τ κ ο → Option CallId
  | .ask task _ _ => owner? task
  | .finish id _ => some id
  | .rouse _ | .resume _ | .wait _ _ | .spawn _ _ => none

/-- Whether effects are about other calls, or about none. -/
def Spares (owner? : τ → Option CallId) (id : CallId) (effects : List (Effect τ κ ο)) : Prop :=
  ∀ effect ∈ effects, effect.caller? owner? ≠ some id

theorem spares_nil : Spares inner? id ([] : List (Effect τ κ ο)) :=
  fun _ member => absurd member List.not_mem_nil

theorem Spares.append {first second : List (Effect τ κ ο)} (spares : Spares inner? id first)
    (spares' : Spares inner? id second) : Spares inner? id (first ++ second) := by
  intro effect member
  rcases List.mem_append.mp member with here | there
  · exact spares effect here
  · exact spares' effect there

theorem spares_singleton {effect : Effect τ κ ο} (apart : effect.caller? inner? ≠ some id) :
    Spares inner? id [effect] := by
  intro other member
  rw [List.mem_singleton.mp member]
  exact apart

/-- An effect that is about another call is so among the effects of a greater machine, too. -/
theorem spares_embed {into : τ → υ} (same : ∀ task, outer? (into task) = inner? task)
    {effect : Effect τ κ ο} (apart : effect.caller? inner? ≠ some id) :
    Spares outer? id ((effect.embed? into : Option (Effect υ κ π)).toList) := by
  cases effect with
  | ask task query limit =>
    refine spares_singleton ?_
    rw [Effect.caller?, same]
    exact apart
  | rouse | resume | wait | spawn => exact spares_singleton (Option.some_ne_none id).symm
  | finish call outcome => exact spares_nil

end Effects

/-! ### Atlases -/

namespace Atlas

/-- What stays in an atlas in a step that is not about a call. -/
structure Kept (id : CallId) (state after : State) : Prop where
  call : after.calls.get? id = state.calls.get? id
  numbered : state.Numbered → after.Numbered
  told : state.Numbered → ∀ loop, state.Told loop → after.Told loop

theorem Kept.refl (id : CallId) (state : State) : Kept id state state :=
  ⟨rfl, fun numbered => numbered, fun _ _ told => told⟩

theorem Kept.trans {id : CallId} {first second third : State} (kept : Kept id first second)
    (kept' : Kept id second third) : Kept id first third where
  call := kept'.call.trans kept.call
  numbered numbered := kept'.numbered (kept.numbered numbered)
  told numbered loop told :=
    kept'.told (kept.numbered numbered) loop (kept.told numbered loop told)

section

variable {id : CallId} {event : Event}

theorem kept_of_step (now : Timestamp) (state : State) (apart : event.caller? ≠ some id) :
    Kept id state (step now event state).1 where
  call := (move_step now event state).call_kept apart
  numbered := (move_step now event state).numbered
  told numbered _ told := (move_step now event state).told_stays numbered told

theorem spares_of_step (now : Timestamp) (state : State) (apart : event.caller? ≠ some id) :
    Spares Task.caller? id (step now event state).2 := by
  intro effect member about
  cases effect with
  | ask task query limit =>
    cases task with
    | call other =>
      cases about
      exact apart ((move_step now event state).ask_caller member)
    | loop | survey => cases about
  | finish other outcome =>
    cases about
    exact apart ((move_step now event state).finish_caller member)
  | rouse | resume | wait | spawn => cases about

end

end Atlas

namespace Panel

/-! ### Sources and the panel -/

/-- What a source is. -/
inductive Kind where
  | external
  | archive
  | atlas
deriving DecidableEq, Repr

/-- The kind of a source. -/
def Source.kind : Source → Kind
  | .external _ => .external
  | .archive _ => .archive
  | .atlas _ => .atlas

/-- What stays at a position of the panel in a step that is not about a call. -/
inductive Source.Kept (id : CallId) : Option Source → Option Source → Prop
  | none : Source.Kept id none none
  | external {name : String} : Source.Kept id (some (.external name)) (some (.external name))
  | archive {old new : Archive} : Source.Kept id (some (.archive old)) (some (.archive new))
  | atlas {old new : Atlas.State} (kept : Atlas.Kept id old new) :
      Source.Kept id (some (.atlas old)) (some (.atlas new))

theorem Source.Kept.refl (id : CallId) (source : Option Source) : Source.Kept id source source := by
  cases source with
  | none => exact .none
  | some source =>
    cases source with
    | external name => exact .external
    | archive archive => exact .archive
    | atlas atlas => exact .atlas (Atlas.Kept.refl id atlas)

theorem Source.Kept.trans {id : CallId} {first second third : Option Source}
    (kept : Source.Kept id first second) (kept' : Source.Kept id second third) :
    Source.Kept id first third := by
  cases kept with
  | none => exact kept'
  | external => exact kept'
  | archive =>
    cases kept' with
    | archive => exact .archive
  | atlas kept =>
    cases kept' with
    | atlas kept' => exact .atlas (kept.trans kept')

theorem Source.Kept.kind {id : CallId} {old new : Option Source} (kept : Source.Kept id old new) :
    new.map Source.kind = old.map Source.kind := by
  cases kept with
  | none | external | archive | atlas => rfl

/-- What stays in the panel in a step that is not about a call. -/
structure Kept (id : CallId) (state after : State) : Prop where
  round : after.rounds.get? id = state.rounds.get? id
  source : ∀ position : Nat, Source.Kept id state.sources[position]? after.sources[position]?

theorem Kept.refl (id : CallId) (state : State) : Kept id state state :=
  ⟨rfl, fun _ => Source.Kept.refl id _⟩

theorem Kept.trans {id : CallId} {first second third : State} (kept : Kept id first second)
    (kept' : Kept id second third) : Kept id first third where
  round := kept'.round.trans kept.round
  source position := (kept.source position).trans (kept'.source position)

/-- A source that is replaced by one that has kept everything. -/
theorem kept_replace {id : CallId} {state : State} {position : Nat} {old new : Source}
    (here : state.sources[position]? = some old) (kept : Source.Kept id (some old) (some new)) :
    Kept id state (state.replace position new) := by
  refine ⟨rfl, fun other => ?_⟩
  show Source.Kept id state.sources[other]? (state.sources.set position new)[other]?
  by_cases same : position = other
  · subst same
    rw [List.getElem?_set_self (List.getElem?_eq_some_iff.mp here).1, here]
    exact kept
  · rw [List.getElem?_set_ne same]
    exact Source.Kept.refl id _

/-! ### Steps of the panel -/

/-- The call whose task it is. -/
def Task.caller? : Task → Option CallId
  | .call id => some id
  | .atlas _ task => task.caller?

/-- The call that an event is about. -/
def Event.caller? : Event → Option CallId
  | .start id _ | .cancel id => some id
  | .proceed task | .answer task _ => task.caller?

/-- A step that leaves a call where it is, asks nothing in its name and does not end it. -/
structure Bypasses (id : CallId) (state : State) (stepped : State × Effects) : Prop where
  kept : Kept id state stepped.1
  spares : Spares Task.caller? id stepped.2

section

variable {id other : CallId} {state : State} {now : Timestamp}

theorem bypasses_nothing (id : CallId) (state : State) : Bypasses id state (state, []) :=
  ⟨Kept.refl id state, spares_nil⟩

theorem Bypasses.append {first second : State × Effects} (one : Bypasses id state first)
    (two : Bypasses id first.1 second) : Bypasses id state (second.1, first.2 ++ second.2) :=
  ⟨one.kept.trans two.kept, one.spares.append two.spares⟩

/-- What is done after something that leaves a call where it is. -/
theorem Bypasses.after {after : State} {stepped : State × Effects} (kept : Kept id state after)
    (bypasses : Bypasses id after stepped) : Bypasses id state stepped :=
  ⟨kept.trans bypasses.kept, bypasses.spares⟩

theorem kept_put (apart : other ≠ id) (round : Round) :
    Kept id state { state with rounds := state.rounds.put other round } := by
  refine ⟨?_, fun _ => Source.Kept.refl id _⟩
  rw [Table.get?_put, if_neg apart]

theorem kept_erase (apart : other ≠ id) :
    Kept id state { state with rounds := state.rounds.erase other } := by
  refine ⟨?_, fun _ => Source.Kept.refl id _⟩
  rw [Table.get?_erase, if_neg apart]

theorem advance_bypasses (apart : other ≠ id) (round : Round)
    (answer : Except MetadataFault (Option Metadata)) :
    Bypasses id state (advance other round answer state) := by
  cases answer with
  | error fault =>
    exact ⟨kept_erase apart, spares_singleton fun same => apart (Option.some.inj same)⟩
  | ok found => exact ⟨kept_put apart _, spares_singleton (Option.some_ne_none id).symm⟩

theorem absorbOne_bypasses (position : Nat) {effect : Effect Atlas.Task Query Atlas.Outcome}
    (apart : effect.caller? Atlas.Task.caller? ≠ some id) :
    Bypasses id state (absorbOne position effect state) := by
  unfold absorbOne
  split
  · next other outcome =>
    split
    · exact advance_bypasses (fun same => apart (congrArg some same)) _ _
    · exact bypasses_nothing id state
  · exact ⟨Kept.refl id state, spares_embed (fun _ => rfl) apart⟩

theorem absorb_bypasses (position : Nat) {effects : Atlas.Effects}
    (spares : Spares Atlas.Task.caller? id effects) :
    Bypasses id state (absorb position effects state) := by
  induction effects generalizing state with
  | nil => exact bypasses_nothing id state
  | cons effect rest hypothesis =>
    have first : Bypasses id state (absorbOne position effect state) :=
      absorbOne_bypasses position (spares effect List.mem_cons_self)
    exact first.append (hypothesis fun other member => spares other (List.mem_cons_of_mem _ member))

/-- A step of an atlas that is not about a call. -/
theorem settle_bypasses {position : Nat} {atlas : Atlas.State}
    (here : state.sources[position]? = some (.atlas atlas)) {event : Atlas.Event}
    (apart : event.caller? ≠ some id) :
    Bypasses id state (settle position (Atlas.step now event atlas) state) := by
  have kept : Kept id state (state.replace position (.atlas (Atlas.step now event atlas).1)) :=
    kept_replace here (.atlas (Atlas.kept_of_step now atlas apart))
  exact .after kept (absorb_bypasses position (Atlas.spares_of_step now atlas apart))

theorem visit_bypasses {round : Round} {source : Source}
    (here : state.sources[round.position]? = some source) (apart : other ≠ id) :
    Bypasses id state (visit now other round source state) := by
  have apart' : some other ≠ some id := fun same => apart (Option.some.inj same)
  let waiting : State :=
    { state with rounds := state.rounds.put other { round with waiting := true } }
  have waits : Kept id state waiting := kept_put apart _
  have here' : waiting.sources[round.position]? = some source := here
  unfold visit
  dsimp only
  split
  · exact ⟨waits, spares_singleton apart'⟩
  · exact ⟨waits, spares_singleton apart'⟩
  · exact ⟨waits, spares_singleton apart'⟩
  · exact advance_bypasses apart _ _
  · exact .after (kept_replace here .archive) (advance_bypasses apart _ _)
  · exact advance_bypasses apart _ _
  · exact advance_bypasses apart _ _
  · exact advance_bypasses apart _ _
  · next atlas _ =>
    have opened : Bypasses id state (settle round.position (Atlas.step now .open atlas) state) :=
      settle_bypasses here (Option.some_ne_none id).symm
    exact opened.append (advance_bypasses apart _ _)
  · next atlas _ =>
    have settled : Bypasses id waiting
        (settle round.position (Atlas.step now (.close other) atlas) waiting) :=
      settle_bypasses here' apart'
    exact .after waits settled
  · next atlas _ =>
    have settled : Bypasses id waiting
        (settle round.position (Atlas.step now (.refresh other) atlas) waiting) :=
      settle_bypasses here' apart'
    exact .after waits settled
  · next atlas query _ =>
    have settled : Bypasses id waiting
        (settle round.position (Atlas.step now (.fetch other query) atlas) waiting) :=
      settle_bypasses here' apart'
    exact .after waits settled

theorem source_of_atlas? {position : Nat} {atlas : Atlas.State}
    (here : state.atlas? position = some atlas) :
    state.sources[position]? = some (.atlas atlas) := by
  unfold State.atlas? at here
  split at here
  · next found =>
    cases here
    exact found
  · cases here

theorem proceed_bypasses {task : Task} (apart : task.caller? ≠ some id)
    {stepped : State × Effects} (taken : proceed now task state = some stepped) :
    Bypasses id state stepped := by
  cases task with
  | call other =>
    obtain ⟨round, here, taken⟩ := Option.bind_eq_some_iff.mp taken
    have apart : other ≠ id := fun same => apart (congrArg some same)
    unfold proceedCall at taken
    split at taken
    · cases taken
    · split at taken
      · next source there =>
        cases taken
        exact visit_bypasses there apart
      · cases taken
        exact ⟨kept_erase apart, spares_singleton fun same => apart (Option.some.inj same)⟩
  | atlas position task =>
    obtain ⟨atlas, here, taken⟩ := Option.bind_eq_some_iff.mp taken
    obtain ⟨result, stepped', rfl⟩ := Option.map_eq_some_iff.mp taken
    have same : result = Atlas.step now (.proceed task) atlas := by
      rw [Atlas.step, stepped']
      rfl
    rw [same]
    exact settle_bypasses (source_of_atlas? here) apart

theorem answer_bypasses {task : Task} (apart : task.caller? ≠ some id) (reply : Reply) :
    Bypasses id state (answer task reply state) := by
  cases task with
  | call other =>
    have apart : other ≠ id := fun same => apart (congrArg some same)
    cases reply with
    | source result =>
      simp only [answer]
      split
      · exact advance_bypasses apart _ _
      · exact bypasses_nothing id state
    | node | candidates | compliant | countries | done | crashed => exact bypasses_nothing id state
  | atlas position task =>
    simp only [answer]
    split
    · next atlas here =>
      have settled : Bypasses id state
          (settle position (Atlas.step 0 (.answer task reply) atlas) state) :=
        settle_bypasses (source_of_atlas? here) apart
      exact settled
    · exact bypasses_nothing id state

theorem cancel_bypasses (apart : other ≠ id) : Bypasses id state (cancel other state) := by
  unfold cancel
  split
  · exact bypasses_nothing id state
  · next round _ =>
    dsimp only
    split
    · next atlas here =>
      let dropped : State := { state with rounds := state.rounds.erase other }
      have here' : dropped.sources[round.position]? = some (.atlas atlas) :=
        source_of_atlas? here
      have settled : Bypasses id dropped
          (settle round.position (Atlas.step 0 (.cancel other) atlas) dropped) :=
        settle_bypasses here' fun same => apart (Option.some.inj same)
      exact .after (kept_erase apart) settled
    · exact ⟨kept_erase apart, spares_nil⟩

theorem start_bypasses (apart : other ≠ id) (errand : Errand) :
    Bypasses id state (start other errand state) :=
  ⟨kept_put apart _, spares_singleton (Option.some_ne_none id).symm⟩

end

end Panel

end Wayfinder
