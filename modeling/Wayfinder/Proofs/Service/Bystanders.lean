/-
**Calls that a step of the service is not about.**

The service is put together from the resolver, the session and the panel. A step of it is a step of
one of them, whose outcomes may begin a step of another one for the same call. So what holds of the
parts holds of the whole: a call that a step is not about stays where it is in every part, nothing
is asked in its name, and it does not end.

* `Task.caller?`, `Event.caller?`: whom a turn and an event are about;
* `Kept`, `Bypasses`: what a step does to a call that it is not about;
* `Event.step`, `step_bypasses`: every step that is not about a call bypasses it.
-/

import Wayfinder.Proofs.Panel.Bystanders
import Wayfinder.Proofs.Resolver.Run
import Wayfinder.Service

namespace Wayfinder.Service

/-! ### Events -/

/-- The call whose task it is. -/
def Task.caller? : Task → Option CallId
  | .resolver task => task.caller?
  | .session id => some id
  | .panel task => task.caller?

/-- What can happen to the service. -/
inductive Event where
  | start (call : CallId) (request : Request)
  | method (call : CallId) (method body : String)
  | proceed (task : Task)
  | answer (task : Task) (reply : Reply)
  | cancel (call : CallId)
deriving Repr

/-- The call that an event is about. -/
def Event.caller? : Event → Option CallId
  | .start id _ | .method id _ _ | .cancel id => some id
  | .proceed task | .answer task _ => task.caller?

/-- One step of the service. -/
def step (now : Timestamp) (event : Event) (state : State) : State × Effects :=
  match event with
  | .start id request => start id request state
  | .method id method body => startMethod id method body state
  | .proceed task => (proceed now task state).getD (state, [])
  | .answer task reply => answer now task reply state
  | .cancel id => cancel now id state

/-! ### What stays -/

/-- What stays in the service in a step that is not about a call. -/
structure Kept (id : CallId) (state after : State) : Prop where
  call : after.calls.get? id = state.calls.get? id
  resolver : after.resolver.calls.get? id = state.resolver.calls.get? id
  session : after.session.calls.get? id = state.session.calls.get? id
  panel : Panel.Kept id state.panel after.panel

theorem Kept.refl (id : CallId) (state : State) : Kept id state state :=
  ⟨rfl, rfl, rfl, Panel.Kept.refl id _⟩

theorem Kept.trans {id : CallId} {first second third : State} (kept : Kept id first second)
    (kept' : Kept id second third) : Kept id first third where
  call := kept'.call.trans kept.call
  resolver := kept'.resolver.trans kept.resolver
  session := kept'.session.trans kept.session
  panel := kept.panel.trans kept'.panel

/-- A step that leaves a call where it is, asks nothing in its name and does not end it. -/
structure Bypasses (id : CallId) (state : State) (stepped : State × Effects) : Prop where
  kept : Kept id state stepped.1
  spares : Spares Task.caller? id stepped.2

section

variable {id other : CallId} {state : State} {now : Timestamp}

theorem bypasses_nothing (id : CallId) (state : State) : Bypasses id state (state, []) :=
  ⟨Kept.refl id state, spares_nil⟩

theorem Bypasses.append {first second : State × Effects} (one : Bypasses id state first)
    (two : Bypasses id first.1 second) : Bypasses id state (second.1, first.2 ++ second.2) :=
  ⟨one.kept.trans two.kept, one.spares.append two.spares⟩

/-- An effect of a part that is about another call and is handed on to the outside. -/
theorem handOn_bypasses {τ ο : Type} {inner? : τ → Option CallId} {into : τ → Task}
    (same : ∀ task, (into task).caller? = inner? task) {effect : Effect τ Query ο}
    (apart : effect.caller? inner? ≠ some id) :
    Bypasses id state (state, (effect.embed? into).toList) :=
  ⟨Kept.refl id state, spares_embed same apart⟩

/-- What is done after something that leaves a call where it is. -/
theorem Bypasses.after {after : State} {stepped : State × Effects} (kept : Kept id state after)
    (bypasses : Bypasses id after stepped) : Bypasses id state stepped :=
  ⟨kept.trans bypasses.kept, bypasses.spares⟩

theorem kept_moveTo (apart : other ≠ id) (stage : Stage) :
    Kept id state (state.moveTo other stage) := by
  refine ⟨?_, rfl, rfl, Panel.Kept.refl id _⟩
  show (state.calls.put other stage).get? id = state.calls.get? id
  rw [Table.get?_put, if_neg apart]

theorem kept_erase (apart : other ≠ id) :
    Kept id state { state with calls := state.calls.erase other } := by
  refine ⟨?_, rfl, rfl, Panel.Kept.refl id _⟩
  rw [Table.get?_erase, if_neg apart]

theorem kept_resolver {resolver : Resolver.State}
    (same : resolver.calls.get? id = state.resolver.calls.get? id) :
    Kept id state { state with resolver } :=
  ⟨rfl, same, rfl, Panel.Kept.refl id _⟩

theorem kept_session {session : Session.State}
    (same : session.calls.get? id = state.session.calls.get? id) :
    Kept id state { state with session } :=
  ⟨rfl, rfl, same, Panel.Kept.refl id _⟩

theorem kept_panel {panel : Panel.State} (kept : Panel.Kept id state.panel panel) :
    Kept id state { state with panel } :=
  ⟨rfl, rfl, rfl, kept⟩

theorem conclude_bypasses (apart : other ≠ id) (outcome : Outcome) :
    Bypasses id state (conclude other outcome state) :=
  ⟨kept_erase apart, spares_singleton fun same => apart (Option.some.inj same)⟩

/-! ### The resolver -/

theorem absorbResolver_bypasses {effects : Resolver.Effects}
    (spares : Spares Resolver.Task.caller? id effects) :
    Bypasses id state (absorbResolver effects state) := by
  have same (task : Resolver.Task) : (Task.resolver task).caller? = task.caller? := rfl
  induction effects generalizing state with
  | nil => exact bypasses_nothing id state
  | cons effect rest hypothesis =>
    have apart := spares effect List.mem_cons_self
    have others {state : State} : Bypasses id state (absorbResolver rest state) :=
      hypothesis fun other member => spares other (List.mem_cons_of_mem _ member)
    unfold absorbResolver
    cases effect with
    | finish other outcome =>
      have first : Bypasses id state (conclude other (ofResolver outcome) state) :=
        conclude_bypasses (fun same => apart (congrArg some same)) _
      exact first.append others
    | ask | rouse | resume | wait | spawn =>
      exact (handOn_bypasses same apart).append others

theorem settleResolver_bypasses {event : Resolver.Event} (apart : event.caller? ≠ some id) :
    Bypasses id state (settleResolver (Resolver.step now event state.resolver) state) := by
  have move := Resolver.move_step now event state.resolver
  refine .after (kept_resolver (move.call_kept apart)) (absorbResolver_bypasses ?_)
  intro effect member about
  cases effect with
  | ask task query limit =>
    cases task with
    | call other =>
      cases about
      exact apart (move.ask_caller member)
    | timer => cases about
  | finish other outcome =>
    cases about
    exact apart (move.finish_caller member)
  | rouse | resume | wait | spawn => cases about

/-! ### The panel and the session -/

theorem startPanel_bypasses (apart : other ≠ id) (errand : Panel.Errand) :
    Bypasses id state (startPanel other errand state) :=
  ⟨kept_panel (Panel.start_bypasses apart errand).kept,
    spares_singleton (Option.some_ne_none id).symm⟩

theorem startRelease_bypasses (apart : other ≠ id) (sources : Except MetadataFault Unit) :
    Bypasses id state (startRelease other sources state) := by
  have released : Kept id state { state with session := (Session.release other state.session).1 } :=
    kept_session (by
      show (state.session.calls.put other _).get? id = state.session.calls.get? id
      rw [Table.get?_put, if_neg apart])
  exact ⟨released.trans (kept_moveTo apart _),
    spares_singleton fun same => apart (Option.some.inj same)⟩

theorem afterPanel_bypasses (apart : other ≠ id) (outcome : Panel.Outcome) :
    Bypasses id state (afterPanel other outcome state) := by
  unfold afterPanel
  split
  · exact startRelease_bypasses apart _
  · exact conclude_bypasses apart _
  · exact bypasses_nothing id state

theorem absorbPanel_bypasses {effects : Panel.Effects}
    (spares : Spares Panel.Task.caller? id effects) :
    Bypasses id state (absorbPanel effects state) := by
  have same (task : Panel.Task) : (Task.panel task).caller? = task.caller? := rfl
  induction effects generalizing state with
  | nil => exact bypasses_nothing id state
  | cons effect rest hypothesis =>
    have apart := spares effect List.mem_cons_self
    have others {state : State} : Bypasses id state (absorbPanel rest state) :=
      hypothesis fun other member => spares other (List.mem_cons_of_mem _ member)
    unfold absorbPanel
    cases effect with
    | finish other outcome =>
      have first : Bypasses id state (afterPanel other outcome state) :=
        afterPanel_bypasses (fun same => apart (congrArg some same)) _
      exact first.append others
    | ask | rouse | resume | wait | spawn =>
      exact (handOn_bypasses same apart).append others

theorem settlePanel_bypasses {stepped : Panel.State × Panel.Effects}
    (bypasses : Panel.Bypasses id state.panel stepped) :
    Bypasses id state (settlePanel stepped state) :=
  .after (kept_panel bypasses.kept) (absorbPanel_bypasses bypasses.spares)

theorem afterSession_bypasses (apart : other ≠ id) (outcome : Session.Outcome) :
    Bypasses id state (afterSession other outcome state) := by
  unfold afterSession
  split
  · exact .after (kept_moveTo apart _) (startPanel_bypasses apart _)
  · exact conclude_bypasses apart _
  · exact conclude_bypasses apart _
  · exact conclude_bypasses apart _
  · exact bypasses_nothing id state

theorem absorbSession_bypasses {effects : Session.Effects} (spares : Spares some id effects) :
    Bypasses id state (absorbSession effects state) := by
  have same (call : CallId) : (Task.session call).caller? = some call := rfl
  induction effects generalizing state with
  | nil => exact bypasses_nothing id state
  | cons effect rest hypothesis =>
    have apart := spares effect List.mem_cons_self
    have others {state : State} : Bypasses id state (absorbSession rest state) :=
      hypothesis fun other member => spares other (List.mem_cons_of_mem _ member)
    unfold absorbSession
    cases effect with
    | finish other outcome =>
      have first : Bypasses id state (afterSession other outcome state) :=
        afterSession_bypasses (fun same => apart (congrArg some same)) _
      exact first.append others
    | ask | rouse | resume | wait | spawn =>
      exact (handOn_bypasses same apart).append others

theorem settleSession_bypasses {stepped : Session.State × Session.Effects}
    (same : stepped.1.calls.get? id = state.session.calls.get? id)
    (spares : Spares some id stepped.2) : Bypasses id state (settleSession stepped state) :=
  .after (kept_session same) (absorbSession_bypasses spares)

theorem subscribe_bypasses (apart : other ≠ id) (address : String) :
    Bypasses id state (settleSession (Session.subscribe other address state.session) state) := by
  refine settleSession_bypasses ?_ (spares_singleton fun same => apart (Option.some.inj same))
  show (state.session.calls.put other _).get? id = state.session.calls.get? id
  rw [Table.get?_put, if_neg apart]

theorem answerSession_bypasses (apart : other ≠ id) (reply : Reply) :
    Bypasses id state (settleSession (Session.answer other reply state.session) state) := by
  have apart' : some other ≠ some id := fun same => apart (Option.some.inj same)
  have erased : (state.session.calls.erase other).get? id = state.session.calls.get? id := by
    rw [Table.get?_erase, if_neg apart]
  unfold Session.answer
  dsimp only
  split
  · exact settleSession_bypasses erased (spares_singleton apart')
  · refine settleSession_bypasses ?_ (spares_singleton apart')
    rw [Table.get?_put, if_neg apart]
  · exact settleSession_bypasses erased (spares_singleton apart')
  · exact settleSession_bypasses rfl spares_nil

/-! ### The service -/

theorem start_bypasses (apart : other ≠ id) (request : Request) :
    Bypasses id state (start other request state) := by
  have apart' : some other ≠ some id := fun same => apart (Option.some.inj same)
  cases request with
  | resolve destination =>
    have begun : Bypasses id (state.moveTo other .resolving) (settleResolver
        (Resolver.step 0 (.start other destination) state.resolver)
        (state.moveTo other .resolving)) :=
      settleResolver_bypasses apart'
    exact .after (kept_moveTo apart _) begun
  | purge =>
    let purged : State :=
      { state with resolver := { state.resolver with cache := state.resolver.cache.purge } }
    have kept : Kept id state purged := kept_resolver rfl
    have begun : Bypasses id purged (conclude other (.ok .nothing) purged) :=
      conclude_bypasses apart _
    exact .after kept begun
  | names => exact conclude_bypasses apart _
  | fetch query => exact .after (kept_moveTo apart _) (startPanel_bypasses apart _)
  | refresh => exact .after (kept_moveTo apart _) (startPanel_bypasses apart _)
  | openSources => exact .after (kept_moveTo apart _) (startPanel_bypasses apart _)
  | closeSources => exact .after (kept_moveTo apart _) (startPanel_bypasses apart _)
  | finish => exact .after (kept_moveTo apart _) (startPanel_bypasses apart _)
  | release => exact startRelease_bypasses apart _
  | subscribe address =>
    have begun : Bypasses id (state.moveTo other (.subscribing false)) (settleSession
        (Session.subscribe other address state.session) (state.moveTo other (.subscribing false))) :=
      subscribe_bypasses apart address
    exact .after (kept_moveTo apart _) begun
  | begin =>
    have begun : Bypasses id (state.moveTo other (.subscribing true)) (settleSession
        (Session.subscribe other state.callback state.session)
        (state.moveTo other (.subscribing true))) :=
      subscribe_bypasses apart state.callback
    exact .after (kept_moveTo apart _) begun

theorem startMethod_bypasses (apart : other ≠ id) (method body : String) :
    Bypasses id state (startMethod other method body state) := by
  unfold startMethod
  split
  · exact start_bypasses apart _
  · exact conclude_bypasses apart _

theorem proceed_bypasses {task : Task} (apart : task.caller? ≠ some id) {stepped : State × Effects}
    (taken : proceed now task state = some stepped) : Bypasses id state stepped := by
  cases task with
  | resolver task =>
    obtain ⟨result, there, rfl⟩ := Option.map_eq_some_iff.mp taken
    have same : result = Resolver.step now (.proceed task) state.resolver := by
      rw [Resolver.step, there]
      rfl
    rw [same]
    exact settleResolver_bypasses apart
  | panel task =>
    obtain ⟨result, there, rfl⟩ := Option.map_eq_some_iff.mp taken
    exact settlePanel_bypasses (Panel.proceed_bypasses apart there)
  | session other => cases taken

theorem answer_bypasses {task : Task} (apart : task.caller? ≠ some id) (reply : Reply) :
    Bypasses id state (answer now task reply state) := by
  cases task with
  | resolver task =>
    cases task with
    | call other =>
      have heard : Bypasses id state
          (settleResolver (Resolver.step now (.answer other reply) state.resolver) state) :=
        settleResolver_bypasses apart
      exact heard
    | timer other => exact bypasses_nothing id state
  | session other => exact answerSession_bypasses (fun same => apart (congrArg some same)) reply
  | panel task => exact settlePanel_bypasses (Panel.answer_bypasses apart reply)

theorem cancel_bypasses (apart : other ≠ id) : Bypasses id state (cancel now other state) := by
  have apart' : some other ≠ some id := fun same => apart (Option.some.inj same)
  have dropped : Kept id state { state with calls := state.calls.erase other } := kept_erase apart
  have resolved : Bypasses id { state with calls := state.calls.erase other }
      (settleResolver (Resolver.step now (.cancel other) state.resolver)
        { state with calls := state.calls.erase other }) := settleResolver_bypasses apart'
  have silenced : (Session.cancel other state.session).calls.get? id =
      state.session.calls.get? id := by
    show (state.session.calls.erase other).get? id = state.session.calls.get? id
    rw [Table.get?_erase, if_neg apart]
  unfold cancel
  split
  · exact .after dropped resolved
  · exact .after dropped (settlePanel_bypasses (Panel.cancel_bypasses apart))
  · exact ⟨dropped.trans (kept_session silenced), spares_nil⟩
  · exact ⟨dropped.trans (kept_session silenced), spares_nil⟩
  · exact bypasses_nothing id state

/-- **A step bypasses every call that it is not about.** -/
theorem step_bypasses {event : Event} (apart : event.caller? ≠ some id) :
    Bypasses id state (step now event state) := by
  cases event with
  | start other request => exact start_bypasses (fun same => apart (congrArg some same)) request
  | method other method body =>
    exact startMethod_bypasses (fun same => apart (congrArg some same)) method body
  | proceed task =>
    rw [step]
    cases taken : proceed now task state with
    | none => exact bypasses_nothing id state
    | some stepped => exact proceed_bypasses apart taken
  | answer task reply => exact answer_bypasses apart reply
  | cancel other => exact cancel_bypasses fun same => apart (congrArg some same)

end

end Wayfinder.Service
