/-
**Calls for routes.**

A call for routes stands in the resolver from its beginning to its end, and nowhere else in the
service. So it ends with what the resolver ends it with, and that is never the fault of the request,
once the call has begun.

* `Outcome.Blames`: an answer that puts the fault on the request;
* `Resolving`, `Resolving.step`: where such a call stands, before and after a step;
* `Run.resolved`: how it ends, in every run.
-/

import Wayfinder.Proofs.Service.Beginnings
import Wayfinder.Proofs.Service.Parts

namespace Wayfinder.Service

open Panel (Kind Spot)

/-! ### Answers -/

/-- Whether the answer to a method puts the fault on the request. -/
def Outcome.Blames (outcome : Outcome) : Prop :=
  ∃ record, render outcome = .error record ∧ record.code = .invalidArgument

theorem not_blames_ok (response : Response) : ¬ Outcome.Blames (.ok response) :=
  fun ⟨_, same, _⟩ => by cases same

theorem blames_error_iff (fault : ServiceFault) :
    Outcome.Blames (.error fault) ↔ fault.code = .invalidArgument := by
  constructor
  · rintro ⟨_, same, code⟩
    cases same
    exact code
  · exact fun code => ⟨_, rfl, code⟩

/-- What comes from the resolver does not put the fault on the request if it did not there. -/
theorem not_blames_ofResolver {outcome : Resolver.Outcome} (candid : outcome.Candid) :
    ¬ Outcome.Blames (ofResolver outcome) := by
  cases outcome with
  | ok finding => exact not_blames_ok _
  | error fault => exact fun blames => candid fault rfl ((blames_error_iff _).mp blames)

/-! ### What is taken over from the resolver -/

section

variable {id : CallId} {kinds : List Kind} {state : State} {now : Timestamp}

/-- Taking effects of the resolver over only takes calls out. -/
theorem absorbResolver_eq (effects : Resolver.Effects) (state : State) :
    ∃ calls : Table CallId Stage, (absorbResolver effects state).1 = { state with calls } ∧
      ∀ other stage, calls.get? other = some stage → state.calls.get? other = some stage := by
  induction effects generalizing state with
  | nil => exact ⟨state.calls, rfl, fun _ _ here => here⟩
  | cons effect rest hypothesis =>
    cases effect with
    | finish other outcome =>
      obtain ⟨calls, same, fewer⟩ := hypothesis { state with calls := state.calls.erase other }
      exact ⟨calls, same, fun other stage here => Table.get?_of_erase (fewer other stage here)⟩
    | ask | rouse | resume | wait | spawn => exact hypothesis state

/-- A call that ends has ended in the resolver. -/
theorem finish_of_absorbResolver {effects : Resolver.Effects} {outcome : Outcome}
    (finished : .finish id outcome ∈ (absorbResolver effects state).2) :
    ∃ found, .finish id found ∈ effects ∧ outcome = ofResolver found := by
  induction effects generalizing state with
  | nil => cases finished
  | cons effect rest hypothesis =>
    rcases List.mem_append.mp finished with first | later
    · cases effect with
      | finish other found =>
        cases List.mem_singleton.mp first
        exact ⟨found, List.mem_cons_self, rfl⟩
      | ask | rouse | resume | wait | spawn => cases List.mem_singleton.mp first
    · obtain ⟨found, member, same⟩ := hypothesis later
      exact ⟨found, List.mem_cons_of_mem _ member, same⟩

/-! ### Where the call stands -/

/-- Where a call for routes stands: in the resolver, if it is still under way. -/
structure Resolving (id : CallId) (kinds : List Kind) (state : State) : Prop where
  stage : ∀ stage, state.calls.get? id = some stage → stage = .resolving
  session : state.session.calls.get? id = none
  panel : Spot.away.Holds id kinds state.panel

/-- What a step does with such a call: it leaves it where it is or ends it, but does not put the
fault on the request. -/
structure Resolving.Steps (id : CallId) (kinds : List Kind) (stepped : State × Effects) : Prop where
  resolving : Resolving id kinds stepped.1
  candid : ∀ outcome, .finish id outcome ∈ stepped.2 → ¬ Outcome.Blames outcome

theorem Resolving.bypassed (resolving : Resolving id kinds state) {stepped : State × Effects}
    (bypasses : Bypasses id state stepped) : Resolving.Steps id kinds stepped where
  resolving :=
    ⟨fun stage here => resolving.stage stage (bypasses.kept.call ▸ here),
      bypasses.kept.session.trans resolving.session, resolving.panel.kept bypasses.kept.panel⟩
  candid _ finished := absurd rfl (bypasses.spares _ finished)

/-- A step of the resolver, with which the call may end. -/
theorem Resolving.settle (resolving : Resolving id kinds state) (candid : state.resolver.Candid)
    {event : Resolver.Event} (running : ∀ text, event ≠ .start id text) {before : State}
    (same : before.session = state.session ∧ before.panel = state.panel)
    (fewer : ∀ stage, before.calls.get? id = some stage → state.calls.get? id = some stage) :
    Resolving.Steps id kinds
      (settleResolver (Resolver.step now event state.resolver) before) := by
  obtain ⟨calls, settled, kept⟩ := absorbResolver_eq (Resolver.step now event state.resolver).2
    { before with resolver := (Resolver.step now event state.resolver).1 }
  constructor
  · rw [settleResolver, settled]
    exact ⟨fun stage here => resolving.stage stage (fewer stage (kept id stage here)),
      same.1 ▸ resolving.session, same.2 ▸ resolving.panel⟩
  · intro outcome finished
    obtain ⟨found, member, rfl⟩ := finish_of_absorbResolver finished
    exact not_blames_ofResolver (candid.finish running member)

theorem Resolving.proceed (resolving : Resolving id kinds state) (candid : state.resolver.Candid)
    {task : Task} (own : task.caller? = some id) {stepped : State × Effects}
    (taken : Service.proceed now task state = some stepped) :
    Resolving.Steps id kinds stepped := by
  cases task with
  | session => cases taken
  | resolver task =>
    obtain ⟨result, turned, rfl⟩ := Option.map_eq_some_iff.mp taken
    have same : result = Resolver.step now (.proceed task) state.resolver := by
      rw [Resolver.step, turned]
      rfl
    rw [same]
    exact resolving.settle candid (fun _ => Resolver.Event.noConfusion) ⟨rfl, rfl⟩
      fun _ here => here
  | panel task =>
    obtain ⟨result, turned, _⟩ := Option.map_eq_some_iff.mp taken
    obtain ⟨next, turn, _⟩ := resolving.panel.proceed now own turned
    cases turn

theorem Resolving.answer (resolving : Resolving id kinds state) (candid : state.resolver.Candid)
    {task : Task} (own : task.caller? = some id) (reply : Reply) :
    Resolving.Steps id kinds (Service.answer now task reply state) := by
  cases task with
  | resolver task =>
    cases task with
    | timer => cases own
    | call other =>
      exact resolving.settle candid (fun _ => Resolver.Event.noConfusion) ⟨rfl, rfl⟩
        fun _ here => here
  | session other =>
    cases own
    have absent : state.session.calls.get? id = none := resolving.session
    refine resolving.bypassed ?_
    simp only [Service.answer, Session.answer, absent]
    exact bypasses_nothing id state
  | panel task =>
    exact resolving.bypassed (settlePanel_bypasses (resolving.panel.answer_away own reply))

theorem Resolving.cancel (resolving : Resolving id kinds state)
    (candid : state.resolver.Candid) :
    Resolving.Steps id kinds (Service.cancel now id state) := by
  rw [Service.cancel]
  cases here : state.calls.get? id with
  | none => exact resolving.bypassed (bypasses_nothing id state)
  | some stage =>
    cases resolving.stage stage here
    exact resolving.settle candid (fun _ => Resolver.Event.noConfusion) ⟨rfl, rfl⟩
      fun _ => Table.get?_of_erase

/-- **Every step leaves a call for routes where it is or ends it, without putting the fault on the
request.** -/
theorem Resolving.step (resolving : Resolving id kinds state) (candid : state.resolver.Candid)
    (now : Timestamp) {event : Event} (running : event.beginning? ≠ some id) :
    Resolving.Steps id kinds (Service.step now event state) := by
  by_cases own : event.caller? = some id
  · cases event with
    | start | method => exact absurd own running
    | answer task reply => exact resolving.answer candid own reply
    | cancel other =>
      cases own
      exact resolving.cancel candid
    | proceed task =>
      rw [Service.step]
      cases taken : Service.proceed now task state with
      | none => exact resolving.bypassed (bypasses_nothing id state)
      | some stepped => exact resolving.proceed candid own taken
  · exact resolving.bypassed (step_bypasses own)

/-! ### Runs -/

variable {initial : State} {history : List Occurrence} {desk : Desk} {start : Nat}

/-- A call for routes to a node goes to its place when it begins. -/
theorem Place.Holds.resolve (holds : Place.gone.Holds id kinds desk) {event : Event}
    {text : String} {dst : Node} (named : Node.parseTrimmed text = .ok dst)
    (begins : Begins id (.ok (.resolve text)) ⟨desk, now, event⟩) :
    Resolving id kinds (Desk.step now event desk).1.service ∧
      (Desk.step now event desk).2 = [.resume (.resolver (.call id))] := by
  have launched : launch id (.ok (.resolve text)) desk.service =
      ({ desk.service with
          resolver := { desk.service.resolver with
            calls := desk.service.resolver.calls.put id ⟨dst, .lookingUp⟩ }
          calls := desk.service.calls.put id .resolving },
        [.resume (.resolver (.call id))]) := by
    rw [launch, Service.start, Resolver.start, named]
    rfl
  rw [begins.step, launched]
  refine ⟨⟨fun stage here => ?_, holds.inside.session, holds.inside.panel⟩, rfl⟩
  have put : (desk.service.calls.put id .resolving).get? id = some stage := here
  rw [Table.get?_put_self] at put
  cases put
  rfl

/-- **A call for routes to a node does not end with the fault put on the request**, in every run. -/
theorem Run.resolved (run : Run ⟨initial, {}⟩ history desk) (idle : initial.Idle)
    (candid : initial.Candid) {text : String} {dst : Node}
    (named : Node.parseTrimmed text = .ok dst)
    (begun : At history start (Begins id (.ok (.resolve text)))) {position : Nat}
    {outcome : Outcome} (finished : At history position (.finish id outcome ∈ ·.effects)) :
    ¬ outcome.Blames := by
  have begins := begun.mono fun _ begins => begins.1
  have launched := Run.begins_gone run idle begun
  -- the invariant is where the call stands; what a step may end it with follows from it
  let holds : Desk → Prop := fun desk => Resolving id initial.kinds desk.service
  have goes : At history start (holds ·.after) :=
    launched.mono fun _ ⟨begins, gone⟩ => (gone.resolve named begins).1
  have steps {later : Nat} {taken : Occurrence} (after : start < later)
      (here : history[later]? = some taken) (resolving : holds taken.before) :
      holds taken.after ∧
        ∀ outcome, .finish id outcome ∈ taken.effects → ¬ outcome.Blames := by
    have running := Run.running run begins here (Nat.ne_of_gt after)
    have step := resolving.step (Run.candid (run.take here) candid).resolver taken.now running
    show holds (Desk.step taken.now taken.event taken.before).1 ∧
      ∀ outcome, .finish id outcome ∈ (Desk.step taken.now taken.event taken.before).2 → _
    unfold Desk.step
    split
    · exact ⟨step.resolving, step.candid⟩
    · exact ⟨resolving, fun _ member => by cases member⟩
  have stands := (run.stays goes fun later taken after here before =>
    (steps after here before).1).1
  obtain ⟨taken, here, ended⟩ := finished
  rcases Nat.eq_or_lt_of_le (Run.begin_le run idle begins ⟨taken, here, ended⟩) with rfl | later
  · obtain ⟨_, here', begins, gone⟩ := launched
    rw [here] at here'
    cases here'
    have effects : taken.effects = [.resume (.resolver (.call id))] := (gone.resolve named begins).2
    rw [effects] at ended
    cases List.mem_singleton.mp ended
  · exact (steps later here (stands position taken later here)).2 outcome ended

end

end Wayfinder.Service
