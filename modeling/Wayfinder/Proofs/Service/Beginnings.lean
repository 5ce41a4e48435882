/-
**How a call of the service begins, and when it is over.**

A call begins with a request, or with a fault when its method has no such request. Until then it is
not under way anywhere in the service, and from the step on in which it ends it is not, either. So it
ends neither before it begins nor after it is over, and a call that ends in the very step in which it
begins ends nowhere else.

* `Begins`, `Begins.step`: the step in which a call begins, with a request or with a fault;
* `Concludes`, `Place.Holds.conclude`: a call that ends in the step in which it begins;
* `Run.gone_before`, `Run.begin_le`: nothing comes of a call before it begins;
* `Run.le_of_gone`, `Run.concludes`: nothing comes of it after it is over.
-/

import Wayfinder.Proofs.Service.Shutdown

namespace Wayfinder.Service

open Panel (Kind)

/-! ### Beginnings -/

/-- The request with which an event begins a call, if it begins one. -/
def Event.request? : Event → Option (Except ServiceFault Request)
  | .start _ request => some (.ok request)
  | .method _ name body => some (Request.ofMethod name body)
  | .proceed _ | .answer _ _ | .cancel _ => none

/-- The step in which a call begins with a request, or with one that is refused. -/
def Begins (id : CallId) (request : Except ServiceFault Request) (taken : Occurrence) : Prop :=
  taken.event.beginning? = some id ∧ taken.event.request? = some request

/-- Begins a call with a request, or refuses it. -/
def launch (id : CallId) (request : Except ServiceFault Request) (state : State) :
    State × Effects :=
  match request with
  | .ok request => start id request state
  | .error fault => conclude id (.error fault) state

section

variable {id : CallId} {kinds : List Kind} {state : State} {desk : Desk} {now : Timestamp}
  {event : Event}

/-- A step that begins a call. -/
theorem Begins.step {request : Except ServiceFault Request}
    (begins : Begins id request ⟨desk, now, event⟩) :
    Desk.step now event desk =
      (⟨(launch id request desk.service).1,
        (launch id request desk.service).2.foldl Desk.record desk.out⟩,
        (launch id request desk.service).2) := by
  obtain ⟨starts, requests⟩ := begins
  cases event with
  | start other request' =>
    cases starts
    cases requests
    exact step_of_admits now rfl
  | method other name body =>
    cases starts
    have same : Service.step now (.method id name body) desk.service =
        launch id request desk.service := by
      cases requests
      rw [Service.step, startMethod]
      cases Request.ofMethod name body with
      | ok | error => rfl
    rw [step_of_admits now rfl, same]
    rfl
  | proceed | answer | cancel => cases starts

/-- A call that ends in the step in which it begins. -/
structure Concludes (id : CallId) (kinds : List Kind) (outcome : Outcome) (taken : Occurrence) :
    Prop where
  begins : taken.event.beginning? = some id
  effects : taken.effects = [.finish id outcome]
  gone : Place.gone.Holds id kinds taken.after

/-- A call that ends when it begins is over, if it leaves nothing in the resolver. -/
theorem Place.Holds.conclude (holds : Place.gone.Holds id kinds desk)
    {request : Except ServiceFault Request} (begins : Begins id request ⟨desk, now, event⟩)
    {resolver : Resolver.State} {calls : Table CallId Stage} {outcome : Outcome}
    (launched : launch id request desk.service =
      ({ desk.service with resolver, calls }, [.finish id outcome]))
    (unresolved : resolver.calls.get? id = none) (absent : calls.get? id = none) :
    Desk.step now event desk =
        (⟨{ desk.service with resolver, calls }, desk.out⟩, [.finish id outcome]) ∧
      Concludes id kinds outcome ⟨desk, now, event⟩ := by
  have stepped : Desk.step now event desk =
      (⟨{ desk.service with resolver, calls }, desk.out⟩, [.finish id outcome]) := by
    rw [begins.step, launched]
    rfl
  refine ⟨stepped, begins.1, congrArg Prod.snd stepped, ?_⟩
  show Place.gone.Holds id kinds (Desk.step now event desk).1
  rw [stepped]
  exact ⟨⟨absent, unresolved, holds.inside.session, holds.inside.panel⟩, holds.out⟩

/-- A call that is refused when it begins is over. -/
theorem Place.Holds.refuse (holds : Place.gone.Holds id kinds desk) {fault : ServiceFault}
    (begins : Begins id (.error fault) ⟨desk, now, event⟩) :
    Desk.step now event desk =
        (⟨{ desk.service with calls := desk.service.calls.erase id }, desk.out⟩,
          [.finish id (.error fault)]) ∧
      Concludes id kinds (.error fault) ⟨desk, now, event⟩ :=
  holds.conclude begins (by rfl) holds.inside.resolver
    (Table.get?_erase_self ..)

/-- A call that ends in a step does so in what it does there. -/
theorem finish_mem_dealings {taken : Occurrence} {outcome : Outcome}
    (finished : .finish id outcome ∈ taken.effects) : .finish outcome ∈ dealings id taken := by
  by_cases admits : taken.before.admits taken.event = true
  · rw [dealings, if_pos admits]
    refine List.mem_append_right _ (List.mem_filterMap.mpr ⟨_, finished, ?_⟩)
    exact if_pos rfl
  · have silent : taken.effects = [] := congrArg Prod.snd (if_neg admits)
    rw [silent] at finished
    cases finished

/-! ### Runs -/

variable {initial : State} {history : List Occurrence} {start : Nat}

/-- A number that begins a call in one step begins none in another. -/
theorem Run.running (run : Run ⟨initial, {}⟩ history desk)
    (begun : At history start (·.event.beginning? = some id)) {position : Nat}
    {taken : Occurrence} (here : history[position]? = some taken) (apart : position ≠ start) :
    taken.event.beginning? ≠ some id :=
  fun begins => apart (Automaton.Run.beginning_unique run ⟨taken, here, begins⟩ begun)

/-- A call is not under way when it begins. -/
theorem Run.gone_before (run : Run ⟨initial, {}⟩ history desk) (idle : initial.Idle)
    (begun : At history start (·.event.beginning? = some id)) {position : Nat}
    {taken : Occurrence} (here : history[position]? = some taken) (before : position ≤ start) :
    Place.gone.Holds id initial.kinds taken.before := by
  refine (Run.unbegun (run.take here) idle fun other member => ?_).1
  obtain ⟨earlier, there⟩ := List.mem_iff_getElem?.mp member
  obtain ⟨sooner, other', there', same⟩ := At.of_take ⟨other, there, rfl⟩
  exact same ▸ Run.running run begun there' (by omega)

theorem Run.begins_gone (run : Run ⟨initial, {}⟩ history desk) (idle : initial.Idle)
    {request : Except ServiceFault Request} (begun : At history start (Begins id request)) :
    At history start fun taken =>
      Begins id request taken ∧ Place.gone.Holds id initial.kinds taken.before := by
  obtain ⟨taken, here, begins⟩ := begun
  exact ⟨taken, here, begins,
    Run.gone_before run idle ⟨taken, here, begins.1⟩ here (Nat.le_refl _)⟩

/-- A call that is not under way does not end. -/
theorem finish_not_mem_of_gone {taken : Occurrence}
    (gone : Place.gone.Inside id kinds taken.before.service)
    (running : taken.event.beginning? ≠ some id) (outcome : Outcome) :
    .finish id outcome ∉ taken.effects :=
  fun finished => (gone.gone_step taken.now running).2 outcome (finish_mem_dealings finished)

/-- **A call does not end before it begins.** -/
theorem Run.begin_le (run : Run ⟨initial, {}⟩ history desk) (idle : initial.Idle)
    (begun : At history start (·.event.beginning? = some id)) {position : Nat} {outcome : Outcome}
    (finished : At history position (.finish id outcome ∈ ·.effects)) : start ≤ position := by
  refine Nat.le_of_not_lt fun before => ?_
  obtain ⟨taken, here, finished⟩ := finished
  have gone := Run.gone_before run idle begun here (Nat.le_of_lt before)
  have running := Run.running run begun here (Nat.ne_of_lt before)
  exact finish_not_mem_of_gone gone.inside running outcome finished

/-- **A call that is over when it has begun does not end later.** -/
theorem Run.le_of_gone (run : Run ⟨initial, {}⟩ history desk)
    (begun : At history start (·.event.beginning? = some id))
    (ended : At history start (Place.gone.Inside id kinds ·.after.service)) {position : Nat}
    {outcome : Outcome} (finished : At history position (.finish id outcome ∈ ·.effects)) :
    position ≤ start := by
  refine Nat.le_of_not_lt fun after => ?_
  obtain ⟨taken, here, finished⟩ := finished
  let gone : Desk → Prop := fun desk => Place.gone.Inside id kinds desk.service
  have held : At history start (gone ·.after) := ended
  have kept := (run.stays held fun later taken after here still =>
    (still.gone_step taken.now (Run.running run begun here (Nat.ne_of_gt after))).1).1
  have running := Run.running run begun here (Nat.ne_of_gt after)
  exact finish_not_mem_of_gone (kept position taken after here) running outcome finished

/-- **A call that ends in the step in which it begins ends nowhere else, and in no other way.** -/
theorem Run.concludes (run : Run ⟨initial, {}⟩ history desk) (idle : initial.Idle)
    {outcome other : Outcome} (begun : At history start (Concludes id kinds outcome))
    {position : Nat} (finished : At history position (.finish id other ∈ ·.effects)) :
    position = start ∧ other = outcome := by
  have begins := begun.mono fun _ concludes => concludes.begins
  have ended := begun.mono fun _ concludes => concludes.gone.inside
  have same : position = start :=
    Nat.le_antisymm (Run.le_of_gone run begins ended finished) (Run.begin_le run idle begins finished)
  subst same
  obtain ⟨taken, _, concludes, finished⟩ := begun.and finished
  rw [concludes.effects] at finished
  cases List.mem_singleton.mp finished
  exact ⟨rfl, rfl⟩

end

end Wayfinder.Service
