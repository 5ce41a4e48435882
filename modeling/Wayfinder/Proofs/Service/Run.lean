/-
**Runs of the service, and what a call does in them.**

Beside the state of the service stands who waits for which answer: a question stays out until it is
answered, and answers come to questions that are out only. Otherwise calls begin, go on and are given
up in any order and at any instants, many of them at once; the one condition is that every call has a
number of its own. A call leaves a trace in such a run: what it asks, what it hears, how the loops
end that it waits for, and its outcome.

* `Desk`: the service with the questions that are out;
* `automaton`, `Run`: its runs;
* `Dealing`, `dealings`, `trace`: what a call does in a step, and in a run;
* `Desk.Kept`, `kept_of_step`: a step that is not about a call leaves it where it is, and it does
  nothing in it.
-/

import Wayfinder.Proofs.Panel.Closing
import Wayfinder.Proofs.Service.Bystanders

namespace Wayfinder

/-- Whether an answer has the form that a question wants. A task that asks for countries may break
down instead. -/
def Query.fits : Query → Reply → Bool
  | .localNode, .node _ => true
  | .candidates _ _ _, .candidates _ => true
  | .compliant _ _ _, .compliant _ => true
  | .countries _, .countries _ | .countries _, .crashed => true
  | .subscribe _, .done _ | .closePolicy, .done _ | .closeOracle, .done _ => true
  | .openSource _, .source _ | .closeSource _, .source _ | .fetchSource _ _, .source _ => true
  | _, _ => false

namespace Service

/-! ### The service and its questions -/

/-- The service, and the questions that are out. -/
structure Desk where
  service : State
  out : Table Task Query := {}

namespace Desk

/-- Whether a task waits for an answer of this form. -/
def expects (desk : Desk) (task : Task) (reply : Reply) : Bool :=
  (desk.out.get? task).any (·.fits reply)

/-- Whether an event can happen. -/
def admits (desk : Desk) : Event → Bool
  | .answer task reply => desk.expects task reply
  | .start _ _ | .method _ _ _ | .proceed _ | .cancel _ => true

/-- The questions that are out when an event has happened, without new ones. -/
def left (desk : Desk) : Event → Table Task Query
  | .answer task _ => desk.out.erase task
  | .start _ _ | .method _ _ _ | .proceed _ | .cancel _ => desk.out

/-- Adds a question to those that are out. -/
def record (out : Table Task Query) : Effect Task Query Outcome → Table Task Query
  | .ask task query _ => out.put task query
  | .rouse _ | .resume _ | .wait _ _ | .spawn _ _ | .finish _ _ => out

/-- One step: an event that cannot happen changes nothing. -/
def step (now : Timestamp) (event : Event) (desk : Desk) : Desk × Effects :=
  if desk.admits event then
    let stepped := Service.step now event desk.service
    (⟨stepped.1, stepped.2.foldl record (desk.left event)⟩, stepped.2)
  else (desk, [])

end Desk

/-- The number of the call that an event begins. -/
def Event.beginning? : Event → Option CallId
  | .start id _ | .method id _ _ => some id
  | .proceed _ | .answer _ _ | .cancel _ => none

/-- The service as an automaton. -/
def automaton : Automaton Desk Event Effects := ⟨Desk.step, Event.beginning?⟩

/-- A step that was taken. -/
abbrev Occurrence := automaton.Occurrence

/-- The runs of the service from a state. -/
abbrev Run (initial : Desk) : List Occurrence → Desk → Prop := automaton.Run initial

/-! ### What a call does -/

/-- What a call does. -/
inductive Dealing where
  | ask (task : Task) (query : Query)
  | hear (task : Task) (reply : Reply)
  /-- Learns how the loop has ended that it waited for in the atlas at a position. -/
  | join (position : Nat) (exit : Except StopFault Unit)
  | finish (outcome : Outcome)
deriving Repr

/-- What a call learns from an event. -/
def Desk.learns (desk : Desk) (id : CallId) : Event → List Dealing
  | .answer task reply => if task.caller? = some id then [.hear task reply] else []
  | .proceed (.panel (.atlas position (.call other))) =>
    if other = id then (desk.service.panel.exit? position id).toList.map (.join position) else []
  | _ => []

/-- What a call does through an effect. -/
def Dealing.ofEffect? (id : CallId) : Effect Task Query Outcome → Option Dealing
  | .ask task query _ => if task.caller? = some id then some (.ask task query) else none
  | .finish other outcome => if other = id then some (.finish outcome) else none
  | .rouse _ | .resume _ | .wait _ _ | .spawn _ _ => none

/-- What a call does in a step. -/
def dealings (id : CallId) (taken : Occurrence) : List Dealing :=
  if taken.before.admits taken.event then
    taken.before.learns id taken.event ++ taken.effects.filterMap (Dealing.ofEffect? id)
  else []

/-- What a call does in a run. -/
def trace (id : CallId) (history : List Occurrence) : List Dealing := history.flatMap (dealings id)

theorem trace_append (id : CallId) (first second : List Occurrence) :
    trace id (first ++ second) = trace id first ++ trace id second :=
  List.flatMap_append ..

theorem trace_concat (id : CallId) (history : List Occurrence) (taken : Occurrence) :
    trace id (history ++ [taken]) = trace id history ++ dealings id taken := by
  rw [trace_append, trace, trace, List.flatMap_singleton]

section

variable {id : CallId} {desk : Desk} {event : Event} {effects : Effects}

/-! ### Steps that are not about a call -/

/-- A call does nothing through effects that are not about it. -/
theorem filterMap_of_spares (spares : Spares Task.caller? id effects) :
    effects.filterMap (Dealing.ofEffect? id) = [] := by
  refine List.filterMap_eq_nil_iff.mpr fun effect member => ?_
  have apart := spares effect member
  cases effect with
  | ask task query limit => exact if_neg apart
  | finish other outcome => exact if_neg fun same => apart (congrArg some same)
  | rouse | resume | wait | spawn => rfl

/-- Effects that are not about a call leave its questions alone. -/
theorem record_of_spares {out : Table Task Query} (spares : Spares Task.caller? id effects)
    {task : Task} (own : task.caller? = some id) :
    (effects.foldl Desk.record out).get? task = out.get? task := by
  induction effects generalizing out with
  | nil => rfl
  | cons effect rest hypothesis =>
    have apart := spares effect List.mem_cons_self
    rw [List.foldl_cons, hypothesis fun other member => spares other (List.mem_cons_of_mem _ member)]
    cases effect with
    | ask asker query limit =>
      have differs : asker ≠ task := fun same => apart ((congrArg Task.caller? same).trans own)
      exact (Table.get?_put ..).trans (if_neg differs)
    | rouse | resume | wait | spawn | finish => rfl

/-- What stays of a call and its questions. -/
structure Desk.Kept (id : CallId) (desk after : Desk) : Prop where
  service : Service.Kept id desk.service after.service
  out : ∀ task : Task, task.caller? = some id → after.out.get? task = desk.out.get? task

theorem Desk.Kept.refl (id : CallId) (desk : Desk) : Desk.Kept id desk desk :=
  ⟨Service.Kept.refl id _, fun _ _ => rfl⟩

theorem Desk.left_of_apart (apart : event.caller? ≠ some id) {task : Task}
    (own : task.caller? = some id) : (desk.left event).get? task = desk.out.get? task := by
  cases event with
  | answer asker reply =>
    have differs : asker ≠ task := fun same => apart ((congrArg Task.caller? same).trans own)
    exact (Table.get?_erase ..).trans (if_neg differs)
  | start | method | proceed | cancel => rfl

/-- A call learns nothing from events that are not about it. -/
theorem Desk.learns_of_apart (apart : event.caller? ≠ some id) : desk.learns id event = [] := by
  cases event with
  | answer task reply => exact if_neg apart
  | start | method | cancel => rfl
  | proceed task =>
    cases task with
    | resolver | session => rfl
    | panel task =>
      cases task with
      | call => rfl
      | atlas position task =>
        cases task with
        | loop | survey => rfl
        | call other => exact if_neg fun same => apart (congrArg some same)

/-- **A call stays where it is in a step that is not about it, and does nothing in it.** -/
theorem kept_of_step (now : Timestamp) (apart : event.caller? ≠ some id) :
    Desk.Kept id desk (Desk.step now event desk).1 ∧ dealings id ⟨desk, now, event⟩ = [] := by
  have bypasses : Bypasses id desk.service (Service.step now event desk.service) :=
    step_bypasses apart
  by_cases admits : desk.admits event = true
  · have stepped : Desk.step now event desk =
        (⟨(Service.step now event desk.service).1,
          (Service.step now event desk.service).2.foldl Desk.record (desk.left event)⟩,
          (Service.step now event desk.service).2) := if_pos admits
    have effects : Automaton.Occurrence.effects (⟨desk, now, event⟩ : Occurrence) =
        (Service.step now event desk.service).2 := congrArg Prod.snd stepped
    refine ⟨?_, ?_⟩
    · rw [stepped]
      refine ⟨bypasses.kept, fun task own => ?_⟩
      rw [record_of_spares bypasses.spares own, Desk.left_of_apart apart own]
    · rw [dealings, if_pos admits, effects, filterMap_of_spares bypasses.spares, List.append_nil,
        Desk.learns_of_apart apart]
  · have stepped : Desk.step now event desk = (desk, []) := if_neg admits
    refine ⟨?_, if_neg admits⟩
    rw [stepped]
    exact Desk.Kept.refl id desk

end

end Service

end Wayfinder
