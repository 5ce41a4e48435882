/-
**The service while a call ends it.**

The call that ends the service stands in the panel as long as it visits the sources, in the session
while it closes the policy engine and the oracle, and nowhere afterwards; its record in the service
says which. Its own turns and the answers to its questions take it from one place to the next; every
other step leaves it where it is.

* `Place.Inside`, `Place.Holds`: what the service looks like when a call is at a place;
* `Place.Holds.turn`: turns in the panel;
* `Place.Inside.answerPolicy`, `answerOracle`: answers of the collaborators;
* `Place.Holds.step`: every step leaves the call where it is, takes it to the next place, or gives it
  up;
* `Place.Inside.gone_step`: a call that has been given up has no outcome.
-/

import Wayfinder.Proofs.Service.Farewell

namespace Wayfinder.Service

open Panel (Kind Spot)

/-! ### The service at a place -/

/-- Where the call stands in the panel. -/
def Place.spot : Place → Spot
  | .visiting spot => spot
  | .policy _ | .oracle _ _ | .gone => .away

/-- The record of the call in the service. -/
def Place.stage? : Place → Option Stage
  | .visiting _ => some (.visiting true)
  | .policy sources | .oracle sources _ => some (.releasing sources)
  | .gone => none

/-- The record of the call in the session. -/
def Place.session? : Place → Option Session.Stage
  | .policy _ => some .closingPolicy
  | .oracle _ answered => some (.closingOracle answered)
  | .visiting _ | .gone => none

/-- The question that the call waits for, and who has asked it. -/
def Place.question? (id : CallId) : Place → Option (Task × Query)
  | .visiting spot => (spot.question? id).map fun (task, query) => (.panel task, query)
  | .policy _ => some (.session id, .closePolicy)
  | .oracle _ _ => some (.session id, .closeOracle)
  | .gone => none

/-- The question that a task of the call waits for. -/
def Place.asked? (id : CallId) (place : Place) (task : Task) : Option Query :=
  (place.question? id).bind fun (asker, query) => if asker = task then some query else none

/-- A call that is at a place of the service. -/
structure Place.Inside (place : Place) (id : CallId) (kinds : List Kind) (state : State) :
    Prop where
  stage : state.calls.get? id = place.stage?
  resolver : state.resolver.calls.get? id = none
  session : state.session.calls.get? id = place.session?
  panel : place.spot.Holds id kinds state.panel

/-- A call that is at a place, and waits for the answer to its question there. -/
structure Place.Holds (place : Place) (id : CallId) (kinds : List Kind) (desk : Desk) : Prop where
  inside : place.Inside id kinds desk.service
  out : ∀ task : Task, task.caller? = some id → desk.out.get? task = place.asked? id task

section

variable {id : CallId} {kinds : List Kind} {place : Place} {state : State} {desk : Desk}

theorem Place.Inside.kept {after : State} (inside : place.Inside id kinds state)
    (kept : Kept id state after) : place.Inside id kinds after where
  stage := kept.call.trans inside.stage
  resolver := kept.resolver.trans inside.resolver
  session := kept.session.trans inside.session
  panel := inside.panel.kept kept.panel

theorem Place.Holds.kept {after : Desk} (holds : place.Holds id kinds desk)
    (kept : Desk.Kept id desk after) : place.Holds id kinds after where
  inside := holds.inside.kept kept.service
  out task own := (kept.out task own).trans (holds.out task own)

/-! ### Turns in the panel -/

/-- What comes of a turn in the panel after which the call is still there. -/
theorem settlePanel_of_effect {panel : Panel.State} {effect : Effect Panel.Task Query Panel.Outcome}
    (going : ∀ other outcome, effect ≠ .finish other outcome) :
    settlePanel (panel, [effect]) state =
      ({ state with panel }, (effect.embed? .panel).toList) := by
  cases effect with
  | ask | rouse | resume | wait | spawn => rfl
  | finish other outcome => exact absurd rfl (going other outcome)

/-- What comes of a turn in the panel with which the call leaves it. -/
theorem settlePanel_of_finish {panel : Panel.State} {outcome : Panel.Outcome}
    (visiting : state.calls.get? id = some (.visiting true)) :
    settlePanel (panel, [.finish id outcome]) state =
      startRelease id (outcome.map fun _ => ()) { state with panel } := by
  simp only [settlePanel, absorbPanel, afterPanel, visiting]
  exact Prod.ext rfl (List.append_nil _)

/-- What a call learns from an event of the panel. -/
def Desk.hears (desk : Desk) (id : CallId) : Panel.Event → List Dealing
  | .proceed task => desk.learns id (.proceed (.panel task))
  | .answer task reply => desk.learns id (.answer (.panel task) reply)
  | .start _ _ | .cancel _ => []

/-- What a call does through an effect of its own. -/
theorem filterMap_ask (task : Task) (own : task.caller? = some id) (query : Query) :
    [Effect.ask task query none].filterMap (Dealing.ofEffect? id) = [.ask task query] := by
  rw [List.filterMap_cons, Dealing.ofEffect?, if_pos own, List.filterMap_nil]

theorem filterMap_finish (outcome : Outcome) :
    [Effect.finish id outcome].filterMap (Dealing.ofEffect? id) = [.finish outcome] := by
  rw [List.filterMap_cons, Dealing.ofEffect?, if_pos rfl, List.filterMap_nil]

theorem filterMap_startRelease (sources : Except MetadataFault Unit) (state : State) :
    (startRelease id sources state).2.filterMap (Dealing.ofEffect? id) =
      [.ask (.session id) .closePolicy] :=
  filterMap_ask (.session id) rfl .closePolicy

theorem Desk.hears_answer {task : Panel.Task} (own : task.caller? = some id) (reply : Reply) :
    desk.hears id (.answer task reply) = [.hear (.panel task) reply] :=
  if_pos own

theorem Desk.hears_proceed {position : Nat} {exit? : Option (Except StopFault Unit)}
    (exit : desk.service.panel.exit? position id = exit?) :
    desk.hears id (.proceed (.atlas position (.call id))) =
      exit?.toList.map (.join position) := by
  rw [← exit]
  exact if_pos rfl

/-- The questions of a call after one of its own has gone out. -/
theorem asked?_of_put {out : Table Task Query} {asker : Task} {query : Query}
    (silent : ∀ task : Task, task.caller? = some id → out.get? task = none)
    (question : place.question? id = some (asker, query)) {task : Task}
    (own : task.caller? = some id) :
    (out.put asker query).get? task = place.asked? id task := by
  rw [Place.asked?, question, Table.get?_put, silent task own, Option.bind_some]

/-- The call leaves the panel and goes on to the policy engine. -/
theorem Place.Inside.release {spot : Spot} {panel : Panel.State} {out : Table Task Query}
    (inside : (Place.visiting spot).Inside id kinds state)
    (there : Spot.away.Holds id kinds panel)
    (silent : ∀ task : Task, task.caller? = some id → out.get? task = none)
    (sources : Except MetadataFault Unit) :
    (Place.policy sources).Holds id kinds
      ⟨(startRelease id sources { state with panel }).1,
        (startRelease id sources { state with panel }).2.foldl Desk.record out⟩ where
  inside :=
    { stage := Table.get?_put_self ..
      resolver := inside.resolver
      session := Table.get?_put_self ..
      panel := there }
  out _ own := asked?_of_put silent rfl own

/-- **A turn in the panel takes the call to the next place.** -/
theorem Place.Holds.turn {spot next : Spot} {event : Panel.Event}
    {stepped : Panel.State × Panel.Effects} {out : Table Task Query}
    (inside : (Place.visiting spot).Inside id kinds desk.service)
    (turn : Panel.Turn id kinds desk.service.panel spot event next stepped.2)
    (there : next.Holds id kinds stepped.1)
    (silent : ∀ task : Task, task.caller? = some id → out.get? task = none) :
    ∃ place, Next id kinds (.visiting spot)
        (desk.hears id event ++
          (settlePanel stepped desk.service).2.filterMap (Dealing.ofEffect? id)) place ∧
      place.Holds id kinds
        ⟨(settlePanel stepped desk.service).1,
          (settlePanel stepped desk.service).2.foldl Desk.record out⟩ := by
  obtain ⟨panel, effects⟩ := stepped
  have visiting : desk.service.calls.get? id = some (.visiting true) := inside.stage
  have going {next : Spot} (there : next.Holds id kinds panel) :
      (Place.visiting next).Inside id kinds { desk.service with panel } :=
    ⟨inside.stage, inside.resolver, inside.session, there⟩
  have held : Spot.Holds spot id kinds desk.service.panel := inside.panel
  cases turn with
  | @ask position here =>
    rw [settlePanel_of_effect (fun _ _ same => by cases same)]
    refine ⟨.visiting (.asking position), ?_, going there,
      fun task own => asked?_of_put silent rfl own⟩
    exact (filterMap_ask (.panel (.call id)) rfl _).symm ▸ .ask here
  | pass here =>
    rw [settlePanel_of_effect (fun _ _ same => by cases same)]
    exact ⟨_, .pass here, going there, silent⟩
  | enter here =>
    rw [settlePanel_of_effect (fun _ _ same => by cases same)]
    exact ⟨_, .enter here, going there, silent⟩
  | finish last =>
    rw [settlePanel_of_finish visiting]
    exact ⟨.policy (.ok ()), (filterMap_startRelease ..).symm ▸ .finish last,
      inside.release there silent _⟩
  | hear found =>
    rw [settlePanel_of_effect (fun _ _ same => by cases same), Desk.hears_answer rfl]
    exact ⟨_, .hear found, going there, silent⟩
  | fail fault =>
    rw [settlePanel_of_finish visiting, Desk.hears_answer rfl]
    exact ⟨.policy (.error fault), (filterMap_startRelease ..).symm ▸ .fail fault,
      inside.release there silent _⟩
  | @detach position loop =>
    rw [Desk.hears_proceed held.exit?_detaching]
    exact ⟨.visiting (.inside position (.stopping loop)), .detach loop, going there, silent⟩
  | @release position =>
    rw [Desk.hears_proceed held.exit?_detaching,
      settlePanel_of_effect (fun _ _ same => by cases same)]
    refine ⟨.visiting (.inside position .releasing), ?_, going there,
      fun task own => asked?_of_put silent rfl own⟩
    exact (filterMap_ask (.panel (.atlas position (.call id))) rfl _).symm ▸ .release
  | @join position loop exit =>
    rw [Desk.hears_proceed exit, settlePanel_of_effect (fun _ _ same => by cases same)]
    refine ⟨.visiting (.inside position .releasing), ?_, going there,
      fun task own => asked?_of_put silent rfl own⟩
    exact (filterMap_ask (.panel (.atlas position (.call id))) rfl _).symm ▸ .join
  | @giveUp position loop fault exit =>
    rw [Desk.hears_proceed exit, settlePanel_of_finish visiting]
    exact ⟨.policy (.error (.job fault)), (filterMap_startRelease ..).symm ▸ .giveUp fault,
      inside.release there silent _⟩
  | @leave position =>
    rw [settlePanel_of_effect (fun _ _ same => by cases same), Desk.hears_answer rfl]
    exact ⟨_, .leave, going there, silent⟩
  | @lose position fault =>
    rw [settlePanel_of_finish visiting, Desk.hears_answer rfl]
    exact ⟨.policy (.error (.oracle fault)), (filterMap_startRelease ..).symm ▸ .lose fault,
      inside.release there silent _⟩

/-! ### Answers of the collaborators -/

theorem Place.Inside.answerPolicy {sources : Except MetadataFault Unit} {out : Table Task Query}
    (inside : (Place.policy sources).Inside id kinds state) (now : Timestamp)
    (silent : ∀ task : Task, task.caller? = some id → out.get? task = none)
    (answered : Except CallFault Unit) :
    ∃ next, Next id kinds (.policy sources) ([.hear (.session id) (.done answered)] ++
        (answer now (.session id) (.done answered) state).2.filterMap (Dealing.ofEffect? id)) next ∧
      next.Holds id kinds ⟨(answer now (.session id) (.done answered) state).1,
        (answer now (.session id) (.done answered) state).2.foldl Desk.record out⟩ := by
  have waiting : state.session.calls.get? id = some .closingPolicy := inside.session
  have stepped : answer now (.session id) (.done answered) state =
      ({ state with session :=
          { state.session with calls := state.session.calls.put id (.closingOracle answered) } },
        [.ask (.session id) .closeOracle none]) := by
    simp only [answer, Session.answer, waiting, settleSession, absorbSession, Effect.embed?,
      Option.toList_some, List.append_nil]
  rw [stepped]
  refine ⟨.oracle sources answered,
    (filterMap_ask (.session id) rfl _).symm ▸ .policy sources answered, ?_,
    fun task own => asked?_of_put silent rfl own⟩
  exact ⟨inside.stage, inside.resolver, Table.get?_put_self .., inside.panel⟩

theorem Place.Inside.answerOracle {sources : Except MetadataFault Unit}
    {policy : Except CallFault Unit} {out : Table Task Query}
    (inside : (Place.oracle sources policy).Inside id kinds state) (now : Timestamp)
    (silent : ∀ task : Task, task.caller? = some id → out.get? task = none)
    (answered : Except CallFault Unit) :
    ∃ next, Next id kinds (.oracle sources policy) ([.hear (.session id) (.done answered)] ++
        (answer now (.session id) (.done answered) state).2.filterMap (Dealing.ofEffect? id)) next ∧
      next.Holds id kinds ⟨(answer now (.session id) (.done answered) state).1,
        (answer now (.session id) (.done answered) state).2.foldl Desk.record out⟩ := by
  have waiting : state.session.calls.get? id = some (.closingOracle policy) := inside.session
  have releasing : state.calls.get? id = some (.releasing sources) := inside.stage
  let outcome : Outcome := ended sources (Session.closed policy answered)
  have stepped : answer now (.session id) (.done answered) state =
      ({ state with
          session := { state.session with calls := state.session.calls.erase id }
          calls := state.calls.erase id },
        [.finish id outcome]) := by
    simp only [answer, Session.answer, waiting, settleSession, absorbSession, afterSession,
      releasing, conclude, List.append_nil]
    rfl
  rw [stepped]
  refine ⟨.gone, (filterMap_finish _).symm ▸ .oracle sources policy answered, ?_, silent⟩
  exact ⟨Table.get?_erase_self .., inside.resolver,
    Table.get?_erase_self .., inside.panel⟩

/-! ### Every step leaves the call where it is or takes it to the next place -/

/-- A step takes a call from its place to the next. -/
def Advanced (place : Place) (id : CallId) (kinds : List Kind) (taken : Occurrence) : Prop :=
  ∃ next, Next id kinds place (dealings id taken) next ∧ next.Holds id kinds taken.after

/-- What a step does with a call at a place. -/
inductive Place.Steps (place : Place) (id : CallId) (kinds : List Kind) (taken : Occurrence) : Prop
  | stays (holds : place.Holds id kinds taken.after) (silent : dealings id taken = [])
  | moves (advanced : Advanced place id kinds taken)
  /-- The call is given up. -/
  | drops (cancels : taken.event = .cancel id) (unfinished : place ≠ .gone)
      (inside : Place.gone.Inside id kinds taken.after.service) (silent : dealings id taken = [])

/-- The step of an event that can happen. -/
theorem step_of_admits {event : Event} (now : Timestamp) (admits : desk.admits event = true) :
    Desk.step now event desk =
      (⟨(Service.step now event desk.service).1,
        (Service.step now event desk.service).2.foldl Desk.record (desk.left event)⟩,
        (Service.step now event desk.service).2) :=
  if_pos admits

theorem dealings_of_admits {event : Event} (now : Timestamp) (admits : desk.admits event = true) :
    dealings id ⟨desk, now, event⟩ = desk.learns id event ++
      (Service.step now event desk.service).2.filterMap (Dealing.ofEffect? id) := by
  have effects : Automaton.Occurrence.effects (⟨desk, now, event⟩ : Occurrence) =
      (Service.step now event desk.service).2 := congrArg Prod.snd (step_of_admits now admits)
  rw [dealings, if_pos admits, effects]

/-- A call that cannot go on learns nothing when it has its turn. -/
theorem learns_of_waiting {now : Timestamp} {task : Task}
    (waits : proceed now task desk.service = none) : desk.learns id (.proceed task) = [] := by
  cases task with
  | resolver | session => rfl
  | panel task =>
    cases task with
    | call => rfl
    | atlas position task =>
      cases task with
      | loop | survey => rfl
      | call other =>
        rw [proceed, Option.map_eq_none_iff] at waits
        refine (Decidable.em (other = id)).elim (fun same => ?_) fun differs => if_neg differs
        subst same
        rw [Desk.learns, if_pos rfl, Panel.exit?_of_proceed_none waits]
        rfl

theorem advanced_of_admits {event : Event} (now : Timestamp)
    (admits : desk.admits event = true) {next : Place}
    (step : Next id kinds place (desk.learns id event ++
      (Service.step now event desk.service).2.filterMap (Dealing.ofEffect? id)) next)
    (reached : next.Holds id kinds ⟨(Service.step now event desk.service).1,
      (Service.step now event desk.service).2.foldl Desk.record (desk.left event)⟩) :
    Advanced place id kinds ⟨desk, now, event⟩ := by
  refine ⟨next, (dealings_of_admits now admits).symm ▸ step, ?_⟩
  show next.Holds id kinds (Desk.step now event desk).1
  rw [step_of_admits now admits]
  exact reached

/-- A turn takes the call to the next place. -/
theorem Place.Holds.go (holds : place.Holds id kinds desk) {now : Timestamp} {task : Task}
    (own : task.caller? = some id) {stepped : State × Effects}
    (taken : Service.proceed now task desk.service = some stepped) :
    Advanced place id kinds ⟨desk, now, .proceed task⟩ := by
  have same : Service.step now (.proceed task) desk.service = stepped := by
    rw [Service.step, taken]
    rfl
  cases task with
  | resolver task =>
    cases task with
    | timer => cases own
    | call other =>
      cases own
      simp only [Service.proceed, Resolver.proceed, holds.inside.resolver, Option.bind_none,
        Option.map_none] at taken
      cases taken
  | session => cases taken
  | panel task =>
    obtain ⟨result, turned, rfl⟩ := Option.map_eq_some_iff.mp taken
    obtain ⟨next, turn, there⟩ := holds.inside.panel.proceed now own turned
    cases place with
    | policy | oracle | gone => cases turn
    | visiting spot =>
      have unasked : spot.question? id = none := turn.question?
      have silent (task : Task) (own : task.caller? = some id) : desk.out.get? task = none := by
        rw [holds.out task own, Place.asked?, Place.question?, unasked]
        rfl
      obtain ⟨next, step, reached⟩ := Place.Holds.turn holds.inside turn there silent
      rw [← same] at step reached
      exact advanced_of_admits now rfl step reached

theorem Place.Holds.proceed (holds : place.Holds id kinds desk) (now : Timestamp) {task : Task}
    (own : task.caller? = some id) : place.Steps id kinds ⟨desk, now, .proceed task⟩ := by
  cases taken : Service.proceed now task desk.service with
  | some stepped => exact .moves (holds.go own taken)
  | none =>
    have stepped : Service.step now (.proceed task) desk.service = (desk.service, []) := by
      rw [Service.step, taken]
      rfl
    have same : Desk.step now (.proceed task) desk = (desk, []) := by
      rw [step_of_admits now rfl, stepped]
      rfl
    refine .stays ?_ ?_
    · show place.Holds id kinds (Desk.step now (.proceed task) desk).1
      rw [same]
      exact holds
    · rw [dealings_of_admits now rfl, stepped, learns_of_waiting taken]
      rfl

/-- A task of the call that hears an answer has asked the question of its place. -/
theorem Place.Holds.awaits (holds : place.Holds id kinds desk) {task : Task} {reply : Reply}
    (own : task.caller? = some id) (expects : desk.expects task reply = true) :
    ∃ query, place.question? id = some (task, query) ∧ query.fits reply = true := by
  rw [Desk.expects, holds.out task own, Place.asked?, Option.any_eq_true] at expects
  obtain ⟨query, asked, fits⟩ := expects
  obtain ⟨⟨asker, query'⟩, question, same⟩ := Option.bind_eq_some_iff.mp asked
  dsimp only at same
  split at same
  · next equal =>
    cases same
    exact ⟨query, equal ▸ question, fits⟩
  · cases same

/-- Once the question of its place is answered, the call has no question. -/
theorem Place.Holds.answered (holds : place.Holds id kinds desk) {asker : Task} {query : Query}
    (question : place.question? id = some (asker, query)) {task : Task}
    (own : task.caller? = some id) : (desk.out.erase asker).get? task = none := by
  rw [Table.get?_erase]
  split
  · rfl
  · next differs =>
    rw [holds.out task own, Place.asked?, question]
    exact if_neg differs

/-- An answer takes the call to the next place. -/
theorem Place.Holds.hear (holds : place.Holds id kinds desk) (now : Timestamp) {task : Task}
    {reply : Reply} (own : task.caller? = some id) (expects : desk.expects task reply = true) :
    Advanced place id kinds ⟨desk, now, .answer task reply⟩ := by
  obtain ⟨query, question, fits⟩ := holds.awaits own expects
  have silent (other : Task) (own : other.caller? = some id) :
      (desk.out.erase task).get? other = none := holds.answered question own
  have hears : desk.learns id (.answer task reply) = [.hear task reply] := if_pos own
  cases place with
  | gone => cases question
  | policy sources =>
    cases question
    cases reply with
    | done answered =>
      obtain ⟨next, step, reached⟩ := holds.inside.answerPolicy now silent answered
      exact advanced_of_admits now expects (hears ▸ step) reached
    | _ => cases fits
  | oracle sources policy =>
    cases question
    cases reply with
    | done answered =>
      obtain ⟨next, step, reached⟩ := holds.inside.answerOracle now silent answered
      exact advanced_of_admits now expects (hears ▸ step) reached
    | _ => cases fits
  | visiting spot =>
    cases spot with
    | facing | away => cases question
    | asking position =>
      cases question
      cases reply with
      | source answered =>
        obtain ⟨next, turn, there⟩ := holds.inside.panel.answerSource answered
        obtain ⟨next, step, reached⟩ := Place.Holds.turn holds.inside turn there silent
        exact advanced_of_admits now expects step reached
      | _ => cases fits
    | inside position stage =>
      cases stage with
      | detaching | stopping => cases question
      | releasing =>
        cases question
        cases reply with
        | done answered =>
          obtain ⟨next, turn, there⟩ := holds.inside.panel.answerOracle answered
          obtain ⟨next, step, reached⟩ := Place.Holds.turn holds.inside turn there silent
          exact advanced_of_admits now expects step reached
        | _ => cases fits

theorem Place.Holds.answer (holds : place.Holds id kinds desk) (now : Timestamp) {task : Task}
    {reply : Reply} (own : task.caller? = some id) :
    place.Steps id kinds ⟨desk, now, .answer task reply⟩ := by
  by_cases expects : desk.expects task reply = true
  · exact .moves (holds.hear now own expects)
  · have same : Desk.step now (.answer task reply) desk = (desk, []) := if_neg expects
    refine .stays ?_ (if_neg expects)
    show place.Holds id kinds (Desk.step now (.answer task reply) desk).1
    rw [same]
    exact holds

/-- A call that is given up is gone, and nothing else comes of it. -/
theorem Place.Inside.cancel (inside : place.Inside id kinds state) (now : Timestamp) :
    Place.gone.Inside id kinds (Service.cancel now id state).1 ∧
      (Service.cancel now id state).2 = [] := by
  have stage := inside.stage
  have erased : (state.calls.erase id).get? id = none := Table.get?_erase_self ..
  have silenced : (state.session.calls.erase id).get? id = none :=
    Table.get?_erase_self ..
  cases place with
  | visiting spot =>
    obtain ⟨away, silent⟩ := inside.panel.cancel
    have stepped : Service.cancel now id state =
        ({ state with
            panel := (Panel.cancel id state.panel).1
            calls := state.calls.erase id }, []) := by
      rw [Service.cancel, stage]
      simp only [Place.stage?, settlePanel, silent, absorbPanel]
    rw [stepped]
    exact ⟨⟨erased, inside.resolver, inside.session, away⟩, rfl⟩
  | policy sources =>
    rw [Service.cancel, stage]
    exact ⟨⟨erased, inside.resolver, silenced, inside.panel⟩, rfl⟩
  | oracle sources answered =>
    rw [Service.cancel, stage]
    exact ⟨⟨erased, inside.resolver, silenced, inside.panel⟩, rfl⟩
  | gone =>
    rw [Service.cancel, stage]
    exact ⟨inside, rfl⟩

/-- **Every step of the service leaves the call where it is, takes it to the next place, or gives it
up.** -/
theorem Place.Holds.step (holds : place.Holds id kinds desk) (now : Timestamp) {event : Event}
    (running : event.beginning? ≠ some id) : place.Steps id kinds ⟨desk, now, event⟩ := by
  by_cases own : event.caller? = some id
  · cases event with
    | start | method => exact absurd own running
    | proceed task => exact holds.proceed now own
    | answer task reply => exact holds.answer now own
    | cancel other =>
      cases own
      obtain ⟨inside, quiet⟩ := holds.inside.cancel now
      have silent : dealings id ⟨desk, now, .cancel id⟩ = [] := by
        rw [dealings_of_admits now rfl]
        show [] ++ (Service.cancel now id desk.service).2.filterMap (Dealing.ofEffect? id) = []
        rw [quiet]
        rfl
      by_cases finished : place = .gone
      · subst finished
        have stepped : Service.step now (.cancel id) desk.service = (desk.service, []) := by
          rw [Service.step, Service.cancel, holds.inside.stage]
          rfl
        refine .stays ?_ silent
        show Place.gone.Holds id kinds (Desk.step now (.cancel id) desk).1
        rw [step_of_admits now rfl, stepped]
        exact holds
      · refine .drops rfl finished ?_ silent
        show Place.gone.Inside id kinds (Desk.step now (.cancel id) desk).1.service
        rw [step_of_admits now rfl]
        exact inside
  · obtain ⟨kept, silent⟩ : Desk.Kept id desk (Desk.step now event desk).1 ∧
        dealings id ⟨desk, now, event⟩ = [] := kept_of_step now own
    exact .stays (holds.kept kept) silent

/-- No step is about a call that is not under way. -/
theorem Place.Inside.gone_bypasses (inside : Place.gone.Inside id kinds state) (now : Timestamp)
    {event : Event} (running : event.beginning? ≠ some id) :
    Bypasses id state (Service.step now event state) := by
  by_cases own : event.caller? = some id
  · cases event with
    | start | method => exact absurd own running
    | cancel other =>
      cases own
      rw [Service.step, Service.cancel, inside.stage]
      exact bypasses_nothing id state
    | proceed task =>
      have waits : Service.proceed now task state = none := by
        refine Option.eq_none_iff_forall_ne_some.mpr fun stepped taken => ?_
        cases task with
        | resolver task =>
          cases task with
          | timer => cases own
          | call other =>
            cases own
            simp only [Service.proceed, Resolver.proceed, inside.resolver, Option.bind_none,
              Option.map_none] at taken
            cases taken
        | session => cases taken
        | panel task =>
          obtain ⟨result, turned, _⟩ := Option.map_eq_some_iff.mp taken
          obtain ⟨next, turn, _⟩ := inside.panel.proceed now own turned
          cases turn
      rw [Service.step, waits]
      exact bypasses_nothing id state
    | answer task reply =>
      cases task with
      | resolver task =>
        cases task with
        | timer => cases own
        | call other =>
          cases own
          rw [Service.step, Service.answer, Resolver.step, inside.resolver]
          exact bypasses_nothing id state
      | session other =>
        cases own
        have absent : state.session.calls.get? id = none := inside.session
        simp only [Service.step, Service.answer, Session.answer, absent]
        exact bypasses_nothing id state
      | panel task => exact settlePanel_bypasses (inside.panel.answer_away own reply)
  · exact step_bypasses own

theorem finish_not_mem_learns (event : Event) (outcome : Outcome) :
    .finish outcome ∉ desk.learns id event := by
  intro member
  unfold Desk.learns at member
  split at member
  · split at member
    · cases List.mem_singleton.mp member
    · cases member
  · split at member
    · obtain ⟨exit, _, same⟩ := List.mem_map.mp member
      cases same
    · cases member
  · cases member

/-- **A call that is not under way has no outcome, whatever happens.** -/
theorem Place.Inside.gone_step (inside : Place.gone.Inside id kinds desk.service) (now : Timestamp)
    {event : Event} (running : event.beginning? ≠ some id) :
    Place.gone.Inside id kinds (Desk.step now event desk).1.service ∧
      ∀ outcome, .finish outcome ∉ dealings id ⟨desk, now, event⟩ := by
  have bypasses := inside.gone_bypasses now running
  by_cases admits : desk.admits event = true
  · rw [step_of_admits now admits, dealings_of_admits now admits,
      filterMap_of_spares bypasses.spares, List.append_nil]
    exact ⟨inside.kept bypasses.kept, finish_not_mem_learns event⟩
  · have same : Desk.step now event desk = (desk, []) := if_neg admits
    have silent : dealings id ⟨desk, now, event⟩ = [] := if_neg admits
    rw [same, silent]
    exact ⟨inside, fun _ => List.not_mem_nil⟩

end

end Wayfinder.Service
