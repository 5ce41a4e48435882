/-
**Fetching metadata through the service.**

A call that fetches metadata stands in the panel from its beginning to its end. Each step of the
service leaves it where it is, or takes it on, or a source tells it what it has, or it ends; nobody
else ends it, and it ends once. When it ends with a bundle, every source has told it what it had, one
after another, and the bundle joins what they have told in their order.

* `Seated`: where a fetching call stands in the service;
* `Supplies`, `Ends`: a source tells the call what it has; the call ends;
* `Seated.step`: what a step does with such a call;
* `Collected`, `Run.fetch_ends`: how the call has come to its end, in every run.
-/

import Wayfinder.Proofs.Panel.Fetching
import Wayfinder.Proofs.Service.Beginnings

namespace Wayfinder.Service

open Panel (Kind Leg Spot)

/-! ### Effects of the panel -/

section

variable {id : CallId} {kinds : List Kind} {state : State} {desk : Desk} {now : Timestamp}
  {event : Event}

/-- What effects of the panel are that end no call, among those of the service. -/
def handOn (effects : Panel.Effects) : Effects := effects.filterMap (·.embed? .panel)

theorem endsNone_handOn (effects : Panel.Effects) : EndsNone (handOn effects) := by
  intro id outcome member
  obtain ⟨effect, _, same⟩ := List.mem_filterMap.mp member
  cases effect with
  | ask | rouse | resume | wait | spawn | finish => cases same

/-- Effects that end no call are handed on. -/
theorem absorbPanel_of_endsNone {effects : Panel.Effects} (endsNone : EndsNone effects) :
    absorbPanel effects state = (state, handOn effects) := by
  induction effects with
  | nil => rfl
  | cons effect rest hypothesis =>
    have others : absorbPanel rest state = (state, handOn rest) :=
      hypothesis fun id outcome member => endsNone id outcome (List.mem_cons_of_mem _ member)
    cases effect with
    | finish id outcome => exact absurd List.mem_cons_self (endsNone id outcome)
    | ask | rouse | resume | wait | spawn =>
      simp only [absorbPanel, others, handOn]
      rfl

/-- A visiting call that ends in the panel ends in the service. -/
theorem absorbPanel_of_finish {effects : Panel.Effects} (endsNone : EndsNone effects)
    {outcome : Panel.Outcome} (visiting : state.calls.get? id = some (.visiting false)) :
    absorbPanel (effects ++ [.finish id outcome]) state =
      ({ state with calls := state.calls.erase id },
        handOn effects ++ [.finish id (ofPanel outcome)]) := by
  induction effects with
  | nil =>
    simp only [List.nil_append, absorbPanel, afterPanel, visiting]
    rfl
  | cons effect rest hypothesis =>
    have others := hypothesis fun id outcome member =>
      endsNone id outcome (List.mem_cons_of_mem _ member)
    cases effect with
    | finish id outcome => exact absurd List.mem_cons_self (endsNone id outcome)
    | ask | rouse | resume | wait | spawn =>
      simp only [List.cons_append, absorbPanel, others, handOn]
      rfl

/-- Questions that the call does not ask in its own name do not keep it waiting. -/
theorem record_handOn {effects : Panel.Effects} {out : Table Task Query}
    (quiet : ∀ query limit, .ask (.call id) query limit ∉ effects) :
    ((handOn effects).foldl Desk.record out).get? (.panel (.call id)) =
      out.get? (.panel (.call id)) := by
  induction effects generalizing out with
  | nil => rfl
  | cons effect rest hypothesis =>
    have others {out : Table Task Query} :
        ((handOn rest).foldl Desk.record out).get? (.panel (.call id)) =
          out.get? (.panel (.call id)) :=
      hypothesis fun query limit member => quiet query limit (List.mem_cons_of_mem _ member)
    cases effect with
    | ask task query limit =>
      have apart : Task.panel task ≠ .panel (.call id) := by
        rintro ⟨⟩
        exact quiet query limit List.mem_cons_self
      have same : (out.put (.panel task) query).get? (.panel (.call id)) =
          out.get? (.panel (.call id)) := by
        rw [Table.get?_put, if_neg apart]
      exact others.trans same
    | rouse | resume | wait | spawn | finish => exact others

/-! ### Where a fetching call stands -/

/-- Where a fetching call stands in the service. -/
structure Seated (leg : Leg) (id : CallId) (query : MetadataQuery) (kinds : List Kind)
    (desk : Desk) : Prop where
  stage : desk.service.calls.get? id = some (.visiting false)
  resolver : desk.service.resolver.calls.get? id = none
  session : desk.service.session.calls.get? id = none
  panel : leg.Holds id query kinds desk.service.panel
  /-- It waits for nobody outside between the sources. -/
  out : desk.out.get? (.panel (.call id)) = none

variable {query : MetadataQuery} {leg : Leg}

theorem Seated.kept {after : Desk} (seated : Seated leg id query kinds desk)
    (kept : Desk.Kept id desk after) : Seated leg id query kinds after where
  stage := kept.service.call.trans seated.stage
  resolver := kept.service.resolver.trans seated.resolver
  session := kept.service.session.trans seated.session
  panel := seated.panel.kept kept.service.panel
  out := (kept.out _ rfl).trans seated.out

/-- The step in which a source tells a fetching call what it has. -/
inductive Supplies (id : CallId) (query : MetadataQuery) (kinds : List Kind) (position : Nat) :
    Metadata → Occurrence → Prop
  | atlas {taken : Occurrence} {pair : Atlas.Pair} {atlas : Atlas.State} {bundle : Atlas.Bundle}
      (kind : kinds[position]? = some .atlas)
      (turn : taken.event = .proceed (.panel (.atlas position (.call id))))
      (endpoints : query.endpoints = .ok pair)
      (here : taken.before.service.panel.sources[position]? = some (.atlas atlas))
      (gives : atlas.Gives taken.now id pair (.ok bundle)) :
      Supplies id query kinds position bundle.metadata taken
  | archive {taken : Occurrence} {archive : Archive} (kind : kinds[position]? = some .archive)
      (turn : taken.event = .proceed (.panel (.call id)))
      (here : taken.before.service.panel.sources[position]? = some (.archive archive)) :
      Supplies id query kinds position archive.loaded taken

/-- How a fetching call ends in a step. -/
inductive Ends (id : CallId) (query : MetadataQuery) (kinds : List Kind) (taken : Occurrence) :
    Leg → Outcome → Prop
  | complete {collected : List Metadata} (last : kinds[collected.length]? = none) :
      Ends id query kinds taken (.facing collected) (.ok (.metadata (Metadata.concat collected)))
  | refused {collected : List Metadata} {fault : MetadataFault}
      (endpoints : query.endpoints = .error fault) :
      Ends id query kinds taken (.facing collected) (.error (.metadata fault))
  | failed {collected : List Metadata} {pair : Atlas.Pair} {stage : Atlas.Stage}
      {atlas : Atlas.State} {fault : MetadataFault}
      (here : taken.before.service.panel.sources[collected.length]? = some (.atlas atlas))
      (gives : atlas.Gives taken.now id pair (.error fault)) :
      Ends id query kinds taken (.inside collected pair stage) (.error (.metadata fault))

/-- What a step does with a fetching call. -/
inductive Seated.Steps (leg : Leg) (id : CallId) (query : MetadataQuery) (kinds : List Kind)
    (taken : Occurrence) : Prop
  | goes (next : Leg) (same : next.collected = leg.collected)
      (seated : Seated next id query kinds taken.after)
      (silent : ∀ outcome, .finish id outcome ∉ taken.effects)
  | collects (found : Metadata) (supplies : Supplies id query kinds leg.collected.length found taken)
      (seated : Seated (.facing (leg.collected ++ [found])) id query kinds taken.after)
      (silent : ∀ outcome, .finish id outcome ∉ taken.effects)
  | ends (outcome : Outcome) (how : Ends id query kinds taken leg outcome)
      (gone : Place.gone.Inside id kinds taken.after.service)
      (only : ∀ other, .finish id other ∈ taken.effects → other = outcome)
  /-- The call is given up. -/
  | drops (cancels : taken.event = .cancel id)
      (gone : Place.gone.Inside id kinds taken.after.service)
      (silent : ∀ outcome, .finish id outcome ∉ taken.effects)

/-- What the service looks like after a step of the panel in which a fetching call goes on. -/
theorem Seated.settle (seated : Seated leg id query kinds desk) {next : Leg}
    {stepped : Panel.State × Panel.Effects} (lands : next.Holds id query kinds stepped.1)
    (endsNone : EndsNone stepped.2) (quiet : ∀ query limit, .ask (.call id) query limit ∉ stepped.2)
    {out : Table Task Query} (silent : out.get? (.panel (.call id)) = none) :
    Seated next id query kinds ⟨(settlePanel stepped desk.service).1,
        (settlePanel stepped desk.service).2.foldl Desk.record out⟩ ∧
      EndsNone (settlePanel stepped desk.service).2 := by
  rw [settlePanel, absorbPanel_of_endsNone endsNone]
  exact ⟨⟨seated.stage, seated.resolver, seated.session, lands, (record_handOn quiet).trans silent⟩,
    endsNone_handOn _⟩

/-- What the service looks like after a step of the panel in which a fetching call ends. -/
theorem Seated.leave (seated : Seated leg id query kinds desk) {panel : Panel.State}
    {effects : Panel.Effects} {outcome : Panel.Outcome}
    (lands : Spot.away.Holds id kinds panel) (endsNone : EndsNone effects) :
    Place.gone.Inside id kinds
        (settlePanel (panel, effects ++ [.finish id outcome]) desk.service).1 ∧
      ∀ other, .finish id other ∈
        (settlePanel (panel, effects ++ [.finish id outcome]) desk.service).2 →
        other = ofPanel outcome := by
  let turned : State := { desk.service with panel }
  have visiting : turned.calls.get? id = some (.visiting false) := seated.stage
  have erased : (turned.calls.erase id).get? id = none := Table.get?_erase_self ..
  show Place.gone.Inside id kinds (absorbPanel (effects ++ [.finish id outcome]) turned).1 ∧
    ∀ other, .finish id other ∈ (absorbPanel (effects ++ [.finish id outcome]) turned).2 → _
  rw [absorbPanel_of_finish endsNone visiting]
  refine ⟨⟨erased, seated.resolver, seated.session, lands⟩, fun other member => ?_⟩
  rcases List.mem_append.mp member with told | last
  · exact absurd told (endsNone_handOn effects id other)
  · cases List.mem_singleton.mp last
    rfl

/-- **A turn in the panel takes a fetching call on, or ends it.** -/
theorem Seated.turn (seated : Seated leg id query kinds desk) {inner : Panel.Event}
    {next : Option Leg} {stepped : Panel.State × Panel.Effects}
    (turn : Leg.Turn now id query kinds desk.service.panel leg inner next stepped.2)
    (lands : Leg.Lands id query kinds next stepped.1)
    (admits : desk.admits event = true)
    (taken : Service.step now event desk.service = settlePanel stepped desk.service)
    (silent : (desk.left event).get? (.panel (.call id)) = none)
    (mine : ∀ task, inner = .proceed task → event = .proceed (.panel task)) :
    Seated.Steps leg id query kinds ⟨desk, now, event⟩ := by
  have effects : Automaton.Occurrence.effects (⟨desk, now, event⟩ : Occurrence) =
      (settlePanel stepped desk.service).2 := by
    rw [← taken]
    exact congrArg Prod.snd (step_of_admits now admits)
  have after : Automaton.Occurrence.after (⟨desk, now, event⟩ : Occurrence) =
      ⟨(settlePanel stepped desk.service).1,
        (settlePanel stepped desk.service).2.foldl Desk.record (desk.left event)⟩ := by
    rw [← taken]
    exact congrArg Prod.fst (step_of_admits now admits)
  have goes {next : Leg}
      (turn : Leg.Turn now id query kinds desk.service.panel leg inner (some next) stepped.2)
      (lands : next.Holds id query kinds stepped.1) :
      Seated next id query kinds (Automaton.Occurrence.after (⟨desk, now, event⟩ : Occurrence)) ∧
        ∀ outcome, .finish id outcome ∉
          Automaton.Occurrence.effects (⟨desk, now, event⟩ : Occurrence) := by
    rw [effects, after]
    obtain ⟨endsNone, quiet⟩ := turn.quiet
    obtain ⟨there, still⟩ := seated.settle lands endsNone quiet silent
    exact ⟨there, still id⟩
  have leaves {before : Panel.Effects} {outcome : Panel.Outcome}
      (how : Ends id query kinds ⟨desk, now, event⟩ leg (ofPanel outcome))
      (lands : Spot.away.Holds id kinds stepped.1) (endsNone : EndsNone before)
      (same : stepped.2 = before ++ [.finish id outcome]) :
      Seated.Steps leg id query kinds ⟨desk, now, event⟩ := by
    obtain ⟨gone, only⟩ := seated.leave lands endsNone
    refine .ends (ofPanel outcome) how ?_ ?_
    · rw [after, ← Prod.eta stepped, same]
      exact gone
    · rw [effects, ← Prod.eta stepped, same]
      exact only
  obtain ⟨panel, done⟩ := stepped
  cases turn with
  | enter here endpoints =>
    obtain ⟨there, still⟩ := goes (.enter here endpoints) lands
    exact .goes _ (by rfl) there still
  | refuse endpoints => exact leaves (.refused endpoints) lands endsNone_nil rfl
  | load kind here =>
    obtain ⟨there, still⟩ := goes (.load kind here) lands
    exact .collects _ (.archive kind (mine _ rfl) here) there still
  | finish last => exact leaves (.complete last) lands endsNone_nil rfl
  | work inner =>
    obtain ⟨there, still⟩ := goes (.work inner) lands
    exact .goes _ (by rfl) there still
  | gather inner kind here gives =>
    obtain ⟨there, still⟩ := goes (.gather inner kind here gives) lands
    have endpoints := seated.panel.endpoints _ _ _ rfl
    exact .collects _ (.atlas kind (mine _ rfl) endpoints here gives) there still
  | fail inner here gives =>
    exact leaves (.failed here gives) lands (Panel.endsNone_handOn _ inner) rfl
  | idle =>
    obtain ⟨there, still⟩ := goes .idle lands
    exact .goes _ rfl there still

/-- A step that changes nothing leaves a fetching call where it is. -/
theorem Seated.stays (seated : Seated leg id query kinds desk)
    (same : Desk.step now event desk = (desk, [])) :
    Seated.Steps leg id query kinds ⟨desk, now, event⟩ := by
  refine .goes leg rfl ?_ fun outcome finished => ?_
  · show Seated leg id query kinds (Desk.step now event desk).1
    rw [same]
    exact seated
  · have finished : .finish id outcome ∈ (Desk.step now event desk).2 := finished
    rw [same] at finished
    cases finished

theorem Seated.proceed (seated : Seated leg id query kinds desk) (outside : .external ∉ kinds)
    {task : Task} (own : task.caller? = some id) :
    Seated.Steps leg id query kinds ⟨desk, now, .proceed task⟩ := by
  cases taken : Service.proceed now task desk.service with
  | none =>
    refine seated.stays ?_
    rw [step_of_admits now rfl, Service.step, taken]
    rfl
  | some stepped =>
    have stepped_eq : Service.step now (.proceed task) desk.service = stepped := by
      rw [Service.step, taken]
      rfl
    cases task with
    | resolver task =>
      cases task with
      | timer => cases own
      | call other =>
        cases own
        simp only [Service.proceed, Resolver.proceed, seated.resolver, Option.bind_none,
          Option.map_none] at taken
        cases taken
    | session => cases taken
    | panel task =>
      obtain ⟨result, turned, rfl⟩ := Option.map_eq_some_iff.mp taken
      obtain ⟨next, turn, lands⟩ := seated.panel.proceed outside own turned
      exact seated.turn turn lands rfl stepped_eq seated.out fun _ same => by cases same; rfl

/-- An answer for a call that does not wait in the resolver or the session comes to nothing. -/
theorem Seated.hears_nothing (seated : Seated leg id query kinds desk) {task : Task} {reply : Reply}
    (admits : desk.admits (.answer task reply) = true)
    (same : Service.step now (.answer task reply) desk.service = (desk.service, [])) :
    Seated.Steps leg id query kinds ⟨desk, now, .answer task reply⟩ := by
  have stepped : Desk.step now (.answer task reply) desk =
      (⟨desk.service, desk.out.erase task⟩, []) := by
    rw [step_of_admits now admits, same]
    rfl
  have silent : (desk.out.erase task).get? (.panel (.call id)) = none := by
    rw [Table.get?_erase, seated.out, ite_self]
  refine .goes leg rfl ?_ fun outcome finished => ?_
  · show Seated leg id query kinds (Desk.step now (.answer task reply) desk).1
    rw [stepped]
    exact ⟨seated.stage, seated.resolver, seated.session, seated.panel, silent⟩
  · have finished : .finish id outcome ∈ (Desk.step now (.answer task reply) desk).2 := finished
    rw [stepped] at finished
    cases finished

theorem Seated.answer (seated : Seated leg id query kinds desk) {task : Task} {reply : Reply}
    (own : task.caller? = some id) :
    Seated.Steps leg id query kinds ⟨desk, now, .answer task reply⟩ := by
  by_cases expects : desk.expects task reply = true
  · cases task with
    | resolver task =>
      cases task with
      | timer => cases own
      | call other =>
        cases own
        refine seated.hears_nothing expects ?_
        rw [Service.step, Service.answer, Resolver.step, seated.resolver]
        rfl
    | session other =>
      cases own
      have absent : desk.service.session.calls.get? id = none := seated.session
      refine seated.hears_nothing expects ?_
      simp only [Service.step, Service.answer, Session.answer, absent]
      rfl
    | panel task =>
      have silent : (desk.out.erase (.panel task)).get? (.panel (.call id)) = none := by
        rw [Table.get?_erase, seated.out, ite_self]
      cases task with
      | call other =>
        cases own
        rw [Desk.expects, seated.out] at expects
        cases expects
      | atlas position task =>
        cases task with
        | loop | survey => cases own
        | call other =>
          cases own
          obtain ⟨next, turn, lands⟩ := seated.panel.answer now position reply
          exact seated.turn turn lands expects rfl silent fun _ same => by cases same
  · exact seated.stays (if_neg expects)

theorem Seated.cancel (seated : Seated leg id query kinds desk) :
    Seated.Steps leg id query kinds ⟨desk, now, .cancel id⟩ := by
  obtain ⟨away, endsNone⟩ := seated.panel.cancel
  have stepped : Service.step now (.cancel id) desk.service =
      ({ desk.service with
          panel := (Panel.cancel id desk.service.panel).1
          calls := desk.service.calls.erase id },
        handOn (Panel.cancel id desk.service.panel).2) := by
    rw [Service.step, Service.cancel, seated.stage]
    simp only [settlePanel, absorbPanel_of_endsNone endsNone]
  refine .drops rfl ?_ fun outcome finished => ?_
  · show Place.gone.Inside id kinds (Desk.step now (.cancel id) desk).1.service
    rw [step_of_admits now rfl, stepped]
    exact ⟨Table.get?_erase_self .., seated.resolver, seated.session, away⟩
  · have finished : .finish id outcome ∈ (Desk.step now (.cancel id) desk).2 := finished
    rw [step_of_admits now rfl, stepped] at finished
    exact endsNone_handOn _ id outcome finished

/-- **Every step leaves a fetching call where it is, takes it on, or ends it.** -/
theorem Seated.step (seated : Seated leg id query kinds desk) (outside : .external ∉ kinds)
    (now : Timestamp) (running : event.beginning? ≠ some id) :
    Seated.Steps leg id query kinds ⟨desk, now, event⟩ := by
  by_cases own : event.caller? = some id
  · cases event with
    | start | method => exact absurd own running
    | proceed task => exact seated.proceed outside own
    | answer task reply => exact seated.answer own
    | cancel other =>
      cases own
      exact seated.cancel
  · obtain ⟨kept, silent⟩ : Desk.Kept id desk (Desk.step now event desk).1 ∧
        dealings id ⟨desk, now, event⟩ = [] := kept_of_step now own
    refine .goes leg rfl (seated.kept kept) fun outcome finished => ?_
    have done := finish_mem_dealings finished
    rw [silent] at done
    cases done

/-- A call that begins to fetch faces the first source. -/
theorem Place.Holds.fetch (holds : Place.gone.Holds id kinds desk)
    (begins : Begins id (.ok (.fetch query)) ⟨desk, now, event⟩) :
    Desk.step now event desk =
      (⟨{ desk.service with
          panel := (Panel.start id (.fetch query) desk.service.panel).1
          calls := desk.service.calls.put id (.visiting false) }, desk.out⟩,
        [.resume (.panel (.call id))]) ∧
      Seated (.facing []) id query kinds (Desk.step now event desk).1 := by
  have stepped : Desk.step now event desk = _ := begins.step
  refine ⟨stepped, ?_⟩
  rw [stepped]
  exact ⟨Table.get?_put_self .., holds.inside.resolver, holds.inside.session,
    Leg.holds_start holds.inside.panel, holds.out _ rfl⟩

/-! ### Runs -/

variable {initial : State} {history : List Occurrence} {start : Nat}

/-- What the sources have told a fetching call since it has begun, the last of it at a position. -/
inductive Collected (id : CallId) (query : MetadataQuery) (kinds : List Kind)
    (history : List Occurrence) (start : Nat) : Nat → List Metadata → Prop
  | nothing : Collected id query kinds history start start []
  | more {last position : Nat} {collected : List Metadata} {found : Metadata}
      (earlier : Collected id query kinds history start last collected) (later : last < position)
      (supplies : At history position (Supplies id query kinds collected.length found)) :
      Collected id query kinds history start position (collected ++ [found])

/-- What comes later changes nothing about what has been collected. -/
theorem Collected.append {last : Nat} {found : List Metadata}
    (collected : Collected id query kinds history start last found) (later : List Occurrence) :
    Collected id query kinds (history ++ later) start last found := by
  induction collected with
  | nothing => exact .nothing
  | more _ after supplies hypothesis => exact .more hypothesis after (supplies.append later)

/-- How a call stands that has begun to fetch. -/
inductive Fetching (id : CallId) (query : MetadataQuery) (kinds : List Kind)
    (history : List Occurrence) (start : Nat) (desk : Desk) : Prop
  | under (leg : Leg) (seated : Seated leg id query kinds desk) (last : Nat)
      (collected : Collected id query kinds history start last leg.collected)
      (past : last < history.length)
  | gone (gone : Place.gone.Inside id kinds desk.service)

/-- **In every run a fetching call has collected what the sources before it have told it, or it is
over.** -/
theorem Run.fetching (run : Run ⟨initial, {}⟩ history desk) (idle : initial.Idle)
    (outside : .external ∉ initial.kinds)
    (begun : At history start (Begins id (.ok (.fetch query)))) :
    Fetching id query initial.kinds history start desk := by
  induction run with
  | initial => exact absurd begun.lt_length (Nat.not_lt_zero _)
  | @step history desk run now event fresh hypothesis =>
    have longer : history.length < (history ++ [(⟨desk, now, event⟩ : Occurrence)]).length := by
      rw [List.length_append, List.length_singleton]
      omega
    rcases begun.append_singleton with earlier | ⟨rfl, begins⟩
    · have running : event.beginning? ≠ some id :=
        fresh.running (earlier.mono fun _ begins => begins.1)
      cases hypothesis earlier with
      | gone gone => exact .gone (gone.gone_step now running).1
      | under leg seated last collected past =>
        have kept := collected.append [(⟨desk, now, event⟩ : Occurrence)]
        cases seated.step outside now running with
        | goes next same seated =>
          exact .under next seated last (same ▸ kept) (Nat.lt_trans past longer)
        | collects found supplies seated =>
          exact .under _ seated _ (.more kept past (At.last supplies)) longer
        | ends _ _ gone => exact .gone gone
        | drops _ gone => exact .gone gone
    · obtain ⟨holds, _⟩ := Run.unbegun run idle (fresh id begins.1)
      exact .under _ (holds.fetch begins).2 _ .nothing longer

/-- **When a fetching call ends, the sources have told it one after another what it has collected,
and it ends with that or with a failure.** -/
theorem Run.fetch_ends (run : Run ⟨initial, {}⟩ history desk) (idle : initial.Idle)
    (outside : .external ∉ initial.kinds)
    (begun : At history start (Begins id (.ok (.fetch query)))) {position : Nat}
    {outcome : Outcome} (finished : At history position (.finish id outcome ∈ ·.effects)) :
    start < position ∧ ∃ leg last,
      Collected id query initial.kinds (history.take position) start last leg.collected ∧
      At history position (Ends id query initial.kinds · leg outcome) := by
  have begins := begun.mono fun _ begins => begins.1
  have ordered := Run.begin_le run idle begins finished
  obtain ⟨taken, here, finished⟩ := finished
  rcases Nat.eq_or_lt_of_le ordered with rfl | later
  · -- in the step in which it begins the call only goes to its place
    obtain ⟨_, here', begins, holds⟩ := Run.begins_gone run idle begun
    rw [here] at here'
    cases here'
    have effects : taken.effects = [.resume (.panel (.call id))] :=
      congrArg Prod.snd (holds.fetch begins).1
    rw [effects] at finished
    cases List.mem_singleton.mp finished
  · have running := Run.running run begins here (Nat.ne_of_gt later)
    cases Run.fetching (run.take here) idle outside (begun.take later) with
    | gone gone => exact absurd finished (finish_not_mem_of_gone gone running outcome)
    | under leg seated last collected =>
      have steps : Seated.Steps leg id query initial.kinds taken :=
        seated.step outside taken.now running
      cases steps with
      | goes _ _ _ silent => exact absurd finished (silent outcome)
      | collects _ _ _ silent => exact absurd finished (silent outcome)
      | drops _ _ silent => exact absurd finished (silent outcome)
      | ends other how _ only =>
        cases only outcome finished
        exact ⟨later, leg, last, collected, taken, here, how⟩

end

end Wayfinder.Service
