/-
**What a step of the service does to its parts.**

A step of the service is at most one step of the resolver, and at most one of the panel, which is at
most one of an atlas. What the service does beside that concerns its own records, those of the
session and those of the panel. So whatever every step of a part keeps, every step of the service
keeps, and a run as well; one such thing is that no failure that is kept blames the request.

* `Panel.settle_sources`, `Panel.atlas_before`: an atlas is as before, or has taken a step;
* `resolver_before`, `sources_before`: so are the resolver and the sources of the panel;
* `State.Candid`, `Run.candid`: no failure that is kept blames the request, in every run.
-/

import Wayfinder.Proofs.Resolver.Outcomes
import Wayfinder.Proofs.Service.Run

namespace Wayfinder

/-! ### The panel -/

namespace Panel

section

variable {id : CallId} {position : Nat} {state : State} {now : Timestamp}

theorem advance_sources (round : Round) (answer : Except MetadataFault (Option Metadata)) :
    (advance id round answer state).1.sources = state.sources := by
  cases answer with
  | error | ok => rfl

theorem absorb_sources (effects : Atlas.Effects) :
    (absorb position effects state).1.sources = state.sources := by
  induction effects generalizing state with
  | nil => rfl
  | cons effect rest hypothesis =>
    rw [absorb]
    refine hypothesis.trans ?_
    unfold absorbOne
    split
    · split
      · exact advance_sources ..
      · rfl
    · rfl

/-- Taking effects of an atlas over changes no source but the atlas. -/
theorem settle_sources (stepped : Atlas.State × Atlas.Effects) :
    (settle position stepped state).1.sources =
      state.sources.set position (.atlas stepped.1) :=
  absorb_sources stepped.2

/-- Where an atlas comes from that is among the sources after a step. -/
inductive Comes (now : Timestamp) (state : State) (atlas : Atlas.State) : Prop
  | stays (before : .atlas atlas ∈ state.sources)
  | steps {old : Atlas.State} {event : Atlas.Event} (before : .atlas old ∈ state.sources)
      (same : atlas = (Atlas.step now event old).1)

theorem Comes.of_sources {after : State} (same : after.sources = state.sources)
    {atlas : Atlas.State} (there : .atlas atlas ∈ after.sources) : Comes now state atlas :=
  .stays (same ▸ there)

theorem Comes.of_settle {before : State} {old : Atlas.State}
    (here : state.sources[position]? = some (.atlas old)) (event : Atlas.Event)
    {stepped : Atlas.State × Atlas.Effects} {atlas : Atlas.State}
    (there : .atlas atlas ∈ (settle position stepped before).1.sources)
    (same : before.sources = state.sources) (taken : stepped = Atlas.step now event old) :
    Comes now state atlas := by
  rw [settle_sources, same] at there
  rcases List.mem_or_eq_of_mem_set there with other | same
  · exact .stays other
  · cases same
    exact .steps (List.mem_of_getElem? here) (congrArg Prod.fst taken)

theorem Comes.of_visit {round : Round} {source : Source}
    (here : state.sources[round.position]? = some source) {atlas : Atlas.State}
    (there : .atlas atlas ∈ (visit now id round source state).1.sources) :
    Comes now state atlas := by
  unfold visit at there
  dsimp only at there
  split at there
  · exact .of_sources rfl there
  · exact .of_sources rfl there
  · exact .of_sources rfl there
  · exact .of_sources (advance_sources ..) there
  · rw [advance_sources] at there
    rcases List.mem_or_eq_of_mem_set there with other | same
    · exact .stays other
    · cases same
  · exact .of_sources (advance_sources ..) there
  · exact .of_sources (advance_sources ..) there
  · exact .of_sources (advance_sources ..) there
  · rw [advance_sources] at there
    exact .of_settle here .open there rfl rfl
  · exact .of_settle here (.close id) there rfl rfl
  · exact .of_settle here (.refresh id) there rfl rfl
  · next query _ => exact .of_settle here (.fetch id query) there rfl rfl

/-- **An atlas is as it was before a step of the panel, or has taken a step of its own.** -/
theorem atlas_before {event : Event} {atlas : Atlas.State}
    (there : .atlas atlas ∈ (step now event state).1.sources) : Comes now state atlas := by
  cases event with
  | start id errand => exact .of_sources rfl there
  | proceed task =>
    rw [step] at there
    cases taken : proceed now task state with
    | none =>
      rw [taken] at there
      exact .of_sources rfl there
    | some stepped =>
      rw [taken, Option.getD_some] at there
      cases task with
      | call id =>
        obtain ⟨round, _, taken⟩ := Option.bind_eq_some_iff.mp taken
        unfold proceedCall at taken
        split at taken
        · cases taken
        · split at taken
          · next source here =>
            cases taken
            exact .of_visit here there
          · cases taken
            exact .of_sources rfl there
      | atlas position task =>
        obtain ⟨old, here, taken⟩ := Option.bind_eq_some_iff.mp taken
        obtain ⟨result, turned, rfl⟩ := Option.map_eq_some_iff.mp taken
        have same : result = Atlas.step now (.proceed task) old := by
          rw [Atlas.step, turned]
          rfl
        exact .of_settle (source_of_atlas? here) _ there rfl same
  | answer task reply =>
    rw [step] at there
    unfold answer at there
    split at there
    · split at there
      · exact .of_sources (advance_sources ..) there
      · exact .of_sources rfl there
    · split at there
      · next old here =>
        exact .of_settle (source_of_atlas? here) (.answer _ _) there rfl rfl
      · exact .of_sources rfl there
    · exact .of_sources rfl there
  | cancel id =>
    rw [step] at there
    unfold cancel at there
    split at there
    · exact .of_sources rfl there
    · dsimp only at there
      split at there
      · next old here =>
        exact .of_settle (source_of_atlas? here) (.cancel id) there rfl rfl
      · exact .of_sources rfl there

end

end Panel

namespace Service

/-! ### The service -/

section

variable {id : CallId} {state : State} {now : Timestamp}

/-- Whether a state has the resolver and the sources of another one. -/
structure SameParts (state after : State) : Prop where
  resolver : after.resolver = state.resolver
  sources : after.panel.sources = state.panel.sources

theorem SameParts.trans {first second third : State} (one : SameParts first second)
    (two : SameParts second third) : SameParts first third :=
  ⟨two.resolver.trans one.resolver, two.sources.trans one.sources⟩

theorem sameParts_afterPanel (outcome : Panel.Outcome) :
    SameParts state (afterPanel id outcome state).1 := by
  unfold afterPanel
  split
  · exact ⟨rfl, rfl⟩
  · exact ⟨rfl, rfl⟩
  · exact ⟨rfl, rfl⟩

theorem sameParts_afterSession (outcome : Session.Outcome) :
    SameParts state (afterSession id outcome state).1 := by
  unfold afterSession
  split
  · exact ⟨rfl, rfl⟩
  · exact ⟨rfl, rfl⟩
  · exact ⟨rfl, rfl⟩
  · exact ⟨rfl, rfl⟩
  · exact ⟨rfl, rfl⟩

theorem sameParts_absorbResolver (effects : Resolver.Effects) :
    SameParts state (absorbResolver effects state).1 := by
  induction effects generalizing state with
  | nil => exact ⟨rfl, rfl⟩
  | cons effect rest hypothesis =>
    unfold absorbResolver
    cases effect with
    | finish other outcome =>
      have first : SameParts state (conclude other (ofResolver outcome) state).1 := ⟨rfl, rfl⟩
      exact first.trans hypothesis
    | ask | rouse | resume | wait | spawn => exact hypothesis

theorem sameParts_absorbPanel (effects : Panel.Effects) :
    SameParts state (absorbPanel effects state).1 := by
  induction effects generalizing state with
  | nil => exact ⟨rfl, rfl⟩
  | cons effect rest hypothesis =>
    unfold absorbPanel
    cases effect with
    | finish other outcome => exact (sameParts_afterPanel outcome).trans hypothesis
    | ask | rouse | resume | wait | spawn => exact hypothesis

theorem sameParts_absorbSession (effects : Session.Effects) :
    SameParts state (absorbSession effects state).1 := by
  induction effects generalizing state with
  | nil => exact ⟨rfl, rfl⟩
  | cons effect rest hypothesis =>
    unfold absorbSession
    cases effect with
    | finish other outcome => exact (sameParts_afterSession outcome).trans hypothesis
    | ask | rouse | resume | wait | spawn => exact hypothesis

/-- What a step does to the parts: nothing, or one step of one of them. -/
inductive PartStep (now : Timestamp) (state after : State) : Prop
  | stay (same : SameParts state after)
  | resolver (event : Resolver.Event)
      (stepped : after.resolver = (Resolver.step now event state.resolver).1)
      (same : after.panel.sources = state.panel.sources)
  | panel (event : Panel.Event) (same : after.resolver = state.resolver)
      (stepped : after.panel.sources = (Panel.step now event state.panel).1.sources)

theorem PartStep.of_resolver (event : Resolver.Event) {before : State}
    (same : SameParts state before) :
    PartStep now state
      (settleResolver (Resolver.step now event state.resolver) before).1 := by
  let turned : State := { before with resolver := (Resolver.step now event state.resolver).1 }
  have parts : SameParts turned (absorbResolver (Resolver.step now event state.resolver).2 turned).1 :=
    sameParts_absorbResolver _
  exact .resolver event parts.resolver (parts.sources.trans same.sources)

theorem PartStep.of_panel (event : Panel.Event) {before : State} (same : SameParts state before) :
    PartStep now state (settlePanel (Panel.step now event state.panel) before).1 := by
  let turned : State := { before with panel := (Panel.step now event state.panel).1 }
  have parts : SameParts turned (absorbPanel (Panel.step now event state.panel).2 turned).1 :=
    sameParts_absorbPanel _
  exact .panel event (parts.resolver.trans same.resolver) parts.sources

theorem PartStep.of_session (stepped : Session.State × Session.Effects) {before : State}
    (same : SameParts state before) :
    PartStep now state (settleSession stepped before).1 := by
  have first : SameParts before { before with session := stepped.1 } := ⟨rfl, rfl⟩
  exact .stay ((same.trans first).trans (sameParts_absorbSession stepped.2))

theorem partStep_start (request : Request) : PartStep now state (start id request state).1 := by
  cases request with
  | resolve destination => exact .of_resolver (.start id destination) ⟨rfl, rfl⟩
  | purge => exact .resolver .purge rfl rfl
  | subscribe | begin => exact .of_session _ ⟨rfl, rfl⟩
  | fetch | names | refresh | openSources | closeSources | release | finish =>
    exact .stay ⟨rfl, rfl⟩

/-- **A step of the service is at most one of the resolver or one of the panel.** -/
theorem partStep (now : Timestamp) (event : Event) (state : State) :
    PartStep now state (step now event state).1 := by
  cases event with
  | start id request => exact partStep_start request
  | method id method body =>
    rw [step, startMethod]
    split
    · exact partStep_start _
    · exact .stay ⟨rfl, rfl⟩
  | proceed task =>
    rw [step]
    cases taken : proceed now task state with
    | none => exact .stay ⟨rfl, rfl⟩
    | some stepped =>
      rw [Option.getD_some]
      cases task with
      | resolver task =>
        obtain ⟨result, turned, rfl⟩ := Option.map_eq_some_iff.mp taken
        have same : result = Resolver.step now (.proceed task) state.resolver := by
          rw [Resolver.step, turned]
          rfl
        subst same
        exact .of_resolver _ ⟨rfl, rfl⟩
      | panel task =>
        obtain ⟨result, turned, rfl⟩ := Option.map_eq_some_iff.mp taken
        have same : result = Panel.step now (.proceed task) state.panel := by
          rw [Panel.step, turned]
          rfl
        subst same
        exact .of_panel _ ⟨rfl, rfl⟩
      | session => cases taken
  | answer task reply =>
    rw [step]
    cases task with
    | resolver task =>
      cases task with
      | call id => exact .of_resolver (.answer id reply) ⟨rfl, rfl⟩
      | timer => exact .stay ⟨rfl, rfl⟩
    | session id => exact .of_session _ ⟨rfl, rfl⟩
    | panel task => exact .of_panel (.answer task reply) ⟨rfl, rfl⟩
  | cancel id =>
    rw [step, cancel]
    split
    · exact .of_resolver (.cancel id) ⟨rfl, rfl⟩
    · exact .of_panel (.cancel id) ⟨rfl, rfl⟩
    · exact .stay ⟨rfl, rfl⟩
    · exact .stay ⟨rfl, rfl⟩
    · exact .stay ⟨rfl, rfl⟩

/-! ### Whose fault it is -/

/-- Whether no failure that is kept blames the request. -/
structure State.Candid (state : State) : Prop where
  resolver : state.resolver.Candid
  atlases : ∀ atlas, .atlas atlas ∈ state.panel.sources → atlas.Candid

theorem State.Candid.step (candid : state.Candid) (now : Timestamp) (event : Event) :
    (Service.step now event state).1.Candid := by
  cases partStep now event state with
  | stay same =>
    refine ⟨same.resolver ▸ candid.resolver, fun atlas there => candid.atlases atlas ?_⟩
    rwa [same.sources] at there
  | resolver event stepped same =>
    refine ⟨stepped ▸ candid.resolver.step now event, fun atlas there => candid.atlases atlas ?_⟩
    rwa [same] at there
  | panel event same stepped =>
    refine ⟨same ▸ candid.resolver, fun atlas there => ?_⟩
    rw [stepped] at there
    cases Panel.atlas_before there with
    | stays before => exact candid.atlases atlas before
    | steps before same =>
      subst same
      exact (candid.atlases _ before).step now _

/-- **In every run no failure that is kept blames the request**, if there was none to begin with. -/
theorem Run.candid {initial : State} {history : List Occurrence} {desk : Desk}
    (run : Run ⟨initial, {}⟩ history desk) (candid : initial.Candid) : desk.service.Candid := by
  induction run with
  | initial => exact candid
  | @step history desk run now event fresh hypothesis =>
    show (Desk.step now event desk).1.service.Candid
    unfold Desk.step
    split
    · exact hypothesis.step now event
    · exact hypothesis

theorem candid_ofSettings (settings : Settings) (geolocator : Bool)
    (directory : String → Option Directory) : (ofSettings settings geolocator directory).Candid where
  resolver := Resolver.candid_initial ..
  atlases atlas there := by
    rcases List.mem_cons.mp there with same | archived
    · cases same
      exact Atlas.candid_initial ..
    · obtain ⟨path, _, same⟩ := List.mem_map.mp archived
      cases same

end

end Service

end Wayfinder
