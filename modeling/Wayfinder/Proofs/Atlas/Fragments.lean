/-
**Fragments.**

While a collection is surveyed there is a fragment for each of its candidates. Every survey goes on
at its own pace; what it is about to find depends on its candidate and on the countries that it has
been told, and on nothing else. So when all surveys are at an end, the fragments are those of all
candidates of the one answer that the collection has heard, in the order of the answer.

* `replies`, `told`: what a survey has heard, and the countries that it has been told, in order;
* `Fragment.Follows`: a fragment is where the tour with some answers has led;
* `Run.followed`: what every turn of a survey keeps holds of all fragments;
* `Run.surveyed`: so the fragments follow from the candidates and from what the surveys were told;
* `Run.completed`: a collection that has come to its end has a complete fragment for each candidate.
-/

import Wayfinder.Proofs.Atlas.Collecting
import Wayfinder.Proofs.Survey.Attributes

namespace Wayfinder.Atlas

/-! ### What a survey has been told -/

/-- The survey at a position of a collection, wherever it stands. -/
def State.survey? (state : State) (id : CollectionId) (position : Nat) : Option Fragment :=
  (state.fragment? id position).map (·.2.2)

/-- Whether the survey at a position waits for the countries of a place. -/
def State.isAsking (state : State) (id : CollectionId) (position : Nat) : Bool :=
  match state.survey? id position with
  | some (.asking _) => true
  | _ => false

/-- What a survey hears in a step in which it waits no longer. -/
def reply? (id : CollectionId) (position : Nat) (taken : Occurrence) :
    Option (Except CallFault (List String)) :=
  match taken.event with
  | .answer task (.countries answer) =>
    if task = .survey id position ∧ taken.before.isAsking id position ∧
        ¬ taken.after.isAsking id position
    then some answer else none
  | _ => none

/-- What a survey has heard, in order. -/
def replies (history : List Occurrence) (id : CollectionId) (position : Nat) :
    List (Except CallFault (List String)) :=
  history.filterMap (reply? id position)

/-- What a survey has been told, in order. Countries that cannot be found out count as none. -/
def told (history : List Occurrence) (id : CollectionId) (position : Nat) : List (List String) :=
  (replies history id position).map toldBy

/-- Whether a fragment is where a survey of a candidate has come to with some answers. -/
def Fragment.Follows (geolocating : Bool) (candidate : Candidate) (answers : List (List String)) :
    Fragment → Prop
  | .walking survey =>
    survey.advance geolocating = Survey.tour geolocating (.ofCandidate candidate) answers
  | .asking survey => survey = Survey.tour geolocating (.ofCandidate candidate) answers
  | .complete found =>
    found = (Survey.tour geolocating (.ofCandidate candidate) answers).found ∧
      (Survey.tour geolocating (.ofCandidate candidate) answers).isOver = true
  | .lost => False

/-- A fragment that is at an end holds everything that its survey has found. -/
theorem Fragment.Follows.complete {geolocating : Bool} {candidate : Candidate}
    {answers : List (List String)} {fragment : Fragment}
    (follows : fragment.Follows geolocating candidate answers) (finished : fragment.isOver = true) :
    fragment = .complete (Survey.tour geolocating (.ofCandidate candidate) answers).found ∧
      (Survey.tour geolocating (.ofCandidate candidate) answers).isOver = true := by
  cases fragment with
  | walking | asking => cases finished
  | lost => exact follows.elim
  | complete found => exact ⟨congrArg Fragment.complete follows.1, follows.2⟩

/-- How far the survey of a candidate has come with what it has been told. -/
def reached (geolocating : Bool) (history : List Occurrence) (id : CollectionId) (position : Nat)
    (candidate : Candidate) : Survey :=
  Survey.tour geolocating (.ofCandidate candidate) (told history id position)

/-- What the surveys of some candidates have found, in the order of the candidates. -/
def findings (geolocating : Bool) (history : List Occurrence) (id : CollectionId)
    (candidates : List Candidate) : List Metadata :=
  candidates.mapIdx fun position candidate =>
    (reached geolocating history id position candidate).found

/-- Whether a survey breaks down in an event. -/
def Event.breaksSurvey : Event → Bool
  | .answer (.survey _ _) .crashed => true
  | _ => false

/-- Whether no survey breaks down in a history. -/
def Sound (history : List Occurrence) : Prop :=
  ∀ taken ∈ history, taken.event.breaksSurvey = false

instance (history : List Occurrence) : Decidable (Sound history) :=
  inferInstanceAs (Decidable (∀ taken ∈ history, taken.event.breaksSurvey = false))

theorem Sound.take {history : List Occurrence} (sound : Sound history) (count : Nat) :
    Sound (history.take count) :=
  fun taken member => sound taken (List.mem_of_mem_take member)

section

variable {state : State} {id : CollectionId} {position : Nat} {collection : Collection}
  {fragments : List Fragment} {history : List Occurrence} {taken : Occurrence}

theorem State.survey?_of_surveying (here : state.collections.get? id = some collection)
    (surveying : collection.progress = .surveying fragments) (position : Nat) :
    state.survey? id position = fragments[position]? := by
  simp only [survey?, fragment?, here, surveying, Option.bind_some, Option.map_map]
  exact Option.map_id'

theorem State.survey?_eq_some {fragment : Fragment}
    (found : state.survey? id position = some fragment) :
    ∃ collection fragments, state.collections.get? id = some collection ∧
      collection.progress = .surveying fragments ∧ fragments[position]? = some fragment := by
  obtain ⟨⟨collection, fragments, other⟩, here, rfl⟩ := Option.map_eq_some_iff.mp found
  exact ⟨collection, fragments, fragment?_eq_some here⟩

/-- A collection that waits for the oracle has no surveys. -/
theorem State.survey?_of_exploring (here : state.collections.get? id = some collection)
    (exploring : collection.progress = .exploring) : state.survey? id position = none := by
  simp only [survey?, fragment?, here, exploring, Option.bind_some, Option.map_none]

/-- A survey that stands where it stood hears nothing. -/
theorem reply?_of_same (same : taken.after.survey? id position = taken.before.survey? id position) :
    reply? id position taken = none := by
  have waits : taken.after.isAsking id position = taken.before.isAsking id position := by
    rw [State.isAsking, State.isAsking, same]
  unfold reply?
  split
  · exact if_neg fun hears => hears.2.2 (waits.trans hears.2.1)
  · rfl

/-- Where there is no survey none hears anything. -/
theorem reply?_of_none (absent : taken.before.survey? id position = none) :
    reply? id position taken = none := by
  have idle : taken.before.isAsking id position = false := by rw [State.isAsking, absent]
  unfold reply?
  split
  · refine if_neg fun hears => ?_
    rw [idle] at hears
    cases hears.2.1
  · rfl

/-- Complete fragments are joined in their order. -/
theorem outcome_of_complete (here : state.collections.get? id = some collection)
    {found : List Metadata} (complete : collection.progress = .surveying (found.map .complete)) :
    state.outcome? id = some (.ok (Metadata.concat found)) := by
  have finished : (found.map Fragment.complete).all Fragment.isOver = true := by
    rw [List.all_map]
    exact List.all_eq_true.mpr fun _ _ => rfl
  rw [State.outcome?, here, Option.bind_some, Collection.outcome?, complete]
  have same : found.filterMap (Fragment.found? ∘ Fragment.complete) = found := List.filterMap_some
  simp only [finished, if_true, List.filterMap_map, same]

theorem replies_concat :
    replies (history ++ [taken]) id position =
      replies history id position ++ (reply? id position taken).toList := by
  rw [replies, replies, List.filterMap_append, List.filterMap_cons, List.filterMap_nil]
  cases reply? id position taken <;> rfl

end

/-! ### Surveys and what they hear -/

/-- What a survey hears in an event, if it is in its turn. -/
def Event.heard? : Event → Option (Except CallFault (List String))
  | .answer _ (.countries told) => some told
  | _ => none

/-- A survey that takes its turn hears what there is to hear. -/
theorem Turn.reply?_self {state : State} {id : CollectionId} {position : Nat} {event : Event}
    {old new : Fragment} {questions : Effects} {taken : Occurrence}
    (turn : Turn state id position event old new questions) (same : taken.event = event)
    (before : taken.before.survey? id position = some old)
    (after : taken.after.survey? id position = some new) :
    reply? id position taken = event.heard? := by
  cases turn with
  | ask | finish | breakDown => simp only [reply?, same, Event.heard?]
  | learn answer =>
    have asking : taken.before.isAsking id position = true := by rw [State.isAsking, before]
    have walking : taken.after.isAsking id position = false := by rw [State.isAsking, after]
    simp [reply?, same, asking, walking, Event.heard?]

/-- In a survey's turn the others of its collection hear nothing. -/
theorem Turn.reply?_other {state : State} {id : CollectionId} {position other : Nat}
    {event : Event} {old new : Fragment} {questions : Effects} {taken : Occurrence}
    (turn : Turn state id position event old new questions) (same : taken.event = event)
    (differs : position ≠ other) : reply? id other taken = none := by
  have apart : Task.survey id position ≠ .survey id other :=
    fun equal => differs (Task.survey.inj equal).2
  cases turn with
  | ask | finish | breakDown => simp only [reply?, same]
  | learn answer =>
    simp only [reply?, same]
    exact if_neg fun hears => apart hears.1

/-- A survey that takes its turn, and does not break down, follows from what it hears. -/
theorem Turn.follows {state : State} {id : CollectionId} {position : Nat} {event : Event}
    {old new : Fragment} {questions : Effects} {candidate : Candidate}
    {answers : List (Except CallFault (List String))}
    (turn : Turn state id position event old new questions)
    (sound : event.breaksSurvey = false)
    (follows : old.Follows state.geolocating candidate (answers.map toldBy)) :
    new.Follows state.geolocating candidate ((answers ++ event.heard?.toList).map toldBy) := by
  cases turn with
  | ask wanted =>
    show Fragment.Follows _ _ ((answers ++ []).map toldBy) _
    rw [List.append_nil]
    exact follows
  | finish satisfied =>
    show Fragment.Follows _ _ ((answers ++ []).map toldBy) _
    rw [List.append_nil]
    have reached : Survey.advance _ _ = _ := follows
    refine ⟨congrArg Survey.found reached, ?_⟩
    rw [← reached]
    exact Survey.isOver_of_satisfied satisfied
  | learn answer =>
    have waited : _ = Survey.tour _ _ _ := follows
    show Survey.advance _ _ = _
    rw [Event.heard?, Option.toList_some, List.map_append, List.map_singleton, Survey.tour_concat,
      waited]
    rfl
  | breakDown => cases sound

/-- What holds of the fragments of all collections, each with its candidate and with what its survey
has heard. -/
structure Followed (holds : Candidate → List (Except CallFault (List String)) → Fragment → Prop)
    (history : List Occurrence) (state : State) : Prop where
  /-- Before a collection has heard of its candidates its surveys have heard nothing. -/
  silent : ∀ id position, ¬ Settled id state → replies history id position = []
  /-- Afterwards there is a fragment for each candidate, of which it holds. -/
  following : ∀ id collection fragments, state.collections.get? id = some collection →
    collection.progress = .surveying fragments →
    ∃ heard candidates, At history heard (Receives collection.pair id candidates) ∧
      fragments.length = candidates.length ∧
      ∀ position candidate fragment, candidates[position]? = some candidate →
        fragments[position]? = some fragment →
        holds candidate (replies history id position) fragment

namespace Run

variable {capacity : Nat} {geolocating : Bool} {timeout interval : Duration}
  {history : List Occurrence} {state : State}

/-- Whether countries are asked for never changes. -/
theorem geolocating_eq (run : Run capacity geolocating timeout interval history state) :
    state.geolocating = geolocating := by
  induction run with
  | initial => rfl
  | @step history state run now event fresh hypothesis =>
    have kept : (step now event state).1.geolocating = state.geolocating := by
      have move := move_step now event state
      revert move
      generalize (step now event state).1 = after
      generalize (step now event state).2 = effects
      intro move
      cases move <;> rfl
    exact kept.trans hypothesis

/-- A collection that is surveyed does not wait for the oracle any more. -/
theorem settled_of_survey? (run : Run capacity geolocating timeout interval history state)
    {id : CollectionId} {position : Nat} {fragment : Fragment}
    (found : state.survey? id position = some fragment) : Settled id state := by
  obtain ⟨collection, fragments, here, surveying, _⟩ := State.survey?_eq_some found
  refine ⟨run.collection_lt here, fun other there => ?_⟩
  rw [here] at there
  cases there
  rw [surveying]
  exact Progress.noConfusion

/-- **What holds of a survey at its beginning, and is kept by each of its turns, holds of the
fragments of all collections.** -/
theorem followed (run : Run capacity geolocating timeout interval history state)
    (allowed : Event → Prop) (all : ∀ taken ∈ history, allowed taken.event)
    (holds : Candidate → List (Except CallFault (List String)) → Fragment → Prop)
    (start : ∀ candidate, holds candidate [] (.walking (.ofCandidate candidate)))
    (turns : ∀ {state : State} {id : CollectionId} {position : Nat} {event : Event}
      {old new : Fragment} {questions : Effects} {candidate : Candidate}
      {answers : List (Except CallFault (List String))},
      Turn state id position event old new questions → state.geolocating = geolocating →
      allowed event → holds candidate answers old →
      holds candidate (answers ++ event.heard?.toList) new) : Followed holds history state := by
  induction run with
  | initial =>
    refine ⟨fun _ _ _ => rfl, fun id collection fragments here => ?_⟩
    cases here
  | @step history state run now event fresh hypothesis =>
    have hypothesis := hypothesis fun taken member => all taken (List.mem_append_left _ member)
    have move := move_step now event state
    refine ⟨fun id position unsettled => ?_, fun id collection fragments here surveying => ?_⟩
    · have before : ¬ Settled id state := fun settled => unsettled (settled.step move)
      have absent : state.survey? id position = none :=
        Option.eq_none_iff_forall_ne_some.mpr fun fragment found =>
          before (settled_of_survey? run found)
      rw [replies_concat, hypothesis.silent id position before, reply?_of_none absent]
      rfl
    · cases move.evolves here with
      | kept old =>
        obtain ⟨heard, candidates, receives, length, held⟩ :=
          hypothesis.following id collection fragments old surveying
        refine ⟨heard, candidates, receives.append _, length,
          fun position candidate fragment inside found => ?_⟩
        have same : (⟨state, now, event⟩ : Occurrence).after.survey? id position =
            state.survey? id position :=
          (State.survey?_of_surveying here surveying position).trans
            (State.survey?_of_surveying old surveying position).symm
        rw [replies_concat, reply?_of_same same, Option.toList_none, List.append_nil]
        exact held position candidate fragment inside found
      | begun | refused => cases surveying
      | @received collection task candidates hears awaited old exploring =>
        cases surveying
        have unsettled : ¬ Settled id state := fun settled => settled.2 collection old exploring
        refine ⟨history.length, candidates, At.last ⟨task, _, hears, awaited, old, rfl, exploring⟩,
          List.length_map _, fun position candidate fragment inside found => ?_⟩
        rw [replies_concat, hypothesis.silent id position unsettled,
          reply?_of_none (State.survey?_of_exploring old exploring)]
        rw [List.getElem?_map, inside] at found
        cases found
        exact start candidate
      | @surveyed collection fragments position old new questions there before inside turn =>
        cases surveying
        obtain ⟨heard, candidates, receives, length, held⟩ :=
          hypothesis.following id collection fragments there before
        refine ⟨heard, candidates, receives.append _, (List.length_set ..).trans length,
          fun other candidate fragment chosen found => ?_⟩
        rw [replies_concat]
        by_cases same : position = other
        · subst same
          have after := State.survey?_of_surveying here rfl position
          rw [found] at after
          have bound := (List.getElem?_eq_some_iff.mp inside).1
          rw [List.getElem?_set_self bound] at found
          cases found
          have earlier := (State.survey?_of_surveying there before position).trans inside
          have last := all ⟨state, now, event⟩ (List.mem_append_right _ (List.mem_singleton_self _))
          have hears : reply? id position ⟨state, now, event⟩ = event.heard? :=
            turn.reply?_self rfl earlier after
          rw [hears]
          exact turns turn (geolocating_eq run) last (held position candidate old chosen inside)
        · rw [List.getElem?_set_ne same] at found
          rw [turn.reply?_other rfl same, Option.toList_none, List.append_nil]
          exact held other candidate fragment chosen found

/-- **As long as no survey breaks down, fragments follow from the candidates and from what the
surveys have been told.** -/
theorem surveyed (run : Run capacity geolocating timeout interval history state)
    (sound : Sound history) :
    Followed (fun candidate heard fragment =>
      fragment.Follows geolocating candidate (heard.map toldBy)) history state :=
  run.followed (·.breaksSurvey = false) sound _ (fun _ => rfl)
    fun turn constant unbroken follows => by
      subst constant
      exact turn.follows unbroken follows

/-- **When a collection has come to its end, there is a complete fragment for every candidate, in the
order of the candidates**, and each survey has passed all its hops. -/
theorem completed (run : Run capacity geolocating timeout interval history state)
    (sound : Sound history) {id : CollectionId} {metadata : Metadata}
    (found : state.outcome? id = some (.ok metadata)) :
    ∃ collection heard candidates, state.collections.get? id = some collection ∧
      At history heard (Receives collection.pair id candidates) ∧
      (∀ position candidate, candidates[position]? = some candidate →
        (reached geolocating history id position candidate).isOver = true) ∧
      collection.progress = .surveying ((findings geolocating history id candidates).map
        Fragment.complete) := by
  obtain ⟨collection, fragments, here, surveying, finished⟩ := State.surveying_of_outcome found
  obtain ⟨heard, candidates, receives, length, follows⟩ :=
    (run.surveyed sound).following id collection fragments here surveying
  have complete (position : Nat) (candidate : Candidate)
      (chosen : candidates[position]? = some candidate) :
      fragments[position]? =
          some (.complete (reached geolocating history id position candidate).found) ∧
        (reached geolocating history id position candidate).isOver = true := by
    have bound := (List.getElem?_eq_some_iff.mp chosen).1
    have inside : fragments[position]? = some fragments[position] :=
      List.getElem?_eq_getElem (length ▸ bound)
    have ended := List.all_eq_true.mp finished _ (List.mem_of_getElem? inside)
    obtain ⟨same, passed⟩ := (follows position candidate _ chosen inside).complete ended
    exact ⟨inside.trans (congrArg some same), passed⟩
  refine ⟨collection, heard, candidates, here, receives,
    fun position candidate chosen => (complete position candidate chosen).2, ?_⟩
  rw [surveying]
  refine congrArg Progress.surveying (List.ext_getElem? fun position => ?_)
  rw [findings, List.getElem?_map, List.getElem?_mapIdx]
  cases chosen : candidates[position]? with
  | none =>
    have bound := List.getElem?_eq_none_iff.mp chosen
    exact List.getElem?_eq_none (length ▸ bound)
  | some candidate => exact (complete position candidate chosen).1

end Run

end Wayfinder.Atlas
