/-
**What the surveys of an atlas find.**

Whatever the geolocator answers, and however late, the survey of a candidate asks for the places of
its located hops one after another. When it has heard of all of them it finds the attributes of the
candidate: those of its links, which depend on the candidate alone, and those of its nodes, with the
countries that were told. An answer that is a fault tells no countries, and takes nothing from the
others.

* `Surveys`: the candidate that a survey is about;
* `Fragment.Agrees`: a fragment is where its candidate and what its survey has heard have led;
* `Described`, `Run.described`: in every run surveys ask for the located hops and find the attributes.
-/

import Wayfinder.Proofs.Atlas.Fragments
import Wayfinder.Proofs.Resolver.Replay

namespace Wayfinder.Atlas

/-! ### A survey and its candidate -/

/-- The survey at a position of a collection is about a candidate of the answer that the collection
has heard. -/
def Surveys (history : List Occurrence) (id : CollectionId) (position : Nat)
    (candidate : Candidate) : Prop :=
  ∃ heard pair candidates, At history heard (Receives pair id candidates) ∧
    candidates[position]? = some candidate

/-- Whether a fragment is where its candidate and what its survey has heard have led. Of a broken
survey nothing is known. -/
def Fragment.Agrees (geolocating : Bool) (candidate : Candidate)
    (answers : List (Except CallFault (List String))) : Fragment → Prop
  | .walking survey =>
    answers.length ≤ (candidate.located geolocating).length ∧
      survey.advance geolocating =
        Survey.tour geolocating (.ofCandidate candidate) (answers.map toldBy)
  | .asking survey =>
    answers.length < (candidate.located geolocating).length ∧
      survey = Survey.tour geolocating (.ofCandidate candidate) (answers.map toldBy)
  | .complete found =>
    answers.length = (candidate.located geolocating).length ∧
      found = candidate.attributes geolocating answers
  | .lost => True

/-- **A turn of a survey leads on from what it hears.** -/
theorem Turn.agrees {state : State} {id : CollectionId} {position : Nat} {event : Event}
    {old new : Fragment} {questions : Effects} {candidate : Candidate}
    {answers : List (Except CallFault (List String))}
    (turn : Turn state id position event old new questions)
    (agrees : old.Agrees state.geolocating candidate answers) :
    new.Agrees state.geolocating candidate (answers ++ event.heard?.toList) := by
  cases turn with
  | ask wanted =>
    obtain ⟨few, reached⟩ := agrees
    show Fragment.Agrees _ _ (answers ++ []) _
    rw [List.append_nil]
    rw [reached, Survey.wanted_tour few] at wanted
    obtain ⟨next, here, _⟩ := Option.map_eq_some_iff.mp wanted
    exact ⟨(List.getElem?_eq_some_iff.mp here).1, reached⟩
  | finish satisfied =>
    obtain ⟨few, reached⟩ := agrees
    show Fragment.Agrees _ _ (answers ++ []) _
    rw [List.append_nil]
    rw [reached, Survey.wanted_tour few, Option.map_eq_none_iff, List.getElem?_eq_none_iff]
      at satisfied
    have all := Nat.le_antisymm few satisfied
    exact ⟨all, (congrArg Survey.found reached).trans (Survey.tour_attributes all).2⟩
  | learn answer =>
    obtain ⟨few, waited⟩ := agrees
    show Fragment.Agrees _ _ (answers ++ [answer]) _
    refine ⟨?_, ?_⟩
    · rw [List.length_append, List.length_singleton]
      exact few
    · rw [List.map_append, List.map_singleton, Survey.tour_concat, waited]
      rfl
  | breakDown => trivial

/-- A survey that is broken was so before, or it breaks down in the step. -/
theorem Move.lost_before {now : Timestamp} {state after : State} {event : Event}
    {effects : Effects} (move : Move now state event after effects) {id : CollectionId}
    {position : Nat} (lost : after.survey? id position = some .lost) :
    state.survey? id position = some .lost ∨ event = .answer (.survey id position) .crashed := by
  obtain ⟨collection, fragments, here, surveying, inside⟩ := State.survey?_eq_some lost
  cases move.evolves here with
  | kept old => exact Or.inl ((State.survey?_of_surveying old surveying position).trans inside)
  | begun | refused => cases surveying
  | received =>
    cases surveying
    rw [List.getElem?_map] at inside
    obtain ⟨_, _, same⟩ := Option.map_eq_some_iff.mp inside
    cases same
  | @surveyed _ fragments other old new questions there before found turn =>
    cases surveying
    by_cases same : other = position
    · subst same
      rw [List.getElem?_set_self (List.getElem?_eq_some_iff.mp found).1] at inside
      cases inside
      cases turn
      exact Or.inr rfl
    · rw [List.getElem?_set_ne same] at inside
      exact Or.inl ((State.survey?_of_surveying there before position).trans inside)

section Steps

variable {state : State} {id : CollectionId} {position : Nat} {survey : Survey}
  (now : Timestamp)

/-- After a turn a survey is what the turn makes of it. -/
theorem survey?_settle {collection : Collection} {fragments : List Fragment} {old new : Fragment}
    (found : state.fragment? id position = some (collection, fragments, old)) :
    (settle id collection fragments position new state).1.survey? id position = some new := by
  obtain ⟨_, _, inside⟩ := fragment?_eq_some found
  have here : (settle id collection fragments position new state).1.collections.get? id =
      some { collection with progress := .surveying (fragments.set position new) } :=
    Table.get?_put_self ..
  rw [State.survey?_of_surveying here rfl position]
  exact List.getElem?_set_self (List.getElem?_eq_some_iff.mp inside).1

theorem State.fragment?_of_survey? {fragment : Fragment}
    (found : state.survey? id position = some fragment) :
    ∃ collection fragments, state.fragment? id position = some (collection, fragments, fragment) := by
  obtain ⟨⟨collection, fragments, other⟩, here, rfl⟩ := Option.map_eq_some_iff.mp found
  exact ⟨collection, fragments, here⟩

/-- A survey whose next place is wanted asks for it in its turn. -/
theorem step_asks (walking : state.survey? id position = some (.walking survey))
    {place : Coordinates}
    (wanted : (survey.advance state.geolocating).wanted? state.geolocating = some place) :
    (step now (.proceed (.survey id position)) state).1.survey? id position =
        some (.asking (survey.advance state.geolocating)) ∧
      .ask (.survey id position) (.countries place) (some state.timeout) ∈
        (step now (.proceed (.survey id position)) state).2 := by
  obtain ⟨collection, fragments, found⟩ := State.fragment?_of_survey? walking
  simp only [step, proceed, proceedSurvey, found, wanted, Option.getD_some]
  exact ⟨survey?_settle found, List.mem_append_right _ (List.mem_singleton_self _)⟩

/-- A survey that wants nothing more comes to its end in its turn. -/
theorem step_completes (walking : state.survey? id position = some (.walking survey))
    (satisfied : (survey.advance state.geolocating).wanted? state.geolocating = none) :
    (step now (.proceed (.survey id position)) state).1.survey? id position =
      some (.complete (survey.advance state.geolocating).found) := by
  obtain ⟨collection, fragments, found⟩ := State.fragment?_of_survey? walking
  simp only [step, proceed, proceedSurvey, found, satisfied, Option.getD_some]
  exact survey?_settle found

/-- A survey that is answered goes on. -/
theorem step_hears (asking : state.survey? id position = some (.asking survey))
    (answer : Except CallFault (List String)) :
    (step now (.answer (.survey id position) (.countries answer)) state).1.survey? id position =
      some (.walking (survey.pass (toldBy answer))) := by
  obtain ⟨collection, fragments, found⟩ := State.fragment?_of_survey? asking
  simp only [step, Atlas.answer, hear, found]
  exact survey?_settle found

end Steps

/-! ### The attributes of candidates -/

/-- **What the surveys of an atlas ask for, and what they find.** -/
structure Described (geolocating : Bool) (history : List Occurrence) (state : State) : Prop where
  /-- While a collection is surveyed there is one survey for each candidate. -/
  surveys : ∀ id collection fragments, state.collections.get? id = some collection →
    collection.progress = .surveying fragments →
    ∃ heard candidates, At history heard (Receives collection.pair id candidates) ∧
      fragments.length = candidates.length
  /-- A survey that has found something has heard of all located hops of its candidate, and what it
  has found are the attributes of the candidate. -/
  complete : ∀ id position candidate found, Surveys history id position candidate →
    state.survey? id position = some (.complete found) →
    (replies history id position).length = (candidate.located geolocating).length ∧
      found = candidate.attributes geolocating (replies history id position)
  /-- A survey that has heard of all located hops comes to its end in its next turn. -/
  completes : ∀ id position candidate survey, Surveys history id position candidate →
    state.survey? id position = some (.walking survey) →
    (replies history id position).length = (candidate.located geolocating).length →
    ∀ now, (step now (.proceed (.survey id position)) state).1.survey? id position =
      some (.complete (candidate.attributes geolocating (replies history id position)))
  /-- Any other survey asks for the place of the located hop that is next. -/
  asks : ∀ id position candidate survey, Surveys history id position candidate →
    state.survey? id position = some (.walking survey) →
    (replies history id position).length ≠ (candidate.located geolocating).length →
    ∃ hop place,
      (candidate.located geolocating)[(replies history id position).length]? = some (hop, place) ∧
      ∀ now, (∃ waiting, (step now (.proceed (.survey id position)) state).1.survey? id position =
          some (.asking waiting)) ∧
        .ask (.survey id position) (.countries place) (some state.timeout) ∈
          (step now (.proceed (.survey id position)) state).2
  /-- A survey that asks goes on when it is answered, whatever the answer is. -/
  hears : ∀ id position survey, state.survey? id position = some (.asking survey) →
    ∀ now answer, reply? id position ⟨state, now, .answer (.survey id position) (.countries answer)⟩ =
        some answer ∧
      ∃ walking, (step now (.answer (.survey id position) (.countries answer)) state).1.survey? id
        position = some (.walking walking)
  /-- A survey that finds nothing at all has broken down. -/
  lost : ∀ id position, state.survey? id position = some .lost →
    ∃ broken, At history broken (·.event = .answer (.survey id position) .crashed)
  /-- Numbers are given as they are as far as 32 bits with a sign reach, and are never negative. -/
  capped : ∀ value : Nat, (Survey.clamp value).toInt = min (value : Int) 2147483647 ∧
    0 ≤ (Survey.clamp value).toInt
  /-- A candidate without hops has no attributes. -/
  empty : ∀ (candidate : Candidate) answers, candidate.hops = [] →
    candidate.attributes geolocating answers = {}

namespace Run

variable {capacity : Nat} {geolocating : Bool} {timeout interval : Duration}
  {history : List Occurrence} {state : State} {id : CollectionId} {position : Nat}

/-- **The fragment of a survey is where its candidate and what it has heard have led.** -/
theorem agrees (run : Run capacity geolocating timeout interval history state)
    {candidate : Candidate} (about : Surveys history id position candidate) {fragment : Fragment}
    (found : state.survey? id position = some fragment) :
    fragment.Agrees geolocating candidate (replies history id position) := by
  have start (candidate : Candidate) :
      Fragment.Agrees geolocating candidate [] (.walking (.ofCandidate candidate)) :=
    ⟨Nat.zero_le _, rfl⟩
  have followed := run.followed (fun _ => True) (fun _ _ => trivial)
    (fun candidate answers fragment => fragment.Agrees geolocating candidate answers) start
    fun turn constant _ agrees => by
      subst constant
      exact turn.agrees agrees
  obtain ⟨collection, fragments, here, surveying, inside⟩ := State.survey?_eq_some found
  obtain ⟨heard, candidates, receives, _, agree⟩ :=
    followed.following id collection fragments here surveying
  obtain ⟨heard', pair, candidates', receives', chosen⟩ := about
  -- the collection has heard of its candidates once
  obtain rfl := run.receives_unique receives receives'
  obtain ⟨_, _, ⟨_, _, event, _⟩, ⟨_, _, event', _⟩⟩ := receives.and receives'
  rw [event] at event'
  cases event'
  exact agree position candidate fragment chosen inside

/-- **In every run surveys ask for the located hops of their candidates and find the attributes.** -/
theorem described (run : Run capacity geolocating timeout interval history state) :
    Described geolocating history state where
  surveys := by
    intro id collection fragments here surveying
    have followed := run.followed (fun _ => True) (fun _ _ => trivial) (fun _ _ _ => True)
      (fun _ => trivial) fun _ _ _ _ => trivial
    obtain ⟨heard, candidates, receives, length, _⟩ :=
      followed.following id collection fragments here surveying
    exact ⟨heard, candidates, receives, length⟩
  complete _ _ _ _ about found := run.agrees about found
  completes := by
    intro id position candidate survey about walking all now
    obtain ⟨few, reached⟩ := run.agrees about walking
    have constant := geolocating_eq run
    subst constant
    have satisfied := Survey.wanted_tour few
    rw [List.getElem?_eq_none (Nat.le_of_eq all.symm), Option.map_none, ← reached] at satisfied
    rw [step_completes now walking satisfied, reached, (Survey.tour_attributes all).2]
  asks := by
    intro id position candidate survey about walking more
    obtain ⟨few, reached⟩ := run.agrees about walking
    have constant := geolocating_eq run
    subst constant
    have wanted := Survey.wanted_tour few
    have bound := Nat.lt_of_le_of_ne few more
    rw [List.getElem?_eq_getElem bound, Option.map_some, ← reached] at wanted
    refine ⟨_, _, List.getElem?_eq_getElem bound, fun now => ?_⟩
    obtain ⟨asking, asked⟩ := step_asks now walking wanted
    exact ⟨⟨_, asking⟩, asked⟩
  hears := by
    intro id position survey asking now answer
    have walking := step_hears now asking answer
    refine ⟨?_, _, walking⟩
    have waits : state.isAsking id position = true := by rw [State.isAsking, asking]
    have goes : (step now (.answer (.survey id position) (.countries answer)) state).1.isAsking id
        position = false := by rw [State.isAsking, walking]
    exact if_pos ⟨rfl, waits, Bool.eq_false_iff.mp goes⟩
  lost := by
    intro id position lost
    let holds : State → Prop := fun state => state.survey? id position = some .lost
    have none : ¬ holds (.initial capacity geolocating timeout interval) := by
      intro found
      cases found
    obtain ⟨broken, ⟨taken, here, whole, breaks⟩, _⟩ := run.brought_about none lost
    rcases (move_taken taken).lost_before breaks with before | crashed
    · exact absurd before whole
    · exact ⟨broken, taken, here, crashed⟩
  capped value := by
    rw [Survey.toInt_clamp]
    exact ⟨rfl, by omega⟩
  empty _ answers none := Candidate.attributes_of_nil none geolocating answers

end Run

/-! ### A fault among the answers -/

/-- The node in the middle. -/
def crossedNode : Node := { Resolver.sampleDst with asn := 72, asn_lt := by decide }

/-- A candidate over three hops. The middle one has no place, and of each link one value is known. -/
def crossing : Candidate where
  hops := [⟨Resolver.sampleSrc, 1⟩, ⟨crossedNode, 2⟩, ⟨Resolver.sampleDst, 3⟩]
  expiry := ⟨0, false⟩
  bandwidth := [some 0xFFFFFFFFFFFFFFFF]
  latency := [none, some 3000500, some 9]
  places := [some ⟨.finite false ⟨3, -1⟩, .finite false ⟨5, -1⟩, none⟩, none,
    some ⟨.finite false ⟨7, -1⟩, .finite false ⟨5, -1⟩, none⟩]

/-- The countries of its first place cannot be found out in time; for the last one they are told, one
of them twice and one without a name. -/
def partlyTold : List Occurrence :=
  automaton.replay (.initial 4 true 1000 60000)
    [(0, .fetch 0 { src := "7-70", dst := "7-71" }), (0, .proceed (.call 0)),
      (0, .proceed (.call 0)), (0, .answer (.call 0) (.candidates (.ok [crossing]))),
      (0, .proceed (.survey 0 0)),
      (1000, .answer (.survey 0 0) (.countries (.error (.timeout "geolocation" 1000)))),
      (1000, .proceed (.survey 0 0)),
      (1500, .answer (.survey 0 0) (.countries (.ok ["CH", "", "CH", "DE"]))),
      (1500, .proceed (.survey 0 0))]

/-- The survey finds the countries that were told, each once, and the values of the links, of which
the first one is capped. -/
theorem described_partlyTold : ∃ found,
    found = crossing.attributes true (replies partlyTold 0 0) ∧
      (replies partlyTold 0 0).length = 2 ∧
      found.nodes.map (·.value) = [.string "CH", .string "DE"] ∧
      found.links.map (·.value) = [.int32 2147483647, .int32 3000] := by
  have run : Run 4 true 1000 60000 partlyTold _ := Automaton.Run.of_replay automaton _ _ (by decide)
  have about : Surveys partlyTold 0 0 crossing :=
    ⟨3, (Resolver.sampleSrc, Resolver.sampleDst), [crossing],
      ⟨_, rfl, _, _, rfl, rfl, rfl, rfl, rfl⟩, rfl⟩
  obtain ⟨all, same⟩ := run.described.complete 0 0 crossing _ about rfl
  exact ⟨_, same, all.trans rfl, by decide +kernel, by decide +kernel⟩

end Wayfinder.Atlas
