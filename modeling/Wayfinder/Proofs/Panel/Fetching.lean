/-
**Fetching from the sources.**

A call that fetches metadata goes through the sources in order and keeps what they answer. An archive
answers at once with what it has loaded; an atlas refuses a request whose nodes have no names, and
otherwise the call works in it until it gets its result. The call ends with everything that it has
collected, in the order of the sources, or with the first failure.

* `Leg`, `Leg.Holds`: where such a call stands, and what the panel looks like then;
* `Leg.Turn`: what it does next;
* `Leg.Holds.proceed`, `Leg.Holds.answer`: its steps are those turns;
* `Leg.Holds.kept`, `Leg.Holds.cancel`: in between it stays where it is, until it is given up.
-/

import Wayfinder.Proofs.Atlas.Results
import Wayfinder.Proofs.Panel.Closing

namespace Wayfinder.Panel

/-! ### Effects of an atlas -/

/-- What effects of the atlas at a position are that end no call, among those of the panel. -/
def handOn (position : Nat) (effects : Atlas.Effects) : Effects :=
  effects.filterMap (·.embed? (.atlas position))

section

variable {id : CallId} {position : Nat} {state : State} {effects : Atlas.Effects}

theorem endsNone_handOn (position : Nat) (effects : Atlas.Effects) :
    EndsNone (handOn position effects) := by
  intro id outcome member
  obtain ⟨effect, _, same⟩ := List.mem_filterMap.mp member
  cases effect with
  | ask | rouse | resume | wait | spawn | finish => cases same

/-- What an atlas asks is not asked by the call itself. -/
theorem ask_not_mem_handOn (query : Query) (limit : Option Duration) :
    .ask (.call id) query limit ∉ handOn position effects := by
  intro member
  obtain ⟨effect, _, same⟩ := List.mem_filterMap.mp member
  cases effect with
  | ask | rouse | resume | wait | spawn | finish => cases same

/-- Effects that end no call are handed on. -/
theorem absorb_of_endsNone (endsNone : EndsNone effects) :
    absorb position effects state = (state, handOn position effects) := by
  induction effects with
  | nil => rfl
  | cons effect rest hypothesis =>
    have others : absorb position rest state = (state, handOn position rest) :=
      hypothesis fun id outcome member => endsNone id outcome (List.mem_cons_of_mem _ member)
    cases effect with
    | finish id outcome => exact absurd List.mem_cons_self (endsNone id outcome)
    | ask | rouse | resume | wait | spawn =>
      simp only [absorb, absorbOne, others, handOn]
      rfl

theorem absorb_append (first second : Atlas.Effects) :
    absorb position (first ++ second) state =
      ((absorb position second (absorb position first state).1).1,
        (absorb position first state).2 ++
          (absorb position second (absorb position first state).1).2) := by
  induction first generalizing state with
  | nil => rfl
  | cons effect rest hypothesis =>
    have head (more : Atlas.Effects) : absorb position (effect :: more) state =
        ((absorb position more (absorbOne position effect state).1).1,
          (absorbOne position effect state).2 ++
            (absorb position more (absorbOne position effect state).1).2) := rfl
    rw [List.cons_append, head, head, hypothesis, List.append_assoc]

/-- A source that is put where it is changes nothing. -/
theorem replace_self {source : Source} (here : state.sources[position]? = some source) :
    state.replace position source = state := by
  have same : state.sources.set position source = state.sources := by
    refine List.ext_getElem? fun other => ?_
    by_cases equal : position = other
    · subst equal
      rw [List.getElem?_set_self (List.getElem?_eq_some_iff.mp here).1, here]
    · exact List.getElem?_set_ne equal
  rw [State.replace, same]

end

/-! ### Where a fetching call stands -/

/-- Where a fetching call stands, with what it has collected. -/
inductive Leg where
  /-- It is the turn of the next source, or there is none left. -/
  | facing (collected : List Metadata)
  /-- Is in an atlas. -/
  | inside (collected : List Metadata) (pair : Atlas.Pair) (stage : Atlas.Stage)

/-- What the sources before have answered. -/
def Leg.collected : Leg → List Metadata
  | .facing collected | .inside collected _ _ => collected

/-- The record of a fetching call. -/
def fetchRound (query : MetadataQuery) (waiting : Bool) (collected : List Metadata) : Round :=
  { errand := .fetch query, position := collected.length, waiting, collected }

/-- The record of the call. -/
def Leg.round (query : MetadataQuery) : Leg → Round
  | .facing collected => fetchRound query false collected
  | .inside collected _ _ => fetchRound query true collected

/-- The call in the atlas at a position. -/
def Leg.call? (leg : Leg) (position : Nat) : Option Atlas.Call :=
  match leg with
  | .facing _ => none
  | .inside collected pair stage =>
    if collected.length = position then some (.fetch pair stage) else none

/-- Where a fetching call stands in the panel. -/
structure Leg.Holds (leg : Leg) (id : CallId) (query : MetadataQuery) (kinds : List Kind)
    (state : State) : Prop where
  round : state.rounds.get? id = some (leg.round query)
  source : ∀ position : Nat,
    Source.Stands id (leg.call? position) kinds[position]? state.sources[position]?
  /-- In an atlas the call wants what is known about the nodes of its request. -/
  endpoints : ∀ collected pair stage, leg = .inside collected pair stage →
    query.endpoints = .ok pair

section

variable {id : CallId} {query : MetadataQuery} {kinds : List Kind} {leg : Leg} {state : State}
  {now : Timestamp}

/-- **A step that is not about the call leaves it where it is.** -/
theorem Leg.Holds.kept {after : State} (holds : leg.Holds id query kinds state)
    (kept : Kept id state after) : leg.Holds id query kinds after :=
  ⟨kept.round.trans holds.round,
    fun position => (holds.source position).kept (kept.source position), holds.endpoints⟩

/-- The atlas at a position. -/
theorem Leg.Holds.atlas (holds : leg.Holds id query kinds state) {position : Nat}
    {atlas : Atlas.State} (here : state.sources[position]? = some (.atlas atlas)) :
    kinds[position]? = some .atlas ∧ atlas.calls.get? id = leg.call? position ∧
      atlas.Numbered := by
  have stands := holds.source position
  rw [here] at stands
  generalize kinds[position]? = kind, leg.call? position = call? at stands ⊢
  cases stands with
  | atlas calling numbered => exact ⟨rfl, calling, numbered⟩

theorem Leg.call?_inside_self (collected : List Metadata) (pair : Atlas.Pair)
    (stage : Atlas.Stage) :
    (Leg.inside collected pair stage).call? collected.length = some (.fetch pair stage) :=
  if_pos rfl

theorem Leg.call?_inside_ne {collected : List Metadata} {other : Nat}
    (apart : other ≠ collected.length) (pair : Atlas.Pair) (stage : Atlas.Stage) :
    (Leg.inside collected pair stage).call? other = none :=
  if_neg (Ne.symm apart)

/-- A fetching call waits for no loop. -/
theorem Leg.call?_ne_stopping (leg : Leg) (position : Nat) (loop : Atlas.LoopId) :
    leg.call? position ≠ some (.close (.stopping loop)) := by
  intro same
  cases leg with
  | facing => cases same
  | inside collected pair stage =>
    rw [Leg.call?] at same
    split at same <;> cases same

/-- What becomes of the call when an atlas changes. -/
theorem Leg.Holds.replace (holds : leg.Holds id query kinds state) {next : Leg} {position : Nat}
    {rounds : Table CallId Round} {old atlas : Atlas.State}
    (here : state.sources[position]? = some (.atlas old))
    (round : rounds.get? id = some (next.round query))
    (calls : ∀ other, other ≠ position → next.call? other = leg.call? other)
    (calling : atlas.calls.get? id = next.call? position) (numbered : atlas.Numbered)
    (endpoints : ∀ collected pair stage, next = .inside collected pair stage →
      query.endpoints = .ok pair) :
    next.Holds id query kinds ({ state with rounds }.replace position (.atlas atlas)) :=
  ⟨round, Source.stands_replace holds.source here calls calling numbered
    fun loop stopping => absurd stopping (next.call?_ne_stopping position loop), endpoints⟩

/-- What becomes of the call when it leaves the panel and an atlas changes. -/
theorem Leg.Holds.leave (holds : leg.Holds id query kinds state) {position : Nat}
    {rounds : Table CallId Round} {old atlas : Atlas.State}
    (here : state.sources[position]? = some (.atlas old)) (round : rounds.get? id = none)
    (calls : ∀ other, other ≠ position → leg.call? other = none)
    (calling : atlas.calls.get? id = none) (numbered : atlas.Numbered) :
    Spot.away.Holds id kinds ({ state with rounds }.replace position (.atlas atlas)) :=
  ⟨round, Source.stands_replace holds.source here (fun other apart => (calls other apart).symm)
    calling numbered fun _ stopping => by cases stopping⟩

/-- A call that begins to fetch faces the first source. -/
theorem Leg.holds_start (holds : Spot.away.Holds id kinds state) :
    (Leg.facing []).Holds id query kinds (start id (.fetch query) state).1 :=
  ⟨Table.get?_put_self .., holds.source, fun _ _ _ same => by cases same⟩

/-! ### What the call does -/

/-- What a fetching call does in a step of its own, and where it stands then unless it has ended. -/
inductive Leg.Turn (now : Timestamp) (id : CallId) (query : MetadataQuery) (kinds : List Kind)
    (state : State) : Leg → Event → Option Leg → Effects → Prop
  | enter {collected : List Metadata} {pair : Atlas.Pair}
      (here : kinds[collected.length]? = some .atlas) (endpoints : query.endpoints = .ok pair) :
      Leg.Turn now id query kinds state (.facing collected) (.proceed (.call id))
        (some (.inside collected pair .lookingUp)) [.resume (.atlas collected.length (.call id))]
  /-- An atlas refuses a request whose nodes have no names. -/
  | refuse {collected : List Metadata} {fault : MetadataFault}
      (endpoints : query.endpoints = .error fault) :
      Leg.Turn now id query kinds state (.facing collected) (.proceed (.call id)) none
        [.finish id (.error fault)]
  | load {collected : List Metadata} {archive : Archive}
      (kind : kinds[collected.length]? = some .archive)
      (here : state.sources[collected.length]? = some (.archive archive)) :
      Leg.Turn now id query kinds state (.facing collected) (.proceed (.call id))
        (some (.facing (collected ++ [archive.loaded]))) [.resume (.call id)]
  | finish {collected : List Metadata} (last : kinds[collected.length]? = none) :
      Leg.Turn now id query kinds state (.facing collected) (.proceed (.call id)) none
        [.finish id (.ok (some (Metadata.concat collected)))]
  | work {collected : List Metadata} {pair : Atlas.Pair} {stage next : Atlas.Stage} {event : Event}
      (inner : Atlas.Effects) :
      Leg.Turn now id query kinds state (.inside collected pair stage) event
        (some (.inside collected pair next)) (handOn collected.length inner)
  | gather {collected : List Metadata} {pair : Atlas.Pair} {stage : Atlas.Stage}
      {atlas : Atlas.State} {bundle : Atlas.Bundle} (inner : Atlas.Effects)
      (kind : kinds[collected.length]? = some .atlas)
      (here : state.sources[collected.length]? = some (.atlas atlas))
      (gives : atlas.Gives now id pair (.ok bundle)) :
      Leg.Turn now id query kinds state (.inside collected pair stage)
        (.proceed (.atlas collected.length (.call id)))
        (some (.facing (collected ++ [bundle.metadata])))
        (handOn collected.length inner ++ [.resume (.call id)])
  | fail {collected : List Metadata} {pair : Atlas.Pair} {stage : Atlas.Stage}
      {atlas : Atlas.State} {fault : MetadataFault} (inner : Atlas.Effects)
      (here : state.sources[collected.length]? = some (.atlas atlas))
      (gives : atlas.Gives now id pair (.error fault)) :
      Leg.Turn now id query kinds state (.inside collected pair stage)
        (.proceed (.atlas collected.length (.call id))) none
        (handOn collected.length inner ++ [.finish id (.error fault)])
  /-- There is nothing to do for the call. -/
  | idle {standing : Leg} {event : Event} :
      Leg.Turn now id query kinds state standing event (some standing) []

/-- As long as the call goes on it asks nothing in its own name and does not end. -/
theorem Leg.Turn.quiet {event : Event} {next : Leg} {effects : Effects}
    (turn : Leg.Turn now id query kinds state leg event (some next) effects) :
    EndsNone effects ∧ ∀ query limit, .ask (.call id) query limit ∉ effects := by
  cases turn with
  | enter | load => exact ⟨fun _ _ member => by simp at member, fun _ _ member => by simp at member⟩
  | work inner => exact ⟨endsNone_handOn _ _, ask_not_mem_handOn⟩
  | gather inner =>
    constructor
    · intro other outcome member
      rcases List.mem_append.mp member with told | last
      · exact endsNone_handOn _ _ other outcome told
      · cases List.mem_singleton.mp last
    · intro query limit member
      rcases List.mem_append.mp member with told | last
      · exact ask_not_mem_handOn query limit told
      · cases List.mem_singleton.mp last
  | idle => exact ⟨endsNone_nil, fun _ _ => List.not_mem_nil⟩

/-- Where a fetching call stands that may have ended. -/
def Leg.Lands (id : CallId) (query : MetadataQuery) (kinds : List Kind) (next : Option Leg)
    (state : State) : Prop :=
  match next with
  | some leg => leg.Holds id query kinds state
  | none => Spot.away.Holds id kinds state

/-- The record of a call that has collected more. -/
theorem fetchRound_concat (query : MetadataQuery) (collected : List Metadata)
    (found : Metadata) :
    fetchRound query false (collected ++ [found]) =
      { errand := .fetch query, position := collected.length + 1,
        collected := collected ++ [found] } := by
  rw [fetchRound, List.length_append, List.length_singleton]

/-- A call that visits an atlas asks it for what it wants. -/
theorem visit_atlas (collected : List Metadata) (atlas : Atlas.State) :
    visit now id (fetchRound query false collected) (.atlas atlas) state =
      settle collected.length (Atlas.fetch id query atlas)
        { state with rounds := state.rounds.put id (fetchRound query true collected) } :=
  rfl

/-- A request whose nodes have no names is refused by an atlas, and nothing changes there. -/
theorem visit_refused {collected : List Metadata} {atlas : Atlas.State} {fault : MetadataFault}
    (here : state.sources[collected.length]? = some (.atlas atlas))
    (endpoints : query.endpoints = .error fault) :
    visit now id (fetchRound query false collected) (.atlas atlas) state =
      ({ state with
          rounds := (state.rounds.put id (fetchRound query true collected)).erase id },
        [.finish id (.error fault)]) := by
  let waiting : State :=
    { state with rounds := state.rounds.put id (fetchRound query true collected) }
  have asked : waiting.rounds.get? id = some (fetchRound query true collected) :=
    Table.get?_put_self ..
  have same : waiting.replace collected.length (.atlas atlas) = waiting := replace_self here
  rw [visit_atlas, Atlas.fetch, endpoints]
  show absorb collected.length _ (waiting.replace collected.length (.atlas atlas)) = _
  rw [same, absorb_finish _ _ asked]
  rfl

/-- In its turn at an atlas a call for nodes without names is refused. -/
theorem Leg.Holds.proceed_refused {collected : List Metadata}
    (holds : (Leg.facing collected).Holds id query kinds state) (now : Timestamp)
    {atlas : Atlas.State} {fault : MetadataFault}
    (here : state.sources[collected.length]? = some (.atlas atlas))
    (endpoints : query.endpoints = .error fault) :
    Panel.proceed now (.call id) state =
      some ({ state with
          rounds := (state.rounds.put id (fetchRound query true collected)).erase id },
        [.finish id (.error fault)]) := by
  have open' : (fetchRound query false collected).waiting ≠ true := Bool.false_ne_true
  have place : (fetchRound query false collected).position = collected.length := rfl
  rw [Panel.proceed, holds.round, Option.bind_some]
  show Panel.proceedCall now id (fetchRound query false collected) state = _
  rw [Panel.proceedCall, if_neg open', place, here]
  exact congrArg some (visit_refused here endpoints)

/-- The turns between the sources. -/
theorem Leg.Holds.proceedCall {collected : List Metadata}
    (holds : (Leg.facing collected).Holds id query kinds state) (outside : .external ∉ kinds)
    {stepped : State × Effects}
    (taken : Panel.proceedCall now id (fetchRound query false collected) state = some stepped) :
    ∃ next, Leg.Turn now id query kinds state (.facing collected) (.proceed (.call id)) next
        stepped.2 ∧
      Leg.Lands id query kinds next stepped.1 := by
  have stands := holds.source collected.length
  have open' : (fetchRound query false collected).waiting ≠ true := Bool.false_ne_true
  have place : (fetchRound query false collected).position = collected.length := rfl
  rw [Panel.proceedCall, if_neg open', place] at taken
  generalize kind : kinds[collected.length]? = kind? at stands
  generalize there : state.sources[collected.length]? = source? at stands taken
  cases stands with
  | none =>
    cases taken
    refine ⟨none, .finish kind, ?_, holds.source⟩
    exact Table.get?_erase_self ..
  | external => exact absurd (List.mem_of_getElem? kind) outside
  | archive =>
    cases taken
    refine ⟨_, .load kind there, ?_, holds.source, fun _ _ _ same => by cases same⟩
    rw [Leg.round, fetchRound_concat]
    exact Table.get?_put_self ..
  | @atlas _ atlas calling numbered told =>
    obtain rfl := Option.some.inj taken
    cases endpoints : query.endpoints with
    | error fault =>
      rw [visit_refused there endpoints]
      refine ⟨none, .refuse endpoints, ?_, holds.source⟩
      exact Table.get?_erase_self ..
    | ok pair =>
      have begun := (Atlas.move_step now (.fetch id query) atlas).numbered numbered
      have stepped : Atlas.step now (.fetch id query) atlas =
          (atlas.moveTo id pair .lookingUp, [.resume (.call id)]) := by
        rw [Atlas.step, Atlas.fetch, endpoints]
      rw [stepped] at begun
      rw [visit_atlas, Atlas.fetch, endpoints]
      refine ⟨some (.inside collected pair .lookingUp), .enter kind endpoints, ?_⟩
      refine holds.replace there (Table.get?_put_self ..)
        (fun other apart => Leg.call?_inside_ne apart ..) ?_ begun fun _ _ _ same => ?_
      · rw [Leg.call?_inside_self]
        exact Table.get?_put_self ..
      · cases same
        exact endpoints

/-- What comes of a step of the atlas that the call is in. -/
theorem Leg.Holds.settle {collected : List Metadata} {pair : Atlas.Pair} {stage : Atlas.Stage}
    (holds : (Leg.inside collected pair stage).Holds id query kinds state)
    {atlas : Atlas.State} (here : state.sources[collected.length]? = some (.atlas atlas))
    {event : Atlas.Event} (own : event.caller? = some id) (running : event.beginning? ≠ some id)
    (held : event ≠ .cancel id) {turn : Event}
    (mine : event = .proceed (.call id) → turn = .proceed (.atlas collected.length (.call id))) :
    ∃ next, Leg.Turn now id query kinds state (.inside collected pair stage) turn next
        (Panel.settle collected.length (Atlas.step now event atlas) state).2 ∧
      Leg.Lands id query kinds next
        (Panel.settle collected.length (Atlas.step now event atlas) state).1 := by
  obtain ⟨kind, calling, numbered⟩ := holds.atlas here
  rw [Leg.call?_inside_self] at calling
  have move := Atlas.move_step now event atlas
  have after := move.numbered numbered
  have elsewhere (other : Nat) (apart : other ≠ collected.length) :
      (Leg.inside collected pair stage).call? other = none := Leg.call?_inside_ne apart ..
  rcases move.fetch_goes calling own running held with
    ⟨⟨next, there⟩, endsNone⟩ | ⟨result, before, proceeds, gives, gone, effects, endsNone⟩
  · rw [Panel.settle, absorb_of_endsNone endsNone]
    refine ⟨some (.inside collected pair next), .work _, ?_⟩
    refine holds.replace here holds.round (fun other apart => ?_) ?_ after fun _ _ _ same => ?_
    · rw [elsewhere other apart]
      exact Leg.call?_inside_ne apart ..
    · rw [Leg.call?_inside_self]
      exact there
    · cases same
      exact holds.endpoints _ _ _ rfl
  · have asked : (state.replace collected.length
        (.atlas (Atlas.step now event atlas).1)).rounds.get? id =
          some (fetchRound query true collected) := holds.round
    rw [mine proceeds, Panel.settle, effects, absorb_append, absorb_of_endsNone endsNone,
      absorb_finish _ _ asked]
    cases result with
    | error fault =>
      refine ⟨none, .fail before here gives, ?_⟩
      exact holds.leave here (Table.get?_erase_self ..) elsewhere gone after
    | ok bundle =>
      let more : Leg := .facing (collected ++ [bundle.metadata])
      have kept : (state.rounds.put id (more.round query)).get? id = some (more.round query) :=
        Table.get?_put_self ..
      have facing (collected' : List Metadata) (pair' : Atlas.Pair) (stage' : Atlas.Stage)
          (same : more = .inside collected' pair' stage') : query.endpoints = .ok pair' :=
        Leg.noConfusion same
      have faces := holds.replace here kept (fun other apart => (elsewhere other apart).symm) gone
        after facing
      rw [show more.round query = _ from fetchRound_concat ..] at faces
      exact ⟨some more, .gather before kind here gives, faces⟩

/-- **In a turn of its own the call makes one of those turns, or it waits.** -/
theorem Leg.Holds.proceed (holds : leg.Holds id query kinds state) (outside : .external ∉ kinds)
    {task : Task} (own : task.caller? = some id) {stepped : State × Effects}
    (taken : Panel.proceed now task state = some stepped) :
    ∃ next, Leg.Turn now id query kinds state leg (.proceed task) next stepped.2 ∧
      Leg.Lands id query kinds next stepped.1 := by
  cases task with
  | call other =>
    cases own
    obtain ⟨round, here, taken⟩ := Option.bind_eq_some_iff.mp taken
    rw [holds.round] at here
    cases here
    cases leg with
    | facing collected => exact holds.proceedCall outside taken
    | inside collected pair stage => cases taken
  | atlas position task =>
    obtain ⟨atlas, here, taken⟩ := Option.bind_eq_some_iff.mp taken
    obtain ⟨result, turned, rfl⟩ := Option.map_eq_some_iff.mp taken
    have there := source_of_atlas? here
    cases task with
    | loop | survey => cases own
    | call other =>
      cases own
      have same : result = Atlas.step now (.proceed (.call id)) atlas := by
        rw [Atlas.step, turned]
        rfl
      obtain ⟨call, calling, _⟩ := Option.bind_eq_some_iff.mp turned
      rw [(holds.atlas there).2.1] at calling
      cases leg with
      | facing => cases calling
      | inside collected pair stage =>
        rw [Leg.call?] at calling
        split at calling
        · next equal =>
          subst equal
          rw [same]
          exact holds.settle there rfl (fun begins => by cases begins) (fun same => by cases same)
            fun _ => rfl
        · cases calling

/-- **When the call hears an answer in an atlas it goes on there.** -/
theorem Leg.Holds.answer (holds : leg.Holds id query kinds state) (now : Timestamp)
    (position : Nat) (reply : Reply) :
    ∃ next, Leg.Turn now id query kinds state leg (.answer (.atlas position (.call id)) reply) next
        (answer (.atlas position (.call id)) reply state).2 ∧
      Leg.Lands id query kinds next (Panel.answer (.atlas position (.call id)) reply state).1 := by
  simp only [Panel.answer]
  split
  · next atlas here =>
    have there := source_of_atlas? here
    have calling := (holds.atlas there).2.1
    have silent (absent : leg.call? position = none) :
        Panel.settle position (Atlas.answer (.call id) reply atlas) state = (state, []) := by
      rw [answer_absent (calling.trans absent), Panel.settle]
      show (state.replace position (.atlas atlas), []) = (state, [])
      rw [replace_self there]
    cases leg with
    | facing collected =>
      rw [silent rfl]
      exact ⟨_, .idle, holds⟩
    | inside collected pair stage =>
      by_cases equal : position = collected.length
      · subst equal
        have heard : Atlas.Event.caller? (.answer (.call id) reply) = some id := rfl
        exact holds.settle there heard (fun begins => by cases begins) (fun same => by cases same)
          fun same => by cases same
      · rw [silent (Leg.call?_inside_ne equal ..)]
        exact ⟨_, .idle, holds⟩
  · exact ⟨_, .idle, holds⟩

/-! ### Giving the call up -/

/-- A call between the sources just disappears. -/
theorem Leg.Holds.cancel_facing {collected : List Metadata}
    (holds : (Leg.facing collected).Holds id query kinds state) :
    Panel.cancel id state = ({ state with rounds := state.rounds.erase id }, []) := by
  let dropped : State := { state with rounds := state.rounds.erase id }
  rw [Panel.cancel, holds.round]
  dsimp only
  split
  · next atlas here =>
    have there : dropped.sources[collected.length]? = some (.atlas atlas) := source_of_atlas? here
    have absent : atlas.calls.get? id = none := (holds.atlas there).2.1
    have cancelled : Atlas.cancel id atlas = (atlas, []) := by rw [Atlas.cancel, absent]
    rw [cancelled]
    show (dropped.replace collected.length (.atlas atlas), []) = (dropped, [])
    rw [replace_self there]
  · rfl

/-- **A call that is given up is gone, and has no outcome.** -/
theorem Leg.Holds.cancel (holds : leg.Holds id query kinds state) :
    Spot.away.Holds id kinds (Panel.cancel id state).1 ∧ EndsNone (Panel.cancel id state).2 := by
  have erased : (state.rounds.erase id).get? id = none := Table.get?_erase_self ..
  cases leg with
  | facing collected =>
    rw [holds.cancel_facing]
    exact ⟨⟨erased, holds.source⟩, endsNone_nil⟩
  | inside collected pair stage =>
    have stands := holds.source collected.length
    rw [Leg.call?_inside_self] at stands
    obtain ⟨atlas, there⟩ : ∃ atlas, state.sources[collected.length]? = some (.atlas atlas) := by
      generalize kinds[collected.length]? = kind, state.sources[collected.length]? = source
        at stands ⊢
      cases stands with
      | atlas => exact ⟨_, rfl⟩
    obtain ⟨_, calling, numbered⟩ := holds.atlas there
    rw [Leg.call?_inside_self] at calling
    obtain ⟨gone, endsNone⟩ := Atlas.cancel_fetch calling
    have after := (Atlas.move_step 0 (.cancel id) atlas).numbered numbered
    have place : (Leg.round query (.inside collected pair stage)).position = collected.length := rfl
    rw [Panel.cancel, holds.round]
    dsimp only
    rw [place, atlas?_of_source there]
    dsimp only
    rw [Panel.settle, absorb_of_endsNone endsNone]
    exact ⟨holds.leave there erased (fun other apart => Leg.call?_inside_ne apart ..) gone after,
      endsNone_handOn _ _⟩

end

end Wayfinder.Panel
