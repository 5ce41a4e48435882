/-
**Where routes come from.**

A leading call makes a round trip: it reads the generation, asks at which node the service runs, asks
the oracle for candidates and the policy engine for the links that obey the policies, and walks the
routes out of its answer. A `Trip` is such a round trip with the positions of its steps in a history.
Whatever routes the resolver holds or hands out stem from one, in every run.

* `Trip.Begun`, `Trip.Explored`, `Trip.Consulted`, `Trip.Concluded`: how far a trip has come;
* `Stage.Backed`: what the stage of a call says about the past;
* `Documented`, `Run.documented`: every call, channel and entry of the cache is backed by the history;
* `Run.answered`: every call that ends with routes ends with those of a concluded trip;
* `Run.located_le`: whatever a leader asks, it asks on its trip.
-/

import Wayfinder.Proofs.Resolver.Leads

namespace Wayfinder.Resolver

/-! ### The steps of a trip -/

/-- The step in which a call reads the generation. -/
def Occurrence.Reads (occurrence : Occurrence) (id : CallId) (dst : Node) (generation : UInt64) :
    Prop :=
  occurrence.event = .proceed (.call id) ∧
    occurrence.before.calls.get? id = some ⟨dst, .readingGeneration⟩ ∧
    occurrence.before.cache.generation = generation

/-- A step in which a call asks a question. -/
def Occurrence.Asks (occurrence : Occurrence) (id : CallId) (query : Query) : Prop :=
  ∃ limit, .ask (.call id) query limit ∈ occurrence.effects

/-- The step in which a leading call tells its outcome. -/
def Occurrence.Tells (occurrence : Occurrence) (id : CallId) (dst : Node) (lead : Lead)
    (outcome : Outcome) : Prop :=
  occurrence.event = .proceed (.call id) ∧
    occurrence.before.calls.get? id = some ⟨dst, .publishing lead outcome⟩ ∧
    .finish id outcome ∈ occurrence.effects

/-- What a leading call learns on its way, and the positions of its steps in a history. -/
structure Trip where
  leader : CallId
  dst : Node
  lead : Lead
  src : Node
  candidates : List Candidate
  answers : List (List Link)
  /-- It reads the generation. -/
  read : Nat
  /-- It begins to lead and asks for the node of the service. -/
  located : Nat
  /-- It hears the node and asks for candidates. -/
  explored : Nat
  /-- It hears the candidates and asks for the links that obey the policies. -/
  consulted : Nat
  /-- It hears the links. -/
  concluded : Nat

namespace Trip

/-- The routes of a trip: those of each answer of the policy engine, in its order. -/
def routes (trip : Trip) : List Route := trip.answers.flatMap (reconstruct trip.src trip.dst)

/-- Whose trip it is. -/
structure By (trip : Trip) (id : CallId) (dst : Node) (lead : Lead) : Prop where
  leader : trip.leader = id
  dst : trip.dst = dst
  lead : trip.lead = lead

/-- The call has read the generation and then begun to lead. -/
structure Begun (trip : Trip) (history : List Occurrence) : Prop where
  reads : At history trip.read (·.Reads trip.leader trip.dst trip.lead.generation)
  leads : At history trip.located (·.Leads trip.leader trip.dst trip.lead)
  read_lt : trip.read < trip.located

/-- The call has heard its node and asked for candidates. -/
structure Explored (trip : Trip) (history : List Occurrence) : Prop extends
    Begun trip history where
  explores : At history trip.explored fun occurrence =>
    occurrence.event = .answer trip.leader (.node (.ok trip.src)) ∧
      occurrence.Asks trip.leader (.candidates trip.dst trip.src true)
  located_lt : trip.located < trip.explored

/-- The call has heard the candidates and asked for the links that obey the policies. -/
structure Consulted (trip : Trip) (history : List Occurrence) : Prop extends
    Explored trip history where
  consults : At history trip.consulted fun occurrence =>
    occurrence.event = .answer trip.leader (.candidates (.ok trip.candidates)) ∧
      occurrence.Asks trip.leader
        (.compliant trip.src trip.dst (trip.candidates.flatMap Candidate.links))
  explored_lt : trip.explored < trip.consulted

/-- The call has heard those links while it waited for them. -/
structure Concluded (trip : Trip) (history : List Occurrence) : Prop extends
    Consulted trip history where
  concludes : At history trip.concluded fun occurrence =>
    occurrence.event = .answer trip.leader (.compliant (.ok trip.answers)) ∧
      ∃ expiry, occurrence.before.calls.get? trip.leader =
        some ⟨trip.dst, .consulting trip.lead trip.src expiry⟩
  consulted_lt : trip.consulted < trip.concluded

section Append

variable {trip : Trip} {history : List Occurrence} (later : List Occurrence)

theorem Begun.append (begun : trip.Begun history) : trip.Begun (history ++ later) :=
  ⟨begun.reads.append later, begun.leads.append later, begun.read_lt⟩

theorem Explored.append (explored : trip.Explored history) : trip.Explored (history ++ later) :=
  ⟨explored.toBegun.append later, explored.explores.append later, explored.located_lt⟩

theorem Consulted.append (consulted : trip.Consulted history) : trip.Consulted (history ++ later) :=
  ⟨consulted.toExplored.append later, consulted.consults.append later, consulted.explored_lt⟩

theorem Concluded.append (concluded : trip.Concluded history) : trip.Concluded (history ++ later) :=
  ⟨concluded.toConsulted.append later, concluded.concludes.append later, concluded.consulted_lt⟩

theorem Begun.of_take {count : Nat} (begun : trip.Begun (history.take count)) :
    trip.Begun history := by
  have whole := begun.append (history.drop count)
  rwa [List.take_append_drop] at whole

/-- What a beginning of a history says the whole history says. -/
theorem Concluded.of_take {count : Nat} (concluded : trip.Concluded (history.take count)) :
    trip.Concluded history := by
  have whole := concluded.append (history.drop count)
  rwa [List.take_append_drop] at whole

end Append

end Trip

/-! ### What the tables say about the past -/

/-- A finding stems from a concluded trip of its leader. -/
def Finding.Backed (history : List Occurrence) (dst : Node) (lead : Lead) (finding : Finding) :
    Prop :=
  ∃ trip : Trip, trip.By finding.leader dst lead ∧ trip.Concluded history ∧
    trip.routes = finding.routes

/-- What the outcome of a leading call says about the past. -/
def OutcomeBacked (history : List Occurrence) (id : CallId) (dst : Node) (lead : Lead)
    (outcome : Outcome) : Prop :=
  ∀ finding, outcome = .ok finding → finding.leader = id ∧ finding.Backed history dst lead

/-- What the stage of a call to a destination says about the past. -/
def Stage.Backed (history : List Occurrence) (id : CallId) (dst : Node) : Stage → Prop
  | .lookingUp | .readingGeneration => True
  | .joining generation => ∃ read, At history read (·.Reads id dst generation)
  | .following leader generation =>
    (∃ read, At history read (·.Reads id dst generation)) ∧
      ∃ (trip : Trip) (lead : Lead), trip.By leader dst lead ∧ lead.generation = generation ∧
        trip.Begun history
  | .locating lead => ∃ trip : Trip, trip.By id dst lead ∧ trip.Begun history
  | .exploring lead src =>
    ∃ trip : Trip, trip.By id dst lead ∧ trip.src = src ∧ trip.Explored history
  | .consulting lead src expiry =>
    ∃ trip : Trip, trip.By id dst lead ∧ trip.src = src ∧
      earliestExpiry trip.candidates = expiry ∧ trip.Consulted history
  | .storing lead routes expiry =>
    ∃ trip : Trip, trip.By id dst lead ∧ trip.routes = routes ∧
      earliestExpiry trip.candidates = expiry ∧ trip.Concluded history
  | .releasing lead outcome | .publishing lead outcome =>
    (∃ trip : Trip, trip.By id dst lead ∧ trip.Begun history) ∧
      OutcomeBacked history id dst lead outcome

/-- An entry of a generation holds the routes of a concluded trip that read this generation, and
ends with the first of the candidates behind them. -/
def EntryBacked (history : List Occurrence) (generation : UInt64) (dst : Node)
    (entry : Lru.Entry Finding) : Prop :=
  ∃ (trip : Trip) (expiry : Timestamp), trip.leader = entry.value.leader ∧ trip.dst = dst ∧
    trip.lead.generation = generation ∧ trip.Concluded history ∧
    trip.routes = entry.value.routes ∧ earliestExpiry trip.candidates = some expiry ∧
    entry.expires = some expiry

section Append

variable {history : List Occurrence} (later : List Occurrence)

theorem Finding.Backed.append {dst : Node} {lead : Lead} {finding : Finding}
    (backed : finding.Backed history dst lead) : finding.Backed (history ++ later) dst lead := by
  obtain ⟨trip, by', concluded, routes⟩ := backed
  exact ⟨trip, by', concluded.append later, routes⟩

theorem OutcomeBacked.append {id : CallId} {dst : Node} {lead : Lead} {outcome : Outcome}
    (backed : OutcomeBacked history id dst lead outcome) :
    OutcomeBacked (history ++ later) id dst lead outcome := by
  intro finding found
  obtain ⟨leader, backed⟩ := backed finding found
  exact ⟨leader, backed.append later⟩

/-- Later steps take nothing back. -/
theorem Stage.Backed.append {id : CallId} {dst : Node} {stage : Stage}
    (backed : stage.Backed history id dst) : stage.Backed (history ++ later) id dst := by
  cases stage with
  | lookingUp | readingGeneration => trivial
  | joining generation =>
    obtain ⟨read, reads⟩ := backed
    exact ⟨read, reads.append later⟩
  | following leader generation =>
    obtain ⟨⟨read, reads⟩, trip, lead, by', same, begun⟩ := backed
    exact ⟨⟨read, reads.append later⟩, trip, lead, by', same, begun.append later⟩
  | locating lead =>
    obtain ⟨trip, by', begun⟩ := backed
    exact ⟨trip, by', begun.append later⟩
  | exploring lead src =>
    obtain ⟨trip, by', src, explored⟩ := backed
    exact ⟨trip, by', src, explored.append later⟩
  | consulting lead src expiry =>
    obtain ⟨trip, by', src, expiry, consulted⟩ := backed
    exact ⟨trip, by', src, expiry, consulted.append later⟩
  | storing lead routes expiry =>
    obtain ⟨trip, by', routes, expiry, concluded⟩ := backed
    exact ⟨trip, by', routes, expiry, concluded.append later⟩
  | releasing lead outcome | publishing lead outcome =>
    obtain ⟨⟨trip, by', begun⟩, outcome⟩ := backed
    exact ⟨⟨trip, by', begun.append later⟩, outcome.append later⟩

theorem EntryBacked.append {generation : UInt64} {dst : Node} {entry : Lru.Entry Finding}
    (backed : EntryBacked history generation dst entry) :
    EntryBacked (history ++ later) generation dst entry := by
  obtain ⟨trip, expiry, leader, place, same, concluded, rest⟩ := backed
  exact ⟨trip, expiry, leader, place, same, concluded.append later, rest⟩

end Append

/-- A call that leads has begun a trip. -/
theorem Stage.Backed.begun {history : List Occurrence} {id : CallId} {dst : Node} {stage : Stage}
    {lead : Lead} (backed : stage.Backed history id dst) (telling : stage.telling? = some lead) :
    ∃ trip : Trip, trip.By id dst lead ∧ trip.Begun history := by
  cases stage with
  | lookingUp | readingGeneration | joining | following => cases telling
  | locating =>
    cases telling
    exact backed
  | exploring =>
    cases telling
    obtain ⟨trip, by', _, explored⟩ := backed
    exact ⟨trip, by', explored.toBegun⟩
  | consulting =>
    cases telling
    obtain ⟨trip, by', _, _, consulted⟩ := backed
    exact ⟨trip, by', consulted.toBegun⟩
  | storing =>
    cases telling
    obtain ⟨trip, by', _, _, concluded⟩ := backed
    exact ⟨trip, by', concluded.toBegun⟩
  | releasing | publishing =>
    cases telling
    exact backed.1

/-! ### A trip goes on -/

namespace Trip

variable {trip : Trip} {history : List Occurrence} {occurrence : Occurrence}

theorem Begun.explore (begun : trip.Begun history) {src : Node}
    (heard : occurrence.event = .answer trip.leader (.node (.ok src)))
    (asks : occurrence.Asks trip.leader (.candidates trip.dst src true)) :
    Explored { trip with src, explored := history.length } (history ++ [occurrence]) where
  reads := begun.reads.append _
  leads := begun.leads.append _
  read_lt := begun.read_lt
  explores := At.last ⟨heard, asks⟩
  located_lt := begun.leads.lt_length

theorem Explored.consult (explored : trip.Explored history) {candidates : List Candidate}
    (heard : occurrence.event = .answer trip.leader (.candidates (.ok candidates)))
    (asks : occurrence.Asks trip.leader
      (.compliant trip.src trip.dst (candidates.flatMap Candidate.links))) :
    Consulted { trip with candidates, consulted := history.length } (history ++ [occurrence]) where
  reads := explored.reads.append _
  leads := explored.leads.append _
  read_lt := explored.read_lt
  explores := explored.explores.append _
  located_lt := explored.located_lt
  consults := At.last ⟨heard, asks⟩
  explored_lt := explored.explores.lt_length

theorem Consulted.conclude (consulted : trip.Consulted history) {answers : List (List Link)}
    (heard : occurrence.event = .answer trip.leader (.compliant (.ok answers)))
    {expiry : Option Timestamp} (waiting : occurrence.before.calls.get? trip.leader =
      some ⟨trip.dst, .consulting trip.lead trip.src expiry⟩) :
    Concluded { trip with answers, concluded := history.length } (history ++ [occurrence]) where
  reads := consulted.reads.append _
  leads := consulted.leads.append _
  read_lt := consulted.read_lt
  explores := consulted.explores.append _
  located_lt := consulted.located_lt
  consults := consulted.consults.append _
  explored_lt := consulted.explored_lt
  concludes := At.last ⟨heard, expiry, waiting⟩
  consulted_lt := consulted.consults.lt_length

end Trip

/-! ### Everything is backed by the history -/

/-- An outcome that is published after a move was so before, or its call tells it in the move. -/
theorem Move.published_before {now : Timestamp} {state after : State} {event : Event}
    {effects : Effects} (move : Move now state event after effects) {id : CallId}
    {outcome : Outcome} (found : after.channels.get? id = some (.published outcome)) :
    state.channels.get? id = some (.published outcome) ∨
      ∃ dst led, event = .proceed (.call id) ∧
        state.calls.get? id = some ⟨dst, .publishing led outcome⟩ ∧
        .finish id outcome ∈ effects := by
  cases move with
  | lead =>
    rcases Table.get?_of_put found with ⟨_, same⟩ | old
    · cases same
    · exact Or.inl old
  | publish here =>
    rcases Table.get?_of_put found with ⟨rfl, same⟩ | old
    · cases same
      exact Or.inr ⟨_, _, rfl, here, List.mem_append_right _ (List.mem_singleton_self _)⟩
    · exact Or.inl old
  | withhold =>
    rcases Table.get?_of_put found with ⟨_, same⟩ | old
    · cases same
    · exact Or.inl old
  | abandon =>
    rw [State.announce_channels, State.dismiss_channels, State.unmark_channels] at found
    rcases Table.get?_of_put found with ⟨_, same⟩ | old
    · cases same
    · exact Or.inl old
  | release =>
    rw [State.moveTo_channels, State.unmark_channels] at found
    exact Or.inl found
  | _ => exact Or.inl found

/-- Every call, every channel and every entry of the cache is backed by the history. -/
structure Documented (history : List Occurrence) (state : State) : Prop where
  calls : ∀ id call, state.calls.get? id = some call → call.stage.Backed history id call.dst
  /-- What can be heard over a channel has been told by the call that it belongs to. -/
  channels : ∀ id outcome, state.channels.get? id = some (.published outcome) →
    ∃ told dst lead, At history told (·.Tells id dst lead outcome)
  entries : ∀ dst entry, state.cache.slot? dst = some entry →
    EntryBacked history state.cache.generation dst entry

namespace Documented

variable {history : List Occurrence} {state : State}

theorem old (documented : Documented history state) (later : List Occurrence) {id : CallId}
    {call : Call} (found : state.calls.get? id = some call) :
    call.stage.Backed (history ++ later) id call.dst :=
  (documented.calls id call found).append later

theorem put (documented : Documented history state) {later : List Occurrence} {id other : CallId}
    {dst : Node} {stage : Stage} {call : Call}
    (found : (state.calls.put id ⟨dst, stage⟩).get? other = some call)
    (new : stage.Backed (history ++ later) id dst) :
    call.stage.Backed (history ++ later) other call.dst := by
  rcases Table.get?_of_put found with ⟨rfl, rfl⟩ | before
  · exact new
  · exact documented.old later before

theorem erase (documented : Documented history state) {later : List Occurrence}
    {id other : CallId} {call : Call}
    (found : (state.calls.erase id).get? other = some call) :
    call.stage.Backed (history ++ later) other call.dst :=
  documented.old later (Table.get?_of_erase found)

/-- A mark belongs to a call that has begun a trip. -/
theorem begun_of_marker (documented : Documented history state) (linked : Linked history state)
    {dst : Node} {marker : Marker} (marked : state.markers.get? dst = some marker) :
    ∃ (trip : Trip) (lead : Lead), trip.By marker.leader dst lead ∧
      lead.generation = marker.generation ∧ trip.Begun history := by
  obtain ⟨lead, marking, same⟩ := linked.marked dst marker marked
  obtain ⟨stage, here, leading⟩ := leadOf_eq_some.mp marking
  obtain ⟨trip, by', begun⟩ :=
    (documented.calls marker.leader _ here).begun (Stage.telling?_of_lead? leading)
  exact ⟨trip, lead, by', same, begun⟩

/-- **After a step every call is backed again.** -/
theorem calls_step (documented : Documented history state) (linked : Linked history state)
    {now : Timestamp} {event : Event} {after : State} {effects : Effects}
    (move : Move now state event after effects)
    (asked : (⟨state, now, event⟩ : Occurrence).effects = effects) (other : CallId) (call : Call)
    (found : after.calls.get? other = some call) :
    call.stage.Backed (history ++ [⟨state, now, event⟩]) other call.dst := by
  cases move with
  | refuse | fire | purge | idle => exact documented.old _ found
  | hit | hear | leave | publish | withhold => exact documented.erase found
  | abandon =>
    rw [State.announce_calls, State.dismiss_calls, State.unmark_calls] at found
    exact documented.erase found
  | begin | miss | retry => exact documented.put found trivial
  | read here => exact documented.put found ⟨history.length, At.last ⟨rfl, here, rfl⟩⟩
  | @follow id leader dst generation here marked =>
    obtain ⟨read, reads⟩ := documented.calls id _ here
    obtain ⟨trip, lead, by', same, begun⟩ := documented.begun_of_marker linked marked
    exact documented.put found ⟨⟨read, reads.append _⟩, trip, lead, by', same, begun.append _⟩
  | @lead id dst generation here unmarked =>
    obtain ⟨read, reads⟩ := documented.calls id _ here
    refine documented.put found
      ⟨⟨id, dst, ⟨generation, now⟩, dst, [], [], read, history.length, 0, 0, 0⟩, ⟨rfl, rfl, rfl⟩,
        reads.append _, At.last ⟨rfl, here, rfl, ?_⟩, reads.lt_length⟩
    rw [asked]
    exact List.mem_singleton_self _
  | @locate id dst src led here =>
    obtain ⟨trip, ⟨rfl, rfl, rfl⟩, begun⟩ := documented.calls id _ here
    exact documented.put found ⟨{ trip with src, explored := history.length }, ⟨rfl, rfl, rfl⟩, rfl,
      begun.explore rfl ⟨_, asked ▸ List.mem_singleton_self _⟩⟩
  | @explore id dst src led candidates here =>
    obtain ⟨trip, ⟨rfl, rfl, rfl⟩, rfl, explored⟩ := documented.calls id _ here
    exact documented.put found ⟨{ trip with candidates, consulted := history.length },
      ⟨rfl, rfl, rfl⟩, rfl, rfl, explored.consult rfl ⟨_, asked ▸ List.mem_singleton_self _⟩⟩
  | @consult id dst src led expiry answers tally here =>
    obtain ⟨trip, ⟨rfl, rfl, rfl⟩, rfl, expiring, consulted⟩ := documented.calls id _ here
    exact documented.put found ⟨{ trip with answers, concluded := history.length },
      ⟨rfl, rfl, rfl⟩, rfl, expiring, consulted.conclude rfl here⟩
  | @fail id dst stage led reply fault here leading failing =>
    obtain ⟨trip, by', begun⟩ :=
      (documented.calls id _ here).begun (Stage.telling?_of_lead? leading)
    refine documented.put found ⟨⟨trip, by', begun.append _⟩, fun finding none => ?_⟩
    cases none
  | @store id dst led routes expiry effects here quiet =>
    obtain ⟨trip, by', walked, expiring, concluded⟩ := documented.calls id _ here
    refine documented.put found ⟨⟨trip, by', concluded.toBegun.append _⟩, fun finding same => ?_⟩
    cases same
    exact ⟨rfl, trip, by', concluded.append _, walked⟩
  | @release id dst led outcome here =>
    rw [State.moveTo_calls, State.unmark_calls] at found
    exact documented.put found ((documented.calls id _ here).append _)

/-- **After a step every published outcome is backed again.** -/
theorem channels_step (documented : Documented history state) {now : Timestamp} {event : Event}
    {after : State} {effects : Effects} (move : Move now state event after effects)
    (asked : (⟨state, now, event⟩ : Occurrence).effects = effects) (other : CallId) (outcome : Outcome)
    (found : after.channels.get? other = some (.published outcome)) :
    ∃ told dst lead, At (history ++ [⟨state, now, event⟩]) told (·.Tells other dst lead outcome) := by
  rcases move.published_before found with old | ⟨dst, lead, turn, here, finished⟩
  · obtain ⟨told, dst, lead, tells⟩ := documented.channels other outcome old
    exact ⟨told, dst, lead, tells.append _⟩
  · exact ⟨history.length, dst, lead, At.last ⟨turn, here, asked ▸ finished⟩⟩

/-- **After a step every entry is backed again.** A new one has passed the check of the generation,
and so stems from a trip that read the present one. -/
theorem entries_step (documented : Documented history state) {now : Timestamp} {event : Event}
    {after : State} {effects : Effects} (move : Move now state event after effects)
    (later : List Occurrence) (place : Node) (entry : Lru.Entry Finding)
    (found : after.cache.slot? place = some entry) :
    EntryBacked (history ++ later) after.cache.generation place entry := by
  have old {entry : Lru.Entry Finding} (found : state.cache.slot? place = some entry) :
      EntryBacked (history ++ later) state.cache.generation place entry :=
    (documented.entries place entry found).append later
  cases move with
  | hit | miss =>
    obtain ⟨before, here, same⟩ := RouteCache.slot?_of_get found
    have backed := old here
    rw [same]
    exact backed
  | @store id dst led routes expiry effects here quiet =>
    cases expiry with
    | none => exact old found
    | some expiry =>
      rw [State.moveTo_cache, storedCache, RouteCache.insert_generation]
      rcases RouteCache.slot?_of_insert found with before | ⟨rfl, valued, expiring, current⟩
      · exact old before
      · obtain ⟨trip, ⟨rfl, rfl, rfl⟩, walked, earliest, concluded⟩ := documented.calls id _ here
        exact ⟨trip, expiry, by rw [valued], rfl, current.symm, concluded.append later,
          by rw [valued, walked], earliest, expiring⟩
  | release here =>
    rw [State.moveTo_cache, State.unmark_cache] at found ⊢
    exact old found
  | abandon here leading =>
    rw [State.announce_cache, State.dismiss_cache, State.unmark_cache] at found ⊢
    exact old found
  | fire =>
    rw [RouteCache.fire_generation]
    exact old (RouteCache.slot?_of_fire found)
  | purge =>
    rw [RouteCache.slot?_purge] at found
    cases found
  | _ => exact old found

end Documented

namespace Run

variable {capacity : Nat} {timeout : Duration} {history : List Occurrence} {state : State}

/-- **In every run the tables are backed by the history.** -/
theorem documented (run : Run capacity timeout history state) : Documented history state := by
  induction run with
  | initial =>
    refine ⟨fun id call found => ?_, fun id outcome found => ?_, fun dst entry found => ?_⟩
    · cases found
    · cases found
    · cases found
  | @step history state run now event fresh documented =>
    have move := move_step now event state
    exact ⟨documented.calls_step (linked run) move rfl, documented.channels_step move rfl,
      documented.entries_step move _⟩

/-- A call makes one trip, to one destination and with one lead. -/
theorem begun_unique (run : Run capacity timeout history state) {trip other : Trip}
    (begun : trip.Begun history) (begun' : other.Begun history)
    (same : trip.leader = other.leader) :
    trip.located = other.located ∧ trip.dst = other.dst ∧ trip.lead = other.lead := by
  have leads := begun.leads
  rw [same] at leads
  exact run.leads_unique leads begun'.leads

/-- **Whoever ends with routes ends with those of a concluded trip**, and was under way when the
generation was the one that its leader had read. -/
theorem answered (run : Run capacity timeout history state) {id : CallId} {finding : Finding}
    {finished : Nat} (finish : At history finished (.finish id (.ok finding) ∈ ·.effects)) :
    ∃ trip : Trip, trip.Concluded (history.take finished) ∧ trip.leader = finding.leader ∧
      trip.routes = finding.routes ∧
      ∃ present ≤ finished, At history present fun occurrence =>
        (∃ stage, occurrence.before.calls.get? id = some ⟨trip.dst, stage⟩) ∧
          occurrence.before.cache.generation = trip.lead.generation := by
  obtain ⟨occurrence, earlier, here, finished⟩ := run.take_of_at finish
  have documented := earlier.documented
  rcases occurrence.move.finish_cases finished with
    ⟨_, _, _, _, refused⟩ | ⟨_, ⟨dst, found, calling, hit, same⟩ |
      ⟨dst, leader, generation, calling, told⟩ | ⟨dst, led, calling⟩⟩
  · cases refused
  · -- it finds an entry, which is of the present generation
    cases same
    obtain ⟨entry, stored, rfl, _⟩ := RouteCache.get_eq_some hit
    obtain ⟨trip, expiry, leader, rfl, current, concluded, routes, _⟩ :=
      documented.entries dst entry stored
    exact ⟨trip, concluded, leader, routes, _, Nat.le_refl _, occurrence, here, ⟨_, calling⟩,
      current.symm⟩
  · -- it hears the outcome of a call whose generation it has read itself
    obtain ⟨⟨read, reads⟩, joined, lead, ⟨rfl, rfl, rfl⟩, rfl, begun⟩ :=
      documented.calls id _ calling
    obtain ⟨told, place, lead', tells⟩ := documented.channels joined.leader (.ok finding) told
    obtain ⟨telling, before, _, _, calling', _⟩ := earlier.take_of_at tells
    obtain ⟨_, backed⟩ := before.documented.calls joined.leader _ calling'
    obtain ⟨same, trip, ⟨leader, _, _⟩, concluded, routes⟩ := backed finding rfl
    have concluded := concluded.of_take
    obtain ⟨_, toward, led⟩ :=
      earlier.begun_unique concluded.toBegun begun (leader.trans same)
    obtain ⟨before, reads⟩ := reads.of_take
    refine ⟨trip, concluded, leader, routes, read, Nat.le_of_lt before, reads.mono ?_⟩
    rintro step ⟨_, calling', generation⟩
    exact ⟨⟨_, toward ▸ calling'⟩, by rw [generation, led]⟩
  · -- it tells what it has found itself
    obtain ⟨_, backed⟩ := documented.calls id _ calling
    obtain ⟨rfl, trip, ⟨leader, _, _⟩, concluded, routes⟩ := backed finding rfl
    have reads := concluded.reads
    rw [leader] at reads
    obtain ⟨before, reads⟩ := reads.of_take
    refine ⟨trip, concluded, leader, routes, trip.read, Nat.le_of_lt before, reads.mono ?_⟩
    rintro step ⟨_, calling', generation⟩
    exact ⟨⟨_, calling'⟩, generation⟩

/-- **Whatever the leader of a trip asks, it asks on its trip.** -/
theorem located_le (run : Run capacity timeout history state) {trip : Trip}
    (begun : trip.Begun history) {position : Nat} {query : Query}
    (asked : At history position (·.Asks trip.leader query)) : trip.located ≤ position := by
  obtain ⟨occurrence, earlier, here, limit, asked⟩ := run.take_of_at asked
  rcases occurrence.move.ask_cases asked with
    ⟨rfl, limited, event, dst, generation, calling, _⟩ | ⟨_, dst, stage, lead, calling, telling⟩
  · have leads : occurrence.Leads trip.leader dst ⟨generation, occurrence.now⟩ :=
      ⟨event, calling, rfl, limited ▸ asked⟩
    exact Nat.le_of_eq (run.leads_unique begun.leads ⟨occurrence, here, leads⟩).1
  · obtain ⟨other, ⟨leader, _, _⟩, begun'⟩ := (earlier.documented.calls _ _ calling).begun telling
    have leads := begun'.leads
    rw [leader] at leads
    obtain ⟨before, leads⟩ := leads.of_take
    rw [(run.leads_unique begun.leads leads).1]
    exact Nat.le_of_lt before

end Run

end Wayfinder.Resolver
