/-
**Calls that break off.**

A leading call breaks off when a collaborator fails it, by a refusal or by taking too long, or when
it is given up before it has anything to store. A call that fails goes through two more turns, in
which it gives its mark back and tells the fault; one that is given up is gone at once. In either
case all that it has changed in the cache are the counts of what has happened, up to an expired entry
that it has met when it looked its destination up. Nobody remembers the fault: whoever comes later
and finds nothing sets out for a round trip of its own.

* `Occurrence.BreaksOff`: the step in which a leading call breaks off;
* `Run.severed`: where it stands afterwards;
* `Run.failed`: a fault that a call is about to tell is one with which a collaborator failed it;
* `Traceless`, `Run.traceless`: what it leaves behind, in every run.
-/

import Wayfinder.Proofs.Resolver.SingleFlight
import Wayfinder.Proofs.Resolver.Storing

namespace Wayfinder.Resolver

/-! ### Whom a step concerns -/

section Step

variable {now : Timestamp} {state after : State} {event : Event} {effects : Effects} {id : CallId}

/-- **A call stays where it is in the steps that are not about it.** -/
theorem Move.call_stays (move : Move now state event after effects) {call : Call}
    (here : state.calls.get? id = some call) (apart : event.caller? ≠ some id) :
    after.calls.get? id = some call := by
  rw [move.call_kept apart, here]

/-- Whoever asks has no outcome yet, and either it is its turn or it hears a good answer. -/
theorem Move.ask_waiting (move : Move now state event after effects) {query : Query}
    {limit : Option Duration} (asked : .ask (.call id) query limit ∈ effects) :
    ∃ dst stage, state.calls.get? id = some ⟨dst, stage⟩ ∧ stage.outcome? = none ∧
      (event = .proceed (.call id) ∨
        ∃ reply, event = .answer id reply ∧ stage.failure? reply = none) := by
  cases move with
  | lead here unmarked =>
    cases List.mem_singleton.mp asked
    exact ⟨_, _, here, rfl, Or.inl rfl⟩
  | locate here | explore here =>
    cases List.mem_singleton.mp asked
    exact ⟨_, _, here, rfl, Or.inr ⟨_, rfl, rfl⟩⟩
  | publish here =>
    rcases List.mem_append.mp asked with roused | last
    · obtain ⟨follower, same⟩ := State.mem_announce roused
      cases same
    · cases List.mem_singleton.mp last
  | store here quiet =>
    obtain ⟨timer, due, same⟩ := quiet _ asked
    cases same
  | abandon | withhold =>
    obtain ⟨follower, same⟩ := State.mem_announce asked
    cases same
  | _ => simp at asked

end Step

/-- The next turn of a call after a step. -/
structure NextTurn (history : List Occurrence) (id : CallId) (first second : Nat) : Prop where
  later : first < second
  turn : At history second (·.event = .proceed (.call id))
  between : ∀ position, first < position → position < second →
    At history position (·.event.caller? ≠ some id)

/-- **Up to its next turn a call stays where it is.** -/
theorem Run.stays_until {capacity : Nat} {timeout : Duration} {history : List Occurrence}
    {state : State} (run : Run capacity timeout history state) {id : CallId} {call : Call}
    {first second : Nat} (here : At history first (·.after.calls.get? id = some call))
    (next : NextTurn history id first second) :
    At history second fun occurrence => occurrence.event = .proceed (.call id) ∧
      occurrence.before.calls.get? id = some call := by
  obtain ⟨occurrence, there, turn⟩ := next.turn
  let holds : State → Prop := fun state => state.calls.get? id = some call
  have found : At (history.take second) first (holds ·.after) := here.take next.later
  refine ⟨occurrence, there, turn,
    ((run.take there).stays found fun later taken after member before => ?_).2⟩
  obtain ⟨upTo, _, same, rfl⟩ : later < second ∧ At history later (· = taken) :=
    At.of_take ⟨taken, member, rfl⟩
  obtain ⟨_, same', apart⟩ := next.between later after upTo
  cases same.symm.trans same'
  exact (Occurrence.move _).call_stays before apart

/-! ### Breaking off -/

/-- The step in which a collaborator fails a leading call. -/
def Occurrence.Fails (occurrence : Occurrence) (id : CallId) (dst : Node) (lead : Lead)
    (fault : ResolveFault) : Prop :=
  ∃ stage reply, occurrence.event = .answer id reply ∧
    occurrence.before.calls.get? id = some ⟨dst, stage⟩ ∧ stage.lead? = some lead ∧
    stage.failure? reply = some fault

/-- The step in which a leading call breaks off: it fails with the fault, or it is given up before it
has an outcome. -/
def Occurrence.BreaksOff (occurrence : Occurrence) (id : CallId) (dst : Node) (lead : Lead)
    (fault : ResolveFault) : Prop :=
  occurrence.Fails id dst lead fault ∨
    occurrence.event = .cancel id ∧ ∃ stage,
      occurrence.before.calls.get? id = some ⟨dst, stage⟩ ∧ stage.lead? = some lead ∧
      stage.outcome? = none

/-- A call that fails has no outcome yet. -/
theorem Stage.outcome?_of_failure? {stage : Stage} {reply : Reply} {fault : ResolveFault}
    (failing : stage.failure? reply = some fault) : stage.outcome? = none := by
  cases stage <;> first | rfl | cases failing

/-- Where a call stands that has broken off: it has given its mark back or is about to, and then
tells the fault. -/
def State.Severed (state : State) (id : CallId) (dst : Node) (lead : Lead) (fault : ResolveFault) :
    Prop :=
  ∀ call, state.calls.get? id = some call →
    call = ⟨dst, .releasing lead (.error fault)⟩ ∨ call = ⟨dst, .publishing lead (.error fault)⟩

section Step

variable {now : Timestamp} {state after : State} {event : Event} {effects : Effects} {id : CallId}
  {dst : Node} {lead : Lead} {fault : ResolveFault}

theorem State.Severed.outcome? (severed : state.Severed id dst lead fault) {place : Node}
    {stage : Stage} (here : state.calls.get? id = some ⟨place, stage⟩) :
    stage.outcome? = some (.error fault) := by
  rcases severed _ here with same | same <;> cases same <;> rfl

theorem step_fail {stage : Stage} {reply : Reply}
    (here : state.calls.get? id = some ⟨dst, stage⟩) (leading : stage.lead? = some lead)
    (failing : stage.failure? reply = some fault) :
    step now (.answer id reply) state =
      (state.moveTo id ⟨dst, stage⟩ (.releasing lead (.error fault)), []) := by
  rw [step, here]
  unfold Stage.failure? at failing
  split at failing <;> cases failing <;> cases leading <;> rfl

theorem step_release {outcome : Outcome}
    (here : state.calls.get? id = some ⟨dst, .releasing lead outcome⟩) :
    step now (.proceed (.call id)) state =
      ((state.unmark dst lead.generation).moveTo id ⟨dst, .releasing lead outcome⟩
        (.publishing lead outcome), []) := by
  rw [step_proceed here]
  rfl

theorem step_publish {outcome : Outcome}
    (here : state.calls.get? id = some ⟨dst, .publishing lead outcome⟩) :
    step now (.proceed (.call id)) state =
      ((state.announce id (.published outcome)).1.dismiss id,
        (state.announce id (.published outcome)).2 ++ [.finish id outcome]) := by
  rw [step_proceed here]
  rfl

/-- A call that is given up is gone. -/
theorem get?_of_cancel : (step now (.cancel id) state).1.calls.get? id = none := by
  rw [step]
  cases here : state.calls.get? id with
  | none => exact here
  | some call =>
    simp only [cancelCall]
    split
    · rw [State.announce_calls, State.dismiss_calls, Table.get?_erase, if_pos rfl]
    · rw [State.announce_calls, State.dismiss_calls, Table.get?_erase, if_pos rfl]
    · rw [State.dismiss_calls, Table.get?_erase, if_pos rfl]

theorem cancelCall_leading {call : Call} (leading : call.stage.lead? = some lead) :
    cancelCall id call state =
      ((state.unmark call.dst lead.generation).dismiss id).announce id .closed := by
  unfold cancelCall
  rw [leading]

namespace Occurrence.BreaksOff

variable {occurrence : Occurrence}

theorem calling (breaksOff : occurrence.BreaksOff id dst lead fault) :
    ∃ stage, occurrence.before.calls.get? id = some ⟨dst, stage⟩ ∧ stage.lead? = some lead ∧
      stage.outcome? = none := by
  rcases breaksOff with ⟨stage, reply, _, here, leading, failing⟩ | ⟨_, stage, here, leading, open'⟩
  · exact ⟨stage, here, leading, Stage.outcome?_of_failure? failing⟩
  · exact ⟨stage, here, leading, open'⟩

/-- After it has broken off a call is about to tell the fault, or is gone. -/
theorem severed (breaksOff : occurrence.BreaksOff id dst lead fault) :
    occurrence.after.Severed id dst lead fault := by
  intro call found
  rcases breaksOff with ⟨stage, reply, event, here, leading, failing⟩ | ⟨event, stage, here, leading, _⟩
  · rw [Occurrence.after_eq, event, step_fail here leading failing, State.moveTo_calls,
      Table.get?_put_self] at found
    exact Or.inl (Option.some.inj found).symm
  · rw [Occurrence.after_eq, event, step_cancel here, cancelCall_leading leading,
      State.announce_calls, State.dismiss_calls, State.unmark_calls, Table.get?_erase,
      if_pos rfl] at found
    cases found

/-- A call that breaks off asks nothing. -/
theorem silent (breaksOff : occurrence.BreaksOff id dst lead fault) (query : Query) :
    ¬ occurrence.Asks id query := by
  rintro ⟨limit, asked⟩
  obtain ⟨place, stage, here, _, event⟩ := occurrence.move.ask_waiting asked
  rcases breaksOff with ⟨_, reply, failed, calling, _, failing⟩ | ⟨dropped, _⟩
  · rcases event with turn | ⟨other, answered, fine⟩
    · cases failed.symm.trans turn
    · cases failed.symm.trans answered
      cases here.symm.trans calling
      cases fine.symm.trans failing
  · rcases event with turn | ⟨other, answered, _⟩
    · cases dropped.symm.trans turn
    · cases dropped.symm.trans answered

end Occurrence.BreaksOff

/-- A call that has broken off does not come back. -/
theorem Move.severed (move : Move now state event after effects)
    (running : ∀ destination, event ≠ .start id destination)
    (severed : state.Severed id dst lead fault) : after.Severed id dst lead fault := by
  intro call found
  cases move.call_change found with
  | kept here => exact severed call here
  | begun starts => exact absurd starts (running _)
  | onward here goes =>
    -- a call that goes on has no outcome yet, or gives its mark back
    have concluded := severed.outcome? here
    cases goes with
    | miss | read | follow | lead | retry | locate | explore | consult | store => cases concluded
    | fail leading failing =>
      rw [Stage.outcome?_of_failure? failing] at concluded
      cases concluded
    | release =>
      rcases severed _ here with same | same <;> cases same
      exact Or.inr rfl

/-- A fault that a call is about to tell after a step it was about to tell before, or a collaborator
has just failed it with this fault. -/
theorem Move.fault_before (move : Move now state event after effects) {call : Call}
    (found : after.calls.get? id = some call) (outcome : call.stage.outcome? = some (.error fault))
    (telling : call.stage.telling? = some lead) :
    (∃ stage, state.calls.get? id = some ⟨call.dst, stage⟩ ∧
        stage.outcome? = some (.error fault) ∧ stage.telling? = some lead) ∨
      ∃ stage reply, event = .answer id reply ∧
        state.calls.get? id = some ⟨call.dst, stage⟩ ∧ stage.lead? = some lead ∧
        stage.failure? reply = some fault := by
  cases move.call_change found with
  | kept here => exact Or.inl ⟨call.stage, here, outcome, telling⟩
  | begun => cases outcome
  | onward here goes =>
    cases goes with
    | miss | read | follow | lead | retry | locate | explore | consult | store => cases outcome
    | fail leading failing =>
      cases outcome
      cases telling
      exact Or.inr ⟨_, _, rfl, here, leading, failing⟩
    | release => exact Or.inl ⟨_, here, outcome, telling⟩

end Step

namespace Run

variable {capacity : Nat} {timeout : Duration} {history : List Occurrence} {state : State}
  {id : CallId} {dst : Node} {lead : Lead} {fault : ResolveFault} {broken : Nat}

/-- **A call that is about to tell the fault, or gone, stays so.** -/
theorem severed_of_after (run : Run capacity timeout history state)
    (severed : At history broken fun occurrence =>
      (∃ call, occurrence.before.calls.get? id = some call) ∧
        occurrence.after.Severed id dst lead fault) : state.Severed id dst lead fault := by
  let holds : State → Prop := (·.Severed id dst lead fault)
  have found : At history broken (holds ·.after) := severed.mono fun _ severed => severed.2
  obtain ⟨occurrence, here, ⟨call, calling⟩, _⟩ := severed
  refine (run.stays found fun later taken after there before => ?_).2
  have running := run.not_start_of_le ⟨occurrence, here, calling⟩ (Nat.le_of_lt after) there
  exact (Occurrence.move taken).severed running before

/-- **From its breaking off on, a call is about to tell the fault, or is gone.** -/
theorem severed (run : Run capacity timeout history state)
    (breaks : At history broken (·.BreaksOff id dst lead fault)) :
    state.Severed id dst lead fault := by
  refine run.severed_of_after (breaks.mono fun occurrence breaksOff => ⟨?_, breaksOff.severed⟩)
  obtain ⟨stage, calling, _⟩ := breaksOff.calling
  exact ⟨_, calling⟩

/-- Before a step after its breaking off, too. -/
theorem severed_take (run : Run capacity timeout history state)
    (breaks : At history broken (·.BreaksOff id dst lead fault)) {position : Nat}
    (later : broken < position) {occurrence : Occurrence}
    (here : history[position]? = some occurrence) :
    occurrence.before.Severed id dst lead fault :=
  (run.take here).severed (breaks.take later)

end Run

/-! ### What a broken call leaves -/

/-- No mark is that of a call. -/
def State.Markless (state : State) (id : CallId) : Prop :=
  ∀ place marker, state.markers.get? place = some marker → marker.leader ≠ id

/-- A step stores and replaces nothing, and takes no entry out that has not expired. The generation
and the timers are as before. -/
structure Occurrence.Spares (occurrence : Occurrence) : Prop where
  generation : occurrence.after.cache.generation = occurrence.before.cache.generation
  timers : occurrence.after.cache.timers = occurrence.before.cache.timers
  handles : occurrence.after.cache.handles = occurrence.before.cache.handles
  nextTimer : occurrence.after.cache.nextTimer = occurrence.before.cache.nextTimer
  entries : ∀ place entry, occurrence.after.cache.slot? place = some entry →
    occurrence.before.cache.slot? place = some entry
  expired : ∀ place entry, occurrence.before.cache.slot? place = some entry →
    occurrence.after.cache.slot? place = some entry ∨ entry.isStale occurrence.now = true

/-- The step in which a call looks its destination up and finds nothing. -/
def Occurrence.Misses (occurrence : Occurrence) (id : CallId) (dst : Node) : Prop :=
  occurrence.LooksUp id dst ∧ (occurrence.before.cache.get dst occurrence.now).1 = none

/-- No call leads to a destination in a generation. -/
def State.Leaderless (state : State) (dst : Node) (generation : UInt64) : Prop :=
  ∀ leader lead, state.marking? leader = some (dst, lead) → lead.generation ≠ generation

theorem Linked.markless {history : List Occurrence} {state : State} (linked : Linked history state)
    {id : CallId} (silent : state.marking? id = none) : state.Markless id := by
  rintro place marker marked rfl
  obtain ⟨lead, marking, _⟩ := linked.marked place marker marked
  rw [silent] at marking
  cases marking

/-- A step that changes of the cache its counts at most spares it. -/
theorem Occurrence.Spares.of_cache {occurrence : Occurrence} (tally : Tally)
    (same : occurrence.after.cache = { occurrence.before.cache with tally }) :
    occurrence.Spares where
  generation := by rw [same]
  timers := by rw [same]
  handles := by rw [same]
  nextTimer := by rw [same]
  entries place entry found := by
    rw [same] at found
    exact found
  expired place entry found := by
    rw [same]
    exact Or.inl found

/-- A step with which a call starts, waits or breaks off spares the cache, as long as it does not hit
and does not store. -/
theorem Occurrence.spares {occurrence : Occurrence} {id : CallId}
    (own : occurrence.event.caller? = some id)
    (misses : ∀ dst, occurrence.LooksUp id dst →
      (occurrence.before.cache.get dst occurrence.now).1 = none)
    (storeless : ∀ dst lead routes expiry, ¬ occurrence.Stores id dst lead routes expiry) :
    occurrence.Spares := by
  obtain ⟨before, now, event⟩ := occurrence
  have move := Occurrence.move ⟨before, now, event⟩
  generalize reached : (⟨before, now, event⟩ : Occurrence).after = after at move
  generalize (⟨before, now, event⟩ : Occurrence).effects = effects at move
  -- what all other steps leave is the cache itself, or its counts are all that has changed
  have spare (tally : Tally) (same : after.cache = { before.cache with tally }) :
      Occurrence.Spares ⟨before, now, event⟩ := .of_cache tally (reached ▸ same)
  cases move with
  | hit here found =>
    cases own
    rw [misses _ ⟨rfl, here⟩] at found
    cases found
  | @miss other dst here missed =>
    obtain ⟨stale, slots⟩ := RouteCache.get_eq_none missed
    constructor
    · rw [reached]; rfl
    · rw [reached]; rfl
    · rw [reached]; rfl
    · rw [reached]; rfl
    · intro place entry found
      rw [reached] at found
      replace found := (slots place).symm.trans found
      split at found
      · cases found
      · exact found
    · intro place entry found
      rw [reached]
      by_cases same : dst = place
      · exact Or.inr (stale entry (same ▸ found))
      · exact Or.inl ((slots place).trans ((if_neg same).trans found))
  | store here =>
    cases own
    exact absurd ⟨rfl, here⟩ (storeless _ _ _ _)
  | fire | purge => cases own
  | release =>
    refine spare before.cache.tally ?_
    rw [State.moveTo_cache, State.unmark_cache]
  | abandon =>
    refine spare before.cache.tally ?_
    rw [State.announce_cache, State.dismiss_cache, State.unmark_cache]
  | consult tally => exact spare tally rfl
  | _ => exact spare before.cache.tally rfl

/-- **What a call leaves behind that breaks off**, and what awaits those who come later. -/
structure Traceless (history : List Occurrence) (state : State) (broken : Nat) (id : CallId)
    (dst : Node) (lead : Lead) (fault : ResolveFault) : Prop where
  /-- It asks nobody any more. -/
  silent : ∀ position query, broken ≤ position → ¬ At history position (·.Asks id query)
  /-- In all its steps it stores and replaces nothing, and leaves the generation and the timers as
  they are. -/
  spares : ∀ (position : Nat) (occurrence : Occurrence), history[position]? = some occurrence →
    occurrence.event.caller? = some id → occurrence.Spares
  /-- In its next turn, if it is still there, it gives its mark back; in the one after that it tells
  the fault and is gone. -/
  returns : ∀ position, broken < position →
    (At history position fun occurrence => occurrence.event = .proceed (.call id) ∧
      occurrence.before.calls.get? id ≠ none) →
    At history position fun (occurrence : Occurrence) =>
      (occurrence.after.calls.get? id = some ⟨dst, .publishing lead (.error fault)⟩ ∧
          occurrence.after.Markless id) ∨
        occurrence.Tells id dst lead (.error fault) ∧ occurrence.after.calls.get? id = none
  /-- Once it has been given up, is gone or is about to tell the fault, no mark is its own. -/
  markless : ∀ position, broken ≤ position →
    (At history position fun occurrence => occurrence.event = .cancel id ∨
      occurrence.after.calls.get? id = none ∨
      occurrence.after.calls.get? id = some ⟨dst, .publishing lead (.error fault)⟩) →
    state.Markless id
  /-- Whoever finds nothing and nobody who leads in the generation that it then reads sets out for a
  round trip of its own. -/
  setsOut : ∀ other place first second third, At history first (·.Misses other place) →
    NextTurn history other first second → NextTurn history other second third →
    ∃ generation, At history second (·.Reads other place generation) ∧
      (At history third (·.before.Leaderless place generation) →
        At history third fun occurrence =>
          occurrence.Leads other place ⟨generation, occurrence.now⟩)
  /-- What a leading call tells is what it has found on its own round trip, or the fault with which a
  collaborator has failed itself. -/
  own : ∀ told other place led outcome, At history told (·.Tells other place led outcome) →
    (∃ finding, outcome = .ok finding ∧ finding.leader = other ∧
        finding.Backed (history.take told) place led) ∨
      ∃ cause failed, outcome = .error cause ∧ failed < told ∧
        At history failed (·.Fails other place led cause)

namespace Run

variable {capacity : Nat} {timeout : Duration} {history : List Occurrence} {state : State}
  {id : CallId} {dst : Node} {lead : Lead} {fault : ResolveFault} {broken : Nat}

/-- **A call that breaks off spares the cache in all its steps**: to hit or to store it would have to
end otherwise. -/
theorem spares (run : Run capacity timeout history state)
    (breaks : At history broken (·.BreaksOff id dst lead fault)) {position : Nat}
    {occurrence : Occurrence} (here : history[position]? = some occurrence)
    (own : occurrence.event.caller? = some id) : occurrence.Spares := by
  obtain ⟨last, earlier, there, breaksOff⟩ := run.take_of_at breaks
  obtain ⟨stage, calling, _, waiting⟩ := breaksOff.calling
  -- it has no turn at the step in which it breaks off, and no stage without an outcome after it
  have before {place : Node} {stage' : Stage} (turn : occurrence.event = .proceed (.call id))
      (here' : occurrence.before.calls.get? id = some ⟨place, stage'⟩)
      (waiting' : stage'.outcome? = none) : position < broken := by
    rcases Nat.lt_trichotomy position broken with less | rfl | greater
    · exact less
    · rw [here] at there
      cases there
      rcases breaksOff with ⟨_, _, event, _⟩ | ⟨event, _⟩ <;> cases turn.symm.trans event
    · rw [(run.severed_take breaks greater here).outcome? here'] at waiting'
      cases waiting'
  refine Occurrence.spares own (fun place looks => ?_) fun place led routes expiry stores => ?_
  · cases looked : (occurrence.before.cache.get place occurrence.now).1 with
    | none => rfl
    | some finding =>
      have less := before looks.1 looks.2 rfl
      have ended : At history position fun occurrence =>
          (∃ call, occurrence.before.calls.get? id = some call) ∧
            occurrence.after.Severed id dst lead fault := by
        refine ⟨occurrence, here, ⟨_, looks.2⟩, fun call found => ?_⟩
        rw [Occurrence.after_eq, looks.1, step_hit looks.2 looked, State.dismiss_calls,
          Table.get?_erase, if_pos rfl] at found
        cases found
      have severed := earlier.severed_of_after (ended.take less)
      rw [severed.outcome? calling] at waiting
      cases waiting
  · have less := before stores.1 stores.2 rfl
    have stored : At history position (·.Stores id place led routes expiry) :=
      ⟨occurrence, here, stores⟩
    exact absurd waiting (earlier.concluding (stored.take less) calling)

/-- A call whose mark is gone after it has broken off has no mark again. -/
theorem marking_none (run : Run capacity timeout history state)
    (breaks : At history broken (·.BreaksOff id dst lead fault)) {position : Nat}
    (later : broken ≤ position) (gone : At history position (·.after.marking? id = none)) :
    state.marking? id = none := by
  let holds : State → Prop := fun state => state.marking? id = none
  have found : At history position (holds ·.after) := gone
  refine (run.stays found fun next taken after here before => ?_).2
  obtain ⟨earlier, fresh⟩ := run.take_and_fresh here
  refine Option.eq_none_iff_forall_ne_some.mpr fun shown marking => ?_
  rcases (leadChange earlier fresh taken.now).marking_before marking with old | ⟨joining, _⟩
  · cases before.symm.trans old
  · -- a call that has broken off has an outcome, and does not join
    have outcome := (severed earlier (breaks.take (Nat.lt_of_le_of_lt later after))).outcome? joining
    cases outcome

/-- **In its next turn a broken call gives its mark back, and then it tells the fault.** -/
theorem turn_of_severed (run : Run capacity timeout history state)
    (breaks : At history broken (·.BreaksOff id dst lead fault)) {position : Nat}
    (later : broken < position)
    (turn : At history position fun occurrence => occurrence.event = .proceed (.call id) ∧
      occurrence.before.calls.get? id ≠ none) :
    At history position fun occurrence =>
      (occurrence.after.calls.get? id = some ⟨dst, .publishing lead (.error fault)⟩ ∧
          occurrence.after.Markless id) ∨
        occurrence.Tells id dst lead (.error fault) ∧ occurrence.after.calls.get? id = none := by
  obtain ⟨occurrence, here, event, present⟩ := turn
  refine ⟨occurrence, here, ?_⟩
  obtain ⟨call, calling⟩ := Option.ne_none_iff_exists'.mp present
  rcases run.severed_take breaks later here call calling with rfl | rfl
  · have moved : occurrence.after.calls.get? id =
        some ⟨dst, .publishing lead (.error fault)⟩ := by
      rw [Occurrence.after_eq, event, step_release calling, State.moveTo_calls, Table.get?_put_self]
    refine Or.inl ⟨moved, (linked (run.take_succ here)).markless ?_⟩
    rw [State.marking?, leadOf_of_get? moved]
    rfl
  · refine Or.inr ⟨⟨event, calling, ?_⟩, ?_⟩
    · rw [Occurrence.effects_eq, event, step_publish calling]
      exact List.mem_append_right _ (List.mem_singleton_self _)
    · rw [Occurrence.after_eq, event, step_publish calling, State.dismiss_calls, Table.get?_erase,
        if_pos rfl]

/-- **Whoever finds nothing and nobody who leads sets out.** -/
theorem sets_out (run : Run capacity timeout history state) {first second third : Nat}
    (misses : At history first (·.Misses id dst)) (next : NextTurn history id first second)
    (next' : NextTurn history id second third) :
    ∃ generation, At history second (·.Reads id dst generation) ∧
      (At history third (·.before.Leaderless dst generation) →
        At history third fun occurrence =>
          occurrence.Leads id dst ⟨generation, occurrence.now⟩) := by
  obtain ⟨occurrence, here, ⟨event, looking⟩, missed⟩ := misses
  have reading : At history first
      (·.after.calls.get? id = some ⟨dst, .readingGeneration⟩) := by
    refine ⟨occurrence, here, ?_⟩
    show occurrence.after.calls.get? id = _
    rw [Occurrence.after_eq, event, step_miss looking missed, State.moveTo_calls, Table.get?_put_self]
  obtain ⟨occurrence, here, event, reads⟩ := run.stays_until reading next
  have joining : At history second (·.after.calls.get? id =
      some ⟨dst, .joining occurrence.before.cache.generation⟩) := by
    refine ⟨occurrence, here, ?_⟩
    show occurrence.after.calls.get? id = _
    rw [Occurrence.after_eq, event, step_read reads, State.moveTo_calls, Table.get?_put_self]
  refine ⟨_, ⟨occurrence, here, event, reads, rfl⟩, fun alone => ?_⟩
  obtain ⟨last, there, ⟨event', joins⟩, leaderless⟩ := (run.stays_until joining next').and alone
  have unmarked : ∀ leader, last.before.markers.get? dst ≠
      some ⟨occurrence.before.cache.generation, leader⟩ := by
    intro leader marked
    obtain ⟨led, marking, same⟩ := (run.take there).linked.marked dst _ marked
    exact leaderless leader led marking same
  refine ⟨last, there, event', joins, rfl, ?_⟩
  rw [Occurrence.effects_eq, event', step_lead joins unmarked]
  exact List.mem_singleton_self _

/-- **A fault that a call is about to tell is one with which a collaborator has failed it.** -/
theorem failed (run : Run capacity timeout history state) {call : Call}
    (here : state.calls.get? id = some call) (outcome : call.stage.outcome? = some (.error fault))
    (telling : call.stage.telling? = some lead) :
    ∃ position, At history position (·.Fails id call.dst lead fault) := by
  induction run generalizing call with
  | initial => cases here
  | @step history state run now event fresh hypothesis =>
    rcases (move_step now event state).fault_before here outcome telling with
      ⟨stage, before, outcome, telling⟩ | fails
    · obtain ⟨position, fails⟩ := hypothesis before outcome telling
      exact ⟨position, fails.append _⟩
    · exact ⟨history.length, At.last fails⟩

/-- **What a leading call tells is its own**: routes of its own trip, or a fault of its own. -/
theorem tells_own (run : Run capacity timeout history state) {told : Nat} {outcome : Outcome}
    (tells : At history told (·.Tells id dst lead outcome)) :
    (∃ finding, outcome = .ok finding ∧ finding.leader = id ∧
        finding.Backed (history.take told) dst lead) ∨
      ∃ cause failed, outcome = .error cause ∧ failed < told ∧
        At history failed (·.Fails id dst lead cause) := by
  obtain ⟨occurrence, earlier, here, _, calling, _⟩ := run.take_of_at tells
  cases outcome with
  | ok finding =>
    obtain ⟨_, backed⟩ := earlier.documented.calls id _ calling
    obtain ⟨leader, backed⟩ := backed finding rfl
    exact Or.inl ⟨finding, rfl, leader, backed⟩
  | error cause =>
    obtain ⟨failed, fails⟩ := earlier.failed calling rfl rfl
    exact Or.inr ⟨cause, failed, rfl, fails.of_take⟩

/-- **A leading call that breaks off leaves no trace**, in every run and whatever others do meanwhile.
-/
theorem traceless (run : Run capacity timeout history state)
    (breaks : At history broken (·.BreaksOff id dst lead fault)) :
    Traceless history state broken id dst lead fault where
  silent := by
    rintro position query later ⟨occurrence, here, asks⟩
    rcases Nat.lt_or_eq_of_le later with after | rfl
    · obtain ⟨limit, asked⟩ := asks
      obtain ⟨_, _, calling, waiting, _⟩ := occurrence.move.ask_waiting asked
      rw [(run.severed_take breaks after here).outcome? calling] at waiting
      cases waiting
    · obtain ⟨other, there, breaksOff⟩ := breaks
      rw [here] at there
      cases there
      exact breaksOff.silent query asks
  spares := fun _ _ here own => run.spares breaks here own
  returns := fun _ later turn => run.turn_of_severed breaks later turn
  markless := by
    rintro position later ⟨occurrence, here, gone⟩
    refine run.linked.markless (run.marking_none breaks later ⟨occurrence, here, ?_⟩)
    rcases gone with cancelled | none | publishing
    · show leadOf Stage.lead? occurrence.after.calls id = none
      rw [Occurrence.after_eq, cancelled, leadOf, get?_of_cancel, Option.bind_none]
    · rw [State.marking?, leadOf, none, Option.bind_none]
    · rw [State.marking?, leadOf_of_get? publishing]
      rfl
  setsOut := fun _ _ _ _ _ misses next next' => run.sets_out misses next next'
  own := fun _ _ _ _ _ tells => run.tells_own tells

end Run

/-- The oracle takes too long over the candidates of the first call, which another one has joined,
and there is a purge meanwhile. The third call sets out anew. -/
def refused : List Occurrence :=
  automaton.replay (.initial 4 100) <|
    turns 0 0 "7-71" ++ turns 0 1 "7-71" ++
      [(1, .answer 0 (.node (.ok sampleSrc))), (2, .purge),
        (101, .answer 0 (.candidates (.error (.timeout topologyOracle 100)))),
        (101, .proceed (.call 0)), (101, .proceed (.call 0)), (101, .proceed (.call 1))] ++
      turns 102 2 "7-71"

/-- In that run the first call leaves no mark, and the third one leads. -/
theorem traceless_refused : ∃ state, Run 4 100 refused state ∧ state.Markless 0 ∧
    At refused 17 fun occurrence => occurrence.Leads 2 sampleDst ⟨1, occurrence.now⟩ := by
  have run : Run 4 100 refused _ := Run.of_replay 4 100 _ (by decide)
  have breaks : At refused 10 (·.BreaksOff 0 sampleDst ⟨0, 0⟩
      (.oracle (.timeout topologyOracle 100))) :=
    ⟨_, rfl, Or.inl ⟨.exploring ⟨0, 0⟩ sampleSrc, _, rfl, by decide +kernel, rfl, rfl⟩⟩
  have traceless := run.traceless breaks
  have misses : At refused 15 (·.Misses 2 sampleDst) :=
    ⟨_, rfl, ⟨rfl, by decide +kernel⟩, by decide +kernel⟩
  have next (position : Nat) (turn : At refused (position + 1) (·.event = .proceed (.call 2))) :
      NextTurn refused 2 position (position + 1) :=
    ⟨Nat.lt_succ_self _, turn, fun between after before => by omega⟩
  obtain ⟨generation, reads, sets⟩ := traceless.setsOut 2 sampleDst 15 16 17 misses
    (next 15 ⟨_, rfl, rfl⟩) (next 16 ⟨_, rfl, rfl⟩)
  have present : generation = 1 := by
    obtain ⟨occurrence, here, _, _, same⟩ := reads
    cases here
    rw [← same]
    decide +kernel
  subst present
  have still : At refused 17 fun occurrence =>
      ∀ entry ∈ occurrence.before.calls.entries, entry.2.stage.lead? = none := by decide +kernel
  refine ⟨_, run, traceless.markless 12 (by decide) ⟨_, rfl, Or.inr (Or.inl (by decide +kernel))⟩,
    sets (still.mono fun occurrence still leader lead marking _ => ?_)⟩
  obtain ⟨stage, here, leading⟩ := leadOf_eq_some.mp marking
  rw [still _ (Table.mem_entries_of_get? here)] at leading
  cases leading

end Wayfinder.Resolver
