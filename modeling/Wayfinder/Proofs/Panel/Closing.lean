/-
**Closing the sources.**

A call that closes the sources goes through them in order. What is outside is asked to close, an
archive has nothing to close, and in an atlas the call first waits for the loop, if there is one, and
then asks the oracle to close. The first failure ends the call; so does a loop that has broken down,
and then the oracle of that atlas is not asked.

* `Spot`, `Spot.Holds`: where such a call stands, and what the panel looks like then;
* `Turn`: what it does next;
* `Spot.Holds.proceed`, `answerSource`, `answerOracle`: its steps are those turns;
* `Spot.Holds.kept`: in between it stays where it is.
-/

import Wayfinder.Proofs.Panel.Bystanders

namespace Wayfinder

/-- How a loop has ended that a closing call waits for. -/
def Atlas.State.exit? (state : Atlas.State) (id : CallId) : Option (Except StopFault Unit) :=
  match state.calls.get? id with
  | some (.close (.stopping loop)) =>
    (state.loops.get? loop).bind fun running => running.beat.exit? Atlas.jobName
  | _ => none

namespace Panel

/-- How a loop has ended that a closing call waits for at a position. -/
def State.exit? (state : State) (position : Nat) (id : CallId) : Option (Except StopFault Unit) :=
  (state.atlas? position).bind (·.exit? id)

/-! ### Where a closing call stands -/

/-- Where a closing call stands. -/
inductive Spot where
  /-- It is the turn of a source, or there is none left. -/
  | facing (position : Nat)
  /-- Waits for something outside. -/
  | asking (position : Nat)
  /-- Is in an atlas. -/
  | inside (position : Nat) (stage : Atlas.Closing)
  /-- Is not in the panel. -/
  | away
deriving DecidableEq, Repr

/-- The record of the call. -/
def Spot.round? : Spot → Option Round
  | .facing position => some { errand := .close, position }
  | .asking position | .inside position _ => some { errand := .close, position, waiting := true }
  | .away => none

/-- The call in the atlas at a position. -/
def Spot.call? (spot : Spot) (position : Nat) : Option Atlas.Call :=
  match spot with
  | .inside here stage => if here = position then some (.close stage) else none
  | .facing _ | .asking _ | .away => none

/-- The question that the call waits for, and who has asked it. -/
def Spot.question? (id : CallId) : Spot → Option (Task × Query)
  | .asking position => some (.call id, .closeSource position)
  | .inside position .releasing => some (.atlas position (.call id), .closeOracle)
  | .facing _ | .inside _ _ | .away => none

/-- What a source looks like, given its kind and the call in it if it is an atlas. -/
inductive Source.Stands (id : CallId) :
    Option Atlas.Call → Option Kind → Option Source → Prop
  | none : Source.Stands id none none none
  | external {name : String} : Source.Stands id none (some .external) (some (.external name))
  | archive {archive : Archive} :
      Source.Stands id none (some .archive) (some (.archive archive))
  | atlas {call? : Option Atlas.Call} {atlas : Atlas.State} (here : atlas.calls.get? id = call?)
      (numbered : atlas.Numbered)
      (told : ∀ loop, call? = some (.close (.stopping loop)) → atlas.Told loop) :
      Source.Stands id call? (some .atlas) (some (.atlas atlas))

/-- Where a closing call stands in the panel. -/
structure Spot.Holds (spot : Spot) (id : CallId) (kinds : List Kind) (state : State) : Prop where
  round : state.rounds.get? id = spot.round?
  source : ∀ position : Nat,
    Source.Stands id (spot.call? position) kinds[position]? state.sources[position]?

section

variable {id : CallId} {kinds : List Kind} {spot : Spot} {state : State}

theorem Source.Stands.kept {call? : Option Atlas.Call} {kind : Option Kind}
    {old new : Option Source} (stands : Source.Stands id call? kind old)
    (kept : Source.Kept id old new) : Source.Stands id call? kind new := by
  cases stands with
  | none =>
    cases kept
    exact .none
  | external =>
    cases kept
    exact .external
  | archive =>
    cases kept
    exact .archive
  | atlas here numbered told =>
    cases kept with
    | atlas kept =>
      exact .atlas (kept.call.trans here) (kept.numbered numbered)
        fun loop stopping => kept.told numbered loop (told loop stopping)

/-- **A step that is not about the call leaves it where it is.** -/
theorem Spot.Holds.kept {after : State} (holds : spot.Holds id kinds state)
    (kept : Kept id state after) : spot.Holds id kinds after :=
  ⟨kept.round.trans holds.round, fun position => (holds.source position).kept (kept.source position)⟩

/-- The atlas at a position. -/
theorem Spot.Holds.atlas (holds : spot.Holds id kinds state) {position : Nat} {atlas : Atlas.State}
    (here : state.sources[position]? = some (.atlas atlas)) :
    kinds[position]? = some .atlas ∧ atlas.calls.get? id = spot.call? position ∧
      atlas.Numbered ∧
      ∀ loop, spot.call? position = some (.close (.stopping loop)) → atlas.Told loop := by
  have stands := holds.source position
  rw [here] at stands
  generalize kinds[position]? = kind, spot.call? position = call? at stands ⊢
  cases stands with
  | atlas calling numbered told => exact ⟨rfl, calling, numbered, told⟩

/-- The atlas that the call is in. -/
theorem Spot.Holds.inside {position : Nat} {stage : Atlas.Closing}
    (holds : (Spot.inside position stage).Holds id kinds state) :
    ∃ atlas, state.sources[position]? = some (.atlas atlas) := by
  have stands := holds.source position
  rw [Spot.call?, if_pos rfl] at stands
  generalize kinds[position]? = kind, state.sources[position]? = source at stands ⊢
  cases stands with
  | atlas => exact ⟨_, rfl⟩

theorem atlas?_of_source {position : Nat} {atlas : Atlas.State}
    (here : state.sources[position]? = some (.atlas atlas)) :
    state.atlas? position = some atlas := by
  rw [State.atlas?, here]

/-- A call that has not looked for a loop does not wait for one. -/
theorem Spot.Holds.exit?_detaching {position : Nat}
    (holds : (Spot.inside position .detaching).Holds id kinds state) :
    state.exit? position id = none := by
  obtain ⟨atlas, here⟩ := holds.inside
  have calling := (holds.atlas here).2.1
  rw [Spot.call?, if_pos rfl] at calling
  rw [State.exit?, atlas?_of_source here, Option.bind_some, Atlas.State.exit?, calling]

/-! ### What the call does -/

/-- What a closing call does in a turn of its own, or when it hears an answer. -/
inductive Turn (id : CallId) (kinds : List Kind) (state : State) :
    Spot → Event → Spot → Effects → Prop
  | ask {position : Nat} (here : kinds[position]? = some .external) :
      Turn id kinds state (.facing position) (.proceed (.call id)) (.asking position)
        [.ask (.call id) (.closeSource position) none]
  | pass {position : Nat} (here : kinds[position]? = some .archive) :
      Turn id kinds state (.facing position) (.proceed (.call id)) (.facing (position + 1))
        [.resume (.call id)]
  | enter {position : Nat} (here : kinds[position]? = some .atlas) :
      Turn id kinds state (.facing position) (.proceed (.call id)) (.inside position .detaching)
        [.resume (.atlas position (.call id))]
  | finish {position : Nat} (last : kinds[position]? = none) :
      Turn id kinds state (.facing position) (.proceed (.call id)) .away [.finish id (.ok none)]
  | hear {position : Nat} (found : Metadata) :
      Turn id kinds state (.asking position) (.answer (.call id) (.source (.ok found)))
        (.facing (position + 1)) [.resume (.call id)]
  | fail {position : Nat} (fault : MetadataFault) :
      Turn id kinds state (.asking position) (.answer (.call id) (.source (.error fault))) .away
        [.finish id (.error fault)]
  | detach {position : Nat} (loop : Atlas.LoopId) :
      Turn id kinds state (.inside position .detaching) (.proceed (.atlas position (.call id)))
        (.inside position (.stopping loop))
        [.rouse (.atlas position (.call id)), .rouse (.atlas position (.loop loop))]
  /-- There is no loop to wait for. -/
  | release {position : Nat} :
      Turn id kinds state (.inside position .detaching) (.proceed (.atlas position (.call id)))
        (.inside position .releasing) [.ask (.atlas position (.call id)) .closeOracle none]
  /-- The loop has ended. -/
  | join {position : Nat} {loop : Atlas.LoopId} (exit : state.exit? position id = some (.ok ())) :
      Turn id kinds state (.inside position (.stopping loop))
        (.proceed (.atlas position (.call id))) (.inside position .releasing)
        [.ask (.atlas position (.call id)) .closeOracle none]
  /-- The loop has broken down. -/
  | giveUp {position : Nat} {loop : Atlas.LoopId} {fault : StopFault}
      (exit : state.exit? position id = some (.error fault)) :
      Turn id kinds state (.inside position (.stopping loop))
        (.proceed (.atlas position (.call id))) .away [.finish id (.error (.job fault))]
  | leave {position : Nat} :
      Turn id kinds state (.inside position .releasing)
        (.answer (.atlas position (.call id)) (.done (.ok ()))) (.facing (position + 1))
        [.resume (.call id)]
  | lose {position : Nat} (fault : CallFault) :
      Turn id kinds state (.inside position .releasing)
        (.answer (.atlas position (.call id)) (.done (.error fault))) .away
        [.finish id (.error (.oracle fault))]

/-- A call that has a turn of its own waits for no answer. -/
theorem Turn.question? {task : Task} {next : Spot} {effects : Effects}
    (turn : Turn id kinds state spot (.proceed task) next effects) : spot.question? id = none := by
  cases turn with
  | ask | pass | enter | finish | detach | release | join | giveUp => rfl

/-- What becomes of the call when its record changes. -/
theorem Spot.Holds.move {next : Spot} {after : State} (holds : spot.Holds id kinds state)
    (round : after.rounds.get? id = next.round?) (same : after.sources = state.sources)
    (calls : ∀ position, next.call? position = spot.call? position) : next.Holds id kinds after := by
  refine ⟨round, fun position => ?_⟩
  rw [same, calls position]
  exact holds.source position

/-- What becomes of the sources when the atlas changes that a call is in. -/
theorem Source.stands_replace {call? next? : Nat → Option Atlas.Call} {position : Nat}
    {old atlas : Atlas.State}
    (stands : ∀ other : Nat,
      Source.Stands id (call? other) kinds[other]? state.sources[other]?)
    (here : state.sources[position]? = some (.atlas old))
    (elsewhere : ∀ other, other ≠ position → next? other = call? other)
    (calling : atlas.calls.get? id = next? position) (numbered : atlas.Numbered)
    (told : ∀ loop, next? position = some (.close (.stopping loop)) → atlas.Told loop)
    (other : Nat) :
    Source.Stands id (next? other) kinds[other]?
      (state.replace position (.atlas atlas)).sources[other]? := by
  show Source.Stands id (next? other) kinds[other]?
    (state.sources.set position (.atlas atlas))[other]?
  by_cases same : position = other
  · subst same
    have before := stands position
    rw [List.getElem?_set_self (List.getElem?_eq_some_iff.mp here).1]
    rw [here] at before
    generalize kinds[position]? = kind, call? position = call at before ⊢
    cases before with
    | atlas => exact .atlas calling numbered told
  · rw [List.getElem?_set_ne same, elsewhere other (Ne.symm same)]
    exact stands other

/-- What becomes of the call when the atlas changes that it is in. -/
theorem Spot.Holds.replace {next : Spot} {rounds : Table CallId Round} {position : Nat}
    {old atlas : Atlas.State} (holds : spot.Holds id kinds state)
    (here : state.sources[position]? = some (.atlas old)) (round : rounds.get? id = next.round?)
    (calls : ∀ other, other ≠ position → next.call? other = spot.call? other)
    (calling : atlas.calls.get? id = next.call? position) (numbered : atlas.Numbered)
    (told : ∀ loop, next.call? position = some (.close (.stopping loop)) → atlas.Told loop) :
    next.Holds id kinds ({ state with rounds }.replace position (.atlas atlas)) :=
  ⟨round, Source.stands_replace holds.source here calls calling numbered told⟩

theorem Spot.call?_inside_self (position : Nat) (stage : Atlas.Closing) :
    (Spot.inside position stage).call? position = some (.close stage) :=
  if_pos rfl

theorem Spot.call?_inside_ne {position other : Nat} (apart : other ≠ position)
    (stage : Atlas.Closing) : (Spot.inside position stage).call? other = none :=
  if_neg (Ne.symm apart)

/-- An outcome in an atlas is the answer of that source. -/
theorem absorb_finish {round : Round} (position : Nat) (outcome : Atlas.Outcome)
    (here : state.rounds.get? id = some round) :
    absorb position [.finish id outcome] state =
      advance id round (outcome.map fun found => found.map (·.metadata)) state := by
  rw [absorb, absorbOne, here]
  exact Prod.ext rfl (List.append_nil _)

theorem Spot.call?_inside_other {position other : Nat} (apart : other ≠ position)
    (stage next : Atlas.Closing) :
    (Spot.inside position next).call? other = (Spot.inside position stage).call? other := by
  rw [Spot.call?_inside_ne apart, Spot.call?_inside_ne apart]

/-- The oracle of the atlas is asked to close. -/
theorem Spot.Holds.closeOracle {position : Nat} {stage : Atlas.Closing}
    {atlas after : Atlas.State} (holds : (Spot.inside position stage).Holds id kinds state)
    (here : state.sources[position]? = some (.atlas atlas)) (loops : after.loops = atlas.loops)
    (next : after.nextLoop = atlas.nextLoop) :
    (Spot.inside position .releasing).Holds id kinds
      (state.replace position (.atlas (Atlas.closeOracle id after).1)) := by
  have numbered := (holds.atlas here).2.2.1
  refine holds.replace here holds.round (fun other apart => Spot.call?_inside_other apart ..) ?_ ?_ ?_
  · rw [Spot.call?_inside_self]
    exact Table.get?_put_self ..
  · intro loop running there
    rw [Atlas.closeOracle, loops] at there
    exact Nat.lt_of_lt_of_eq (numbered loop running there) next.symm
  · intro loop stopping
    rw [Spot.call?_inside_self] at stopping
    cases stopping

/-- The call takes the handle of the loop and tells the loop to stop, or finds none. -/
theorem Spot.Holds.detach {position : Nat} {atlas : Atlas.State}
    (holds : (Spot.inside position .detaching).Holds id kinds state)
    (here : state.sources[position]? = some (.atlas atlas)) :
    ∃ next : Spot,
      Turn id kinds state (.inside position .detaching) (.proceed (.atlas position (.call id))) next
        (settle position (Atlas.detach id atlas) state).2 ∧
      next.Holds id kinds (settle position (Atlas.detach id atlas) state).1 := by
  have numbered := (holds.atlas here).2.2.1
  rw [Atlas.detach]
  cases worker : atlas.worker with
  | none => exact ⟨.inside position .releasing, .release, holds.closeOracle here rfl rfl⟩
  | some loop =>
    cases found : atlas.loops.get? loop with
    | none =>
      simp only [found]
      exact ⟨.inside position .releasing, .release, holds.closeOracle here rfl rfl⟩
    | some running =>
      simp only [found]
      refine ⟨.inside position (.stopping loop), .detach loop, holds.replace here holds.round
        (fun other apart => Spot.call?_inside_other apart ..) ?_ ?_ ?_⟩
      · rw [Spot.call?_inside_self]
        exact Table.get?_put_self ..
      · intro other running' there
        rcases Table.get?_of_put there with ⟨rfl, _⟩ | old
        · exact numbered loop running found
        · exact numbered other running' old
      · intro other stopping
        rw [Spot.call?_inside_self] at stopping
        cases stopping
        exact ⟨_, Table.get?_put_self .., Atlas.signalled_of_told running.beat⟩

/-- The turns in an atlas. -/
theorem Spot.Holds.proceedClose {position : Nat} {stage : Atlas.Closing} {atlas : Atlas.State}
    (holds : (Spot.inside position stage).Holds id kinds state)
    (here : state.sources[position]? = some (.atlas atlas)) {result : Atlas.State × Atlas.Effects}
    (taken : Atlas.proceedClose id stage atlas = some result) :
    ∃ next : Spot,
      Turn id kinds state (.inside position stage) (.proceed (.atlas position (.call id))) next
        (settle position result state).2 ∧
      next.Holds id kinds (settle position result state).1 := by
  obtain ⟨_, calling, numbered, _⟩ := holds.atlas here
  rw [Spot.call?_inside_self] at calling
  cases stage with
  | releasing => cases taken
  | detaching =>
    cases taken
    exact holds.detach here
  | stopping loop =>
    obtain ⟨outcome, exit, rfl⟩ := Option.map_eq_some_iff.mp taken
    have exit : state.exit? position id = some outcome := by
      rw [State.exit?, atlas?_of_source here, Option.bind_some, Atlas.State.exit?, calling]
      exact exit
    cases outcome with
    | ok ended => exact ⟨.inside position .releasing, .join exit, holds.closeOracle here rfl rfl⟩
    | error fault =>
      have here' : (state.replace position (.atlas (atlas.dismiss id))).rounds.get? id =
          some { errand := .close, position, waiting := true } := holds.round
      dsimp only [settle]
      rw [absorb_finish position _ here']
      have gone : Spot.away.Holds id kinds ({ state with rounds := state.rounds.erase id }.replace
          position (.atlas (atlas.dismiss id))) := by
        refine holds.replace here (Table.get?_erase_self ..) ?_
          (Table.get?_erase_self ..) numbered fun _ stopping => by cases stopping
        intro other apart
        rw [Spot.call?_inside_ne apart]
        rfl
      exact ⟨.away, .giveUp exit, gone⟩

/-- The turns between the sources. -/
theorem Spot.Holds.proceedCall {position : Nat}
    (holds : (Spot.facing position).Holds id kinds state) (now : Timestamp)
    {stepped : State × Effects}
    (taken : Panel.proceedCall now id { errand := .close, position } state = some stepped) :
    ∃ next : Spot, Turn id kinds state (.facing position) (.proceed (.call id)) next stepped.2 ∧
      next.Holds id kinds stepped.1 := by
  have stands := holds.source position
  rw [Panel.proceedCall, if_neg Bool.false_ne_true] at taken
  generalize kind : kinds[position]? = kind? at stands
  generalize there : state.sources[position]? = source? at stands taken
  cases stands with
  | none =>
    cases taken
    refine ⟨.away, .finish kind, holds.move ?_ rfl fun _ => rfl⟩
    exact Table.get?_erase_self ..
  | external =>
    cases taken
    exact ⟨.asking position, .ask kind, holds.move (Table.get?_put_self ..) rfl fun _ => rfl⟩
  | archive =>
    cases taken
    exact ⟨.facing (position + 1), .pass kind,
      holds.move (Table.get?_put_self ..) rfl fun _ => rfl⟩
  | @atlas _ atlas calling numbered told =>
    cases taken
    refine ⟨.inside position .detaching, .enter kind, holds.replace there
      (Table.get?_put_self ..) (fun other apart => Spot.call?_inside_ne apart _) ?_ ?_ ?_⟩
    · rw [Spot.call?_inside_self]
      exact Table.get?_put_self ..
    · exact (Atlas.move_step now (.close id) atlas).numbered numbered
    · intro loop stopping
      rw [Spot.call?_inside_self] at stopping
      cases stopping

/-- **In a turn of its own the call makes one of those turns, or it waits.** -/
theorem Spot.Holds.proceed (holds : spot.Holds id kinds state) (now : Timestamp) {task : Task}
    (own : task.caller? = some id) {stepped : State × Effects}
    (taken : Panel.proceed now task state = some stepped) :
    ∃ next : Spot, Turn id kinds state spot (.proceed task) next stepped.2 ∧
      next.Holds id kinds stepped.1 := by
  cases task with
  | call other =>
    cases own
    obtain ⟨round, here, taken⟩ := Option.bind_eq_some_iff.mp taken
    rw [holds.round] at here
    cases spot with
    | away => cases here
    | asking | inside =>
      cases here
      cases taken
    | facing position =>
      cases here
      exact holds.proceedCall now taken
  | atlas position task =>
    obtain ⟨atlas, here, taken⟩ := Option.bind_eq_some_iff.mp taken
    obtain ⟨result, proceeded, rfl⟩ := Option.map_eq_some_iff.mp taken
    have there := source_of_atlas? here
    cases task with
    | loop | survey => cases own
    | call other =>
      cases own
      obtain ⟨call, calling, closed⟩ := Option.bind_eq_some_iff.mp proceeded
      rw [(holds.atlas there).2.1] at calling
      cases spot with
      | facing | asking | away => cases calling
      | inside inside stage =>
        rw [Spot.call?] at calling
        split at calling
        · next same =>
          subst same
          cases calling
          exact holds.proceedClose there closed
        · cases calling

/-- A source outside has answered. -/
theorem Spot.Holds.answerSource {position : Nat}
    (holds : (Spot.asking position).Holds id kinds state) (answered : Except MetadataFault Metadata) :
    ∃ next : Spot,
      Turn id kinds state (.asking position) (.answer (.call id) (.source answered)) next
        (answer (.call id) (.source answered) state).2 ∧
      next.Holds id kinds (answer (.call id) (.source answered) state).1 := by
  have here : state.rounds.get? id = some { errand := .close, position, waiting := true } :=
    holds.round
  cases answered with
  | ok found =>
    simp only [answer, here]
    exact ⟨.facing (position + 1), .hear found, holds.move (Table.get?_put_self ..) rfl fun _ => rfl⟩
  | error fault =>
    simp only [answer, here]
    refine ⟨.away, .fail fault, holds.move ?_ rfl fun _ => rfl⟩
    exact Table.get?_erase_self ..

/-- The oracle of an atlas has answered. -/
theorem Spot.Holds.answerOracle {position : Nat}
    (holds : (Spot.inside position .releasing).Holds id kinds state)
    (answered : Except CallFault Unit) :
    ∃ next : Spot,
      Turn id kinds state (.inside position .releasing)
        (.answer (.atlas position (.call id)) (.done answered)) next
        (answer (.atlas position (.call id)) (.done answered) state).2 ∧
      next.Holds id kinds (answer (.atlas position (.call id)) (.done answered) state).1 := by
  obtain ⟨atlas, here⟩ := holds.inside
  obtain ⟨_, calling, numbered, _⟩ := holds.atlas here
  rw [Spot.call?_inside_self] at calling
  have there : (state.replace position (.atlas (atlas.dismiss id))).rounds.get? id =
      some { errand := .close, position, waiting := true } := holds.round
  have erased : (atlas.calls.erase id).get? id = none := Table.get?_erase_self ..
  have left {next : Spot} {rounds : Table CallId Round} (round : rounds.get? id = next.round?)
      (silent : ∀ other, next.call? other = none) :
      next.Holds id kinds
        ({ state with rounds }.replace position (.atlas (atlas.dismiss id))) := by
    refine holds.replace here round (fun other apart => ?_) (erased.trans (silent position).symm)
      numbered fun loop stopping => ?_
    · rw [silent, Spot.call?_inside_ne apart]
    · rw [silent] at stopping
      cases stopping
  simp only [answer, atlas?_of_source here, Atlas.answer, calling, settle]
  rw [absorb_finish position _ there]
  cases answered with
  | ok done =>
    let next : Round := { errand := .close, position := position + 1 }
    have faces : (Spot.facing (position + 1)).Holds id kinds
        ({ state with rounds := state.rounds.put id next }.replace position
          (.atlas (atlas.dismiss id))) :=
      left (Table.get?_put_self ..) fun _ => rfl
    exact ⟨.facing (position + 1), .leave, faces⟩
  | error fault =>
    have gone : Spot.away.Holds id kinds
        ({ state with rounds := state.rounds.erase id }.replace position
          (.atlas (atlas.dismiss id))) :=
      left (Table.get?_erase_self ..) fun _ => rfl
    exact ⟨.away, .lose fault, gone⟩

/-- A call that cannot go on in an atlas does not wait for a loop that is at an end. -/
theorem exit?_of_proceed_none {now : Timestamp} {position : Nat}
    (waits : Panel.proceed now (.atlas position (.call id)) state = none) :
    state.exit? position id = none := by
  cases here : state.atlas? position with
  | none => rw [State.exit?, here, Option.bind_none]
  | some atlas =>
    rw [State.exit?, here, Option.bind_some, Atlas.State.exit?]
    split
    · next loop calling =>
      simp only [Panel.proceed, here, Option.bind_some, Option.map_eq_none_iff, Atlas.proceed,
        calling, Atlas.proceedCall, Atlas.proceedClose] at waits
      exact waits
    · rfl

/-! ### Giving the call up -/

/-- In an atlas a closing call just disappears. -/
theorem cancel_closing {atlas : Atlas.State} {position : Nat}
    (calling : atlas.calls.get? id = spot.call? position) (numbered : atlas.Numbered) :
    ∃ after, Atlas.cancel id atlas = (after, []) ∧ after.calls.get? id = none ∧
      after.Numbered := by
  cases found : spot.call? position with
  | none =>
    rw [found] at calling
    exact ⟨atlas, by rw [Atlas.cancel, calling], calling, numbered⟩
  | some call =>
    rw [found] at calling
    cases spot with
    | facing | asking | away => cases found
    | inside here stage =>
      rw [Spot.call?] at found
      split at found
      · cases found
        exact ⟨atlas.dismiss id, by rw [Atlas.cancel, calling],
          Table.get?_erase_self .., numbered⟩
      · cases found

/-- An atlas has nothing to tell a call that is not there. -/
theorem answer_absent {atlas : Atlas.State} (absent : atlas.calls.get? id = none) (reply : Reply) :
    Atlas.answer (.call id) reply atlas = (atlas, []) := by
  cases reply with
  | done => simp only [Atlas.answer, absent]
  | candidates => simp only [Atlas.answer, Atlas.State.awaited?, absent]
  | node | compliant | countries | source | crashed => rfl

/-- **A call that is given up is gone, and nothing else comes of it.** -/
theorem Spot.Holds.cancel (holds : spot.Holds id kinds state) :
    Spot.away.Holds id kinds (Panel.cancel id state).1 ∧ (Panel.cancel id state).2 = [] := by
  have erased : (state.rounds.erase id).get? id = none := Table.get?_erase_self ..
  have dropped (position : Nat) (round : spot.round?.map (·.position) = some position) :
      Spot.away.Holds id kinds (Panel.cancel id state).1 ∧ (Panel.cancel id state).2 = [] := by
    obtain ⟨record, here, rfl⟩ := Option.map_eq_some_iff.mp round
    have elsewhere (other : Nat) (apart : other ≠ record.position) : spot.call? other = none := by
      cases spot with
      | facing | asking | away => rfl
      | inside position stage =>
        cases here
        exact Spot.call?_inside_ne apart stage
    rw [Panel.cancel, holds.round, here]
    dsimp only
    split
    · next atlas there =>
      have there := source_of_atlas? there
      obtain ⟨_, calling, numbered, _⟩ := holds.atlas there
      obtain ⟨after, cancelled, gone, numbered⟩ := cancel_closing calling numbered
      rw [cancelled]
      refine ⟨holds.replace there erased (fun other apart => (elsewhere other apart).symm) gone
        numbered fun _ stopping => ?_, rfl⟩
      cases stopping
    · next outside =>
      refine ⟨holds.move erased rfl fun other => ?_, rfl⟩
      cases spot with
      | facing | asking | away => rfl
      | inside position stage =>
        obtain ⟨atlas, there⟩ := holds.inside
        cases here
        rw [atlas?_of_source there] at outside
        cases outside
  cases spot with
  | away =>
    rw [Panel.cancel, holds.round]
    exact ⟨holds, rfl⟩
  | facing position => exact dropped position rfl
  | asking position => exact dropped position rfl
  | inside position stage => exact dropped position rfl

/-- A call that is not in the panel hears nothing. -/
theorem Spot.Holds.answer_away (holds : Spot.away.Holds id kinds state) {task : Task}
    (own : task.caller? = some id) (reply : Reply) : Bypasses id state (answer task reply state) := by
  cases task with
  | call other =>
    cases own
    have absent : state.rounds.get? id = none := holds.round
    cases reply with
    | source => simp only [answer, absent, bypasses_nothing]
    | node | candidates | compliant | countries | done | crashed => exact bypasses_nothing id state
  | atlas position task =>
    cases task with
    | loop | survey => cases own
    | call other =>
      cases own
      simp only [answer]
      split
      · next atlas here =>
        have there := source_of_atlas? here
        rw [answer_absent (holds.atlas there).2.1]
        exact ⟨kept_replace there (.atlas (Atlas.Kept.refl id atlas)), spares_nil⟩
      · exact bypasses_nothing id state

end

end Panel

end Wayfinder
