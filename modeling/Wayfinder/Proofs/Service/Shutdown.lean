/-
**Ending the service.**

Whatever else is under way, a call that ends the service goes its way from place to place. It asks
the policy engine and the oracle of the resolver to close, each once and in this order, and before
them the sources in theirs, up to the first that fails; what it answers with is the first failure. As
long as it has no outcome it can go on, or waits for an answer, or for a loop that it has told to
stop, and each of its steps brings it nearer to its end.

* `State.Idle`: a service in which no call is under way;
* `State.remaining`, `Desk.Advances`: how many steps a call has still to make, at most, and how it
  can make one;
* `Standing`, `Run.standing`: where a call is in a run;
* `Shutdown`, `Run.shutdown`: what holds of a call that ends the service;
* `handles_left_open`: what does not hold.
-/

import Wayfinder.Proofs.Service.Places

namespace Wayfinder.Service

open Panel (Kind Spot)

/-! ### A service without calls -/

/-- The kinds of the sources. -/
def State.kinds (state : State) : List Kind := state.panel.sources.map Panel.Source.kind

/-- A service in which no call is under way. -/
structure State.Idle (state : State) : Prop where
  calls : ∀ id, state.calls.get? id = none
  resolver : ∀ id, state.resolver.calls.get? id = none
  session : ∀ id, state.session.calls.get? id = none
  panel : ∀ id, state.panel.rounds.get? id = none
  atlas : ∀ atlas, .atlas atlas ∈ state.panel.sources →
    atlas.Numbered ∧ ∀ id, atlas.calls.get? id = none

/-- A service is idle when it is set up. -/
theorem idle_ofSettings (settings : Settings) (geolocator : Bool)
    (directory : String → Option Directory) :
    (ofSettings settings geolocator directory).Idle where
  calls _ := rfl
  resolver _ := rfl
  session _ := rfl
  panel _ := rfl
  atlas atlas member := by
    rcases List.mem_cons.mp member with same | archive
    · cases same
      exact ⟨fun _ _ here => (by cases here), fun _ => rfl⟩
    · obtain ⟨_, _, same⟩ := List.mem_map.mp archive
      cases same

/-- The sources of a service: an atlas, and an archive if a directory is set. -/
theorem kinds_ofSettings (settings : Settings) (geolocator : Bool)
    (directory : String → Option Directory) :
    (ofSettings settings geolocator directory).kinds =
      .atlas :: settings.metadata.directory.toList.map fun _ => .archive := by
  show Panel.Source.kind _ :: ((settings.metadata.directory.toList.map _).map _) = _
  rw [List.map_map]
  rfl

theorem external_not_mem_kinds (settings : Settings) (geolocator : Bool)
    (directory : String → Option Directory) :
    .external ∉ (ofSettings settings geolocator directory).kinds := by
  rw [kinds_ofSettings]
  simp

/-- In a service without calls no call is under way. -/
theorem State.Idle.holds {state : State} (idle : state.Idle) (id : CallId) :
    Place.gone.Holds id state.kinds ⟨state, {}⟩ where
  inside :=
    { stage := idle.calls id
      resolver := idle.resolver id
      session := idle.session id
      panel := by
        refine ⟨idle.panel id, fun position => ?_⟩
        rw [State.kinds, List.getElem?_map]
        cases here : state.panel.sources[position]? with
        | none => exact .none
        | some source =>
          cases source with
          | external => exact .external
          | archive => exact .archive
          | atlas atlas =>
            obtain ⟨numbered, absent⟩ := idle.atlas atlas (List.mem_of_getElem? here)
            exact .atlas (absent id) numbered fun _ stopping => by cases stopping }
  out _ _ := rfl

section

variable {id : CallId} {kinds : List Kind} {place : Place} {desk : Desk} {done : List Dealing}

/-- A call begins to end the service. -/
theorem Place.Holds.begin (holds : Place.gone.Holds id kinds desk) (now : Timestamp) :
    (Place.visiting (.facing 0)).Holds id kinds (Desk.step now (.start id .finish) desk).1 ∧
      dealings id ⟨desk, now, .start id .finish⟩ = [] := by
  refine ⟨?_, dealings_of_admits now rfl⟩
  rw [step_of_admits now rfl]
  refine ⟨⟨Table.get?_put_self .., holds.inside.resolver, holds.inside.session, ?_⟩, holds.out⟩
  exact Spot.Holds.move holds.inside.panel (Table.get?_put_self ..) rfl fun _ => rfl

end

/-! ### How much is left to do -/

/-- How many steps a call that ends the service has still to make, at most. -/
def State.remaining (state : State) (id : CallId) : Nat :=
  match state.session.calls.get? id with
  | some .closingPolicy => 2
  | some (.closingOracle _) => 1
  | _ => state.panel.remaining id

/-- How a call can come nearer to its end. -/
inductive Desk.Advances (desk : Desk) (id : CallId) : Prop
  /-- It has a turn. -/
  | turn (task : Task) (own : task.caller? = some id)
      (nearer : ∀ now, (Desk.step now (.proceed task) desk).1.service.remaining id <
        desk.service.remaining id)
  /-- It waits for an answer. -/
  | answer (task : Task) (own : task.caller? = some id) (query : Query)
      (asked : desk.out.get? task = some query)
      (nearer : ∀ now reply, query.fits reply = true →
        (Desk.step now (.answer task reply) desk).1.service.remaining id <
          desk.service.remaining id)
  /-- It waits for a loop that has been told to stop. -/
  | loop (position : Nat) (atlas : Atlas.State) (loop : Atlas.LoopId)
      (here : desk.service.panel.sources[position]? = some (.atlas atlas))
      (told : atlas.Told loop) (active : atlas.Active loop)

section

variable {id : CallId} {kinds : List Kind} {place : Place} {state : State} {desk : Desk}
  {done : List Dealing} {taken : Occurrence}

/-- **What a call has left to do depends on its place.** -/
theorem Place.Inside.remaining_eq (inside : place.Inside id kinds state) :
    state.remaining id = place.remaining kinds.length := by
  have panel := inside.panel.remaining_eq
  rw [State.remaining, inside.session]
  cases place with
  | visiting | gone => exact panel
  | policy | oracle => rfl

theorem Advanced.remaining_lt (advanced : Advanced place id kinds taken)
    (holds : place.Holds id kinds taken.before) (reached : place.Reached id kinds done) :
    taken.after.service.remaining id < taken.before.service.remaining id := by
  obtain ⟨next, step, there⟩ := advanced
  rw [there.inside.remaining_eq, holds.inside.remaining_eq]
  exact step.remaining_lt reached

/-- A turn in the panel brings the call nearer to its end. -/
theorem Place.Holds.advances_turn (holds : place.Holds id kinds desk)
    (reached : place.Reached id kinds done) {task : Panel.Task} (own : task.caller? = some id)
    (goes : ∀ now, (Panel.proceed now task desk.service.panel).isSome) : desk.Advances id := by
  refine .turn (.panel task) own fun now => ?_
  obtain ⟨turned, taken⟩ := Option.isSome_iff_exists.mp (goes now)
  have settled : Service.proceed now (.panel task) desk.service =
      some (settlePanel turned desk.service) := by
    rw [Service.proceed, taken, Option.map_some]
  have caller : (Task.panel task).caller? = some id := own
  exact (holds.go caller settled).remaining_lt holds reached

/-- The answer to its question brings the call nearer to its end. -/
theorem Place.Holds.advances_answer (holds : place.Holds id kinds desk)
    (reached : place.Reached id kinds done) {task : Task} {query : Query}
    (question : place.question? id = some (task, query)) (own : task.caller? = some id) :
    desk.Advances id := by
  have asked : desk.out.get? task = some query := by
    rw [holds.out task own, Place.asked?, question, Option.bind_some]
    exact if_pos rfl
  refine .answer task own query asked fun now reply fits => ?_
  have expects : desk.expects task reply = true := by
    rw [Desk.expects, asked]
    exact fits
  exact (holds.hear now own expects).remaining_lt holds reached

/-- **A call that has something left to do can come nearer to its end.** -/
theorem Place.Holds.advances (holds : place.Holds id kinds desk)
    (reached : place.Reached id kinds done) (unfinished : place ≠ .gone) : desk.Advances id := by
  cases place with
  | gone => exact absurd rfl unfinished
  | policy | oracle => exact holds.advances_answer reached rfl rfl
  | visiting spot =>
    have held : spot.Holds id kinds desk.service.panel := holds.inside.panel
    cases spot with
    | away => exact reached.elim
    | facing position => exact holds.advances_turn reached rfl held.facing_goes
    | asking position => exact holds.advances_answer reached rfl rfl
    | inside position stage =>
      cases stage with
      | detaching => exact holds.advances_turn reached rfl held.detaching_goes
      | releasing => exact holds.advances_answer reached rfl rfl
      | stopping loop =>
        rcases held.stopping_goes with goes | ⟨atlas, here, told, active⟩
        · exact holds.advances_turn reached rfl goes
        · exact .loop position atlas loop here told active

/-- A call that is not at its end has something left to do. -/
theorem Place.Reached.remaining_pos (reached : place.Reached id kinds done) (unfinished : place ≠ .gone) :
    0 < place.remaining kinds.length := by
  cases place with
  | gone => exact absurd rfl unfinished
  | policy | oracle => exact Nat.succ_pos _
  | visiting spot =>
    cases spot with
    | away => exact reached.elim
    | facing | asking => exact Nat.succ_pos _
    | inside position stage =>
      cases stage with
      | detaching | stopping => exact Nat.succ_pos _
      | releasing =>
        have bound : position < kinds.length := (List.getElem?_eq_some_iff.mp reached.1).1
        simp only [Place.remaining, Spot.remaining]
        omega

/-! ### Runs -/

/-- Where a call is that has begun to end the service. -/
inductive Standing (id : CallId) (kinds : List Kind) (history : List Occurrence) (desk : Desk) :
    Prop
  | under (place : Place) (holds : place.Holds id kinds desk)
      (reached : place.Reached id kinds (trace id history))
  /-- It has been given up. -/
  | dropped (inside : Place.gone.Inside id kinds desk.service)
      (cancels : ∃ taken ∈ history, taken.event = .cancel id)
      (silent : ∀ outcome, .finish outcome ∉ trace id history)

variable {initial : State} {history : List Occurrence}

/-- Before it begins a call is not under way. -/
theorem Run.unbegun (run : Run ⟨initial, {}⟩ history desk) (idle : initial.Idle)
    (unbegun : ∀ taken ∈ history, taken.event.beginning? ≠ some id) :
    Place.gone.Holds id initial.kinds desk ∧ trace id history = [] := by
  induction run with
  | initial => exact ⟨idle.holds id, rfl⟩
  | @step history desk run now event fresh hypothesis =>
    obtain ⟨holds, silent⟩ := hypothesis fun taken member =>
      unbegun taken (List.mem_append_left _ member)
    have running : event.beginning? ≠ some id :=
      unbegun ⟨desk, now, event⟩ (List.mem_append_right _ List.mem_cons_self)
    rw [trace_concat, silent, List.nil_append]
    cases holds.step now running with
    | stays holds silent => exact ⟨holds, silent⟩
    | moves advanced =>
      obtain ⟨next, step, _⟩ := advanced
      cases step
    | drops _ unfinished => exact absurd rfl unfinished

/-- A number that has begun a call does not begin another one. -/
theorem running_of_begun {event : Event} (fresh : Automaton.Fresh history event) {start : Nat}
    (begun : At history start (·.event = .start id .finish)) : event.beginning? ≠ some id :=
  fresh.running (begun.mono fun first starts => by
    show first.event.beginning? = some id
    rw [starts]
    rfl)

/-- **In every run a call that ends the service is at a place that it has reached, or it has been
given up.** -/
theorem Run.standing (run : Run ⟨initial, {}⟩ history desk) (idle : initial.Idle) {start : Nat}
    (begun : At history start (·.event = .start id .finish)) :
    Standing id initial.kinds history desk := by
  induction run with
  | initial => exact absurd begun.lt_length (Nat.not_lt_zero _)
  | @step history desk run now event fresh hypothesis =>
    rcases begun.append_singleton with earlier | ⟨rfl, begins⟩
    · have running : event.beginning? ≠ some id := running_of_begun fresh earlier
      cases hypothesis earlier with
      | dropped inside cancels silent =>
        obtain ⟨still, quiet⟩ := inside.gone_step now running
        obtain ⟨taken, member, cancels⟩ := cancels
        refine .dropped still ⟨taken, List.mem_append_left _ member, cancels⟩ fun outcome => ?_
        rw [trace_concat, List.mem_append, not_or]
        exact ⟨silent outcome, quiet outcome⟩
      | under place holds reached =>
        cases holds.step now running with
        | stays holds silent =>
          refine .under place holds ?_
          rw [trace_concat, silent, List.append_nil]
          exact reached
        | moves advanced =>
          obtain ⟨next, step, there⟩ := advanced
          refine .under next there ?_
          rw [trace_concat]
          exact step.reached reached
        | drops cancels unfinished inside silent =>
          refine .dropped inside ⟨_, List.mem_append_right _ List.mem_cons_self, cancels⟩ ?_
          rw [trace_concat, silent, List.append_nil]
          exact reached.finish_not_mem unfinished
    · have begins : event = .start id .finish := begins
      subst begins
      obtain ⟨holds, silent⟩ := Run.unbegun run idle (fresh id rfl)
      obtain ⟨begun, quiet⟩ := holds.begin now
      refine .under (.visiting (.facing 0)) begun ?_
      rw [trace_concat, silent, quiet]
      exact .none

/-- No step takes the call further from its end. -/
theorem Standing.remaining_le (standing : Standing id kinds history taken.before)
    (running : taken.event.beginning? ≠ some id) :
    taken.after.service.remaining id ≤ taken.before.service.remaining id := by
  cases standing with
  | dropped inside =>
    have after : taken.after.service.remaining id = 0 :=
      (inside.gone_step taken.now running).1.remaining_eq
    rw [after]
    exact Nat.zero_le _
  | under place holds reached =>
    cases holds.step taken.now running with
    | stays there =>
      rw [holds.inside.remaining_eq]
      exact Nat.le_of_eq there.inside.remaining_eq
    | moves advanced => exact Nat.le_of_lt (advanced.remaining_lt holds reached)
    | drops _ _ inside =>
      have after : taken.after.service.remaining id = 0 := inside.remaining_eq
      rw [after]
      exact Nat.zero_le _

theorem Standing.shutsDown (standing : Standing id kinds history desk) {outcome : Outcome}
    (finished : .finish outcome ∈ trace id history) :
    ShutsDown id kinds (trace id history) outcome := by
  cases standing with
  | dropped _ _ silent => exact absurd finished (silent outcome)
  | under place _ reached =>
    by_cases ended : place = .gone
    · subst ended
      obtain ⟨other, shutsDown⟩ := reached
      rw [shutsDown.outcome_eq finished]
      exact shutsDown
    · exact absurd finished (reached.finish_not_mem ended outcome)

theorem Standing.advances (standing : Standing id kinds history desk)
    (left : 0 < desk.service.remaining id) : desk.Advances id := by
  cases standing with
  | dropped inside =>
    rw [inside.remaining_eq] at left
    exact absurd left (Nat.lt_irrefl 0)
  | under place holds reached =>
    refine holds.advances reached fun ended => ?_
    rw [holds.inside.remaining_eq, ended] at left
    exact absurd left (Nat.lt_irrefl 0)

theorem Standing.ends (standing : Standing id kinds history desk)
    (done : desk.service.remaining id = 0) :
    (∃ outcome, .finish outcome ∈ trace id history) ∨
      ∃ taken ∈ history, taken.event = .cancel id := by
  cases standing with
  | dropped _ cancels => exact Or.inr cancels
  | under place holds reached =>
    by_cases ended : place = .gone
    · subst ended
      obtain ⟨outcome, shutsDown⟩ := reached
      exact Or.inl ⟨outcome, shutsDown.finish_mem⟩
    · have left := reached.remaining_pos ended
      rw [← holds.inside.remaining_eq, done] at left
      exact absurd left (Nat.lt_irrefl 0)

/-- **What holds of a call that ends the service**, given the sources, the run so far and the step
with which the call has begun. -/
structure Shutdown (kinds : List Kind) (id : CallId) (history : List Occurrence) (start : Nat)
    (desk : Desk) : Prop where
  /-- A call that has an outcome has closed the sources up to the first failure, then the policy
  engine, then the oracle, and the outcome is the first failure. -/
  orderly : ∀ outcome, .finish outcome ∈ trace id history →
    ShutsDown id kinds (trace id history) outcome
  /-- It has asked nothing to close but what is to be closed, in order and nothing twice. -/
  once : ∀ outcome, .finish outcome ∈ trace id history →
    (questions (trace id history)).Sublist (handles id kinds) ∧
      (questions (trace id history)).Nodup
  /-- If it has not failed at a source, it has asked everything to close. -/
  everything : ∀ outcome, .finish outcome ∈ trace id history →
    (∀ fault, outcome ≠ .error (.metadata fault)) →
    questions (trace id history) = handles id kinds
  begins : At history start (·.after.service.remaining id = 4 * kinds.length + 3)
  shrinks : ∀ later taken, start < later → history[later]? = some taken →
    taken.after.service.remaining id ≤ taken.before.service.remaining id
  /-- As long as it has something left to do it can come nearer to its end. -/
  advances : 0 < desk.service.remaining id → desk.Advances id
  /-- When it has nothing left to do it has its outcome, or it has been given up. -/
  ends : desk.service.remaining id = 0 →
    (∃ outcome, .finish outcome ∈ trace id history) ∨
      ∃ taken ∈ history, taken.event = .cancel id

/-- **Ending the service closes the sources up to the first that fails, and then the policy engine
and the oracle, whatever else is under way.** -/
theorem Run.shutdown (run : Run ⟨initial, {}⟩ history desk) (idle : initial.Idle) {start : Nat}
    (begun : At history start (·.event = .start id .finish)) :
    Shutdown initial.kinds id history start desk := by
  have standing := Run.standing run idle begun
  refine ⟨fun outcome => standing.shutsDown, fun outcome finished => ?_, fun outcome finished =>
    (standing.shutsDown finished).questions_eq, ?_, fun later taken after here => ?_,
    standing.advances, standing.ends⟩
  · have sublist := (standing.shutsDown finished).questions_sublist
    exact ⟨sublist, handles_nodup.sublist sublist⟩
  · obtain ⟨taken, here, begins⟩ := begun
    obtain ⟨before, fresh⟩ := Automaton.Run.take_and_fresh run here
    have beginning : taken.event.beginning? = some id := by rw [begins]; rfl
    obtain ⟨holds, _⟩ := Run.unbegun before idle (fresh id beginning)
    refine ⟨taken, here, ?_⟩
    show (Desk.step taken.now taken.event taken.before).1.service.remaining id = _
    rw [begins, (holds.begin taken.now).1.inside.remaining_eq]
    rfl
  · obtain ⟨before, fresh⟩ := Automaton.Run.take_and_fresh run here
    have earlier := begun.take after
    exact (Run.standing before idle earlier).remaining_le (running_of_begun fresh earlier)

end

/-! ### Handles that stay open -/

/-- A service with two sources outside. -/
def twoSources : State where
  resolver := .initial 4 100
  session := { timeout := 100 }
  panel := { sources := [.external "first", .external "second"] }
  callback := ""

/-- What the first of the two sources fails with. -/
def sourceFault : MetadataFault := .unreadable "first" "gone"

/-- The first of the two sources fails when the service ends. -/
def firstFails : List Occurrence :=
  automaton.replay ⟨twoSources, {}⟩
    [(0, .start 0 .finish), (0, .proceed (.panel (.call 0))),
      (1, .answer (.panel (.call 0)) (.source (.error sourceFault))),
      (2, .answer (.session 0) (.done (.ok ()))), (3, .answer (.session 0) (.done (.ok ())))]

theorem idle_twoSources : twoSources.Idle where
  calls _ := rfl
  resolver _ := rfl
  session _ := rfl
  panel _ := rfl
  atlas atlas member := by
    rcases List.mem_pair.mp member with same | same <;> cases same

/-- In that run the call answers with the failure of the first source, and has asked the policy
engine and the oracle to close. -/
theorem shutdown_firstFails : ∃ desk, Run ⟨twoSources, {}⟩ firstFails desk ∧
    ShutsDown 0 [.external, .external] (trace 0 firstFails) (.error (.metadata sourceFault)) := by
  have run : Run ⟨twoSources, {}⟩ firstFails _ := Automaton.Run.of_replay automaton _ _ (by decide)
  have begun : At firstFails 0 (·.event = .start 0 .finish) := ⟨_, rfl, rfl⟩
  have shutdown := Run.shutdown run idle_twoSources begun
  have finished : .finish (.error (.metadata sourceFault)) ∈ trace 0 firstFails :=
    List.mem_iff_getElem?.mpr ⟨6, rfl⟩
  exact ⟨_, run, shutdown.orderly _ finished⟩

/-- Settings with an interval that leads beyond the clock. -/
def endless : Settings where
  server := { host := "0.0.0.0", listenPort := 27001 }
  routes :=
    { oracleAddress := "127.0.0.1:30255", cacheSize := 1000, policyAddress := "127.0.0.1:27002"
      timeoutMillis := 5000 }
  metadata :=
    { oracleAddress := "127.0.0.1:30255", cacheSize := 1000, apiKey := "", geolocation := false
      refreshSeconds := 0x7fffffffffffffff, directory := none, timeoutMillis := 5000 }

/-- The service with these settings. -/
def endlessService : State := ofSettings endless false fun _ => none

/-- The loop of the atlas breaks down when the service begins; then the service ends. -/
def loopBreaksDown : List Occurrence :=
  automaton.replay ⟨endlessService, {}⟩
    [(0, .start 0 .begin), (1, .answer (.session 0) (.done (.ok ()))),
      (1, .proceed (.panel (.call 0))), (1, .proceed (.panel (.call 0))),
      (2, .start 1 .finish), (2, .proceed (.panel (.call 1))),
      (2, .proceed (.panel (.atlas 0 (.call 1)))), (2, .proceed (.panel (.atlas 0 (.call 1)))),
      (3, .answer (.session 1) (.done (.ok ()))), (4, .answer (.session 1) (.done (.ok ())))]

/-- **Not everything is asked to close.** Behind a source that fails the others are left open, and
where a loop has broken down the oracle of its atlas is. -/
theorem handles_left_open :
    (twoSources.Idle ∧ ∃ desk, Run ⟨twoSources, {}⟩ firstFails desk ∧
      At firstFails 0 (·.event = .start 0 .finish) ∧
      .finish (.error (.metadata sourceFault)) ∈ trace 0 firstFails ∧
      (.panel (.call 0), .closeSource 1) ∈ handles 0 twoSources.kinds ∧
      (.panel (.call 0), .closeSource 1) ∉ questions (trace 0 firstFails)) ∧
    endlessService.Idle ∧ ∃ desk, Run ⟨endlessService, {}⟩ loopBreaksDown desk ∧
      At loopBreaksDown 4 (·.event = .start 1 .finish) ∧
      .finish (.error (.metadata (.job (.crashed Atlas.jobName)))) ∈ trace 1 loopBreaksDown ∧
      (.panel (.atlas 0 (.call 1)), .closeOracle) ∈ handles 1 endlessService.kinds ∧
      (.panel (.atlas 0 (.call 1)), .closeOracle) ∉ questions (trace 1 loopBreaksDown) := by
  constructor
  · refine ⟨idle_twoSources, _, Automaton.Run.of_replay automaton _ _ (by decide), ⟨_, rfl, rfl⟩,
      List.mem_iff_getElem?.mpr ⟨6, rfl⟩, by decide, ?_⟩
    decide +kernel
  · refine ⟨idle_ofSettings endless false _, _, Automaton.Run.of_replay automaton _ _ (by decide),
      ⟨_, rfl, rfl⟩, List.mem_iff_getElem?.mpr ⟨5, rfl⟩, by decide, ?_⟩
    decide +kernel

end Wayfinder.Service
