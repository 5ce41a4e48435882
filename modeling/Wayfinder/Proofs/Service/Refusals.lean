/-
**Requests that are refused.**

A request that is at fault is refused in the step in which its call begins, or, if it asks for
metadata between nodes that have no names, in the next turn of the call. Until then the call only has
its place in the panel. So nothing comes of it anywhere: no cache, counter, timer or call under way
changes, nobody is asked anything, and the caller is told that the request is at fault. No other
request of a method gets such an answer, whatever becomes of it.

* `Untouched`: a step in which nothing happens but to the call itself;
* `Dismissed`, `Dismissed.step`: where a call stands that is refused, before and after a step;
* `Run.dismissed`, `Run.refusing`: what comes of it, in every run;
* `Judged`, `Run.judged`: who is told that a request is at fault.
-/

import Wayfinder.Proofs.Service.Fetching
import Wayfinder.Proofs.Service.Malformed
import Wayfinder.Proofs.Service.Resolving

namespace Wayfinder.Service

open Panel (Kind Leg Spot)

/-! ### Steps in which nothing happens -/

/-- **A step in which nothing happens but to a call itself.** -/
structure Untouched (id : CallId) (taken : Occurrence) : Prop where
  /-- The cache of routes with its timers, the calls for routes and the counters. -/
  resolver : taken.after.service.resolver = taken.before.service.resolver
  session : taken.after.service.session = taken.before.service.session
  /-- The atlas with its cache, its collections, its counters and its loops, and the archive. -/
  sources : taken.after.service.panel.sources = taken.before.service.panel.sources
  out : taken.after.out = taken.before.out
  /-- The other calls stay where they are. -/
  calls : ∀ other, other ≠ id →
    taken.after.service.calls.get? other = taken.before.service.calls.get? other
  rounds : ∀ other, other ≠ id →
    taken.after.service.panel.rounds.get? other = taken.before.service.panel.rounds.get? other
  /-- Nobody is asked or roused but the call itself. -/
  effects : ∀ effect ∈ taken.effects,
    effect = .resume (.panel (.call id)) ∨ ∃ outcome, effect = .finish id outcome

section

variable {id : CallId} {kinds : List Kind} {desk : Desk} {now : Timestamp} {event : Event}

/-- A step that changes at most what is recorded of the call. -/
theorem Untouched.of_step {calls : Table CallId Stage} {rounds : Table CallId Panel.Round}
    {effects : Effects}
    (stepped : Desk.step now event desk =
      (⟨{ desk.service with panel := { desk.service.panel with rounds }, calls }, desk.out⟩, effects))
    (others : ∀ other, other ≠ id → calls.get? other = desk.service.calls.get? other)
    (others' : ∀ other, other ≠ id → rounds.get? other = desk.service.panel.rounds.get? other)
    (quiet : ∀ effect ∈ effects,
      effect = .resume (.panel (.call id)) ∨ ∃ outcome, effect = .finish id outcome) :
    Untouched id ⟨desk, now, event⟩ := by
  have after : Automaton.Occurrence.after (⟨desk, now, event⟩ : Occurrence) =
      ⟨{ desk.service with panel := { desk.service.panel with rounds }, calls }, desk.out⟩ :=
    congrArg Prod.fst stepped
  have done : Automaton.Occurrence.effects (⟨desk, now, event⟩ : Occurrence) = effects :=
    congrArg Prod.snd stepped
  constructor
  · rw [after]
  · rw [after]
  · rw [after]
  · rw [after]
  · rw [after]
    exact others
  · rw [after]
    exact others'
  · rw [done]
    exact quiet

theorem Untouched.of_same (same : Desk.step now event desk = (desk, [])) :
    Untouched id ⟨desk, now, event⟩ :=
  .of_step same (fun _ _ => rfl) (fun _ _ => rfl) fun _ member => by cases member

/-- Whether nothing is under way for a call, its turn in the panel aside. -/
structure Aside (id : CallId) (desk : Desk) : Prop where
  resolver : desk.service.resolver.calls.get? id = none
  atlas : ∀ (position : Nat) (atlas : Atlas.State),
    desk.service.panel.sources[position]? = some (.atlas atlas) → atlas.calls.get? id = none
  out : ∀ task : Task, task.caller? = some id → desk.out.get? task = none

/-- Such a call does nothing but in its turn in the panel. -/
theorem Aside.step (aside : Aside id desk) (own : event.caller? = some id)
    (running : event.beginning? ≠ some id) (held : event ≠ .cancel id)
    (waits : event ≠ .proceed (.panel (.call id))) : Desk.step now event desk = (desk, []) := by
  have rests {task : Task} (none : Service.proceed now task desk.service = none) :
      Desk.step now (.proceed task) desk = (desk, []) := by
    rw [step_of_admits now rfl, Service.step, none]
    rfl
  -- an answer finds no question of the call, and a turn finds no work of it
  cases event with
  | start | method => exact absurd own running
  | cancel other =>
    cases own
    exact absurd rfl held
  | answer task reply =>
    have silent : desk.expects task reply = false := by
      rw [Desk.expects, aside.out task own]
      rfl
    exact if_neg (ne_true_of_eq_false silent)
  | proceed task =>
    refine rests ?_
    cases task with
    | session => rfl
    | resolver task =>
      cases task with
      | timer => cases own
      | call other =>
        cases own
        simp only [Service.proceed, Resolver.proceed, aside.resolver, Option.bind_none,
          Option.map_none]
    | panel task =>
      cases task with
      | call other =>
        cases own
        exact absurd rfl waits
      | atlas position task =>
        cases task with
        | loop | survey => cases own
        | call other =>
          cases own
          rw [Service.proceed, Panel.proceed]
          cases here : desk.service.panel.atlas? position with
          | none => rfl
          | some atlas =>
            have absent := aside.atlas position atlas (Panel.source_of_atlas? here)
            simp only [Option.bind_some, Atlas.proceed, absent, Option.bind_none, Option.map_none]

/-- A call that is not under way does nothing at all. -/
theorem Place.Holds.gone_step_eq (holds : Place.gone.Holds id kinds desk)
    (own : event.caller? = some id) (running : event.beginning? ≠ some id) :
    Desk.step now event desk = (desk, []) := by
  have aside : Aside id desk :=
    ⟨holds.inside.resolver, fun _ _ here => (holds.inside.panel.atlas here).2.1, holds.out⟩
  by_cases waits : event = .proceed (.panel (.call id))
  · subst waits
    have absent : desk.service.panel.rounds.get? id = none := holds.inside.panel.round
    rw [step_of_admits now rfl, Service.step, Service.proceed, Panel.proceed, absent]
    rfl
  · by_cases held : event = .cancel id
    · subst held
      have absent : desk.service.calls.get? id = none := holds.inside.stage
      rw [step_of_admits now rfl, Service.step, Service.cancel, absent]
      rfl
    · exact aside.step own running held waits

/-! ### Calls that wait to be refused -/

variable {query : MetadataQuery} {fault : MetadataFault}

/-- A call for metadata that has its place in the panel and has not had its turn. -/
structure Pending (id : CallId) (query : MetadataQuery) (kinds : List Kind) (desk : Desk) :
    Prop where
  seated : Seated (.facing []) id query kinds desk
  out : ∀ task : Task, task.caller? = some id → desk.out.get? task = none

theorem Pending.aside (pending : Pending id query kinds desk) : Aside id desk :=
  ⟨pending.seated.resolver, fun _ _ here => (pending.seated.panel.atlas here).2.1, pending.out⟩

theorem Pending.kept {after : Desk} (pending : Pending id query kinds desk)
    (kept : Desk.Kept id desk after) : Pending id query kinds after :=
  ⟨pending.seated.kept kept, fun task own => (kept.out task own).trans (pending.out task own)⟩

/-- A call that has been taken out of the records is not under way, if it has only had its place. -/
theorem Pending.gone (pending : Pending id query kinds desk) {rounds : Table CallId Panel.Round}
    {calls : Table CallId Stage} (left : rounds.get? id = none) (left' : calls.get? id = none) :
    Place.gone.Holds id kinds
      ⟨{ desk.service with panel := { desk.service.panel with rounds }, calls }, desk.out⟩ :=
  ⟨⟨left', pending.seated.resolver, pending.seated.session, left, pending.seated.panel.source⟩,
    pending.out⟩

/-- **In its turn the call is refused**, by the atlas, which is the first source. -/
theorem Pending.turn (pending : Pending id query (.atlas :: kinds) desk)
    (nameless : query.endpoints = .error fault) (now : Timestamp) :
    Desk.step now (.proceed (.panel (.call id))) desk =
      (⟨{ desk.service with
          panel := { desk.service.panel with
            rounds := (desk.service.panel.rounds.put id (Panel.fetchRound query true [])).erase id }
          calls := desk.service.calls.erase id }, desk.out⟩,
        [.finish id (.error (.metadata fault))]) := by
  have stands := pending.seated.panel.source 0
  obtain ⟨atlas, here⟩ : ∃ atlas, desk.service.panel.sources[0]? = some (.atlas atlas) := by
    generalize desk.service.panel.sources[0]? = source at stands ⊢
    cases stands with
    | atlas => exact ⟨_, rfl⟩
  have turned := pending.seated.panel.proceed_refused now here nameless
  have visiting : (desk.service.calls).get? id = some (.visiting false) := pending.seated.stage
  rw [step_of_admits now rfl, Service.step, Service.proceed, turned]
  simp only [Option.map_some, Option.getD_some, settlePanel, absorbPanel, afterPanel, visiting]
  rfl

/-- A call that waits for its turn just disappears when it is given up. -/
theorem Pending.cancel (pending : Pending id query kinds desk) (now : Timestamp) :
    Desk.step now (.cancel id) desk =
      (⟨{ desk.service with
          panel := { desk.service.panel with rounds := desk.service.panel.rounds.erase id }
          calls := desk.service.calls.erase id }, desk.out⟩, []) := by
  rw [step_of_admits now rfl, Service.step, Service.cancel, pending.seated.stage]
  simp only [pending.seated.panel.cancel_facing, settlePanel, absorbPanel]
  rfl

/-! ### Where a call stands that is refused -/

variable {history : List Occurrence} {start : Nat} {reason : ServiceFault}

/-- Where a call stands that is refused. -/
inductive Dismissed (id : CallId) (reason : ServiceFault) (kinds : List Kind)
    (history : List Occurrence) (start : Nat) (desk : Desk) : Prop
  /-- It has the next turn, and is refused there. -/
  | pending {query : MetadataQuery} {fault : MetadataFault}
      (nameless : query.endpoints = .error fault) (same : reason = .metadata fault)
      (granted : At history start (.resume (.panel (.call id)) ∈ ·.effects))
      (pending : Pending id query kinds desk)
  /-- It has been refused. -/
  | refused (position : Nat) (told : At history position (.finish id (.error reason) ∈ ·.effects))
      (gone : Place.gone.Holds id kinds desk)
  /-- It has been given up. -/
  | dropped (cancels : ∃ taken ∈ history, taken.event = .cancel id)
      (gone : Place.gone.Holds id kinds desk)

/-- What a step does with a call that is refused. -/
structure Dismissed.Steps (id : CallId) (reason : ServiceFault) (kinds : List Kind)
    (history : List Occurrence) (start : Nat) (taken : Occurrence) : Prop where
  dismissed : Dismissed id reason kinds (history ++ [taken]) start taken.after
  untouched : taken.event.caller? = some id → Untouched id taken
  /-- If it ends, it is refused. -/
  only : ∀ outcome, .finish id outcome ∈ taken.effects → outcome = .error reason

/-- What is refused stays refused when more happens. -/
theorem Dismissed.kept {after : Desk} (dismissed : Dismissed id reason kinds history start desk)
    (taken : Occurrence) (kept : Desk.Kept id desk after) :
    Dismissed id reason kinds (history ++ [taken]) start after := by
  cases dismissed with
  | pending nameless same granted pending =>
    exact .pending nameless same (granted.append _) (pending.kept kept)
  | refused position told gone => exact .refused position (told.append _) (gone.kept kept)
  | dropped cancels gone =>
    obtain ⟨other, member, cancels⟩ := cancels
    exact .dropped ⟨other, List.mem_append_left _ member, cancels⟩ (gone.kept kept)

/-- A step that changes nothing. -/
theorem Dismissed.stays (dismissed : Dismissed id reason kinds history start desk)
    (same : Desk.step now event desk = (desk, [])) :
    Dismissed.Steps id reason kinds history start ⟨desk, now, event⟩ := by
  have after : Automaton.Occurrence.after (⟨desk, now, event⟩ : Occurrence) = desk :=
    congrArg Prod.fst same
  have silent : Automaton.Occurrence.effects (⟨desk, now, event⟩ : Occurrence) = [] :=
    congrArg Prod.snd same
  refine ⟨?_, fun _ => .of_same same, fun outcome finished => ?_⟩
  · rw [after]
    exact dismissed.kept _ (Desk.Kept.refl id desk)
  · rw [silent] at finished
    cases finished

/-- In its turn the call is refused. -/
theorem Pending.turned (pending : Pending id query (.atlas :: kinds) desk)
    (nameless : query.endpoints = .error fault) (same : reason = .metadata fault) :
    Dismissed.Steps id reason (.atlas :: kinds) history start
      ⟨desk, now, .proceed (.panel (.call id))⟩ := by
  subst same
  let taken : Occurrence := ⟨desk, now, .proceed (.panel (.call id))⟩
  have stepped := pending.turn nameless now
  have effects : taken.effects = [.finish id (.error (.metadata fault))] :=
    congrArg Prod.snd stepped
  have told : .finish id (.error (.metadata fault)) ∈ taken.effects :=
    effects ▸ List.mem_singleton_self _
  refine ⟨?_, fun _ => ?_, fun outcome finished => ?_⟩
  · refine .refused history.length (At.last told) ?_
    show Place.gone.Holds id (.atlas :: kinds)
      (Desk.step now (.proceed (.panel (.call id))) desk).1
    rw [stepped]
    exact pending.gone (Table.get?_erase_self ..) (Table.get?_erase_self ..)
  · refine .of_step stepped (fun other => Table.get?_erase_of_ne _) (fun other apart => ?_)
      fun effect member => Or.inr ⟨_, List.mem_singleton.mp member⟩
    rw [Table.get?_erase_of_ne _ apart, Table.get?_put_of_ne _ apart]
  · rw [effects] at finished
    cases List.mem_singleton.mp finished
    rfl

/-- The call is given up before its turn. -/
theorem Pending.dropped (pending : Pending id query kinds desk) :
    Dismissed.Steps id reason kinds history start ⟨desk, now, .cancel id⟩ := by
  have stepped := pending.cancel now
  have silent : Automaton.Occurrence.effects (⟨desk, now, .cancel id⟩ : Occurrence) = [] :=
    congrArg Prod.snd stepped
  refine ⟨?_, fun _ => ?_, fun outcome finished => ?_⟩
  · refine .dropped ⟨_, List.mem_append_right _ List.mem_cons_self, rfl⟩ ?_
    show Place.gone.Holds id kinds (Desk.step now (.cancel id) desk).1
    rw [stepped]
    exact pending.gone (Table.get?_erase_self ..) (Table.get?_erase_self ..)
  · exact .of_step stepped (fun _ => Table.get?_erase_of_ne _) (fun _ => Table.get?_erase_of_ne _)
      fun _ member => by cases member
  · rw [silent] at finished
    cases finished

/-- **A step leaves a call that is refused waiting, refuses it, or gives it up, and nothing else
happens.** -/
theorem Dismissed.step (dismissed : Dismissed id reason (.atlas :: kinds) history start desk)
    (now : Timestamp) (running : event.beginning? ≠ some id) :
    Dismissed.Steps id reason (.atlas :: kinds) history start ⟨desk, now, event⟩ := by
  by_cases own : event.caller? = some id
  · cases dismissed with
    | refused position told gone =>
      exact Dismissed.stays (.refused position told gone) (gone.gone_step_eq own running)
    | dropped cancels gone =>
      exact Dismissed.stays (.dropped cancels gone) (gone.gone_step_eq own running)
    | pending nameless same granted pending =>
      by_cases waits : event = .proceed (.panel (.call id))
      · subst waits
        exact pending.turned nameless same
      · by_cases held : event = .cancel id
        · subst held
          exact pending.dropped
        · exact Dismissed.stays (.pending nameless same granted pending)
            (pending.aside.step own running held waits)
  · obtain ⟨kept, silent⟩ : Desk.Kept id desk (Desk.step now event desk).1 ∧
        dealings id ⟨desk, now, event⟩ = [] := kept_of_step now own
    refine ⟨dismissed.kept _ kept, fun about => absurd about own, fun outcome finished => ?_⟩
    have done := finish_mem_dealings finished
    rw [silent] at done
    cases done

/-! ### Runs -/

variable {initial : State} {request : Except ServiceFault Request}

/-- A call that is refused in the step in which it begins. -/
theorem Place.Holds.dismissAtOnce (holds : Place.gone.Holds id kinds desk)
    (begins : Begins id request ⟨desk, now, event⟩) {calls : Table CallId Stage}
    (launched : launch id request desk.service =
      ({ desk.service with calls }, [.finish id (.error reason)]))
    (absent : calls.get? id = none)
    (others : ∀ other, other ≠ id → calls.get? other = desk.service.calls.get? other) :
    Dismissed.Steps id reason kinds history history.length ⟨desk, now, event⟩ := by
  obtain ⟨stepped, concludes⟩ := holds.conclude begins launched holds.inside.resolver absent
  have told : .finish id (.error reason) ∈
      Automaton.Occurrence.effects (⟨desk, now, event⟩ : Occurrence) :=
    concludes.effects ▸ List.mem_singleton_self _
  refine ⟨.refused history.length (At.last told) concludes.gone, fun _ => ?_,
    fun outcome finished => ?_⟩
  · exact .of_step stepped others (fun _ _ => rfl)
      fun effect member => Or.inr ⟨_, List.mem_singleton.mp member⟩
  · rw [concludes.effects] at finished
    cases List.mem_singleton.mp finished
    rfl

/-- A call for metadata between nodes without names gets its place, and the next turn. -/
theorem Place.Holds.dismissLater (holds : Place.gone.Holds id kinds desk)
    (nameless : query.endpoints = .error fault)
    (begins : Begins id (.ok (.fetch query)) ⟨desk, now, event⟩) :
    Dismissed.Steps id (.metadata fault) kinds history history.length ⟨desk, now, event⟩ := by
  obtain ⟨stepped, seated⟩ := holds.fetch begins
  have effects : Automaton.Occurrence.effects (⟨desk, now, event⟩ : Occurrence) =
      [.resume (.panel (.call id))] := congrArg Prod.snd stepped
  have granted : .resume (.panel (.call id)) ∈
      Automaton.Occurrence.effects (⟨desk, now, event⟩ : Occurrence) :=
    effects ▸ List.mem_singleton_self _
  have pending : Pending id query kinds (Desk.step now event desk).1 := by
    refine ⟨seated, ?_⟩
    rw [stepped]
    exact holds.out
  refine ⟨.pending nameless rfl (At.last granted) pending, fun _ => ?_, fun outcome finished => ?_⟩
  · refine .of_step stepped (fun other apart => ?_) (fun other apart => ?_)
      fun effect member => Or.inl (List.mem_singleton.mp member)
    · exact Table.get?_put_of_ne _ apart _
    · exact Table.get?_put_of_ne _ apart _
  · rw [effects] at finished
    cases List.mem_singleton.mp finished

/-- **A call whose request is refused is over when it has begun, or has the next turn**, and nothing
else has happened. -/
theorem Place.Holds.dismiss (holds : Place.gone.Holds id kinds desk)
    (refused : Refused request reason) (begins : Begins id request ⟨desk, now, event⟩) :
    Dismissed.Steps id reason kinds history history.length ⟨desk, now, event⟩ := by
  cases refused with
  | unread =>
    exact holds.dismissAtOnce begins rfl (Table.get?_erase_self ..) fun _ => Table.get?_erase_of_ne _
  | @destination text fault nameless =>
    have launched : launch id (.ok (.resolve text)) desk.service =
        ({ desk.service with calls := (desk.service.calls.put id .resolving).erase id },
          [.finish id (.error (.resolving (.invalidDestination fault.message)))]) := by
      rw [launch, Service.start, Resolver.start, nameless]
      rfl
    refine holds.dismissAtOnce begins launched (Table.get?_erase_self ..) fun other apart => ?_
    rw [Table.get?_erase_of_ne _ apart, Table.get?_put_of_ne _ apart]
  | endpoints nameless => exact holds.dismissLater nameless begins

/-- **In every run a call whose request is refused waits for its turn, or has been refused, or has
been given up.** -/
theorem Run.dismissed (run : Run ⟨initial, {}⟩ history desk) (idle : initial.Idle)
    (first : initial.kinds = .atlas :: kinds) (refused : Refused request reason)
    (begun : At history start (Begins id request)) :
    Dismissed id reason initial.kinds history start desk := by
  induction run with
  | initial => exact absurd begun.lt_length (Nat.not_lt_zero _)
  | @step history desk run now event fresh hypothesis =>
    rcases begun.append_singleton with earlier | ⟨rfl, begins⟩
    · have running : event.beginning? ≠ some id :=
        fresh.running (earlier.mono fun _ begins => begins.1)
      have dismissed := hypothesis earlier
      rw [first] at dismissed ⊢
      exact (dismissed.step now running).dismissed
    · exact ((Run.unbegun run idle (fresh id begins.1)).1.dismiss refused begins).dismissed

/-- **What a step does in such a run**: nothing but to the call itself, and if the call ends it is
refused. -/
theorem Run.refusing (run : Run ⟨initial, {}⟩ history desk) (idle : initial.Idle)
    (first : initial.kinds = .atlas :: kinds) (refused : Refused request reason)
    (begun : At history start (Begins id request)) {position : Nat} {taken : Occurrence}
    (here : history[position]? = some taken) :
    (taken.event.caller? = some id → Untouched id taken) ∧
      ∀ outcome, .finish id outcome ∈ taken.effects → outcome = .error reason := by
  have begins := begun.mono fun _ begins => begins.1
  -- before the call begins nothing is under way for it, and afterwards it stands as above
  rcases Nat.lt_trichotomy position start with before | rfl | after
  · have gone := Run.gone_before run idle begins here (Nat.le_of_lt before)
    have running := Run.running run begins here (Nat.ne_of_lt before)
    exact ⟨fun own => .of_same (gone.gone_step_eq own running),
      fun outcome finished => absurd finished (finish_not_mem_of_gone gone.inside running outcome)⟩
  · obtain ⟨_, here', begins, gone⟩ := Run.begins_gone run idle begun
    rw [here] at here'
    cases here'
    have steps : Dismissed.Steps id reason initial.kinds [] 0 taken := gone.dismiss refused begins
    exact ⟨steps.untouched, steps.only⟩
  · have running := Run.running run begins here (Nat.ne_of_gt after)
    have dismissed := Run.dismissed (run.take here) idle first refused (begun.take after)
    rw [first] at dismissed
    have steps := dismissed.step taken.now running
    exact ⟨steps.untouched, steps.only⟩

/-! ### Whom a call blames -/

/-- A call that tells that the policies have changed is over when it has begun. -/
theorem Place.Holds.purge (holds : Place.gone.Holds id kinds desk)
    (begins : Begins id (.ok .purge) ⟨desk, now, event⟩) :
    Concludes id kinds (.ok .nothing) ⟨desk, now, event⟩ := by
  have launched : launch id (.ok .purge) desk.service =
      ({ desk.service with
          resolver := { desk.service.resolver with cache := desk.service.resolver.cache.purge }
          calls := desk.service.calls.erase id }, [.finish id (.ok .nothing)]) := rfl
  exact (holds.conclude begins launched holds.inside.resolver (Table.get?_erase_self ..)).2

/-- **A call for metadata between two nodes does not end with the fault put on the request**, in
every run. -/
theorem Run.fetched (run : Run ⟨initial, {}⟩ history desk) (idle : initial.Idle)
    (candid : initial.Candid) (outside : .external ∉ initial.kinds) {pair : Atlas.Pair}
    (named : query.endpoints = .ok pair) (begun : At history start (Begins id (.ok (.fetch query))))
    {position : Nat} {outcome : Outcome}
    (finished : At history position (.finish id outcome ∈ ·.effects)) : ¬ outcome.Blames := by
  obtain ⟨_, leg, last, _, taken, here, ends⟩ := Run.fetch_ends run idle outside begun finished
  cases ends with
  | complete => exact not_blames_ok _
  | refused nameless =>
    rw [named] at nameless
    cases nameless
  | failed there gives =>
    have fair := (Run.candid (run.take here) candid).atlases _ (List.mem_of_getElem? there)
    exact fun blames => fair.gives gives _ rfl ((blames_error_iff _).mp blames)

/-- **A call of a method that is not refused does not end with the fault put on the request**, in
every run. -/
theorem Run.blameless (run : Run ⟨initial, {}⟩ history desk) (idle : initial.Idle)
    (candid : initial.Candid) (outside : .external ∉ initial.kinds) {method body : String}
    (begun : At history start (Begins id (Request.ofMethod method body)))
    (sound : ∀ reason, ¬ Refused (Request.ofMethod method body) reason) {position : Nat}
    {outcome : Outcome} (finished : At history position (.finish id outcome ∈ ·.effects)) :
    ¬ outcome.Blames := by
  cases taken : Request.ofMethod method body with
  | error fault =>
    rw [taken] at sound
    exact absurd (.unread fault) (sound fault)
  | ok request =>
    rw [taken] at begun sound
    rcases Request.of_method taken with ⟨text, rfl⟩ | rfl | ⟨query, rfl⟩
    · cases named : Node.parseTrimmed text with
      | error fault => exact absurd (.destination named) (sound _)
      | ok dst => exact Run.resolved run idle candid named begun finished
    · have concludes := (Run.begins_gone run idle begun).mono fun _ ⟨begins, gone⟩ =>
        gone.purge begins
      obtain ⟨_, rfl⟩ := Run.concludes run idle concludes finished
      exact not_blames_ok _
    · cases named : query.endpoints with
      | error fault => exact absurd (.endpoints named) (sound _)
      | ok pair => exact Run.fetched run idle candid outside named begun finished

/-- **Who is told that a request is at fault**, given the method and the body, the run so far and
the step with which the call has begun. -/
structure Judged (method body : String) (id : CallId) (history : List Occurrence) (start : Nat)
    (desk : Desk) : Prop where
  /-- An answer puts the fault on the request if and only if the request is at fault. -/
  blames_iff : ∀ position outcome, At history position (.finish id outcome ∈ ·.effects) →
    (outcome.Blames ↔ Malformed method body)
  /-- A request that is at fault gets that answer, unless its call is given up: it has got it when
  the call has begun, or gets it in the next turn, which the call has been given then. -/
  answered : Malformed method body →
    (∃ position outcome, At history position (.finish id outcome ∈ ·.effects)) ∨
    (∃ taken ∈ history, taken.event = .cancel id) ∨
    At history start (.resume (.panel (.call id)) ∈ ·.effects) ∧
      ∀ now, ∃ outcome, outcome.Blames ∧
        (Desk.step now (.proceed (.panel (.call id))) desk).2 = [.finish id outcome]
  /-- Nothing else comes of a request that is at fault. -/
  untouched : Malformed method body →
    ∀ taken ∈ history, taken.event.caller? = some id → Untouched id taken

end

/-- **The caller of a method is told that the request is at fault if and only if it is, and nothing
else comes of such a request**: in every run of a service that has been set up by settings, for every
method and every body. -/
theorem Run.judged {settings : Settings} {geolocator : Bool}
    {directory : String → Option Directory} {history : List Occurrence} {desk : Desk}
    (run : Run ⟨ofSettings settings geolocator directory, {}⟩ history desk) {id : CallId}
    {method body : String} {start : Nat}
    (begun : At history start (·.event = .method id method body)) :
    Judged method body id history start desk := by
  have idle := idle_ofSettings settings geolocator directory
  have candid := candid_ofSettings settings geolocator directory
  have first := kinds_ofSettings settings geolocator directory
  have begins : At history start (Begins id (Request.ofMethod method body)) :=
    begun.mono fun _ event => by
      rw [Begins, event]
      exact ⟨rfl, rfl⟩
  refine ⟨fun position outcome finished => ⟨fun blames => ?_, fun malformed => ?_⟩,
    fun malformed => ?_, fun malformed taken member => ?_⟩
  · refine refused_iff.mp (Classical.byContradiction fun sound => ?_)
    exact Run.blameless run idle candid (external_not_mem_kinds settings geolocator directory) begins
      (not_exists.mp sound) finished blames
  · obtain ⟨reason, refused⟩ := malformed.refused
    obtain ⟨taken, here, finished⟩ := finished
    obtain rfl := (Run.refusing run idle first refused begins here).2 outcome finished
    exact (blames_error_iff reason).mpr refused.code
  · obtain ⟨reason, refused⟩ := malformed.refused
    have dismissed := Run.dismissed run idle first refused begins
    rw [first] at dismissed
    cases dismissed with
    | refused position told => exact Or.inl ⟨position, _, told⟩
    | dropped cancels => exact Or.inr (Or.inl cancels)
    | pending nameless same granted pending =>
      refine Or.inr (Or.inr ⟨granted, fun now =>
        ⟨_, ?_, congrArg Prod.snd (pending.turn nameless now)⟩⟩)
      exact (blames_error_iff _).mpr (same ▸ refused.code)
  · obtain ⟨reason, refused⟩ := malformed.refused
    obtain ⟨position, here⟩ := List.mem_iff_getElem?.mp member
    exact (Run.refusing run idle first refused begins here).1

/-! ### A request that is refused -/

/-- A request for routes. -/
def seeking : String := "\x7b\"destination\":\"7-71\"\x7d"

/-- A request for metadata whose second node has no name. -/
def misnaming : String := "\x7b\"src\":\"7-70\",\"dst\":\"7_71\"\x7d"

/-- A call looks for routes; meanwhile the other request is made, and its call has its turn. -/
def misnamed : List Occurrence :=
  automaton.replay ⟨endlessService, {}⟩
    [(0, .method 0 "ResolvePaths" seeking), (0, .proceed (.resolver (.call 0))),
      (1, .method 1 "GetMetadata" misnaming), (1, .proceed (.panel (.call 1)))]

/-- In that run the second call is told that its request is at fault. -/
theorem judged_misnamed : ∃ desk, Run ⟨endlessService, {}⟩ misnamed desk ∧
    At misnamed 2 (·.event = .method 1 "GetMetadata" misnaming) ∧
    Malformed "GetMetadata" misnaming ∧
    ∃ outcome, At misnamed 3 (.finish 1 outcome ∈ ·.effects) ∧ outcome.Blames ∧
      ∀ taken ∈ misnamed, taken.event.caller? = some 1 → Untouched 1 taken := by
  have run : Run ⟨endlessService, {}⟩ misnamed _ := Automaton.Run.of_replay automaton _ _ (by decide)
  have begun : At misnamed 2 (·.event = .method 1 "GetMetadata" misnaming) := ⟨_, rfl, rfl⟩
  have decodes : Json.read? MetadataQueryRecord.ofJson? misnaming = some ⟨"7-70", "7_71", []⟩ := by
    decide +kernel
  have malformed : Malformed "GetMetadata" misnaming :=
    .target decodes (nameless_iff.mpr ⟨.missingSeparator "7_71", rfl⟩)
  have finished : At misnamed 3
      (.finish 1 (.error (.metadata (.ofNode "7_71" (.missingSeparator "7_71")))) ∈ ·.effects) := by
    decide +kernel
  have judged := Run.judged run begun
  exact ⟨_, run, begun, malformed, _, finished, (judged.blames_iff _ _ finished).mpr malformed,
    judged.untouched malformed⟩

end Wayfinder.Service
