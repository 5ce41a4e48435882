/-
**What ending the service comes to.**

The call that ends the service closes the sources one after another, then the policy engine and then
the oracle of the resolver. The policy engine and that oracle are asked whatever came before, each
once; but the sources behind the first one that fails are left open, and so is the oracle of an atlas
whose loop has broken down. What the call answers with is the first failure on its way.

On its way it is at one of a few places, and each of its steps leads from one to the next. What it
has done can be told from its place, and how much it has still to do.

* `ShutsDown`: what such a call does from its beginning to its end, and its outcome;
* `ShutsDown.questions_eq`: if no source fails, everything is asked to close;
* `Place`, `Next`: the places on the way and the steps between them;
* `Next.reached`: what has been done at a place;
* `Next.remaining_lt`: there is less and less to do.
-/

import Mathlib.Data.List.Nodup
import Wayfinder.Proofs.Panel.Remaining
import Wayfinder.Proofs.Service.Run

namespace Wayfinder.Service

open Panel (Kind Spot)

/-! ### What ending the service comes to -/

/-- How a source is closed: what the call does, and whether it fails. -/
inductive ClosesSource (id : CallId) (position : Nat) :
    Kind → List Dealing → Except MetadataFault Unit → Prop
  | archive : ClosesSource id position .archive [] (.ok ())
  | external (answered : Except MetadataFault Metadata) :
      ClosesSource id position .external
        [.ask (.panel (.call id)) (.closeSource position),
          .hear (.panel (.call id)) (.source answered)]
        (answered.map fun _ => ())
  /-- There is no loop to wait for, or it has ended. -/
  | atlas {waited : List Dealing} (loop : waited = [] ∨ waited = [.join position (.ok ())])
      (answered : Except CallFault Unit) :
      ClosesSource id position .atlas
        (waited ++ [.ask (.panel (.atlas position (.call id))) .closeOracle,
          .hear (.panel (.atlas position (.call id))) (.done answered)])
        (answered.mapError .oracle)
  /-- The loop has broken down; the oracle is not asked. -/
  | brokenDown (fault : StopFault) :
      ClosesSource id position .atlas [.join position (.error fault)] (.error (.job fault))

/-- The first sources have been closed, one after another and without failure. -/
inductive Closed (id : CallId) (kinds : List Kind) : Nat → List Dealing → Prop
  | none : Closed id kinds 0 []
  | next {count : Nat} {kind : Kind} {before more : List Dealing}
      (closed : Closed id kinds count before) (here : kinds[count]? = some kind)
      (closes : ClosesSource id count kind more (.ok ())) :
      Closed id kinds (count + 1) (before ++ more)

/-- The sources have been closed up to the first failure. -/
inductive ClosesSources (id : CallId) (kinds : List Kind) :
    List Dealing → Except MetadataFault Unit → Prop
  | all {before : List Dealing} {count : Nat} (closed : Closed id kinds count before)
      (last : kinds[count]? = none) : ClosesSources id kinds before (.ok ())
  | upTo {position : Nat} {kind : Kind} {before more : List Dealing} {fault : MetadataFault}
      (closed : Closed id kinds position before) (here : kinds[position]? = some kind)
      (fails : ClosesSource id position kind more (.error fault)) :
      ClosesSources id kinds (before ++ more) (.error fault)

/-- **What a call does that ends the service, and its outcome**: it closes the sources, then the
policy engine, then the oracle, and answers with the first failure. -/
inductive ShutsDown (id : CallId) (kinds : List Kind) : List Dealing → Outcome → Prop
  | intro {before : List Dealing} {sources : Except MetadataFault Unit}
      (closes : ClosesSources id kinds before sources) (policy oracle : Except CallFault Unit) :
      ShutsDown id kinds
        (before ++ [.ask (.session id) .closePolicy, .hear (.session id) (.done policy),
          .ask (.session id) .closeOracle, .hear (.session id) (.done oracle),
          .finish (ended sources (Session.closed policy oracle))])
        (ended sources (Session.closed policy oracle))

/-! ### What is asked to close -/

section

variable {id : CallId} {kinds : List Kind} {done : List Dealing}

/-- The questions that a call asks, with who asks them. -/
def questions (done : List Dealing) : List (Task × Query) :=
  done.filterMap fun
    | .ask task query => some (task, query)
    | .hear _ _ | .join _ _ | .finish _ => none

/-- The question with which a call closes a source. -/
def handle? (id : CallId) : Kind × Nat → Option (Task × Query)
  | (.external, position) => some (.panel (.call id), .closeSource position)
  | (.atlas, position) => some (.panel (.atlas position (.call id)), .closeOracle)
  | (.archive, _) => none

/-- The questions with which a call closes sources, in their order. -/
def sourceHandles (id : CallId) (kinds : List Kind) : List (Task × Query) :=
  kinds.zipIdx.filterMap (handle? id)

/-- The questions with which a call closes everything: the sources, then the policy engine, then the
oracle. -/
def handles (id : CallId) (kinds : List Kind) : List (Task × Query) :=
  sourceHandles id kinds ++ [(.session id, .closePolicy), (.session id, .closeOracle)]

/-- A question belongs to one source. -/
theorem handle?_inj {source other : Kind × Nat} {question : Task × Query}
    (one : handle? id source = some question) (two : handle? id other = some question) :
    source = other := by
  obtain ⟨kind, position⟩ := source
  obtain ⟨kind', position'⟩ := other
  cases kind <;> cases kind' <;> cases one <;> cases two <;> rfl

/-- Nothing is to be closed twice. -/
theorem handles_nodup : (handles id kinds).Nodup := by
  have positions : (kinds.zipIdx.map Prod.snd).Nodup := by
    rw [List.zipIdx_map_snd]
    exact List.nodup_range'
  have sources : (sourceHandles id kinds).Nodup :=
    (List.Nodup.of_map _ positions).filterMap fun _ _ _ one two => handle?_inj one two
  have apart (query : Query) : (.session id, query) ∉ sourceHandles id kinds := by
    intro member
    obtain ⟨⟨kind, position⟩, _, same⟩ := List.mem_filterMap.mp member
    cases kind <;> cases same
  refine List.nodup_append'.mpr ⟨sources, by simp, fun question member other => ?_⟩
  rcases List.mem_pair.mp other with rfl | rfl
  · exact apart _ member
  · exact apart _ member

theorem questions_append (first second : List Dealing) :
    questions (first ++ second) = questions first ++ questions second :=
  List.filterMap_append ..

theorem sourceHandles_concat (id : CallId) (kinds : List Kind) (kind : Kind) :
    sourceHandles id (kinds ++ [kind]) =
      sourceHandles id kinds ++ (handle? id (kind, kinds.length)).toList := by
  rw [sourceHandles, sourceHandles, List.zipIdx_append, List.filterMap_append, Nat.zero_add,
    List.zipIdx_singleton, List.filterMap_cons]
  cases handle? id (kind, kinds.length) <;> rfl

/-- The questions for the sources up to one. -/
theorem sourceHandles_take_succ {position : Nat} {kind : Kind}
    (here : kinds[position]? = some kind) :
    sourceHandles id (kinds.take (position + 1)) =
      sourceHandles id (kinds.take position) ++ (handle? id (kind, position)).toList := by
  have bound : position < kinds.length := (List.getElem?_eq_some_iff.mp here).1
  rw [List.take_add_one, here, Option.toList_some, sourceHandles_concat, List.length_take,
    Nat.min_eq_left (Nat.le_of_lt bound)]

theorem sourceHandles_take_sublist (count : Nat) :
    (sourceHandles id (kinds.take count)).Sublist (sourceHandles id kinds) := by
  have whole := List.take_append_drop count kinds
  conv => rhs; rw [← whole]
  rw [sourceHandles, sourceHandles, List.zipIdx_append, List.filterMap_append]
  exact List.sublist_append_left ..

/-- A source that is closed without failure is asked; one that fails may not be. -/
theorem ClosesSource.questions_of_ok {position : Nat} {kind : Kind}
    (closes : ClosesSource id position kind done (.ok ())) :
    questions done = (handle? id (kind, position)).toList := by
  generalize closed : Except.ok () = result at closes
  cases closes with
  | archive | external => rfl
  | atlas loop => rcases loop with rfl | rfl <;> rfl
  | brokenDown => cases closed

theorem ClosesSource.questions_sublist {position : Nat} {kind : Kind}
    {result : Except MetadataFault Unit} (closes : ClosesSource id position kind done result) :
    (questions done).Sublist (handle? id (kind, position)).toList := by
  cases closes with
  | archive | external => exact List.Sublist.refl _
  | atlas loop => rcases loop with rfl | rfl <;> exact List.Sublist.refl _
  | brokenDown => exact List.nil_sublist _

theorem Closed.questions_eq {count : Nat} (closed : Closed id kinds count done) :
    questions done = sourceHandles id (kinds.take count) := by
  induction closed with
  | none => rfl
  | next closed here closes hypothesis =>
    rw [questions_append, hypothesis, closes.questions_of_ok, sourceHandles_take_succ here]

theorem ClosesSources.questions_of_ok (closes : ClosesSources id kinds done (.ok ())) :
    questions done = sourceHandles id kinds := by
  cases closes with
  | all closed last =>
    rw [closed.questions_eq, List.take_of_length_le (List.getElem?_eq_none_iff.mp last)]

theorem ClosesSources.questions_sublist {result : Except MetadataFault Unit}
    (closes : ClosesSources id kinds done result) :
    (questions done).Sublist (sourceHandles id kinds) := by
  cases closes with
  | all closed =>
    rw [closed.questions_eq]
    exact sourceHandles_take_sublist _
  | @upTo position _ _ _ _ closed here fails =>
    rw [questions_append, closed.questions_eq]
    refine List.Sublist.trans ?_ (sourceHandles_take_sublist (position + 1))
    rw [sourceHandles_take_succ here]
    exact fails.questions_sublist.append_left _

theorem questions_of_intro {before : List Dealing} {policy oracle : Except CallFault Unit}
    {outcome : Outcome} :
    questions (before ++ [.ask (.session id) .closePolicy, .hear (.session id) (.done policy),
      .ask (.session id) .closeOracle, .hear (.session id) (.done oracle), .finish outcome]) =
      questions before ++ [(.session id, .closePolicy), (.session id, .closeOracle)] :=
  questions_append ..

/-- **Nothing is asked to close but what is to be closed, each once and in order.** -/
theorem ShutsDown.questions_sublist {outcome : Outcome}
    (shutsDown : ShutsDown id kinds done outcome) :
    (questions done).Sublist (handles id kinds) := by
  cases shutsDown with
  | intro closes =>
    rw [questions_of_intro]
    exact closes.questions_sublist.append_right _

/-- **Everything is asked to close unless a source fails.** -/
theorem ShutsDown.questions_eq {outcome : Outcome} (shutsDown : ShutsDown id kinds done outcome)
    (sound : ∀ fault, outcome ≠ .error (.metadata fault)) : questions done = handles id kinds := by
  cases shutsDown with
  | @intro _ sources closes =>
    cases sources with
    | error fault => exact absurd rfl (sound fault)
    | ok closed =>
      rw [questions_of_intro, closes.questions_of_ok, handles]

end

/-! ### The places on the way -/

/-- Where a call stands that ends the service. -/
inductive Place where
  | visiting (spot : Spot)
  /-- Waits for the policy engine. -/
  | policy (sources : Except MetadataFault Unit)
  /-- Waits for the oracle. -/
  | oracle (sources : Except MetadataFault Unit) (policy : Except CallFault Unit)
  /-- Is at its end. -/
  | gone

/-- A step from a place to the next, and what the call does in it. -/
inductive Next (id : CallId) (kinds : List Kind) : Place → List Dealing → Place → Prop
  | ask {position : Nat} (here : kinds[position]? = some .external) :
      Next id kinds (.visiting (.facing position))
        [.ask (.panel (.call id)) (.closeSource position)] (.visiting (.asking position))
  | pass {position : Nat} (here : kinds[position]? = some .archive) :
      Next id kinds (.visiting (.facing position)) [] (.visiting (.facing (position + 1)))
  | enter {position : Nat} (here : kinds[position]? = some .atlas) :
      Next id kinds (.visiting (.facing position)) [] (.visiting (.inside position .detaching))
  | finish {position : Nat} (last : kinds[position]? = none) :
      Next id kinds (.visiting (.facing position)) [.ask (.session id) .closePolicy]
        (.policy (.ok ()))
  | hear {position : Nat} (found : Metadata) :
      Next id kinds (.visiting (.asking position))
        [.hear (.panel (.call id)) (.source (.ok found))] (.visiting (.facing (position + 1)))
  | fail {position : Nat} (fault : MetadataFault) :
      Next id kinds (.visiting (.asking position))
        [.hear (.panel (.call id)) (.source (.error fault)), .ask (.session id) .closePolicy]
        (.policy (.error fault))
  | detach {position : Nat} (loop : Atlas.LoopId) :
      Next id kinds (.visiting (.inside position .detaching)) []
        (.visiting (.inside position (.stopping loop)))
  | release {position : Nat} :
      Next id kinds (.visiting (.inside position .detaching))
        [.ask (.panel (.atlas position (.call id))) .closeOracle]
        (.visiting (.inside position .releasing))
  | join {position : Nat} {loop : Atlas.LoopId} :
      Next id kinds (.visiting (.inside position (.stopping loop)))
        [.join position (.ok ()), .ask (.panel (.atlas position (.call id))) .closeOracle]
        (.visiting (.inside position .releasing))
  | giveUp {position : Nat} {loop : Atlas.LoopId} (fault : StopFault) :
      Next id kinds (.visiting (.inside position (.stopping loop)))
        [.join position (.error fault), .ask (.session id) .closePolicy]
        (.policy (.error (.job fault)))
  | leave {position : Nat} :
      Next id kinds (.visiting (.inside position .releasing))
        [.hear (.panel (.atlas position (.call id))) (.done (.ok ()))]
        (.visiting (.facing (position + 1)))
  | lose {position : Nat} (fault : CallFault) :
      Next id kinds (.visiting (.inside position .releasing))
        [.hear (.panel (.atlas position (.call id))) (.done (.error fault)),
          .ask (.session id) .closePolicy]
        (.policy (.error (.oracle fault)))
  | policy (sources : Except MetadataFault Unit) (answered : Except CallFault Unit) :
      Next id kinds (.policy sources)
        [.hear (.session id) (.done answered), .ask (.session id) .closeOracle]
        (.oracle sources answered)
  | oracle (sources : Except MetadataFault Unit) (policy answered : Except CallFault Unit) :
      Next id kinds (.oracle sources policy)
        [.hear (.session id) (.done answered), .finish (ended sources (Session.closed policy answered))]
        .gone

/-- What a call has done when it is at a place. -/
def Place.Reached (id : CallId) (kinds : List Kind) (place : Place) (done : List Dealing) : Prop :=
  match place with
  | .visiting (.facing position) => Closed id kinds position done
  | .visiting (.asking position) =>
    kinds[position]? = some .external ∧ ∃ before, Closed id kinds position before ∧
      done = before ++ [.ask (.panel (.call id)) (.closeSource position)]
  | .visiting (.inside position .detaching) | .visiting (.inside position (.stopping _)) =>
    kinds[position]? = some .atlas ∧ Closed id kinds position done
  | .visiting (.inside position .releasing) =>
    kinds[position]? = some .atlas ∧ ∃ before waited, Closed id kinds position before ∧
      (waited = [] ∨ waited = [.join position (.ok ())]) ∧
      done = before ++ (waited ++ [.ask (.panel (.atlas position (.call id))) .closeOracle])
  | .visiting .away => False
  | .policy sources => ∃ before, ClosesSources id kinds before sources ∧
      done = before ++ [.ask (.session id) .closePolicy]
  | .oracle sources answered => ∃ before, ClosesSources id kinds before sources ∧
      done = before ++ [.ask (.session id) .closePolicy, .hear (.session id) (.done answered),
        .ask (.session id) .closeOracle]
  | .gone => ∃ outcome, ShutsDown id kinds done outcome

/-- How many steps a call has still to make at a place, at most. -/
def Place.remaining (count : Nat) : Place → Nat
  | .visiting spot => spot.remaining count
  | .policy _ => 2
  | .oracle _ _ => 1
  | .gone => 0

section

variable {id : CallId} {kinds : List Kind} {place next : Place} {done more : List Dealing}

/-- **What has been done at the next place.** -/
theorem Next.reached (step : Next id kinds place more next) (reached : place.Reached id kinds done) :
    next.Reached id kinds (done ++ more) := by
  cases step with
  | ask here => exact ⟨here, done, reached, rfl⟩
  | pass here => exact .next reached here .archive
  | enter here =>
    rw [List.append_nil]
    exact ⟨here, reached⟩
  | finish last => exact ⟨done, .all reached last, rfl⟩
  | hear found =>
    obtain ⟨here, before, closed, rfl⟩ := reached
    rw [List.append_assoc]
    exact .next closed here (.external (.ok found))
  | fail fault =>
    obtain ⟨here, before, closed, rfl⟩ := reached
    refine ⟨_, .upTo closed here (.external (.error fault)), ?_⟩
    simp only [List.append_assoc, List.cons_append, List.nil_append]
  | detach loop =>
    rw [List.append_nil]
    exact reached
  | release => exact ⟨reached.1, done, [], reached.2, Or.inl rfl, rfl⟩
  | @join position _ =>
    exact ⟨reached.1, done, [.join position (.ok ())], reached.2, Or.inr rfl, rfl⟩
  | giveUp fault =>
    refine ⟨_, .upTo reached.2 reached.1 (.brokenDown fault), ?_⟩
    simp only [List.append_assoc, List.cons_append, List.nil_append]
  | leave =>
    obtain ⟨here, before, waited, closed, loop, rfl⟩ := reached
    simp only [List.append_assoc, List.cons_append, List.nil_append]
    exact .next closed here (.atlas loop (.ok ()))
  | lose fault =>
    obtain ⟨here, before, waited, closed, loop, rfl⟩ := reached
    refine ⟨_, .upTo closed here (.atlas loop (.error fault)), ?_⟩
    simp only [List.append_assoc, List.cons_append, List.nil_append]
  | policy sources answered =>
    obtain ⟨before, closes, rfl⟩ := reached
    refine ⟨before, closes, ?_⟩
    simp only [List.append_assoc, List.cons_append, List.nil_append]
  | oracle sources policy answered =>
    obtain ⟨before, closes, rfl⟩ := reached
    refine ⟨ended sources (Session.closed policy answered), ?_⟩
    simp only [List.append_assoc, List.cons_append, List.nil_append]
    exact .intro closes policy answered

/-- **There is less to do at the next place.** -/
theorem Next.remaining_lt (step : Next id kinds place more next) (reached : place.Reached id kinds done) :
    next.remaining kinds.length < place.remaining kinds.length := by
  have inside {position : Nat} {kind : Kind} (here : kinds[position]? = some kind) :
      position < kinds.length := (List.getElem?_eq_some_iff.mp here).1
  cases step with
  | ask | enter | finish | detach | release | join | policy | oracle =>
    simp only [Place.remaining, Spot.remaining]
    omega
  | pass here =>
    have bound := inside here
    simp only [Place.remaining, Spot.remaining]
    omega
  | hear | fail | giveUp | leave | lose =>
    have bound := inside reached.1
    simp only [Place.remaining, Spot.remaining]
    omega

/-! ### Outcomes -/

theorem ClosesSource.finish_not_mem {position : Nat} {kind : Kind}
    {result : Except MetadataFault Unit} (closes : ClosesSource id position kind done result)
    (outcome : Outcome) : .finish outcome ∉ done := by
  cases closes with
  | archive | external | brokenDown => simp
  | atlas loop answered => rcases loop with rfl | rfl <;> simp

theorem Closed.finish_not_mem {count : Nat} (closed : Closed id kinds count done)
    (outcome : Outcome) : .finish outcome ∉ done := by
  induction closed with
  | none => exact List.not_mem_nil
  | next closed here closes hypothesis =>
    rw [List.mem_append, not_or]
    exact ⟨hypothesis, closes.finish_not_mem outcome⟩

theorem ClosesSources.finish_not_mem {result : Except MetadataFault Unit}
    (closes : ClosesSources id kinds done result) (outcome : Outcome) :
    .finish outcome ∉ done := by
  cases closes with
  | all closed => exact closed.finish_not_mem outcome
  | upTo closed here fails =>
    rw [List.mem_append, not_or]
    exact ⟨closed.finish_not_mem outcome, fails.finish_not_mem outcome⟩

/-- A call that is not at its end has no outcome. -/
theorem Place.Reached.finish_not_mem (reached : place.Reached id kinds done)
    (unfinished : place ≠ .gone) (outcome : Outcome) : .finish outcome ∉ done := by
  cases place with
  | gone => exact absurd rfl unfinished
  | policy sources =>
    obtain ⟨before, closes, rfl⟩ := reached
    simpa using closes.finish_not_mem outcome
  | oracle sources answered =>
    obtain ⟨before, closes, rfl⟩ := reached
    simpa using closes.finish_not_mem outcome
  | visiting spot =>
    cases spot with
    | away => exact reached.elim
    | facing position => exact Closed.finish_not_mem reached outcome
    | asking position =>
      obtain ⟨_, before, closed, rfl⟩ := reached
      simpa using closed.finish_not_mem outcome
    | inside position stage =>
      cases stage with
      | detaching | stopping => exact reached.2.finish_not_mem outcome
      | releasing =>
        obtain ⟨_, before, waited, closed, loop, rfl⟩ := reached
        rcases loop with rfl | rfl <;> simpa using closed.finish_not_mem outcome

theorem ShutsDown.finish_mem {outcome : Outcome} (shutsDown : ShutsDown id kinds done outcome) :
    .finish outcome ∈ done := by
  cases shutsDown with
  | intro => simp

/-- A call has one outcome. -/
theorem ShutsDown.outcome_eq {outcome other : Outcome} (shutsDown : ShutsDown id kinds done outcome)
    (finished : .finish other ∈ done) : other = outcome := by
  cases shutsDown with
  | intro closes policy oracle =>
    rcases List.mem_append.mp finished with before | after
    · exact absurd before (closes.finish_not_mem other)
    · simpa using after

end

end Wayfinder.Service
