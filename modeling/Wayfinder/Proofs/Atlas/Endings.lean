/-
**The order in which surveys end.**

The surveys of a collection come to their ends in any order, each of them once. What they have found,
taken in the order of their ends and then sorted by position, is what the collection joins.

* `endings`: what the surveys of a collection have found, in the order of their ends;
* `Ended`, `Run.ended`: it holds the complete fragments, each once;
* `Run.sorted_endings`: sorted by position, it gives what the collection has come to.
-/

import Wayfinder.Proofs.Atlas.Fragments

namespace Wayfinder.Atlas

/-- What the survey at a position of a collection has found, if it has come to its end. -/
def State.finding? (state : State) (id : CollectionId) (position : Nat) : Option Metadata :=
  (state.survey? id position).bind Fragment.found?

/-- What a survey has found that comes to its end in a step, and its position. -/
def ended? (id : CollectionId) (taken : Occurrence) : Option (Metadata × Nat) :=
  match taken.event with
  | .proceed (.survey other position) =>
    if other = id ∧ taken.before.finding? id position = none then
      (taken.after.finding? id position).map fun found => (found, position)
    else none
  | _ => none

/-- What the surveys of a collection have found, in the order in which they have come to their
ends. -/
def endings (history : List Occurrence) (id : CollectionId) : List (Metadata × Nat) :=
  history.filterMap (ended? id)

section

variable {history : List Occurrence} {taken : Occurrence} {id : CollectionId}

/-- Where all surveys have found what they had found, none comes to its end. -/
theorem ended?_of_same
    (same : ∀ position, taken.after.finding? id position = taken.before.finding? id position) :
    ended? id taken = none := by
  unfold ended?
  split
  · next other position event =>
    split
    · next ends => rw [same, ends.2, Option.map_none]
    · rfl
  · rfl

theorem endings_concat :
    endings (history ++ [taken]) id = endings history id ++ (ended? id taken).toList := by
  rw [endings, endings, List.filterMap_append, List.filterMap_cons, List.filterMap_nil]
  cases ended? id taken <;> rfl

theorem State.finding?_of_surveying {state : State} {collection : Collection}
    {fragments : List Fragment} (here : state.collections.get? id = some collection)
    (surveying : collection.progress = .surveying fragments) (position : Nat) :
    state.finding? id position = fragments[position]?.bind Fragment.found? :=
  congrArg (·.bind Fragment.found?) (State.survey?_of_surveying here surveying position)

/-- Pairs of values and positions that are those of a list are, sorted by position, the list. -/
theorem mergeSort_eq_zipIdx {μ : Type} {values : List μ} {pairs : List (μ × Nat)}
    (once : (pairs.map Prod.snd).Nodup)
    (same : ∀ value position, (value, position) ∈ pairs ↔ values[position]? = some value) :
    pairs.mergeSort (·.2 ≤ ·.2) = values.zipIdx := by
  have apart {items : List (μ × Nat)} (once : (items.map Prod.snd).Nodup) : items.Nodup :=
    List.Pairwise.of_map Prod.snd (fun _ _ differs same => differs (congrArg Prod.snd same)) once
  have positions : values.zipIdx.map Prod.snd = List.range' 0 values.length :=
    List.zipIdx_map_snd 0 values
  have perm : pairs.Perm values.zipIdx := by
    refine (List.perm_ext_iff_of_nodup (apart once) (apart ?_)).mpr fun pair => ?_
    · rw [positions]
      exact List.nodup_range'
    · rw [List.mem_zipIdx_iff_getElem?]
      exact same pair.1 pair.2
  refine List.Perm.eq_of_pairwise (fun first second here there before after => ?_)
    (List.pairwise_mergeSort ?_ ?_ pairs) ?_ ((List.mergeSort_perm ..).trans perm)
  · -- a position has one value
    have equal : first.2 = second.2 :=
      Nat.le_antisymm (of_decide_eq_true before) (of_decide_eq_true after)
    have one := (same first.1 first.2).mp (List.mem_mergeSort.mp here)
    rw [equal, List.mem_zipIdx_iff_getElem?.mp there] at one
    exact Prod.ext (Option.some.inj one).symm equal
  · intro first second third before after
    exact decide_eq_true (Nat.le_trans (of_decide_eq_true before) (of_decide_eq_true after))
  · intro first second
    simp only [Bool.or_eq_true, decide_eq_true_eq]
    exact Nat.le_total _ _
  · have ordered : (values.zipIdx.map Prod.snd).Pairwise (· ≤ ·) := by
      rw [positions]
      exact List.pairwise_le_range'
    exact (List.pairwise_map.mp ordered).imp decide_eq_true

end

/-! ### Each end once -/

theorem ended?_eq_some {taken : Occurrence} {id : CollectionId} {ending : Metadata × Nat}
    (ends : ended? id taken = some ending) :
    taken.event = .proceed (.survey id ending.2) ∧ taken.before.finding? id ending.2 = none ∧
      taken.after.finding? id ending.2 = some ending.1 := by
  unfold ended? at ends
  split at ends
  · next other position event =>
    split at ends
    · next waits =>
      obtain ⟨found, here, rfl⟩ := Option.map_eq_some_iff.mp ends
      exact ⟨waits.1 ▸ event, waits.2, here⟩
    · cases ends
  · cases ends

/-- A survey that comes to its end in its turn belongs to a collection that was surveyed before. -/
theorem surveying_before {now : Timestamp} {state : State} {id other : CollectionId}
    {event : Event} {position : Nat} {found : Metadata}
    (turn : event = .proceed (.survey other position))
    (ends : (step now event state).1.finding? id position = some found) :
    ∃ collection fragments, state.collections.get? id = some collection ∧
      collection.progress = .surveying fragments := by
  obtain ⟨fragment, there, _⟩ := Option.bind_eq_some_iff.mp ends
  obtain ⟨collection, fragments, here, surveying, _⟩ := State.survey?_eq_some there
  cases (move_step now event state).evolves here with
  | kept old => exact ⟨collection, fragments, old, surveying⟩
  | begun | refused => cases surveying
  | received hears =>
    rw [turn] at hears
    cases hears
  | surveyed old before => exact ⟨_, _, old, before⟩

/-- A survey that takes its turn comes to its end with what it has found, if it does. -/
theorem Turn.ended? {state : State} {id : CollectionId} {position : Nat} {event : Event}
    {old new : Fragment} {questions : Effects} {taken : Occurrence}
    (turn : Turn state id position event old new questions) (same : taken.event = event)
    (before : taken.before.finding? id position = none)
    (after : taken.after.finding? id position = new.found?) :
    Atlas.ended? id taken = new.found?.map fun found => (found, position) := by
  unfold Atlas.ended?
  cases turn with
  | ask | finish => simp [same, before, after, Fragment.found?]
  | learn | breakDown => simp [same, Fragment.found?]

/-- A survey that takes its turn has not come to its end before. -/
theorem Turn.found?_eq_none {state : State} {id : CollectionId} {position : Nat} {event : Event}
    {old new : Fragment} {questions : Effects}
    (turn : Turn state id position event old new questions) : old.found? = none := by
  cases turn <;> rfl

/-- What the surveys of a collection have found that are at an end, each once. -/
structure Ended (history : List Occurrence) (state : State) : Prop where
  /-- Before a collection has heard of its candidates no survey has come to its end. -/
  silent : ∀ id, ¬ Settled id state → endings history id = []
  /-- A survey comes to its end once. -/
  once : ∀ id, ((endings history id).map Prod.snd).Nodup
  /-- While a collection is surveyed the ends so far are those of the complete fragments. -/
  complete : ∀ id collection fragments, state.collections.get? id = some collection →
    collection.progress = .surveying fragments →
    ∀ found position, (found, position) ∈ endings history id ↔
      fragments[position]? = some (.complete found)

namespace Run

variable {capacity : Nat} {geolocating : Bool} {timeout interval : Duration}
  {history : List Occurrence} {state : State}

/-- A collection that waits for the oracle has no surveys that are at an end. -/
theorem finding?_of_unsettled (run : Run capacity geolocating timeout interval history state)
    {id : CollectionId} (unsettled : ¬ Settled id state) (position : Nat) :
    state.finding? id position = none := by
  cases found : state.survey? id position with
  | none => rw [State.finding?, found, Option.bind_none]
  | some fragment => exact absurd (settled_of_survey? run found) unsettled

/-- **The ends of the surveys are those of the complete fragments, each once.** -/
theorem ended (run : Run capacity geolocating timeout interval history state) :
    Ended history state := by
  induction run with
  | initial =>
    refine ⟨fun _ _ => rfl, fun _ => List.nodup_nil, fun id collection fragments here => ?_⟩
    cases here
  | @step history state run now event fresh hypothesis =>
    have move := move_step now event state
    refine ⟨fun id unsettled => ?_, fun id => ?_, fun id collection fragments here surveying => ?_⟩
    · have before : ¬ Settled id state := fun settled => unsettled (settled.step move)
      have same (position : Nat) : (⟨state, now, event⟩ : Occurrence).after.finding? id position =
          state.finding? id position :=
        (finding?_of_unsettled (run.step now event fresh) unsettled position).trans
          (finding?_of_unsettled run before position).symm
      rw [endings_concat, hypothesis.silent id before, ended?_of_same same]
      rfl
    · rw [endings_concat]
      cases ends : ended? id ⟨state, now, event⟩ with
      | none =>
        rw [Option.toList_none, List.append_nil]
        exact hypothesis.once id
      | some ending =>
        obtain ⟨turn, waits, found⟩ := ended?_eq_some ends
        obtain ⟨collection, fragments, there, before⟩ := surveying_before turn found
        rw [Option.toList_some, List.map_append, List.map_singleton]
        refine List.nodup_append.mpr ⟨hypothesis.once id, List.pairwise_singleton _ _, ?_⟩
        intro position earlier last new same
        obtain ⟨⟨other, place⟩, listed, rfl⟩ := List.mem_map.mp earlier
        cases List.mem_singleton.mp new
        -- a survey that had come to its end before would have found something
        have again : (other, ending.2) ∈ endings history id := same ▸ listed
        have complete := (hypothesis.complete id collection fragments there before _ _).mp again
        rw [State.finding?_of_surveying there before, complete] at waits
        cases waits
    · cases move.evolves here with
      | kept old =>
        have same (position : Nat) : (⟨state, now, event⟩ : Occurrence).after.finding? id position =
            state.finding? id position :=
          (State.finding?_of_surveying here surveying position).trans
            (State.finding?_of_surveying old surveying position).symm
        rw [endings_concat, ended?_of_same same, Option.toList_none, List.append_nil]
        exact hypothesis.complete id collection fragments old surveying
      | begun | refused => cases surveying
      | received hears awaited old exploring =>
        cases surveying
        intro found position
        have unsettled : ¬ Settled id state := fun settled => settled.2 _ old exploring
        have silent : ended? id ⟨state, now, event⟩ = none := by simp only [ended?, hears]
        rw [endings_concat, hypothesis.silent id unsettled, silent, List.getElem?_map]
        refine iff_of_false List.not_mem_nil fun same => ?_
        obtain ⟨candidate, _, walks⟩ := Option.map_eq_some_iff.mp same
        cases walks
      | @surveyed collection fragments position old new questions there before inside turn =>
        cases surveying
        intro found other
        have bound := (List.getElem?_eq_some_iff.mp inside).1
        have waits : state.finding? id position = none := by
          rw [State.finding?_of_surveying there before, inside]
          exact turn.found?_eq_none
        have after : (⟨state, now, event⟩ : Occurrence).after.finding? id position = new.found? := by
          have after := State.finding?_of_surveying here rfl position
          rw [List.getElem?_set_self bound] at after
          exact after
        have ends : ended? id ⟨state, now, event⟩ = new.found?.map fun found => (found, position) :=
          turn.ended? rfl waits after
        have complete := hypothesis.complete id collection fragments there before found other
        rw [endings_concat, ends, List.mem_append, complete]
        by_cases same : position = other
        · subst same
          rw [List.getElem?_set_self bound, inside]
          have idle := turn.found?_eq_none
          cases new <;> cases old <;> simp [Fragment.found?, eq_comm] at idle ⊢
        · rw [List.getElem?_set_ne same]
          refine or_iff_left fun member => ?_
          obtain ⟨_, _, equal⟩ := Option.map_eq_some_iff.mp (Option.mem_toList.mp member)
          exact same (congrArg Prod.snd equal)

/-- **Sorted by position, what the surveys have found in the order of their ends gives what the
collection has come to.** -/
theorem sorted_endings (run : Run capacity geolocating timeout interval history state)
    (sound : Sound history) {id : CollectionId} {metadata : Metadata}
    (found : state.outcome? id = some (.ok metadata)) :
    metadata = Metadata.concat (((endings history id).mergeSort (·.2 ≤ ·.2)).map Prod.fst) := by
  obtain ⟨collection, heard, candidates, here, _, _, complete⟩ := run.completed sound found
  have joined := outcome_of_complete here complete
  have ended := run.ended
  have sorted : (endings history id).mergeSort (·.2 ≤ ·.2) =
      (findings geolocating history id candidates).zipIdx := by
    refine mergeSort_eq_zipIdx (ended.once id) fun value position => ?_
    rw [ended.complete id collection _ here complete, List.getElem?_map]
    constructor
    · intro same
      obtain ⟨_, there, equal⟩ := Option.map_eq_some_iff.mp same
      cases equal
      exact there
    · intro there
      rw [there, Option.map_some]
  rw [found] at joined
  rw [sorted, List.zipIdx_map_fst]
  exact Except.ok.inj (Option.some.inj joined)

end Run

end Wayfinder.Atlas
