/-
**Marks that move backwards.**

A call reads the generation first and looks at the marks later. A purge in between makes it late: it
takes a mark of another generation for one of an earlier call and puts its own in the place, of an
older generation than the one it displaces. From then on two calls can lead in the present
generation, and as a mark is taken away by its generation, the one can take away the mark of the
other.

Nothing else moves a mark backwards or takes away that of another call. As long as no call is late
for a destination, whoever leads in the present generation holds its mark.

* `Overtaken`: a call begins to lead after a purge has overtaken it;
* `Run.sole`: without such a call leading calls for a destination exclude each other;
* `Run.slots`: how the mark of a destination changes, and who takes it away;
* `Run.not_overtaken`, `Run.slots_uninterrupted`: a result of its own, that purges are the only cause:
  in uninterrupted runs no call is late, and marks move forwards only;
* `slots_not_forward`: marks can move backwards, and be taken away by others.
-/

import Wayfinder.Proofs.Resolver.Replay

namespace Wayfinder.Resolver

/-! ### Late calls -/

/-- In the step at a position a call begins to lead to a destination, though a purge has come since
it read the generation. -/
def Overtaken (history : List Occurrence) (position : Nat) (id : CallId) (dst : Node) : Prop :=
  ∃ (generation : UInt64) (read purged : Nat), At history read (·.Reads id dst generation) ∧
    At history purged (·.event = .purge) ∧ read ≤ purged ∧ purged < position ∧
    At history position fun occurrence => occurrence.Leads id dst ⟨generation, occurrence.now⟩

theorem Overtaken.append {history : List Occurrence} {position : Nat} {id : CallId} {dst : Node}
    (overtaken : Overtaken history position id dst) (later : List Occurrence) :
    Overtaken (history ++ later) position id dst := by
  obtain ⟨generation, read, purged, reads, purge, after, before, leads⟩ := overtaken
  exact ⟨generation, read, purged, reads.append later, purge.append later, after, before,
    leads.append later⟩

theorem Overtaken.of_take {history : List Occurrence} {count position : Nat} {id : CallId}
    {dst : Node} (overtaken : Overtaken (history.take count) position id dst) :
    position < count ∧ Overtaken history position id dst := by
  have whole := overtaken.append (history.drop count)
  rw [List.take_append_drop] at whole
  obtain ⟨_, _, _, _, _, _, _, leads⟩ := overtaken
  exact ⟨leads.of_take.1, whole⟩

namespace Run

variable {capacity : Nat} {timeout : Duration} {history : List Occurrence} {state : State}
  {dst : Node} {position : Nat}

/-- **A new mark of another generation than the present one is that of a late call.** -/
theorem overtaken_of_marker (run : Run capacity timeout history state)
    (few : purges history < UInt64.size) {occurrence : Occurrence}
    (here : history[position]? = some occurrence) {marker : Marker}
    (found : occurrence.after.markers.get? dst = some marker)
    (new : occurrence.before.markers.get? dst ≠ some marker)
    (other : marker.generation ≠ occurrence.before.cache.generation) :
    Overtaken history position marker.leader dst := by
  have earlier := run.take here
  have least : purges (history.take position) < UInt64.size :=
    Nat.lt_of_le_of_lt (purges_take_le ..) few
  rcases occurrence.move.marker_before found with old | ⟨event, joining, _, asked⟩
  · exact absurd old new
  obtain ⟨read, reads⟩ := earlier.documented.calls _ _ joining
  obtain ⟨past, reads'⟩ := reads.of_take
  -- the generation counts the purges, and more of them have come by now than when it was read
  have counted : marker.generation.toNat = purges (history.take read) := by
    rw [earlier.generation_at least (reads.mono fun _ reads => reads.2.2), List.take_take,
      Nat.min_eq_left (Nat.le_of_lt past)]
  have present := earlier.generation_toNat least
  have more : purges (history.take read) < purges (history.take position) := by
    refine Nat.lt_of_le_of_ne ?_ fun same => other (UInt64.toNat_inj.mp ?_)
    · have shorter := purges_take_le (history.take position) read
      rwa [List.take_take, Nat.min_eq_left (Nat.le_of_lt past)] at shorter
    · rw [counted, present, same]
  obtain ⟨purged, after, before, purge⟩ := purge_of_take_lt more
  exact ⟨marker.generation, read, purged, reads', purge, after, before, occurrence, here,
    event, joining, rfl, asked⟩

/-- **As long as no call is late for a destination, leading calls for it exclude each other.** -/
theorem sole (run : Run capacity timeout history state) (few : purges history < UInt64.size)
    (punctual : ∀ position id, ¬ Overtaken history position id dst) : Sole dst state := by
  induction run with
  | initial =>
    constructor
    · intro id lead found
      cases found
    · intro id other lead lead' found
      cases found
  | @step history state run now event fresh hypothesis =>
    have sole := hypothesis
      (Nat.lt_of_le_of_lt (by rw [purges_append]; exact Nat.le_add_right ..) few)
      fun position id overtaken => punctual position id (overtaken.append _)
    refine sole.step (move_step now event state) (leadChange run fresh now)
      (fun purge id lead marking => generation_ne run (purge ▸ few) marking) ?_
    intro marker found new
    by_cases current : marker.generation = state.cache.generation
    · exact current
    · exact absurd (overtaken_of_marker (run.step now event fresh) few List.getElem?_concat_length
        found new current) (punctual _ _)

end Run

/-! ### How marks change -/

/-- A mark that is gone after a step was that of a destination and a generation to which some call
leads, which has told its outcome or was given up. -/
theorem Move.unmarks {now : Timestamp} {state after : State} {event : Event} {effects : Effects}
    (move : Move now state event after effects) {dst : Node} {marker : Marker}
    (here : state.markers.get? dst = some marker) (gone : after.markers.get? dst = none) :
    ∃ id lead, state.marking? id = some (dst, lead) ∧ lead.generation = marker.generation ∧
      (event = .proceed (.call id) ∨ event = .cancel id) := by
  have matched {place : Node} {lead : Lead}
      (gone : (state.unmark place lead.generation).markers.get? dst = none) :
      place = dst ∧ lead.generation = marker.generation := by
    rw [State.get?_unmark_markers, here] at gone
    split at gone
    · next matched => exact ⟨matched.1, (Option.some.inj matched.2).symm⟩
    · cases gone
  cases move with
  | lead =>
    rw [lead_markers, Table.get?_put] at gone
    split at gone
    · cases gone
    · rw [here] at gone
      cases gone
  | release calling =>
    obtain ⟨rfl, same⟩ := matched gone
    exact ⟨_, _, leadOf_eq_some.mpr ⟨_, calling, rfl⟩, same, Or.inl rfl⟩
  | abandon calling leading =>
    obtain ⟨rfl, same⟩ := matched gone
    exact ⟨_, _, leadOf_eq_some.mpr ⟨_, calling, leading⟩, same, Or.inr rfl⟩
  | _ => cases here.symm.trans gone

/-- The step changes the mark of a destination. -/
def Occurrence.Replaces (occurrence : Occurrence) (dst : Node) (old new : Marker) : Prop :=
  occurrence.before.markers.get? dst = some old ∧ occurrence.after.markers.get? dst = some new ∧
    old ≠ new

/-- The step takes the mark of a destination away. -/
def Occurrence.Removes (occurrence : Occurrence) (dst : Node) (old : Marker) : Prop :=
  occurrence.before.markers.get? dst = some old ∧ occurrence.after.markers.get? dst = none

/-- The step is a turn of a call, or its end before its time. -/
def Occurrence.Concerns (occurrence : Occurrence) (id : CallId) : Prop :=
  occurrence.event = .proceed (.call id) ∨ occurrence.event = .cancel id

namespace Run

variable {capacity : Nat} {timeout : Duration} {history : List Occurrence} {state : State}
  {dst : Node} {position : Nat} {old new : Marker}

/-- **A mark is displaced by one of a later generation, or by that of a late call.** -/
theorem replaced (run : Run capacity timeout history state) (few : purges history < UInt64.size)
    (replaces : At history position (·.Replaces dst old new)) :
    old.generation < new.generation ∨ Overtaken history position new.leader dst := by
  obtain ⟨occurrence, earlier, here, before, after, differs⟩ := run.take_of_at replaces
  have displaced : occurrence.before.markers.get? dst ≠ some new := by
    rw [before]
    exact fun same => differs (Option.some.inj same)
  by_cases current : new.generation = occurrence.before.cache.generation
  · refine Or.inl (UInt64.lt_iff_toNat_lt.mpr ?_)
    have least : purges (history.take position) < UInt64.size :=
      Nat.lt_of_le_of_lt (purges_take_le ..) few
    obtain ⟨lead, marking, same⟩ := earlier.linked.marked dst old before
    have bound := earlier.generation_le least (State.telling?_of_marking? marking)
    rw [same, ← earlier.generation_toNat least, ← current] at bound
    refine Nat.lt_of_le_of_ne bound fun equal => ?_
    rcases occurrence.move.marker_before after with kept | ⟨_, _, unmarked, _⟩
    · exact displaced kept
    · rw [← UInt64.toNat_inj.mp equal] at unmarked
      exact unmarked old.leader before
  · exact Or.inr (run.overtaken_of_marker few here after displaced current)

/-- **A mark is taken away by the call that it belongs to**, unless a call has been late for the
destination before. -/
theorem removed (run : Run capacity timeout history state) (few : purges history < UInt64.size)
    (removes : At history position (·.Removes dst old)) :
    At history position (·.Concerns old.leader) ∨
      ∃ earlier < position, ∃ id, Overtaken history earlier id dst := by
  obtain ⟨occurrence, earlier, here, before, gone⟩ := run.take_of_at removes
  by_cases late : ∃ earlier id, Overtaken (history.take position) earlier id dst
  · obtain ⟨late, id, overtaken⟩ := late
    exact Or.inr ⟨late, overtaken.of_take.1, id, overtaken.of_take.2⟩
  · have sole : Sole dst occurrence.before :=
      earlier.sole (Nat.lt_of_le_of_lt (purges_take_le ..) few)
        fun position id overtaken => late ⟨position, id, overtaken⟩
    obtain ⟨owner, marking, same⟩ := earlier.linked.marked dst old before
    obtain ⟨id, lead, marking', same', event⟩ := occurrence.move.unmarks before gone
    obtain rfl := sole.single _ _ _ _ marking' marking (same'.trans same.symm)
    exact Or.inl ⟨occurrence, here, event⟩

/-- **How marks change.** In every run with fewer than `2 ^ 64` purges

* the mark of a destination is displaced by one of a later generation, or by that of a call that a
  purge has overtaken since it read the generation;
* it is taken away by the call that it belongs to, unless a call that was so overtaken has put its
  mark for that destination before. -/
theorem slots (run : Run capacity timeout history state) (few : purges history < UInt64.size) :
    (∀ position dst old new, At history position (·.Replaces dst old new) →
      old.generation < new.generation ∨ Overtaken history position new.leader dst) ∧
    ∀ position dst old, At history position (·.Removes dst old) →
      At history position (·.Concerns old.leader) ∨
        ∃ earlier < position, ∃ id, Overtaken history earlier id dst :=
  ⟨fun _ _ _ _ replaces => run.replaced few replaces,
    fun _ _ _ removes => run.removed few removes⟩

/-- Where nothing comes in between, no call is late. -/
theorem not_overtaken (run : Run capacity timeout history state)
    (uninterrupted : Uninterrupted history) (few : purges history < UInt64.size) {id : CallId} :
    ¬ Overtaken history position id dst := by
  rintro ⟨generation, read, purged, reads, purge, after, before, leads⟩
  obtain ⟨occurrence, here, _, joining, _⟩ := leads
  have exclusive := run.exclusive_take uninterrupted few here
  have current := exclusive.joining id dst generation joining
  have earlier := run.purged_lt few (reads.mono fun _ reads => reads.2.2)
    ⟨occurrence, here, current.symm⟩ purge before
  exact Nat.not_lt.mpr after earlier

/-- **Where nothing comes in between a lookup and the access to the marks, marks move forwards only,
and each is taken away by its own call.** -/
theorem slots_uninterrupted (run : Run capacity timeout history state)
    (uninterrupted : Uninterrupted history) (few : purges history < UInt64.size) :
    (∀ position dst old new, At history position (·.Replaces dst old new) →
      old.generation < new.generation) ∧
    ∀ position dst old, At history position (·.Removes dst old) →
      At history position (·.Concerns old.leader) := by
  constructor
  · intro position dst old new replaces
    rcases run.replaced few replaces with forward | overtaken
    · exact forward
    · exact absurd overtaken (run.not_overtaken uninterrupted few)
  · intro position dst old removes
    rcases run.removed few removes with own | ⟨_, _, _, overtaken⟩
    · exact own
    · exact absurd overtaken (run.not_overtaken uninterrupted few)

end Run

/-! ### A late call -/

/-- The first call reads the generation, and a purge overtakes it. The second one leads in the new
generation, and the late first one displaces its mark. The third call finds no mark of the present
generation and leads as well. When the second one is given up, it takes the mark of the third one
away. -/
def outrun : List Occurrence :=
  automaton.replay (.initial 4 100) <|
    [(0, .start 0 "7-71"), (0, .proceed (.call 0)), (0, .proceed (.call 0)), (0, .purge)] ++
      turns 0 1 "7-71" ++ (0, .proceed (.call 0)) :: turns 0 2 "7-71" ++ [(0, .cancel 1)]

theorem outrun_run : ∃ state, Run 4 100 outrun state := ⟨_, Run.of_replay 4 100 _ (by decide)⟩

theorem outrun_replaces : At outrun 8 (·.Replaces sampleDst ⟨1, 1⟩ ⟨0, 0⟩) :=
  ⟨_, rfl, by decide +kernel, by decide +kernel, by decide⟩

theorem outrun_removes : At outrun 13 (·.Removes sampleDst ⟨1, 2⟩) :=
  ⟨_, rfl, by decide +kernel, by decide +kernel⟩

theorem outrun_cancels : ¬ At outrun 13 (·.Concerns 2) := by
  rintro ⟨occurrence, here, concerns⟩
  cases here
  rcases concerns with turn | cancelled
  · cases turn
  · cases cancelled

/-- In that run the first call is late, and it was so before the third one lost its mark. -/
theorem slots_outrun : Overtaken outrun 8 0 sampleDst ∧
    ∃ earlier < 13, ∃ id, Overtaken outrun earlier id sampleDst := by
  obtain ⟨state, run⟩ := outrun_run
  obtain ⟨replaced, removed⟩ := run.slots (by decide +kernel)
  constructor
  · rcases replaced 8 sampleDst _ _ outrun_replaces with forward | overtaken
    · exact absurd forward (by decide)
    · exact overtaken
  · rcases removed 13 sampleDst _ outrun_removes with own | overtaken
    · exact absurd own outrun_cancels
    · exact overtaken

/-- **Marks can move backwards, and a call can take away the mark of another one.** -/
theorem slots_not_forward :
    (¬ ∀ history state, Run 4 100 history state → purges history < UInt64.size →
      ∀ position dst old new, At history position (·.Replaces dst old new) →
        old.generation < new.generation) ∧
    ¬ ∀ history state, Run 4 100 history state → purges history < UInt64.size →
      ∀ position dst old, At history position (·.Removes dst old) →
        At history position (·.Concerns old.leader) := by
  obtain ⟨state, run⟩ := outrun_run
  constructor
  · intro forward
    have less := forward outrun state run (by decide +kernel) 8 _ _ _ outrun_replaces
    exact absurd less (by decide)
  · intro own
    exact outrun_cancels (own outrun state run (by decide +kernel) 13 _ _ outrun_removes)

end Wayfinder.Resolver
