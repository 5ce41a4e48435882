/-
**The pace of a worker.**

A run begins when it is due or later, and it moves the next due instant by one interval at least:
from the instant at which it was due itself, or from its own beginning if it is late. So the due
instant lies at least one interval per run behind the start, and every run that has begun keeps the
later ones away by one interval each. The second bound loses the lateness that a run is forgiven,
which is the tolerance at most, and loses it once, not once per run.

On a grid of twice the tolerance this loss can be seen for one kind of intervals only. If the rest
that an interval leaves on the grid is below the tolerance, a run is on time or late by more than
the tolerance, and nothing is forgiven; if the rest is above it, the loss is less than what the
interval lacks to the next point of the grid. An interval that ends halfway between two points is
neither, and there runs do come too close (`paced_not_halfway`).

* `Steps.begins_or_keeps`: a step begins the next run or leaves the pace alone;
* `State.OnPace`, `Spaced`: the due instant against the start and against the runs so far;
* `Run.apart_by`: how far apart two runs begin;
* `Run.strict_on_grid`, `Run.apart_on_grid`: how far apart they begin on a grid;
* `Run.one_catches_up`: after a run that took too long one run begins early, and no more;
* `Run.begins_next`: a run that is due begins with the next turn of the loop;
* `Paced`, `Run.paced`: all of this for every run of a worker.
-/

import Wayfinder.Proofs.Worker.Stopping

namespace Wayfinder.Worker

variable {name : String} {interval : Duration} {began : Timestamp} {history : List Occurrence}
  {state : State}

/-! ### What a step does to the pace -/

/-- **A step begins the next run, one that is due, or it leaves the pace alone.** -/
theorem Steps.begins_or_keeps {now : Timestamp} {event : Event} {before after : State}
    {effects : Effects} (steps : Steps now event before after effects) :
    before.beat.due ≤ now ∧ .ask .loop (before.started + 1) none ∈ effects ∧
        after.started = before.started + 1 ∧ after.beat.due = before.beat.nextDue now ∨
      (∀ number, .ask .loop number none ∉ effects) ∧
        after.started = before.started ∧ after.beat.due = before.beat.due := by
  cases steps with
  | begins between untold due => exact .inl ⟨due, List.mem_singleton_self _, rfl, rfl⟩
  | exits | crashes => exact .inr ⟨by simp [rouseStopper], rfl, rfl⟩
  | _ => exact .inr ⟨by simp, rfl, rfl⟩

theorem Steps.interval_eq {now : Timestamp} {event : Event} {before after : State}
    {effects : Effects} (steps : Steps now event before after effects) :
    after.beat.interval = before.beat.interval := by
  cases steps <;> rfl

/-- The next run is due one interval after this one was due, or later. -/
theorem nextDue_ge (beat : Heartbeat) {now : Timestamp} (due : beat.due ≤ now) :
    beat.due + beat.interval ≤ beat.nextDue now := by
  unfold Heartbeat.nextDue
  split
  · exact Int.add_le_add_right due _
  · exact Int.le_refl _

/-- The next run is due one interval after this one begins, or earlier. -/
theorem nextDue_le (beat : Heartbeat) {now : Timestamp} (due : beat.due ≤ now) :
    beat.nextDue now ≤ now + beat.interval := by
  unfold Heartbeat.nextDue
  split
  · exact Int.le_refl _
  · exact Int.add_le_add_right due _

/-- What a run is forgiven is at most `slack`: it begins no later than that, or so late that the
pace moves. -/
def Forgiven (slack : Int) (due now : Timestamp) : Prop :=
  due + (Heartbeat.tolerance : Int) < now ∨ now ≤ due + slack

theorem Forgiven.nextDue {slack : Int} (nonneg : 0 ≤ slack) {beat : Heartbeat} {now : Timestamp}
    (forgiven : Forgiven slack beat.due now) :
    now + beat.interval ≤ beat.nextDue now + slack := by
  unfold Heartbeat.nextDue
  split
  · exact Int.le_add_of_nonneg_right nonneg
  · next early =>
    rcases forgiven with late | early'
    · exact absurd late early
    · grind

theorem forgiven_tolerance (due now : Timestamp) : Forgiven Heartbeat.tolerance due now :=
  Int.lt_or_le _ _

/-- One interval more. -/
theorem succ_mul_interval (count : Nat) (interval : Duration) :
    ((count + 1 : Nat) : Int) * interval = count * interval + interval := by
  rw [Int.natCast_succ, Int.add_mul, Int.one_mul]

/-- The due instant lies one interval per run behind the start, and one more. -/
structure State.OnPace (state : State) (interval : Duration) (began : Timestamp) : Prop where
  interval_eq : state.beat.interval = interval
  due_ge : began + ((state.started + 1 : Nat) : Int) * interval ≤ state.beat.due

theorem Steps.onPace {now : Timestamp} {event : Event} {before after : State} {effects : Effects}
    (steps : Steps now event before after effects) (pace : before.OnPace interval began) :
    after.OnPace interval began := by
  refine ⟨steps.interval_eq.trans pace.interval_eq, ?_⟩
  rcases steps.begins_or_keeps with ⟨due, _, started, moved⟩ | ⟨_, started, moved⟩
  · have further := nextDue_ge before.beat due
    have more := succ_mul_interval (before.started + 1) interval
    have old := pace.due_ge
    rw [pace.interval_eq] at further
    rw [started, moved]
    grind
  · rw [started, moved]
    exact pace.due_ge

theorem Run.onPace (run : Run name interval began history state) :
    state.OnPace interval began := by
  induction run with
  | initial => exact ⟨rfl, by simp [start, Heartbeat.start]⟩
  | @step history state run now event fresh hypothesis =>
    exact (Occurrence.steps ⟨state, now, event⟩).onPace hypothesis

/-! ### Runs and their instants -/

/-- The run of the job with this number has begun at an instant. -/
def Begun (history : List Occurrence) (number : Nat) (instant : Timestamp) : Prop :=
  ∃ taken ∈ history, taken.Begins number ∧ taken.now = instant

/-- The run with this number has come to its end at an instant. -/
def Done (history : List Occurrence) (number : Nat) (instant : Timestamp) : Prop :=
  ∃ taken ∈ history, taken.Completes number ∧ taken.now = instant

theorem Begun.append {number : Nat} {instant : Timestamp} (begun : Begun history number instant)
    (later : List Occurrence) : Begun (history ++ later) number instant := by
  obtain ⟨taken, member, begins⟩ := begun
  exact ⟨taken, List.mem_append_left _ member, begins⟩

theorem Begun.of_append_singleton {number : Nat} {instant : Timestamp} {last : Occurrence}
    (begun : Begun (history ++ [last]) number instant) :
    Begun history number instant ∨ last.Begins number ∧ last.now = instant := by
  obtain ⟨taken, member, begins⟩ := begun
  rcases List.mem_append.mp member with old | new
  · exact .inl ⟨taken, old, begins⟩
  · cases List.mem_singleton.mp new
    exact .inr begins

/-- The number of a run that begins is the next one. -/
theorem Occurrence.Begins.number_eq {taken : Occurrence} {number : Nat}
    (begins : taken.Begins number) : number = taken.before.started + 1 := by
  obtain ⟨_, _, _, _, started⟩ := taken.steps.of_begins begins
  rcases taken.steps.begins_or_keeps with ⟨_, _, next, _⟩ | ⟨silent, _⟩
  · exact started.symm.trans next
  · exact absurd begins (silent number)

theorem Occurrence.Begins.due {taken : Occurrence} {number : Nat} (begins : taken.Begins number) :
    taken.before.beat.due ≤ taken.now := by
  rcases taken.steps.begins_or_keeps with ⟨due, _⟩ | ⟨silent, _⟩
  · exact due
  · exact absurd begins (silent number)

theorem Begun.positive {number : Nat} {instant : Timestamp} (begun : Begun history number instant) :
    0 < number := by
  obtain ⟨taken, _, begins, _⟩ := begun
  rw [Occurrence.Begins.number_eq begins]
  exact Nat.succ_pos _

/-- Nothing is forgiven beyond `slack` in a whole history. -/
def Strict (slack : Int) (history : List Occurrence) : Prop :=
  ∀ taken ∈ history, Forgiven slack taken.before.beat.due taken.now

/-- Every run that has begun keeps the due instant away, by one interval for each run since and one
more, less what a run was forgiven. -/
def Spaced (slack : Int) (interval : Duration) (history : List Occurrence) (state : State) : Prop :=
  ∀ number instant, Begun history number instant → ∃ later, number + later = state.started ∧
    instant + ((later + 1 : Nat) : Int) * interval ≤ state.beat.due + slack

theorem Occurrence.spaced {taken : Occurrence} {slack : Int} (nonneg : 0 ≤ slack)
    (forgiven : Forgiven slack taken.before.beat.due taken.now)
    (pace : taken.before.OnPace interval began)
    (spaced : Spaced slack interval history taken.before) :
    Spaced slack interval (history ++ [taken]) taken.after := by
  intro number instant begun
  rcases taken.steps.begins_or_keeps with ⟨due, asks, started, moved⟩ | ⟨silent, started, moved⟩
  · rw [started, moved]
    rcases begun.of_append_singleton with old | ⟨begins, rfl⟩
    · obtain ⟨later, count, away⟩ := spaced number instant old
      refine ⟨later + 1, by omega, ?_⟩
      have further := nextDue_ge taken.before.beat due
      rw [pace.interval_eq] at further
      rw [succ_mul_interval]
      grind
    · refine ⟨0, begins.number_eq, ?_⟩
      have further := forgiven.nextDue nonneg
      rw [pace.interval_eq] at further
      rw [Nat.zero_add, Int.natCast_one, Int.one_mul]
      exact further
  · rw [started, moved]
    rcases begun.of_append_singleton with old | ⟨begins, _⟩
    · exact spaced number instant old
    · exact absurd begins (silent number)

theorem Run.spaced (run : Run name interval began history state) {slack : Int}
    (nonneg : 0 ≤ slack) (strict : Strict slack history) : Spaced slack interval history state := by
  induction run with
  | initial =>
    rintro number instant ⟨_, member, _⟩
    cases member
  | @step history state run now event fresh hypothesis =>
    exact Occurrence.spaced nonneg
      (strict ⟨state, now, event⟩ (List.mem_append_right _ (List.mem_singleton_self _)))
      (Run.onPace run)
      (hypothesis fun taken member => strict taken (List.mem_append_left _ member))

/-- Two runs begin one interval apart for each number from the one to the other, less `slack`. -/
def Apart (slack : Int) (interval : Duration) (history : List Occurrence) : Prop :=
  ∀ number count instant instant', Begun history number instant →
    Begun history (number + count) instant' → instant + (count : Int) * interval ≤ instant' + slack

/-- **Runs begin apart**, less what a run was forgiven. -/
theorem Run.apart_by (run : Run name interval began history state) {slack : Int}
    (nonneg : 0 ≤ slack) (strict : Strict slack history) : Apart slack interval history := by
  intro number count instant instant' one two
  induction run with
  | initial => obtain ⟨_, member, _⟩ := one; cases member
  | @step history state run now event fresh hypothesis =>
    have earlier : Strict slack history := fun taken member =>
      strict taken (List.mem_append_left _ member)
    have spaced := Run.spaced run nonneg earlier
    rcases two.of_append_singleton with old' | ⟨begins', rfl⟩
    · rcases one.of_append_singleton with old | ⟨begins, _⟩
      · exact hypothesis earlier old old'
      · -- a run that begins now comes after all others
        obtain ⟨later, started, _⟩ := spaced _ _ old'
        have next : number = state.started + 1 := begins.number_eq
        omega
    · have next' : number + count = state.started + 1 := begins'.number_eq
      rcases one.of_append_singleton with old | ⟨begins, rfl⟩
      · obtain ⟨later, started, away⟩ := spaced _ _ old
        obtain rfl : count = later + 1 := by omega
        exact Int.le_trans away (Int.add_le_add_right begins'.due slack)
      · have next : number = state.started + 1 := begins.number_eq
        obtain rfl : count = 0 := by omega
        rw [Int.natCast_zero, Int.zero_mul, Int.add_zero]
        exact Int.le_add_of_nonneg_right nonneg

/-! ### Numbers of runs -/

theorem Run.le_started (run : Run name interval began history state) {number : Nat}
    {instant : Timestamp} (begun : Begun history number instant) : number ≤ state.started := by
  obtain ⟨later, count, _⟩ :=
    run.spaced (by decide) (fun _ _ => forgiven_tolerance _ _) number instant begun
  omega

/-- Every number up to the last one has begun. -/
theorem Run.begun_of_le (run : Run name interval began history state) {number : Nat}
    (positive : 0 < number) (within : number ≤ state.started) :
    ∃ instant, Begun history number instant := by
  induction run with
  | initial => exact absurd (Nat.lt_of_lt_of_le positive within) (Nat.lt_irrefl 0)
  | @step history state run now event fresh hypothesis =>
    have old (bound : number ≤ state.started) :=
      (hypothesis bound).imp fun _ begun => begun.append [⟨state, now, event⟩]
    rcases (Occurrence.steps ⟨state, now, event⟩).begins_or_keeps with
      ⟨_, asks, started, _⟩ | ⟨_, started, _⟩
    · rcases Nat.lt_or_ge state.started number with new | bound
      · have same : number = state.started + 1 :=
          Nat.le_antisymm (Nat.le_trans within (Nat.le_of_eq started)) new
        exact ⟨now, ⟨state, now, event⟩, List.mem_append_right _ (List.mem_singleton_self _),
          same ▸ asks, rfl⟩
      · exact old bound
    · exact old (Nat.le_trans within (Nat.le_of_eq started))

/-! ### Instants on a grid -/

/-- The spacing of the grid on which steps may be taken: twice the tolerance. -/
def spacing : Duration := Duration.ofMillis 10

/-- All steps are taken on the grid that goes through the start. -/
def Gridded (began : Timestamp) (history : List Occurrence) : Prop :=
  ∀ taken ∈ history, (spacing : Int) ∣ taken.now - began

instance : Decidable (Gridded began history) :=
  inferInstanceAs (Decidable (∀ taken ∈ history, _))

/-- Whether an interval ends halfway between two points of the grid on which it begins. A run that
is due there and begins with the next point is as late as is forgiven. -/
def Halfway (interval : Duration) : Prop := interval % spacing = Heartbeat.tolerance

instance (interval : Duration) : Decidable (Halfway interval) := Nat.decEq _ _

theorem Begun.on_grid {number : Nat} {instant : Timestamp} (begun : Begun history number instant)
    (gridded : Gridded began history) : (spacing : Int) ∣ instant - began := by
  obtain ⟨taken, member, _, rfl⟩ := begun
  exact gridded taken member

/-- A run that is due a duration before a point of the grid is on time or late by more than the
tolerance, if less than the tolerance of the duration lies beyond the grid. -/
theorem late_or_exact {late : Int} {duration : Nat}
    (small : duration % spacing < Heartbeat.tolerance)
    (aligned : (spacing : Int) ∣ late + duration) (nonneg : 0 ≤ late) :
    (Heartbeat.tolerance : Int) < late ∨ late = 0 := by
  change duration % 10000000 < 5000000 at small
  change (10000000 : Int) ∣ late + duration at aligned
  change (5000000 : Int) < late ∨ late = 0
  omega

/-- A gap on the grid that is shorter than a duration by the tolerance at most is not shorter, if the
duration is a multiple of the spacing or more than the tolerance beyond one. -/
theorem le_of_le_tolerance {gap : Int} {duration : Nat} (aligned : (spacing : Int) ∣ gap)
    (large : duration % spacing = 0 ∨ Heartbeat.tolerance < duration % spacing)
    (close : (duration : Int) ≤ gap + Heartbeat.tolerance) : (duration : Int) ≤ gap := by
  change (10000000 : Int) ∣ gap at aligned
  change duration % 10000000 = 0 ∨ 5000000 < duration % 10000000 at large
  change (duration : Int) ≤ gap + 5000000 at close
  omega

/-- A due instant is one interval behind a point of the grid. -/
def Aligned (began due : Timestamp) (interval : Duration) : Prop :=
  (spacing : Int) ∣ due - began - interval

/-- **An interval with a small rest: a run is on time or moves the pace.** -/
theorem Aligned.forgiven {due now : Timestamp} (aligned : Aligned began due interval)
    (small : interval % spacing < Heartbeat.tolerance) (here : (spacing : Int) ∣ now - began) :
    Forgiven 0 due now := by
  unfold Forgiven
  rw [Int.add_zero]
  rcases Int.lt_or_le now due with early | reached
  · exact .inr (Int.le_of_lt early)
  have lateness : (spacing : Int) ∣ now - due + interval := by
    have difference := Int.dvd_sub here aligned
    rwa [show now - began - (due - began - interval) = now - due + interval by grind] at difference
  rcases late_or_exact small lateness (Int.sub_nonneg_of_le reached) with late | exact
  · exact .inl (Int.add_lt_of_lt_sub_left late)
  · exact .inr (Int.le_of_eq (Int.eq_of_sub_eq_zero exact))

theorem Steps.aligned {now : Timestamp} {event : Event} {before after : State} {effects : Effects}
    (steps : Steps now event before after effects) (pace : before.OnPace interval began)
    (small : interval % spacing < Heartbeat.tolerance) (here : (spacing : Int) ∣ now - began)
    (aligned : Aligned began before.beat.due interval) :
    Aligned began after.beat.due interval := by
  rcases steps.begins_or_keeps with ⟨due, _, _, moved⟩ | ⟨_, _, moved⟩
  · have least := (aligned.forgiven small here).nextDue (Int.le_refl 0)
    have most := nextDue_le before.beat due
    rw [pace.interval_eq] at least most
    have same : after.beat.due = now + interval := by grind
    unfold Aligned
    rwa [same, show now + (interval : Int) - began - interval = now - began by grind]
  · rwa [moved]

theorem Run.aligned (run : Run name interval began history state) (gridded : Gridded began history)
    (small : interval % spacing < Heartbeat.tolerance) :
    Aligned began state.beat.due interval := by
  induction run with
  | initial =>
    unfold Aligned
    rw [show (start name interval began).1.beat.due - began - interval = 0 by
      simp only [start, Heartbeat.start]; grind]
    exact Int.dvd_zero _
  | @step history state run now event fresh hypothesis =>
    refine (Occurrence.steps ⟨state, now, event⟩).aligned (Run.onPace run) small
      (gridded _ (List.mem_append_right _ (List.mem_singleton_self _))) ?_
    exact hypothesis fun taken member => gridded taken (List.mem_append_left _ member)

/-- **Nothing is forgiven on the grid if the interval has a small rest.** -/
theorem Run.strict_on_grid (run : Run name interval began history state)
    (gridded : Gridded began history) (small : interval % spacing < Heartbeat.tolerance) :
    Strict 0 history := by
  intro taken member
  obtain ⟨position, here⟩ := List.mem_iff_getElem?.mp member
  have aligned := Run.aligned (run.take here)
    (fun earlier before => gridded earlier (List.mem_of_mem_take before)) small
  exact aligned.forgiven small (gridded taken member)

/-- **On the grid runs begin apart, and nothing is lost**, unless the interval ends halfway. -/
theorem Run.apart_on_grid (run : Run name interval began history state)
    (gridded : Gridded began history) (fair : ¬ Halfway interval) : Apart 0 interval history := by
  rcases Nat.lt_or_gt_of_ne fair with small | large
  · exact run.apart_by (Int.le_refl 0) (run.strict_on_grid gridded small)
  have loose : Apart Heartbeat.tolerance interval history :=
    run.apart_by (by decide) fun _ _ => forgiven_tolerance _ _
  -- what is lost between two neighbours is less than a spacing
  have round {number count : Nat} {instant instant' : Timestamp}
      (one : Begun history number instant) (two : Begun history (number + count) instant')
      (rest : count * interval % spacing = 0 ∨ Heartbeat.tolerance < count * interval % spacing) :
      instant + (count : Int) * interval ≤ instant' := by
    have gap : (spacing : Int) ∣ instant' - instant := by
      have difference := Int.dvd_sub (two.on_grid gridded) (one.on_grid gridded)
      rwa [show instant' - began - (instant - began) = instant' - instant by grind] at difference
    have close := loose number count instant instant' one two
    have whole := le_of_le_tolerance gap rest (by rw [Int.natCast_mul]; grind)
    rw [Int.natCast_mul] at whole
    grind
  intro number count instant instant' one two
  induction count generalizing instant' with
  | zero =>
    rw [Int.add_zero]
    exact round one two (.inl (by rw [Nat.zero_mul]; rfl))
  | succ count hypothesis =>
    obtain ⟨middle, between⟩ := run.begun_of_le (Nat.add_pos_left one.positive count)
      (Nat.le_trans (Nat.le_succ _) (run.le_started two))
    have first := hypothesis middle between
    have second := @round (number + count) 1 middle instant' between two
      (.inr (by rwa [Nat.one_mul]))
    rw [succ_mul_interval]
    grind

/-! ### Runs that take too long -/

/-- Instants never go back. -/
def Forward (history : List Occurrence) : Prop := history.Pairwise (·.now ≤ ·.now)

instance : Decidable (Forward history) := inferInstanceAs (Decidable (history.Pairwise _))

/-- A run has ended before a later one begins. -/
theorem Run.done_before (run : Run name interval began history state) (forward : Forward history)
    {number next : Nat} {ended instant : Timestamp} (done : Done history number ended)
    (begun : Begun history next instant) (later : number < next) : ended ≤ instant := by
  induction run with
  | initial => obtain ⟨_, member, _⟩ := begun; cases member
  | @step history state run now event fresh hypothesis =>
    obtain ⟨forward', _, last⟩ := List.pairwise_append.mp forward
    obtain ⟨taken, member, completes, rfl⟩ := done
    rcases begun.of_append_singleton with old | ⟨begins, rfl⟩
    · rcases List.mem_append.mp member with old' | new
      · exact hypothesis forward' ⟨taken, old', completes, rfl⟩ old
      · -- the run that ends now is the last one that has begun
        cases List.mem_singleton.mp new
        have bound := Run.le_started run old
        have running : state.started = number := completes.2.1.2
        omega
    · rcases List.mem_append.mp member with old' | new
      · exact last taken old' _ (List.mem_singleton_self _)
      · cases List.mem_singleton.mp new
        have turn := (Occurrence.steps _).of_begins begins |>.1
        exact absurd (completes.1.symm.trans turn) (by decide)

/-- After a run that has taken longer than an interval, no more than one begins before another
interval has gone by, less `slack`. -/
def OneCatchesUp (slack : Int) (interval : Duration) (history : List Occurrence) : Prop :=
  ∀ number started ended, Begun history number started → Done history number ended →
    started + interval < ended → ∀ next instant, Begun history next instant → number < next →
    instant + slack < ended + interval → next = number + 1

/-- **Where runs begin apart, one run catches up**, however long the run before has taken. -/
theorem Run.one_catches_up (run : Run name interval began history state)
    (forward : Forward history) {slack : Int} (apart : Apart slack interval history) :
    OneCatchesUp slack interval history := by
  intro number started ended _ done _ next instant begun later soon
  refine Nat.le_antisymm (Nat.le_of_not_lt fun beyond => ?_) later
  obtain ⟨between, first⟩ := run.begun_of_le (Nat.succ_pos number)
    (Nat.le_trans (Nat.le_of_lt beyond) (run.le_started begun))
  obtain ⟨count, rfl⟩ := Nat.exists_eq_add_of_lt beyond
  have behind := run.done_before forward done first (Nat.lt_succ_self number)
  have away : between + ((count + 1 : Nat) : Int) * interval ≤ instant + slack :=
    apart (number + 1) (count + 1) between instant first begun
  have more := succ_mul_interval count interval
  have some : (0 : Int) ≤ (count : Int) * interval := Int.natCast_nonneg (count * interval)
  grind

/-! ### Turns of the loop -/

/-- The instant from which the loop counts: its start, and from the first run on the beginning of
the last one. -/
def CountsFrom (began : Timestamp) (history : List Occurrence) (state : State)
    (instant : Timestamp) : Prop :=
  state.started = 0 ∧ instant = began ∨ Begun history state.started instant

theorem Occurrence.due_le {taken : Occurrence} (pace : taken.before.OnPace interval began)
    (bound : ∀ number instant, Begun history number instant → number ≤ taken.before.started)
    (due_le : ∀ instant, CountsFrom began history taken.before instant →
      taken.before.beat.due ≤ instant + interval)
    {instant : Timestamp} (counts : CountsFrom began (history ++ [taken]) taken.after instant) :
    taken.after.beat.due ≤ instant + interval := by
  unfold CountsFrom at counts
  rcases taken.steps.begins_or_keeps with ⟨due, _, started, moved⟩ | ⟨silent, started, moved⟩
  · rw [started] at counts
    rcases counts with ⟨none, _⟩ | begun
    · exact absurd none (Nat.succ_ne_zero _)
    rcases begun.of_append_singleton with old | ⟨_, rfl⟩
    · exact absurd (bound _ _ old) (Nat.not_succ_le_self _)
    · rw [moved, ← pace.interval_eq]
      exact nextDue_le _ due
  · rw [started] at counts
    rw [moved]
    rcases counts with first | begun
    · exact due_le instant (.inl first)
    rcases begun.of_append_singleton with old | ⟨begins, _⟩
    · exact due_le instant (.inr old)
    · exact absurd begins (silent _)

/-- The next run is due one interval after the last one has begun, or earlier. -/
theorem Run.due_le (run : Run name interval began history state) {instant : Timestamp}
    (counts : CountsFrom began history state instant) : state.beat.due ≤ instant + interval := by
  induction run generalizing instant with
  | initial =>
    rcases counts with ⟨_, rfl⟩ | ⟨_, member, _⟩
    · exact Int.le_refl _
    · cases member
  | @step history state run now event fresh hypothesis =>
    exact Occurrence.due_le (Run.onPace run) (fun _ _ => Run.le_started run)
      (fun _ => hypothesis) counts

/-- **A loop that has not been told to stop begins the next run in the first turn that it gets an
interval after the last one has begun.** -/
theorem Run.begins_next (run : Run name interval began history state)
    (between : state.beat.phase = .waiting) (untold : state.beat.signalled = false)
    {instant now : Timestamp} (counts : CountsFrom began history state instant)
    (elapsed : instant + interval ≤ now) :
    (step now .turn state).2 = [.ask .loop (state.started + 1) none] := by
  have due : state.beat.due ≤ now := Int.le_trans (run.due_le counts) elapsed
  simp [step, proceed, Heartbeat.turn, between, untold, due]

/-! ### Workers on pace -/

/-- **How a worker keeps its pace, however long its runs take and however late its loop gets its
turns.** -/
structure Paced (interval : Duration) (began : Timestamp) (history : List Occurrence)
    (state : State) : Prop where
  /-- A run begins no earlier than its number of intervals after the start. -/
  not_before : ∀ number instant, Begun history number instant →
    began + (number : Int) * interval ≤ instant
  /-- On the grid one run begins an interval after the other, or later, unless the interval ends
  halfway. -/
  apart : Gridded began history → ¬ Halfway interval → ∀ number instant instant',
    Begun history number instant → Begun history (number + 1) instant' →
    instant + interval ≤ instant'
  /-- Whatever the interval is and wherever the steps are taken, runs begin apart less the
  tolerance. -/
  spaced : Apart Heartbeat.tolerance interval history
  /-- On the grid one run catches up, unless the interval ends halfway. -/
  no_burst : Gridded began history → ¬ Halfway interval → Forward history →
    OneCatchesUp 0 interval history
  /-- Whatever the interval is and wherever the steps are taken, one run catches up before the
  interval less the tolerance has gone by. -/
  no_dense_burst : Forward history → OneCatchesUp Heartbeat.tolerance interval history
  /-- That one begins as soon as the loop gets a turn, as does every run that is due. -/
  begins_next : state.beat.phase = .waiting → state.beat.signalled = false →
    ∀ instant now, CountsFrom began history state instant → instant + interval ≤ now →
    (step now .turn state).2 = [.ask .loop (state.started + 1) none]

theorem Run.not_before (run : Run name interval began history state) {number : Nat}
    {instant : Timestamp} (begun : Begun history number instant) :
    began + (number : Int) * interval ≤ instant := by
  obtain ⟨taken, member, begins, rfl⟩ := begun
  obtain ⟨position, here⟩ := List.mem_iff_getElem?.mp member
  have pace := Run.onPace (run.take here)
  rw [begins.number_eq]
  exact Int.le_trans pace.due_ge begins.due

/-- **Every worker keeps its pace.** -/
theorem Run.paced (run : Run name interval began history state) :
    Paced interval began history state := by
  have spaced : Apart Heartbeat.tolerance interval history :=
    run.apart_by (by decide) fun _ _ => forgiven_tolerance _ _
  exact {
    spaced
    not_before := fun _ _ begun => run.not_before begun
    apart := fun gridded fair number instant instant' one two => by
      have apart := run.apart_on_grid gridded fair number 1 instant instant' one two
      rwa [Int.natCast_one, Int.one_mul, Int.add_zero] at apart
    no_burst := fun gridded fair forward =>
      run.one_catches_up forward (run.apart_on_grid gridded fair)
    no_dense_burst := fun forward => run.one_catches_up forward spaced
    begins_next := fun between untold _ _ counts elapsed =>
      run.begins_next between untold counts elapsed }

/-- The history of a worker with an interval in milliseconds, for steps at given milliseconds. -/
def sampled (interval : Nat) (steps : List (Timestamp × Event)) : List Occurrence :=
  automaton.replay (start "probe" (Duration.ofMillis interval) 0).1
    (steps.map fun step => (step.1 * 1000000, step.2))

/-- A loop of 18 milliseconds whose first run is late and forgiven, whose second one takes more than
four intervals, and whose third one begins at once after it. -/
def overrun : List Occurrence :=
  sampled 18 [(20, .turn), (30, .answer .finished), (40, .turn), (120, .answer .finished),
    (120, .turn), (120, .answer .finished), (130, .turn), (140, .turn)]

theorem paced_overrun :
    Gridded 0 overrun ∧ ¬ Halfway (Duration.ofMillis 18) ∧ Forward overrun ∧
      Begun overrun 1 20000000 ∧ Begun overrun 2 40000000 ∧ Done overrun 2 120000000 ∧
      Begun overrun 3 120000000 ∧ Begun overrun 4 140000000 ∧
      (0 : Int) + (2 : Nat) * Duration.ofMillis 18 ≤ 40000000 ∧
      (20000000 : Int) + Duration.ofMillis 18 ≤ 40000000 ∧
      (∀ next instant, Begun overrun next instant → 2 < next →
        instant + 0 < 120000000 + (Duration.ofMillis 18 : Int) → next = 3) := by
  have run : Run "probe" (Duration.ofMillis 18) 0 overrun _ :=
    Automaton.Run.of_replay automaton _ _ (by decide)
  have paced := run.paced
  have gridded : Gridded 0 overrun := by decide +kernel
  have fair : ¬ Halfway (Duration.ofMillis 18) := by decide
  have forward : Forward overrun := by decide +kernel
  have first : Begun overrun 1 20000000 := ⟨_, List.mem_of_getElem? (i := 0) rfl, .head _, rfl⟩
  have second : Begun overrun 2 40000000 := ⟨_, List.mem_of_getElem? (i := 2) rfl, .head _, rfl⟩
  have done : Done overrun 2 120000000 :=
    ⟨_, List.mem_of_getElem? (i := 3) rfl, ⟨rfl, ⟨rfl, rfl⟩, rfl, rfl⟩, rfl⟩
  have third : Begun overrun 3 120000000 := ⟨_, List.mem_of_getElem? (i := 4) rfl, .head _, rfl⟩
  have fourth : Begun overrun 4 140000000 := ⟨_, List.mem_of_getElem? (i := 7) rfl, .head _, rfl⟩
  exact ⟨gridded, fair, forward, first, second, done, third, fourth,
    paced.not_before 2 _ second,
    paced.apart gridded fair 1 _ _ first second,
    paced.no_burst gridded fair forward 2 _ _ second done (by decide)⟩

/-- A loop of 15 milliseconds whose first run begins with the first point of the grid after it is
due. -/
def halfLate : List Occurrence :=
  sampled 15 [(20, .turn), (20, .answer .finished), (30, .turn)]

/-- A loop of 5 milliseconds whose first run is late, takes 10 milliseconds and is followed by two. -/
def halfBurst : List Occurrence :=
  sampled 5 [(20, .turn), (30, .answer .finished), (30, .turn), (30, .answer .finished),
    (30, .turn)]

/-- **Intervals that end halfway are not kept**: a run begins 10 milliseconds after the one before it
though the interval has 15, and with one of 5 two runs begin at the end of a run that was too
long. -/
theorem paced_not_halfway :
    ((∃ state, Run "probe" (Duration.ofMillis 15) 0 halfLate state) ∧ Gridded 0 halfLate ∧
      Forward halfLate ∧ Begun halfLate 1 20000000 ∧ Begun halfLate 2 30000000 ∧
      ¬ (20000000 : Int) + Duration.ofMillis 15 ≤ 30000000) ∧
    ((∃ state, Run "probe" (Duration.ofMillis 5) 0 halfBurst state) ∧ Gridded 0 halfBurst ∧
      Forward halfBurst ∧ Begun halfBurst 1 20000000 ∧ Done halfBurst 1 30000000 ∧
      (20000000 : Int) + Duration.ofMillis 5 < 30000000 ∧
      Begun halfBurst 2 30000000 ∧ Begun halfBurst 3 30000000) := by
  refine ⟨⟨⟨_, Automaton.Run.of_replay automaton _ _ (by decide)⟩, by decide +kernel,
    by decide +kernel, ⟨_, List.mem_of_getElem? (i := 0) rfl, .head _, rfl⟩,
    ⟨_, List.mem_of_getElem? (i := 2) rfl, .head _, rfl⟩, by decide⟩,
    ⟨⟨_, Automaton.Run.of_replay automaton _ _ (by decide)⟩, by decide +kernel,
    by decide +kernel, ⟨_, List.mem_of_getElem? (i := 0) rfl, .head _, rfl⟩,
    ⟨_, List.mem_of_getElem? (i := 1) rfl, ⟨rfl, ⟨rfl, rfl⟩, rfl, rfl⟩, rfl⟩, by decide,
    ⟨_, List.mem_of_getElem? (i := 2) rfl, .head _, rfl⟩,
    ⟨_, List.mem_of_getElem? (i := 4) rfl, .head _, rfl⟩⟩⟩

end Wayfinder.Worker
