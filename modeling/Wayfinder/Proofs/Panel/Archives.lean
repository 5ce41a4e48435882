/-
**Archives in the panel.**

A call that opens the sources has one turn at an archive. In it everything is read; then the archive
takes over what has been loaded, or the call fails and the archive is as it was. Nothing else that
the panel does changes what an archive has loaded, and neither does a change of the files. So a call
that fetches finds, at every instant, what the latest opening that succeeded has loaded, and that can
be told from the entries of the directory without their order (`Archive.Loads`).

* `Disk.automaton`, `Disk.Run`: the panel, with files that change in between;
* `Turn.open_eq`, `Turn.fetch_eq`: what a call does at an archive;
* `Turn.fails`, `Turn.succeeds`, `Turn.fetches`: how that ends;
* `Meets`, `meets`: what any step does to an archive;
* `Current`, `Run.current`: what an archive has loaded in a run;
* `Served`, `Course.serves_atomically`: all openings and requests of a run.
-/

import Wayfinder.Proofs.Archive.Loading
import Wayfinder.Proofs.Panel.Fetching
import Wayfinder.Proofs.Service.Parts

namespace Wayfinder.Panel.Disk

/-! ### The panel and the files -/

/-- What can happen. -/
inductive Event where
  | panel (event : Panel.Event)
  /-- The files of the archive at a position change. -/
  | change (position : Nat) (listing : Listing)

/-- The panel after a change of the files of an archive. -/
def change (position : Nat) (listing : Listing) (state : State) : State :=
  match state.sources[position]? with
  | some (.archive archive) => state.replace position (.archive (archive.showing listing))
  | _ => state

/-- One step. -/
def step (now : Timestamp) (event : Event) (state : State) : State × Effects :=
  match event with
  | .panel event => Panel.step now event state
  | .change position listing => (change position listing state, [])

/-- The number of the call that an event begins. -/
def beginning? : Event → Option CallId
  | .panel (.start id _) => some id
  | _ => none

/-- The panel and the files as an automaton. -/
def automaton : Automaton State Event Effects := ⟨step, beginning?⟩

/-- A step that was taken. -/
abbrev Occurrence := automaton.Occurrence

/-- The runs from a panel. -/
abbrev Run (initial : State) : List Occurrence → State → Prop := automaton.Run initial

/-! ### Calls at an archive -/

/-- A call has its turn at the archive at a position. -/
structure Turn (position : Nat) (archive : Archive) (id : CallId) (round : Round)
    (taken : Occurrence) : Prop where
  event : taken.event = .panel (.proceed (.call id))
  record : taken.before.rounds.get? id = some round
  here : round.position = position
  idle : round.waiting = false
  source : taken.before.sources[position]? = some (.archive archive)

/-- The record of a call when a source has given it these bundles. -/
def passed (round : Round) (found : List Metadata) : Round :=
  { round with
    position := round.position + 1
    waiting := false
    collected := round.collected ++ found }

/-- A call that opens the sources has its turn at the archive at a position, while the files are
these: it fails there, or goes on and leaves an archive that has loaded a bundle. -/
inductive Opens (position : Nat) (listing : Listing) (taken : Occurrence) :
    Except MetadataFault Metadata → Prop
  | fails {archive : Archive} {id : CallId} {round : Round} {fault : MetadataFault}
      (turn : Turn position archive id round taken) (errand : round.errand = .open)
      (shows : archive.Shows listing) (gone : taken.after.rounds.get? id = none)
      (ends : taken.effects = [.finish id (.error fault)]) :
      Opens position listing taken (.error fault)
  | succeeds {archive next : Archive} {id : CallId} {round : Round}
      (turn : Turn position archive id round taken) (errand : round.errand = .open)
      (shows : archive.Shows listing)
      (passes : taken.after.rounds.get? id = some (passed round []))
      (goes : taken.effects = [.resume (.call id)])
      (holds : taken.after.sources[position]? = some (.archive next)) :
      Opens position listing taken (.ok next.loaded)

/-- A call that fetches has its turn at the archive at a position and is given a bundle. -/
inductive Fetches (position : Nat) (bundle : Metadata) (taken : Occurrence) : Prop
  | intro {archive : Archive} {id : CallId} {round : Round} {query : MetadataQuery}
      (turn : Turn position archive id round taken) (errand : round.errand = .fetch query)
      (passes : taken.after.rounds.get? id = some (passed round [bundle]))
      (goes : taken.effects = [.resume (.call id)])

section

variable {position : Nat} {archive : Archive} {id : CallId} {round : Round} {taken : Occurrence}

theorem Turn.visit_eq (turn : Turn position archive id round taken) :
    automaton.step taken.now taken.event taken.before =
      visit taken.now id round (.archive archive) taken.before := by
  rw [turn.event]
  show (proceed taken.now (.call id) taken.before).getD _ = _
  rw [proceed, turn.record, Option.bind_some, proceedCall, turn.idle, if_neg Bool.false_ne_true,
    turn.here, turn.source, Option.getD_some]

/-- What a call that opens the sources does at an archive. -/
theorem Turn.open_eq (turn : Turn position archive id round taken) (errand : round.errand = .open) :
    automaton.step taken.now taken.event taken.before =
      advance id round (archive.open.1.map fun _ => none)
        (taken.before.replace round.position (.archive archive.open.2)) := by
  rw [turn.visit_eq]
  unfold visit
  rw [errand]

/-- A call that opens the sources fails with the archive, and leaves it as it was. -/
theorem Turn.open_of_error {fault : MetadataFault} (turn : Turn position archive id round taken)
    (errand : round.errand = .open) (failed : archive.load = .error fault) :
    automaton.step taken.now taken.event taken.before =
      advance id round (.error fault) taken.before := by
  rw [turn.open_eq errand, Archive.open_of_error failed, turn.here, replace_self turn.source]
  rfl

/-- A call that opens the sources leaves an archive that has loaded what there is. -/
theorem Turn.open_of_ok {loaded : Metadata} (turn : Turn position archive id round taken)
    (errand : round.errand = .open) (loads : archive.load = .ok loaded) :
    automaton.step taken.now taken.event taken.before =
      advance id round (.ok none)
        (taken.before.replace position (.archive { archive with loaded })) := by
  rw [turn.open_eq errand, Archive.open_of_ok loads, turn.here]
  rfl

/-- What a call that fetches does at an archive. -/
theorem Turn.fetch_eq (turn : Turn position archive id round taken) {query : MetadataQuery}
    (errand : round.errand = .fetch query) :
    automaton.step taken.now taken.event taken.before =
      advance id round (.ok (some archive.loaded)) taken.before := by
  rw [turn.visit_eq]
  unfold visit
  rw [errand]

/-- **An archive that cannot be opened is as it was**, and so are all other sources. -/
theorem Turn.fails {listing : Listing} {fault : MetadataFault}
    (turn : Turn position archive id round taken) (errand : round.errand = .open)
    (shows : archive.Shows listing) (failed : archive.load = .error fault) :
    Opens position listing taken (.error fault) ∧ taken.after.sources = taken.before.sources := by
  have stepped := turn.open_of_error errand failed
  have after : taken.after = (advance id round (.error fault) taken.before).1 :=
    congrArg Prod.fst stepped
  refine ⟨.fails turn errand shows ?_ (congrArg Prod.snd stepped), ?_⟩
  · rw [after]
    exact Table.get?_erase_self ..
  · rw [after, advance_sources]

/-- **An archive that can be opened has then loaded what there is.** -/
theorem Turn.succeeds {listing : Listing} {loaded : Metadata}
    (turn : Turn position archive id round taken) (errand : round.errand = .open)
    (shows : archive.Shows listing) (loads : archive.load = .ok loaded) :
    Opens position listing taken (.ok loaded) ∧
      taken.after.sources[position]? = some (.archive { archive with loaded }) := by
  have stepped := turn.open_of_ok errand loads
  have after : taken.after = (advance id round (.ok none)
      (taken.before.replace position (.archive { archive with loaded }))).1 :=
    congrArg Prod.fst stepped
  have holds : taken.after.sources[position]? = some (.archive { archive with loaded }) := by
    rw [after, advance_sources]
    exact List.getElem?_set_self (List.getElem?_eq_some_iff.mp turn.source).1
  refine ⟨.succeeds turn errand shows ?_ (congrArg Prod.snd stepped) holds, holds⟩
  rw [after]
  exact Table.get?_put_self ..

/-- **A call that fetches is given what the archive has loaded.** -/
theorem Turn.fetches {query : MetadataQuery} (turn : Turn position archive id round taken)
    (errand : round.errand = .fetch query) : Fetches position archive.loaded taken := by
  have stepped := turn.fetch_eq errand
  have after : taken.after = (advance id round (.ok (some archive.loaded)) taken.before).1 :=
    congrArg Prod.fst stepped
  refine .intro turn errand ?_ (congrArg Prod.snd stepped)
  rw [after]
  exact Table.get?_put_self ..

end

/-! ### What any step does to an archive -/

section

variable {position : Nat} {archive : Archive} {state : State} {now : Timestamp}

/-- An atlas that takes a step is not in the place of an archive. -/
theorem getElem?_settle {other : Nat} {atlas : Atlas.State} {rounds : Table CallId Round}
    (here : state.sources[position]? = some (.archive archive))
    (there : state.sources[other]? = some (.atlas atlas))
    (stepped : Atlas.State × Atlas.Effects) :
    (settle other stepped { state with rounds }).1.sources[position]? = some (.archive archive) := by
  have apart : other ≠ position := by
    rintro rfl
    rw [here] at there
    cases there
  rw [settle_sources, List.getElem?_set_ne apart, here]

theorem getElem?_visit {id : CallId} {round : Round} {source : Source}
    (here : state.sources[position]? = some (.archive archive))
    (there : state.sources[round.position]? = some source)
    (quiet : round.position = position → round.errand ≠ .open) :
    (visit now id round source state).1.sources[position]? = some (.archive archive) := by
  unfold visit
  dsimp only
  split
  · exact here
  · exact here
  · exact here
  · rw [advance_sources, here]
  · next errand =>
    rw [advance_sources]
    have apart : round.position ≠ position := fun same => quiet same errand
    exact (List.getElem?_set_ne apart).trans here
  · rw [advance_sources, here]
  · rw [advance_sources, here]
  · rw [advance_sources, here]
  · rw [advance_sources]
    exact getElem?_settle here there _
  · exact getElem?_settle here there _
  · exact getElem?_settle here there _
  · exact getElem?_settle here there _

/-- **A step of the panel in which no call opens the archive leaves it alone.** -/
theorem getElem?_step {event : Panel.Event}
    (here : state.sources[position]? = some (.archive archive))
    (quiet : ∀ id round, event = .proceed (.call id) → state.rounds.get? id = some round →
      round.waiting = false → round.position = position → round.errand ≠ .open) :
    (Panel.step now event state).1.sources[position]? = some (.archive archive) := by
  cases event with
  | start id errand => exact here
  | proceed task =>
    rw [Panel.step]
    cases taken : proceed now task state with
    | none => exact here
    | some stepped =>
      rw [Option.getD_some]
      cases task with
      | call id =>
        obtain ⟨round, record, taken⟩ := Option.bind_eq_some_iff.mp taken
        unfold proceedCall at taken
        split at taken
        · cases taken
        · next idle =>
          split at taken
          · next source there =>
            cases taken
            exact getElem?_visit here there
              (quiet id round rfl record (Bool.eq_false_of_not_eq_true idle))
          · cases taken
            exact here
      | atlas other task =>
        obtain ⟨atlas, there, taken⟩ := Option.bind_eq_some_iff.mp taken
        obtain ⟨result, _, rfl⟩ := Option.map_eq_some_iff.mp taken
        exact getElem?_settle here (source_of_atlas? there) _
  | answer task reply =>
    rw [Panel.step]
    unfold answer
    split
    · split
      · rw [advance_sources, here]
      · exact here
    · split
      · next atlas there => exact getElem?_settle here (source_of_atlas? there) _
      · exact here
    · exact here
  | cancel id =>
    rw [Panel.step]
    unfold cancel
    split
    · exact here
    · dsimp only
      split
      · next atlas there => exact getElem?_settle here (source_of_atlas? there) _
      · exact here

/-- What a step does to the archive at a position. -/
inductive Meets (position : Nat) (archive : Archive) (taken : Occurrence) : Prop
  /-- A call has its turn there and opens it. -/
  | opens {id : CallId} {round : Round} (turn : Turn position archive id round taken)
      (errand : round.errand = .open)
  /-- Its files change. -/
  | changes {listing : Listing} (event : taken.event = .change position listing)
      (shows : taken.after.sources[position]? = some (.archive (archive.showing listing)))
  | keeps (quiet : ∀ id round, Turn position archive id round taken → round.errand ≠ .open)
      (same : taken.after.sources[position]? = some (.archive archive))

/-- **A step opens the archive, changes its files or leaves it alone.** -/
theorem meets {taken : Occurrence}
    (here : taken.before.sources[position]? = some (.archive archive)) :
    Meets position archive taken := by
  obtain ⟨state, now, event⟩ := taken
  cases event with
  | panel event =>
    by_cases opening : ∃ id round,
        Turn position archive id round ⟨state, now, .panel event⟩ ∧ round.errand = .open
    · obtain ⟨id, round, turn, errand⟩ := opening
      exact .opens turn errand
    · refine .keeps (fun id round turn errand => opening ⟨id, round, turn, errand⟩) ?_
      refine getElem?_step here fun id round event record idle there errand => ?_
      exact opening ⟨id, round, ⟨congrArg Event.panel event, record, there, idle, here⟩, errand⟩
  | change other listing =>
    by_cases same : other = position
    · subst same
      refine .changes rfl ?_
      show (change other listing state).sources[other]? = _
      rw [change, show state.sources[other]? = some (.archive archive) from here]
      exact List.getElem?_set_self (List.getElem?_eq_some_iff.mp here).1
    · refine .keeps (fun _ _ turn => nomatch turn.event) ?_
      show (change other listing state).sources[position]? = _
      unfold change
      split
      · exact (List.getElem?_set_ne same).trans here
      · exact here

end

/-! ### What an archive has loaded in a run -/

section

variable {position : Nat} {listing : Listing} {outcome : Except MetadataFault Metadata}
  {taken : Occurrence}

/-- **The outcome of an opening is that of loading the files.** -/
theorem Opens.load_eq (opens : Opens position listing taken outcome) :
    ∃ archive id round, Turn position archive id round taken ∧ round.errand = .open ∧
      archive.Shows listing ∧ archive.load = outcome := by
  cases opens with
  | @fails archive id round fault turn errand shows gone ends =>
    refine ⟨archive, id, round, turn, errand, shows, ?_⟩
    cases load : archive.load with
    | error other =>
      have effects := congrArg Prod.snd (turn.open_of_error errand load)
      cases ends.symm.trans effects
      rfl
    | ok loaded =>
      have effects := congrArg Prod.snd (turn.open_of_ok errand load)
      cases ends.symm.trans effects
  | @succeeds archive next id round turn errand shows passes goes holds =>
    refine ⟨archive, id, round, turn, errand, shows, ?_⟩
    cases load : archive.load with
    | error other =>
      have effects := congrArg Prod.snd (turn.open_of_error errand load)
      cases goes.symm.trans effects
    | ok loaded =>
      cases holds.symm.trans (turn.succeeds errand shows load).2
      rfl

/-- What the latest opening before a step has loaded that succeeded, or what was there first. -/
inductive Current (position : Nat) (first : Metadata) (history : List Occurrence) (stop : Nat) :
    Metadata → Prop
  | first (never : ∀ (earlier : Nat) (listing : Listing) (loaded : Metadata), earlier < stop →
      ¬ At history earlier (Opens position listing · (.ok loaded))) :
      Current position first history stop first
  | loaded {latest : Nat} {listing : Listing} {loaded : Metadata} (before : latest < stop)
      (opened : At history latest (Opens position listing · (.ok loaded)))
      (since : ∀ (later : Nat) (listing : Listing) (loaded : Metadata), latest < later →
        later < stop → ¬ At history later (Opens position listing · (.ok loaded))) :
      Current position first history stop loaded

section

variable {first bundle : Metadata} {history : List Occurrence} {stop : Nat}

/-- What comes later changes nothing. -/
theorem Current.append (current : Current position first history history.length bundle)
    (later : List Occurrence) :
    Current position first (history ++ later) history.length bundle := by
  have shorter {earlier : Nat} {holds : Occurrence → Prop} (before : earlier < history.length)
      (found : At (history ++ later) earlier holds) : At history earlier holds := by
    have taken := found.take before
    rwa [List.take_left] at taken
  cases current with
  | first never =>
    exact .first fun earlier listing loaded before found =>
      never earlier listing loaded before (shorter before found)
  | loaded before opened since =>
    exact .loaded before (opened.append later) fun other listing loaded after before found =>
      since other listing loaded after before (shorter before found)

/-- A step that opens nothing successfully leaves it. -/
theorem Current.succ (current : Current position first history stop bundle)
    (not : ∀ listing loaded, ¬ At history stop (Opens position listing · (.ok loaded))) :
    Current position first history (stop + 1) bundle := by
  cases current with
  | first never =>
    refine .first fun earlier listing loaded before found => ?_
    rcases Nat.lt_succ_iff_lt_or_eq.mp before with before | rfl
    · exact never earlier listing loaded before found
    · exact not listing loaded found
  | loaded before opened since =>
    refine .loaded (Nat.lt_succ_of_lt before) opened fun later listing loaded after before found => ?_
    rcases Nat.lt_succ_iff_lt_or_eq.mp before with before | rfl
    · exact since later listing loaded after before found
    · exact not listing loaded found

/-- What an opening that succeeds has loaded. -/
theorem Current.of_opened
    (opened : At history stop (Opens position listing · (.ok bundle))) :
    Current position first history (stop + 1) bundle :=
  .loaded (Nat.lt_succ_self stop) opened fun _ _ _ after before =>
    absurd (Nat.le_of_lt_succ before) (Nat.not_le_of_lt after)

end

/-- **At every instant the archive has loaded what the latest opening has that succeeded.** -/
theorem Run.current {initial state : State} {history : List Occurrence} {archive : Archive}
    (run : Run initial history state) (here : initial.sources[position]? = some (.archive archive))
    (shows : archive.Shows listing) :
    ∃ (now : Archive) (listing : Listing), state.sources[position]? = some (.archive now) ∧
      now.path = archive.path ∧ now.Shows listing ∧
      Current position archive.loaded history history.length now.loaded := by
  induction run with
  | initial =>
    exact ⟨archive, listing, here, rfl, shows, .first fun earlier _ _ before =>
      absurd before (Nat.not_lt_zero earlier)⟩
  | @step history state run now event fresh hypothesis =>
    obtain ⟨stands, listing, there, path, shows, current⟩ := hypothesis
    let taken : Occurrence := ⟨state, now, event⟩
    have current := current.append [taken]
    rw [List.length_append, List.length_singleton]
    -- an opening that has succeeded is one of this archive
    have loads {listing : Listing} {loaded : Metadata}
        (opened : At (history ++ [taken]) history.length (Opens position listing · (.ok loaded))) :
        ∃ id round, Turn position stands id round taken ∧ round.errand = .open ∧
          stands.load = .ok loaded := by
      obtain ⟨_, same, opened⟩ := opened
      cases List.getElem?_concat_length.symm.trans same
      obtain ⟨opened, id, round, turn, errand, _, load⟩ := opened.load_eq
      cases turn.source.symm.trans there
      exact ⟨id, round, turn, errand, load⟩
    have meeting : Meets position stands taken := meets there
    cases meeting with
    | @opens id round turn errand =>
      cases load : stands.load with
      | error fault =>
        have same := (turn.fails errand shows load).2
        refine ⟨stands, listing, ?_, path, shows, current.succ fun listing loaded opened => ?_⟩
        · show taken.after.sources[position]? = _
          rw [same]
          exact there
        · obtain ⟨_, _, _, _, load'⟩ := loads opened
          cases load.symm.trans load'
      | ok loaded =>
        obtain ⟨opened, after⟩ := turn.succeeds errand shows load
        exact ⟨{ stands with loaded }, listing, after, path, ⟨shows.directory, shows.refusal⟩,
          .of_opened (At.last opened)⟩
    | @changes listing' event' after =>
      refine ⟨stands.showing listing', listing', after, path, stands.shows_showing listing',
        current.succ fun _ _ opened => ?_⟩
      obtain ⟨_, _, turn, _⟩ := loads opened
      cases event'.symm.trans turn.event
    | keeps quiet same =>
      refine ⟨stands, listing, same, path, shows, current.succ fun _ _ opened => ?_⟩
      obtain ⟨id, round, turn, errand, _⟩ := loads opened
      exact quiet id round turn errand

/-- A history of a panel with an archive at a position, given its path and what it has loaded in the
beginning. -/
inductive Course (position : Nat) : String → Metadata → List Occurrence → Prop
  | intro {initial state : State} {history : List Occurrence} {archive : Archive}
      {listing : Listing} (run : Run initial history state)
      (here : initial.sources[position]? = some (.archive archive))
      (shows : archive.Shows listing) : Course position archive.path archive.loaded history

/-- **What an archive does in a history.** -/
structure Served (position : Nat) (path : String) (first : Metadata) (history : List Occurrence) :
    Prop where
  /-- A call that comes to open the archive succeeds or fails. -/
  opens : ∀ step archive id round, At history step (Turn position archive id round) →
    round.errand = .open → ∃ listing outcome, At history step (Opens position listing · outcome)
  /-- It fails if there is no directory, or with the first file that cannot be read; else it loads
  the bundles of all files that hold one. -/
  loads : ∀ step listing outcome, At history step (Opens position listing · outcome) →
    Archive.Loads path listing.refusal listing.directory outcome
  /-- If it fails the archive is as it was. -/
  atomic : ∀ step listing fault, At history step (Opens position listing · (.error fault)) →
    At history step fun taken => taken.after.sources[position]? = taken.before.sources[position]?
  /-- A call that comes to fetch is given a bundle. -/
  fetches : ∀ step archive id round query, At history step (Turn position archive id round) →
    round.errand = .fetch query → ∃ bundle, At history step (Fetches position bundle)
  /-- It is what the latest opening has loaded that succeeded. -/
  serves : ∀ step bundle, At history step (Fetches position bundle) →
    Current position first history step bundle
  /-- In another history, where the same entries are listed in another order, the outcome is the
  same. -/
  reordered : ∀ position' first' history', Course position' path first' history' →
    ∀ step step' listing listing' outcome outcome',
      At history step (Opens position listing · outcome) →
      At history' step' (Opens position' listing' · outcome') →
      listing.Reordered listing' → outcome' = outcome

/-- The archive in the midst of a history. -/
theorem Course.before {path : String} {first : Metadata} {history : List Occurrence}
    (course : Course position path first history) {step : Nat}
    (here : history[step]? = some taken) {archive : Archive}
    (there : taken.before.sources[position]? = some (.archive archive)) :
    archive.path = path ∧ (∃ listing, archive.Shows listing) ∧
      Current position first history step archive.loaded := by
  obtain ⟨run, initial, shows⟩ := course
  obtain ⟨stands, listing, source, path, shows, current⟩ := Run.current (run.take here) initial shows
  cases there.symm.trans source
  have bound := (List.getElem?_eq_some_iff.mp here).1
  have whole := current.append (history.drop step)
  rw [List.take_append_drop, List.length_take, Nat.min_eq_left (Nat.le_of_lt bound)] at whole
  exact ⟨path, ⟨listing, shows⟩, whole⟩

/-- What a call is given is what the archive has loaded. -/
theorem Fetches.loaded_eq {bundle : Metadata} (fetches : Fetches position bundle taken) :
    ∃ archive, taken.before.sources[position]? = some (.archive archive) ∧
      archive.loaded = bundle := by
  obtain @⟨archive, id, round, query, turn, errand, passes, _⟩ := fetches
  refine ⟨archive, turn.source, ?_⟩
  have after : taken.after.rounds.get? id = some (passed round [archive.loaded]) := by
    have stepped : taken.after = (advance id round (.ok (some archive.loaded)) taken.before).1 :=
      congrArg Prod.fst (turn.fetch_eq errand)
    rw [stepped]
    exact Table.get?_put_self ..
  have same := congrArg Round.collected (Option.some.inj (after.symm.trans passes))
  exact List.singleton_inj.mp (List.append_cancel_left same)

/-- **Opening an archive is atomic and does not depend on the order of the listing**, and every
request is answered with what the latest opening has loaded that succeeded. -/
theorem Course.serves_atomically {path : String} {first : Metadata} {history : List Occurrence}
    (course : Course position path first history) : Served position path first history where
  opens step archive id round found errand := by
    obtain ⟨taken, here, turn⟩ := found
    obtain ⟨_, ⟨listing, shows⟩, _⟩ := course.before here turn.source
    cases load : archive.load with
    | error fault => exact ⟨listing, .error fault, taken, here, (turn.fails errand shows load).1⟩
    | ok loaded => exact ⟨listing, .ok loaded, taken, here, (turn.succeeds errand shows load).1⟩
  loads step listing outcome found := by
    obtain ⟨taken, here, opened⟩ := found
    obtain ⟨archive, id, round, turn, _, shows, rfl⟩ := opened.load_eq
    rw [← (course.before here turn.source).1]
    exact Archive.load_loads shows
  atomic step listing fault found := by
    obtain ⟨taken, here, opened⟩ := found
    obtain ⟨archive, id, round, turn, errand, shows, failed⟩ := opened.load_eq
    exact ⟨taken, here, congrArg (·[position]?) (turn.fails errand shows failed).2⟩
  fetches step archive id round query found errand := by
    obtain ⟨taken, here, turn⟩ := found
    exact ⟨archive.loaded, taken, here, turn.fetches errand⟩
  serves step bundle found := by
    obtain ⟨taken, here, fetches⟩ := found
    obtain ⟨archive, source, rfl⟩ := fetches.loaded_eq
    exact (course.before here source).2.2
  reordered position' first' history' course' step step' listing listing' outcome outcome' found
      found' reordered := by
    obtain ⟨taken, here, opened⟩ := found
    obtain ⟨taken', here', opened'⟩ := found'
    obtain ⟨archive, _, _, turn, _, shows, rfl⟩ := opened.load_eq
    obtain ⟨archive', _, _, turn', _, shows', rfl⟩ := opened'.load_eq
    have same := (course.before here turn.source).1
    have same' := (course'.before here' turn'.source).1
    exact Archive.load_reordered shows shows' reordered (same'.trans same.symm)

end

/-! ### A file that spoils a second opening -/

/-- A file with one attribute of a node. -/
def tier (name : String) : Entry :=
  .file ("\x7b\"node_info\":[\x7b\"name\":\"" ++ name ++
    "\",\"node\":\"7-71\",\"value\":\x7b\"int32\":-1\x7d\x7d]\x7d").toUTF8

/-- Two files with a bundle, one that is no JSON file, and another one. -/
def shelf (last : Entry) : Listing where
  directory := some [("b.json", tier "b"), ("notes.txt", tier "n"), ("a.json", tier "a"),
    ("c.json", last)]
  distinct := by
    rintro _ ⟨⟩
    simp

/-- A file that holds no bundle. -/
def blank : Entry := .file "none".toUTF8

/-- A file that may not be read. -/
def sealed : Entry := .refused "Permission denied (os error 13)"

/-- What is said of it. -/
def sealedFault : MetadataFault := .unreadable "shelf/c.json" "Permission denied (os error 13)"

/-- What the first two hold. -/
def shelved : Metadata where
  nodes := [⟨"a", Resolver.sampleDst, .int32 (-1)⟩, ⟨"b", Resolver.sampleDst, .int32 (-1)⟩]

/-- An archive of these files. -/
def shelfArchive (last : Entry) (loaded : Metadata) : Archive :=
  { path := "shelf/", directory := (shelf last).directory, loaded }

/-- A call opens the archive, then the last file is sealed; another call fails to open the archive,
and a third one fetches. -/
def visits : List Occurrence :=
  automaton.replay { sources := [.archive (shelfArchive blank {})] }
    [(0, .panel (.start 0 .open)), (1, .panel (.proceed (.call 0))), (2, .change 0 (shelf sealed)),
      (3, .panel (.start 1 .open)), (4, .panel (.proceed (.call 1))),
      (5, .panel (.start 2 (.fetch ⟨"7-70", "7-71", []⟩))), (6, .panel (.proceed (.call 2)))]

theorem relevant_shelf (first second third last : Entry) :
    Archive.relevant [("b.json", first), ("notes.txt", second), ("a.json", third),
        ("c.json", last)] =
      [("a.json", third), ("b.json", first), ("c.json", last)] := by
  have json : FileName.isJson "a.json" = true ∧ FileName.isJson "b.json" = true ∧
      FileName.isJson "c.json" = true ∧ FileName.isJson "notes.txt" = false := by decide +kernel
  have ascending : ["a.json", "b.json", "c.json"].Pairwise (· < ·) := by decide +kernel
  refine Archive.relevant_eq (by simp) ?_ (List.pairwise_map.mp ascending)
  simp only [List.filter_cons, json, if_true, Bool.false_eq_true, if_false, List.filter_nil]
  exact .swap ..

theorem load_shelfArchive (last : Entry) (loaded : Metadata) :
    (shelfArchive last loaded).load =
      Archive.join "shelf/" [("a.json", tier "a"), ("b.json", tier "b"), ("c.json", last)] := by
  show Archive.join "shelf/" (Archive.relevant _) = _
  rw [relevant_shelf]

/-- The third call is given what the first one has loaded. -/
theorem served_visits : Served 0 "shelf/" {} visits ∧
    At visits 1 (Opens 0 (shelf blank) · (.ok shelved)) ∧
    At visits 4 (Opens 0 (shelf sealed) · (.error sealedFault)) ∧
    At visits 6 (Fetches 0 shelved) := by
  have run : Run _ visits _ := Automaton.Run.of_replay automaton _ _ (by decide)
  have shows : (shelfArchive blank {}).Shows (shelf blank) := ⟨rfl, rfl⟩
  have course : Course 0 "shelf/" {} visits := .intro run rfl shows
  have loads : (shelfArchive blank {}).load = .ok shelved := by
    rw [load_shelfArchive]
    decide +kernel
  have fails : (shelfArchive sealed shelved).load = .error sealedFault := by
    rw [load_shelfArchive]
    decide +kernel
  have first : Turn 0 (shelfArchive blank {}) 0 ⟨.open, 0, false, []⟩ visits[1] :=
    ⟨rfl, rfl, rfl, rfl, rfl⟩
  obtain ⟨opened, after⟩ := first.succeeds rfl shows loads
  have source : visits[4].before.sources[0]? = some (.archive (shelfArchive sealed shelved)) := by
    show (change 0 (shelf sealed) visits[1].after).sources[0]? = _
    rw [change, after]
    exact List.getElem?_set_self (List.getElem?_eq_some_iff.mp after).1
  have second : Turn 0 (shelfArchive sealed shelved) 1 ⟨.open, 0, false, []⟩ visits[4] :=
    ⟨rfl, Table.get?_put_self .., rfl, rfl, source⟩
  obtain ⟨failed, same⟩ := second.fails rfl ⟨rfl, rfl⟩ fails
  have third : Turn 0 (shelfArchive sealed shelved) 2
      ⟨.fetch ⟨"7-70", "7-71", []⟩, 0, false, []⟩ visits[6] :=
    ⟨rfl, Table.get?_put_self .., rfl, rfl, (congrArg (·[0]?) same).trans source⟩
  exact ⟨course.serves_atomically, ⟨_, rfl, opened⟩, ⟨_, rfl, failed⟩,
    ⟨_, rfl, third.fetches rfl⟩⟩

end Wayfinder.Panel.Disk
