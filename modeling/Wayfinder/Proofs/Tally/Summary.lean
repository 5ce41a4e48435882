/-
**What a summary says.**

A tally is what its records have made of it: every counter counts one kind of record, and the window
holds the last durations. So hits never outnumber lookups, nor failures refreshes. A percentile is
read from the sorted window at an index that is within it, and the indices are in the order of the
percentages. Where the rank is the exact one, as many values are at most the one at the index as the
percentage asks for, and no smaller value of the window has as many below it.

* `Record`, `after`: tallies and what has been recorded in them;
* `Counted`, `after_counted`, `after_window`: the counters and the window;
* `getElem_le_iff`: the value at an index against the number of values below;
* `percentile_nearestRank`, `percentile_le_percentile`: percentiles of a window;
* `Summarized`, `after_summarized`: all of this for every history of records.
-/

import Wayfinder.Proofs.Tally.Rank

namespace Wayfinder.Tally

/-! ### Records -/

/-- What is recorded in a tally. -/
inductive Record where
  | lookup (hit : Bool)
  /-- A round trip, with its duration in microseconds. -/
  | roundTrip (micros : Nat)
  | eviction
  | refresh (succeeded : Bool)
deriving DecidableEq

/-- A tally with one record more. -/
def record (tally : Tally) : Record → Tally
  | .lookup hit => tally.recordLookup hit
  | .roundTrip micros => tally.recordRoundTrip micros
  | .eviction => tally.recordEviction
  | .refresh succeeded => tally.recordRefresh succeeded

/-- The tally after some records, in their order. -/
def after (history : Nat) (records : List Record) : Tally := records.foldl record { history }

theorem after_concat (history : Nat) (records : List Record) (last : Record) :
    after history (records ++ [last]) = (after history records).record last := by
  simp [after]

namespace Record

def isLookup : Record → Bool
  | .lookup _ => true
  | _ => false

def isRefresh : Record → Bool
  | .refresh _ => true
  | _ => false

def duration? : Record → Option Nat
  | .roundTrip micros => some micros
  | _ => none

end Record

/-- The durations of the round trips, oldest first. -/
def durations (records : List Record) : List Nat := records.filterMap Record.duration?

/-- Every counter counts its kind of record. -/
structure Counted (records : List Record) (tally : Tally) : Prop where
  lookups : tally.lookups = records.countP Record.isLookup
  hits : tally.hits = records.count (.lookup true)
  roundTrips : tally.roundTrips = (durations records).length
  evictions : tally.evictions = records.count .eviction
  refreshes : tally.refreshes = records.countP Record.isRefresh
  refreshFailures : tally.refreshFailures = records.count (.refresh false)

theorem Counted.record {records : List Record} {tally : Tally} (counted : Counted records tally)
    (last : Record) : Counted (records ++ [last]) (tally.record last) := by
  obtain ⟨lookups, hits, roundTrips, evictions, refreshes, failures⟩ := counted
  rcases last with (_ | _) | _ | _ | (_ | _) <;> constructor <;>
    simp [Tally.record, recordLookup, recordRoundTrip, recordEviction, recordRefresh,
      durations, Record.isLookup, Record.isRefresh, Record.duration?, *]

/-- **The counters after some records.** -/
theorem after_counted (history : Nat) (records : List Record) :
    Counted records (after history records) := by
  induction records using List.reverseRecOn with
  | nil => constructor <;> rfl
  | append_singleton records last hypothesis =>
    rw [after_concat]
    exact hypothesis.record last

/-! ### The window -/

/-- The last values, as many as the window holds. -/
def recent (history : Nat) (values : List Nat) : List Nat := values.drop (values.length - history)

theorem length_recent (history : Nat) (values : List Nat) :
    (recent history values).length = min values.length history := by
  rw [recent, List.length_drop]
  omega

/-- A window that holds the last values slides on to the last values. -/
theorem slide_recent (history : Nat) (values : List Nat) (value : Nat) :
    slide history (recent history values) value = recent history (values ++ [value]) := by
  have length := length_recent history values
  have joined : recent history values ++ [value] =
      (values ++ [value]).drop (values.length - history) :=
    (List.drop_append_of_le_length (Nat.sub_le _ _)).symm
  unfold slide
  dsimp only
  rw [List.length_append, List.length_singleton, length, joined, List.drop_drop]
  unfold recent
  rw [List.length_append, List.length_singleton]
  split
  · congr 1
    omega
  · congr 1
    omega

theorem record_history (tally : Tally) (last : Record) :
    (tally.record last).history = tally.history := by
  cases last <;> rfl

theorem after_history (history : Nat) (records : List Record) :
    (after history records).history = history := by
  induction records using List.reverseRecOn with
  | nil => rfl
  | append_singleton records last hypothesis => rw [after_concat, record_history, hypothesis]

/-- **The window after some records holds the last durations.** -/
theorem after_window (history : Nat) (records : List Record) :
    (after history records).window = recent history (durations records) := by
  induction records using List.reverseRecOn with
  | nil => exact List.drop_nil.symm
  | append_singleton records last hypothesis =>
    rw [after_concat, durations, List.filterMap_append]
    cases last with
    | roundTrip micros =>
      show slide (after history records).history (after history records).window micros = _
      rw [after_history, hypothesis, slide_recent]
      rfl
    | lookup | eviction | refresh =>
      show (after history records).window = recent history (durations records ++ [])
      rw [List.append_nil, hypothesis]

/-! ### Percentiles of a window -/

/-- **A value is at most the bound exactly if its index is below the number of values that are.** -/
theorem getElem_le_iff {sorted : List Nat} (ascending : sorted.Pairwise (· ≤ ·)) {index : Nat}
    (within : index < sorted.length) (bound : Nat) :
    sorted[index] ≤ bound ↔ index < sorted.countP (· ≤ bound) := by
  induction sorted generalizing index with
  | nil => exact absurd within (Nat.not_lt_zero _)
  | cons first rest hypothesis =>
    obtain ⟨least, ascending⟩ := List.pairwise_cons.mp ascending
    by_cases small : first ≤ bound
    · rw [List.countP_cons, if_pos (decide_eq_true small)]
      cases index with
      | zero => exact iff_of_true small (Nat.succ_pos _)
      | succ index =>
        rw [List.getElem_cons_succ, hypothesis ascending, Nat.succ_lt_succ_iff]
    · -- no value is at most the bound
      have none : (first :: rest).countP (· ≤ bound) = 0 := by
        rw [List.countP_eq_zero]
        intro value member
        rcases List.mem_cons.mp member with rfl | later
        · simpa using small
        · have := least value later
          simp only [decide_eq_true_eq]
          omega
      rw [none]
      refine iff_of_false (fun low => ?_) (Nat.not_lt_zero _)
      have member := List.getElem_mem within
      exact absurd (decide_eq_true low) (List.countP_eq_zero.mp none _ member)

/-- The index at which a percentile is read. -/
def index (percent count : Nat) : Nat := min (rank percent count - 1) (count - 1)

theorem index_lt (percent : Nat) {count : Nat} (some : count ≠ 0) : index percent count < count := by
  unfold index
  omega

/-- **A percentile is read at an index that is within the window.** -/
theorem percentile_found {sorted : List Nat} (some : sorted ≠ []) (percent : Nat) :
    sorted[index percent sorted.length]? = .some (percentile sorted percent) := by
  have within := index_lt percent (mt List.eq_nil_of_length_eq_zero some)
  rw [List.getElem?_eq_getElem within]
  show _ = Option.some ((sorted[index percent sorted.length]?).getD 0)
  rw [List.getElem?_eq_getElem within, Option.getD_some]

theorem percentile_mem {sorted : List Nat} (some : sorted ≠ []) (percent : Nat) :
    percentile sorted percent ∈ sorted :=
  List.mem_of_getElem? (percentile_found some percent)

/-- **Percentiles are in the order of their percentages.** -/
theorem percentile_le_percentile {sorted : List Nat} (ascending : sorted.Pairwise (· ≤ ·))
    (few : sorted.length < 2 ^ 64) {percent percent' : Nat} {share share' : Decimal.Magnitude}
    (shared : Share percent share) (shared' : Share percent' share') (below : percent < percent') :
    percentile sorted percent ≤ percentile sorted percent' := by
  by_cases none : sorted = []
  · subst none
    exact Nat.le_refl _
  have some := mt List.eq_nil_of_length_eq_zero none
  have order : index percent sorted.length ≤ index percent' sorted.length := by
    have ranks := rank_le_rank shared shared' below some few
    unfold index
    omega
  obtain ⟨within, here⟩ := List.getElem?_eq_some_iff.mp (percentile_found none percent)
  obtain ⟨within', there⟩ := List.getElem?_eq_some_iff.mp (percentile_found none percent')
  rw [← here, ← there]
  rcases Nat.lt_or_eq_of_le order with earlier | same
  · exact List.pairwise_iff_getElem.mp ascending _ _ within within' earlier
  · simp only [same, Nat.le_refl]

/-- The value at the nearest rank of a percentage: the least value of a window such that at least
that percentage of the window is at most the value. -/
structure NearestRank (window : List Nat) (percent value : Nat) : Prop where
  member : value ∈ window
  enough : percent * window.length ≤ 100 * window.countP (· ≤ value)
  least : ∀ other ∈ window, percent * window.length ≤ 100 * window.countP (· ≤ other) →
    value ≤ other

theorem NearestRank.perm {window shuffled : List Nat} {percent value : Nat}
    (nearest : NearestRank window percent value) (same : window.Perm shuffled) :
    NearestRank shuffled percent value := by
  obtain ⟨member, enough, least⟩ := nearest
  refine ⟨same.mem_iff.mp member, ?_, fun other found => ?_⟩
  · rwa [← same.length_eq, ← same.countP_eq]
  · rw [← same.length_eq, ← same.countP_eq]
    exact least other (same.mem_iff.mpr found)

/-- **A percentile of a window that is not too long is the value at the nearest rank.** -/
theorem percentile_nearestRank {sorted : List Nat} (ascending : sorted.Pairwise (· ≤ ·))
    (some : sorted ≠ []) (few : sorted.length ≤ 2 ^ 15) {percent : Nat}
    {share : Decimal.Magnitude} (shared : Share percent share) :
    NearestRank sorted percent (percentile sorted percent) := by
  have count := mt List.eq_nil_of_length_eq_zero some
  have exactly := rank_le_iff shared count few
  have positive : 0 < rank percent sorted.length := by
    refine Nat.pos_of_ne_zero fun zero => ?_
    have := (exactly 0).mp (Nat.le_of_eq zero)
    exact absurd this (Nat.not_le_of_lt (Nat.mul_pos shared.positive (Nat.pos_of_ne_zero count)))
  have bounded : rank percent sorted.length ≤ sorted.length :=
    (exactly _).mpr (Nat.mul_le_mul_right _ shared.bounded)
  have found := percentile_found some percent
  rw [show index percent sorted.length = rank percent sorted.length - 1 by unfold index; omega]
    at found
  obtain ⟨within, here⟩ := List.getElem?_eq_some_iff.mp found
  -- a bound is enough exactly if the value at the rank is at most the bound
  have reaches (bound : Nat) : percentile sorted percent ≤ bound ↔
      percent * sorted.length ≤ 100 * sorted.countP (· ≤ bound) := by
    rw [← here, getElem_le_iff ascending within, ← exactly]
    omega
  exact ⟨percentile_mem some percent, (reaches _).mp (Nat.le_refl _),
    fun other _ => (reaches other).mpr⟩

/-! ### Summaries -/

theorem sortedWindow_perm (tally : Tally) : tally.sortedWindow.Perm tally.window :=
  List.mergeSort_perm _ _

theorem sortedWindow_ascending (tally : Tally) : tally.sortedWindow.Pairwise (· ≤ ·) := by
  have sorted : tally.sortedWindow.Pairwise fun a b => decide (a ≤ b) = true :=
    List.pairwise_mergeSort (fun _ _ _ => by simpa using Nat.le_trans)
      (fun a b => by simpa using Nat.le_total a b) tally.window
  exact sorted.imp of_decide_eq_true

/-- A window has one list of its values by size. -/
theorem sortedWindow_eq {tally : Tally} {sorted : List Nat} (same : sorted.Perm tally.window)
    (ascending : sorted.Pairwise (· ≤ ·)) : tally.sortedWindow = sorted :=
  (tally.sortedWindow_perm.trans same.symm).eq_of_pairwise (fun _ _ _ _ => Nat.le_antisymm)
    tally.sortedWindow_ascending ascending

/-- The three percentiles of a summary. -/
def percentiles (summary : Summary) : List (Nat × Nat) :=
  [(50, summary.p50), (95, summary.p95), (99, summary.p99)]

/-- **What a summary says about a tally in which some records have been made.** -/
structure Summarized (history : Nat) (records : List Record) (tally : Tally) : Prop where
  counted : Counted records tally
  /-- No counter has left the range of its 64 bits. -/
  bounded : tally.lookups < 2 ^ 64 ∧ tally.hits < 2 ^ 64 ∧ tally.roundTrips < 2 ^ 64 ∧
    tally.evictions < 2 ^ 64 ∧ tally.refreshes < 2 ^ 64 ∧ tally.refreshFailures < 2 ^ 64
  /-- Lookups are hits or misses. -/
  misses : tally.summary.hits ≤ tally.summary.lookups ∧
    tally.summary.hits + tally.summary.misses = tally.summary.lookups
  failures : tally.summary.refreshFailures ≤ tally.summary.refreshes
  /-- The window holds the last durations, as many as there are and fit. -/
  window_eq : tally.window = recent history (durations records) ∧
    tally.window.length = min (durations records).length history
  /-- Percentiles of an empty window are zero. -/
  empty : tally.window = [] → ∀ entry ∈ percentiles tally.summary, entry.2 = 0
  /-- All others are read at an index within the window, and so are members of it. -/
  found : tally.window ≠ [] → ∀ entry ∈ percentiles tally.summary,
    index entry.1 tally.window.length < tally.window.length ∧
      tally.sortedWindow[index entry.1 tally.window.length]? = some entry.2 ∧
      entry.2 ∈ tally.window
  ordered : tally.summary.p50 ≤ tally.summary.p95 ∧ tally.summary.p95 ≤ tally.summary.p99
  /-- In a window of at most `2 ^ 15` values they stand at the nearest rank. -/
  nearest : tally.window ≠ [] → tally.window.length ≤ 2 ^ 15 →
    ∀ entry ∈ percentiles tally.summary, NearestRank tally.window entry.1 entry.2

theorem Counted.hits_le {records : List Record} {tally : Tally} (counted : Counted records tally) :
    tally.hits ≤ tally.lookups := by
  rw [counted.hits, counted.lookups]
  refine List.countP_mono_left fun found _ same => ?_
  rw [beq_iff_eq.mp same]
  rfl

theorem Counted.refreshFailures_le {records : List Record} {tally : Tally}
    (counted : Counted records tally) : tally.refreshFailures ≤ tally.refreshes := by
  rw [counted.refreshFailures, counted.refreshes]
  refine List.countP_mono_left fun found _ same => ?_
  rw [beq_iff_eq.mp same]
  rfl

theorem Counted.le_length {records : List Record} {tally : Tally}
    (counted : Counted records tally) :
    tally.lookups ≤ records.length ∧ tally.hits ≤ records.length ∧
      tally.roundTrips ≤ records.length ∧ tally.evictions ≤ records.length ∧
      tally.refreshes ≤ records.length ∧ tally.refreshFailures ≤ records.length := by
  obtain ⟨lookups, hits, roundTrips, evictions, refreshes, failures⟩ := counted
  rw [lookups, hits, roundTrips, evictions, refreshes, failures]
  exact ⟨List.countP_le_length, List.count_le_length, List.length_filterMap_le _ _,
    List.count_le_length, List.countP_le_length, List.count_le_length⟩

/-- The shares behind the percentiles of a summary. -/
theorem share_of_mem {tally : Tally} {entry : Nat × Nat}
    (member : entry ∈ percentiles tally.summary) :
    entry.2 = percentile tally.sortedWindow entry.1 ∧ ∃ share, Share entry.1 share := by
  simp only [percentiles, List.mem_cons, List.not_mem_nil, or_false] at member
  rcases member with rfl | rfl | rfl
  · exact ⟨rfl, _, share_fifty⟩
  · exact ⟨rfl, _, share_ninetyFive⟩
  · exact ⟨rfl, _, share_ninetyNine⟩

/-- **Every summary is consistent.** -/
theorem after_summarized (history : Nat) (records : List Record) (few : records.length < 2 ^ 64) :
    Summarized history records (after history records) := by
  have counted := after_counted history records
  have window := after_window history records
  generalize after history records = tally at counted window
  have length : tally.window.length = min (durations records).length history := by
    rw [window, length_recent]
  have same := tally.sortedWindow_perm
  have ascending := tally.sortedWindow_ascending
  have short : tally.sortedWindow.length < 2 ^ 64 := by
    have := List.length_filterMap_le Record.duration? records
    rw [same.length_eq, length]
    exact Nat.lt_of_le_of_lt (Nat.le_trans (Nat.min_le_left _ _) this) few
  have some (filled : tally.window ≠ []) : tally.sortedWindow ≠ [] :=
    fun none => filled (List.nil_perm.mp (none ▸ same))
  refine {
    counted
    bounded := ?_
    misses := ⟨counted.hits_le, Nat.add_sub_of_le counted.hits_le⟩
    failures := counted.refreshFailures_le
    window_eq := ⟨window, length⟩
    empty := fun none entry member => ?_
    found := fun filled entry member => ?_
    ordered := ⟨percentile_le_percentile ascending short share_fifty share_ninetyFive (by decide),
      percentile_le_percentile ascending short share_ninetyFive share_ninetyNine (by decide)⟩
    nearest := fun filled few' entry member => ?_ }
  · obtain ⟨lookups, hits, roundTrips, evictions, refreshes, failures⟩ := counted.le_length
    exact ⟨Nat.lt_of_le_of_lt lookups few, Nat.lt_of_le_of_lt hits few,
      Nat.lt_of_le_of_lt roundTrips few, Nat.lt_of_le_of_lt evictions few,
      Nat.lt_of_le_of_lt refreshes few, Nat.lt_of_le_of_lt failures few⟩
  · have none' : tally.sortedWindow = [] := List.perm_nil.mp (none ▸ same)
    rw [(share_of_mem member).1, none']
    rfl
  · have count : tally.window.length ≠ 0 := mt List.eq_nil_of_length_eq_zero filled
    rw [(share_of_mem member).1, ← same.length_eq]
    exact ⟨index_lt _ (same.length_eq ▸ count), percentile_found (some filled) _,
      same.mem_iff.mp (percentile_mem (some filled) _)⟩
  · obtain ⟨value, share, shared⟩ := share_of_mem member
    rw [value]
    exact (percentile_nearestRank ascending (some filled) (same.length_eq ▸ few') shared).perm same

/-- Lookups, refreshes and more round trips than the window holds. -/
def sampled : List Record :=
  [.lookup false, .roundTrip 90, .lookup true, .roundTrip 40, .refresh false, .roundTrip 10,
    .eviction, .roundTrip 30, .refresh true, .roundTrip 20]

theorem after_summarized_sampled :
    sampled.length < 2 ^ 64 ∧ (after 4 sampled).window = [40, 10, 30, 20] ∧
      (after 4 sampled).summary.misses = 1 ∧ (after 4 sampled).summary.p50 = 20 ∧
      NearestRank [40, 10, 30, 20] 50 20 ∧ NearestRank [40, 10, 30, 20] 95 40 := by
  have summarized := after_summarized 4 sampled (by decide)
  have window : (after 4 sampled).window = [40, 10, 30, 20] := summarized.window_eq.1
  have sorted : (after 4 sampled).sortedWindow = [10, 20, 30, 40] :=
    sortedWindow_eq (window ▸ by decide) (by decide)
  have middle : (after 4 sampled).summary.p50 = 20 := by
    show percentile (after 4 sampled).sortedWindow 50 = 20
    rw [sorted]
    decide +kernel
  have high : (after 4 sampled).summary.p95 = 40 := by
    show percentile (after 4 sampled).sortedWindow 95 = 40
    rw [sorted]
    decide +kernel
  have nearest := summarized.nearest (by rw [window]; decide) (by rw [window]; decide)
  rw [window] at nearest
  refine ⟨by decide, window, by decide, middle, ?_, ?_⟩
  · exact middle ▸ nearest (50, _) (.head _)
  · exact high ▸ nearest (95, _) (.tail _ (.head _))

end Wayfinder.Tally
