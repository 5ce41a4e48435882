/-
**Answers after a purge.**

The policies have changed when the cache is purged, so whoever asks afterwards must not be given
routes that were looked for before. There are three ways to be given routes: from the cache, from a
call that was joined, and from one's own round trip. In each the one who asks was under way while the
generation was the one that the leader of the round trip had read; and between two steps with one
generation there is no purge.

* `Run.answer_after_purge`: the round trip behind an answer begins after every purge that came before
  the call;
* `overtaken`: a run in which a purge overtakes a leading call.
-/

import Wayfinder.Proofs.Resolver.Replay

namespace Wayfinder.Resolver

variable {capacity : Nat} {timeout : Duration} {history : List Occurrence} {state : State}

/-- A purge overtakes the first call. The second one does not join it but leads, the third joins the
second, and the fourth finds what that one has stored. -/
def overtaken : List Occurrence :=
  automaton.replay (.initial 4 100) <|
    turns 0 0 "7-71" ++ (1, .purge) :: turns 2 1 "7-71" ++ turns 2 2 "7-71" ++
      [(3, .answer 0 (.node (.ok sampleSrc))),
        (3, .answer 0 (.candidates (.ok [⟨[], ⟨9, false⟩, [], [], []⟩]))),
        (3, .answer 0 (.compliant (.ok []))), (3, .proceed (.call 0)),
        (4, .answer 1 (.node (.ok sampleSrc))),
        (4, .answer 1 (.candidates (.ok [⟨[], ⟨9, false⟩, [], [], []⟩]))),
        (4, .answer 1 (.compliant (.ok [[]]))), (4, .proceed (.call 1)), (4, .proceed (.call 1)),
        (4, .proceed (.call 1)), (5, .proceed (.call 2)), (6, .start 3 "7-71"),
        (7, .proceed (.call 3))]

/-- What the second call finds there. -/
def secondFinding : Finding := ⟨[⟨sampleSrc, sampleDst, []⟩], 1⟩

/-- **A call that starts after a purge is never answered with routes that were asked for before
it.** All questions of the one who found the routes, to the oracle and to the policy engine, come
after the purge. -/
theorem Run.answer_after_purge (run : Run capacity timeout history state)
    (few : purges history < UInt64.size) {id : CallId} {finding : Finding}
    {purged started finished : Nat} (purge : At history purged (·.event = .purge))
    (start : At history started (·.Starts id)) (later : purged < started)
    (finish : At history finished (.finish id (.ok finding) ∈ ·.effects)) :
    ∃ trip : Trip, trip.Concluded (history.take finished) ∧ trip.leader = finding.leader ∧
      trip.routes = finding.routes ∧ At history started (·.StartsFor id trip.dst) ∧
      purged < trip.located ∧
      ∀ asked query, At history asked (·.Asks trip.leader query) → purged < asked := by
  obtain ⟨trip, concluded, leader, routes, present, _, found⟩ := run.answered finish
  have begun : trip.Begun history := concluded.of_take.toBegun
  -- the call was under way in that step, and so had started
  obtain ⟨occurrence, here, ⟨stage, calling⟩, current⟩ := found
  obtain ⟨before, startsFor⟩ := run.started_before start ⟨occurrence, here, calling⟩
  -- the generation in that step is the one that the leader has read
  have read : purged < trip.read := run.purged_lt few
    (begun.reads.mono fun _ reads => reads.2.2) ⟨occurrence, here, current⟩ purge
    (Nat.lt_trans later before)
  have located : purged < trip.located := Nat.lt_trans read begun.read_lt
  exact ⟨trip, concluded, leader, routes, startsFor, located, fun asked query asks =>
    Nat.lt_of_lt_of_le located (run.located_le begun asks)⟩

/-- In that run the routes of the second call, of the one that joins it and of the one that finds
them stored were looked for after the purge. -/
theorem answer_after_purge_overtaken :
    (∃ trip : Trip, trip.Concluded (overtaken.take 22) ∧ trip.leader = 1 ∧ 4 < trip.located) ∧
      (∃ trip : Trip, trip.Concluded (overtaken.take 23) ∧ trip.leader = 1 ∧ 4 < trip.located) ∧
      ∃ trip : Trip, trip.Concluded (overtaken.take 25) ∧ trip.leader = 1 ∧ 4 < trip.located := by
  have run : Run 4 100 overtaken _ := Run.of_replay 4 100 _ (by decide)
  have few : purges overtaken < UInt64.size := by decide +kernel
  have purge : At overtaken 4 (·.event = .purge) := ⟨_, rfl, rfl⟩
  refine ⟨?_, ?_, ?_⟩
  · have start : At overtaken 5 (·.Starts 1) := ⟨_, rfl, _, rfl⟩
    have finish : At overtaken 22 (.finish 1 (.ok secondFinding) ∈ ·.effects) := by
      decide +kernel
    obtain ⟨trip, concluded, leader, _, _, located, _⟩ :=
      run.answer_after_purge few purge start (by decide) finish
    exact ⟨trip, concluded, leader, located⟩
  · have start : At overtaken 9 (·.Starts 2) := ⟨_, rfl, _, rfl⟩
    have finish : At overtaken 23 (.finish 2 (.ok secondFinding) ∈ ·.effects) := by
      decide +kernel
    obtain ⟨trip, concluded, leader, _, _, located, _⟩ :=
      run.answer_after_purge few purge start (by decide) finish
    exact ⟨trip, concluded, leader, located⟩
  · have start : At overtaken 24 (·.Starts 3) := ⟨_, rfl, _, rfl⟩
    have finish : At overtaken 25 (.finish 3 (.ok secondFinding) ∈ ·.effects) := by
      decide +kernel
    obtain ⟨trip, concluded, leader, _, _, located, _⟩ :=
      run.answer_after_purge few purge start (by decide) finish
    exact ⟨trip, concluded, leader, located⟩

end Wayfinder.Resolver
