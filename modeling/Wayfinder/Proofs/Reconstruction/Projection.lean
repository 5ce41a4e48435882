/-
**Routes back from their links.**

Candidates are projected to their links before they are handed to the policy engine, and routes are
walked out of the links of its answer. When no interface is crossed twice, nothing is lost on the
way, whatever order the links come back in: in a pool that holds what is left of some candidates, a
walk that has entered a candidate goes on along it, since only one link leaves the interface that it
has reached.

* `Candidate.Spans`: a candidate between two nodes;
* `walk_along`: a walk goes on along the hops that are ahead of it;
* `walk_candidate`: a walk takes the links of one candidate;
* `reconstruct_links`: the routes are the candidates, in the order of their first links.
-/

import Wayfinder.Candidate
import Wayfinder.Proofs.Reconstruction.Pool

namespace Wayfinder

/-- A candidate from a node to another one. Its first interface is the only one at the source, its
last the only one at the destination, and they are two. -/
def Candidate.Spans (src dst : Node) (candidate : Candidate) : Prop :=
  ∃ first middle last, candidate.hops = first :: (middle ++ [last]) ∧
    first.node = src ∧ (∀ hop ∈ middle ++ [last], hop.node ≠ src) ∧
    last.node = dst ∧ ∀ hop ∈ first :: middle, hop.node ≠ dst

/-- The route along a candidate. -/
def Candidate.route (src dst : Node) (candidate : Candidate) : Route := ⟨src, dst, candidate.hops⟩

/-! ### Links of hops -/

/-- A link leaves each hop but the last one. -/
theorem Link.chain_origins (hops : List Hop) :
    (Link.chain hops).map (·.origin) = hops.dropLast := by
  fun_induction Link.chain hops with
  | case1 first second rest hypothesis =>
    rw [List.map_cons, hypothesis]
    rfl
  | case2 hops short =>
    match hops with
    | [] => rfl
    | [hop] => rfl
    | first :: second :: rest => exact absurd rfl (short first second rest)

/-- The interfaces that links leave are among those that are crossed. -/
theorem links_origins_sublist (candidates : List Candidate) :
    ((candidates.flatMap Candidate.links).map (·.origin)).Sublist (candidates.flatMap (·.hops)) := by
  rw [List.map_flatMap]
  induction candidates with
  | nil => exact List.Sublist.refl _
  | cons candidate rest hypothesis =>
    rw [List.flatMap_cons, List.flatMap_cons]
    refine List.Sublist.append ?_ hypothesis
    rw [Candidate.links, Link.chain_origins]
    exact List.dropLast_sublist _

/-- Where no interface is crossed twice, no two links leave one interface. -/
theorem links_origins_nodup {candidates : List Candidate}
    (distinct : (candidates.flatMap (·.hops)).Nodup) :
    ((candidates.flatMap Candidate.links).map (·.origin)).Nodup :=
  distinct.sublist (links_origins_sublist candidates)

/-- Of links that leave different interfaces, two with one origin are the same. -/
theorem eq_of_origin_eq {pool : List Link} (distinct : (pool.map (·.origin)).Nodup)
    {first second : Link} (member : first ∈ pool) (member' : second ∈ pool)
    (same : first.origin = second.origin) : first = second := by
  induction pool with
  | nil => cases member
  | cons link rest hypothesis =>
    rw [List.map_cons, List.nodup_cons] at distinct
    rcases List.mem_cons.mp member with rfl | later <;>
      rcases List.mem_cons.mp member' with rfl | later'
    · rfl
    · exact absurd (same ▸ List.mem_map_of_mem later') distinct.1
    · exact absurd (same ▸ List.mem_map_of_mem later) distinct.1
    · exact hypothesis distinct.2 later later'

/-! ### A walk along a candidate -/

section Along

variable {src dst : Node}

/-- The one link that leaves the hop that was reached comes next. -/
theorem nextLink?_ahead (src : Node) {hop second : Hop} {pool later : List Link}
    (distinct : (pool.map (·.origin)).Nodup) (shuffled : pool.Perm (⟨hop, second⟩ :: later)) :
    ∃ left, nextLink? src (some hop) pool = some (⟨hop, second⟩, left) ∧ left.Perm later := by
  have ahead : (⟨hop, second⟩ : Link) ∈ pool := shuffled.mem_iff.mpr List.mem_cons_self
  obtain ⟨link, left, next, leaves⟩ := nextLink?_of_exact src ahead rfl
  have member : link ∈ pool := (nextLink?_perm next).mem_iff.mpr List.mem_cons_self
  obtain rfl : link = ⟨hop, second⟩ := eq_of_origin_eq distinct member ahead leaves
  exact ⟨left, next, ((nextLink?_perm next).symm.trans shuffled).cons_inv⟩

/-- **A walk goes on along the hops that are ahead of it** up to the destination, and leaves the
other links of the pool. -/
theorem walk_along {hop last : Hop} {middle : List Hop} {pool others : List Link}
    (through : ∀ other ∈ middle, other.node ≠ dst) (ends : last.node = dst)
    (distinct : (pool.map (·.origin)).Nodup)
    (shuffled : pool.Perm (Link.chain (hop :: (middle ++ [last])) ++ others)) :
    ∃ left, walk src dst (some hop) pool = (middle ++ [last], left) ∧ left.Perm others := by
  induction middle generalizing hop pool with
  | nil =>
    obtain ⟨left, next, rest⟩ := nextLink?_ahead src distinct shuffled
    refine ⟨left, ?_, rest⟩
    rw [walk_of_next next, if_pos ends, hopsOf, if_pos rfl]
    rfl
  | cons second middle hypothesis =>
    obtain ⟨left, next, rest⟩ := nextLink?_ahead src distinct shuffled
    have distinct' : (left.map (·.origin)).Nodup :=
      distinct.sublist ((nextLink?_sublist next).map _)
    obtain ⟨left', walked, rest'⟩ := hypothesis
      (fun other member => through other (List.mem_cons_of_mem _ member)) distinct' rest
    refine ⟨left', ?_, rest'⟩
    rw [walk_of_next next, if_neg (through second List.mem_cons_self), walked, hopsOf, if_pos rfl]
    rfl

/-- The first link of a candidate leaves the source, and no other one does. -/
theorem Candidate.Spans.links {candidate : Candidate} (spans : candidate.Spans src dst) :
    ∃ first later, candidate.links = first :: later ∧ first.origin.node = src ∧
      ∀ link ∈ later, link.origin.node ≠ src := by
  obtain ⟨first, middle, last, hops, leaves, apart, _⟩ := spans
  obtain ⟨second, tail, rest⟩ : ∃ second tail, middle ++ [last] = second :: tail := by
    cases middle with
    | nil => exact ⟨last, [], rfl⟩
    | cons second tail => exact ⟨second, tail ++ [last], rfl⟩
  refine ⟨⟨first, second⟩, Link.chain (second :: tail), ?_, leaves, fun link member => ?_⟩
  · rw [Candidate.links, hops, rest]
    rfl
  · have origin : link.origin ∈ (second :: tail).dropLast := by
      rw [← Link.chain_origins]
      exact List.mem_map_of_mem member
    exact apart _ (rest ▸ List.dropLast_subset _ origin)

theorem Candidate.Spans.hops_ne_nil {candidate : Candidate} (spans : candidate.Spans src dst) :
    candidate.hops ≠ [] := by
  obtain ⟨_, _, _, hops, _⟩ := spans
  rw [hops]
  exact List.cons_ne_nil _ _

/-- A link of a candidate that leaves the source is its first one. -/
theorem Candidate.Spans.links_of_mem {candidate : Candidate} (spans : candidate.Spans src dst)
    {link : Link} (mine : link ∈ candidate.links) (leaves : link.origin.node = src) :
    ∃ later, candidate.links = link :: later ∧ ∀ other ∈ later, other.origin.node ≠ src := by
  obtain ⟨first, later, links, _, staying⟩ := spans.links
  rw [links] at mine
  rcases List.mem_cons.mp mine with rfl | member
  · exact ⟨later, links, staying⟩
  · exact absurd leaves (staying link member)

/-- **A walk from the source takes the links of one candidate**, the one whose first link comes first
in the pool, and visits its hops. -/
theorem walk_candidate {candidate : Candidate} (spans : candidate.Spans src dst)
    {pool rest others : List Link} {link : Link}
    (next : nextLink? src none pool = some (link, rest)) (mine : link ∈ candidate.links)
    (distinct : (pool.map (·.origin)).Nodup) (shuffled : pool.Perm (candidate.links ++ others)) :
    ∃ left, walk src dst none pool = (candidate.hops, left) ∧ left.Perm others ∧
      left.Sublist rest := by
  have leaves : link.origin.node = src := of_decide_eq_true (takeFirst?_eq_some next).1
  obtain ⟨later, links, _⟩ := spans.links_of_mem mine leaves
  obtain ⟨origin, middle, last, hops, _, _, ends, through⟩ := spans
  have remaining : rest.Perm (later ++ others) := by
    rw [links] at shuffled
    exact ((nextLink?_perm next).symm.trans shuffled).cons_inv
  rw [Candidate.links, hops] at links
  cases middle with
  | nil =>
    cases links
    refine ⟨rest, ?_, remaining, List.Sublist.refl _⟩
    rw [walk_of_next next, if_pos ends, hops]
    rfl
  | cons second middle =>
    cases links
    have distinct' : (rest.map (·.origin)).Nodup :=
      distinct.sublist ((nextLink?_sublist next).map _)
    obtain ⟨left, walked, left_perm⟩ := walk_along
      (fun other member => through other (List.mem_cons_of_mem _ (List.mem_cons_of_mem _ member)))
      ends distinct' remaining
    refine ⟨left, ?_, left_perm, ?_⟩
    · rw [walk_of_next next, if_neg (through second (List.mem_cons_of_mem _ List.mem_cons_self)),
        walked, hops]
      rfl
    · have shorter := walk_sublist src dst (some second) rest
      rw [walked] at shorter
      exact shorter

end Along

/-! ### All walks out of a pool -/

variable {src dst : Node}

/-- **The walks out of a shuffled pool follow the candidates**, in the order of the links that leave
the source. -/
theorem routesOfPool_links {candidates : List Candidate} {pool : List Link}
    (spans : ∀ candidate ∈ candidates, candidate.Spans src dst)
    (distinct : (candidates.flatMap (·.hops)).Nodup)
    (shuffled : pool.Perm (candidates.flatMap Candidate.links)) :
    ∃ order : List Candidate, order.Perm candidates ∧
      routesOfPool src dst pool = order.map (Candidate.route src dst) ∧
      order.map (·.links.head?) =
        (pool.filter fun link => decide (link.origin.node = src)).map some := by
  induction size : candidates.length generalizing candidates pool with
  | zero =>
    cases List.eq_nil_of_length_eq_zero size
    cases shuffled.eq_nil
    have stuck : nextLink? src none [] = none := rfl
    exact ⟨[], List.Perm.refl _, routesOfPool_of_stuck (by rw [walk_of_stuck stuck]), rfl⟩
  | succ count hypothesis =>
    -- some link leaves the source, and the first one that does belongs to some candidate
    have some' : ∃ link rest, nextLink? src none pool = some (link, rest) := by
      obtain ⟨candidate, member⟩ := List.exists_mem_of_length_eq_add_one size
      obtain ⟨link, later, links, leaves, _⟩ := (spans candidate member).links
      have here : link ∈ pool := shuffled.mem_iff.mpr
        (List.mem_flatMap.mpr ⟨candidate, member, links ▸ List.mem_cons_self⟩)
      exact takeFirst?_of_mem here (decide_eq_true leaves)
    obtain ⟨link, rest, next⟩ := some'
    have member : link ∈ candidates.flatMap Candidate.links :=
      shuffled.mem_iff.mp ((nextLink?_perm next).mem_iff.mpr List.mem_cons_self)
    obtain ⟨candidate, chosen, mine⟩ := List.mem_flatMap.mp member
    obtain ⟨before, after, rfl⟩ := List.append_of_mem chosen
    have others : (before ++ candidate :: after).Perm (candidate :: (before ++ after)) :=
      List.perm_middle
    have split : pool.Perm (candidate.links ++ (before ++ after).flatMap Candidate.links) :=
      shuffled.trans (others.flatMap_right _)
    have origins : (pool.map (·.origin)).Nodup :=
      (shuffled.map _).nodup_iff.mpr (links_origins_nodup distinct)
    -- the walk takes the links of that candidate, and the others remain
    obtain ⟨left, walked, remaining, shorter⟩ :=
      walk_candidate (spans candidate chosen) next mine origins split
    have distinct' : ((before ++ after).flatMap (·.hops)).Nodup := by
      have whole := (others.flatMap_right (·.hops)).nodup_iff.mp distinct
      exact (List.nodup_append.mp whole).2.1
    obtain ⟨order, all, routes, heads⟩ := hypothesis
      (fun other member => spans other (others.mem_iff.mpr (List.mem_cons_of_mem _ member)))
      distinct' remaining (by simpa [← Nat.add_assoc] using size)
    refine ⟨candidate :: order, (all.cons candidate).trans others.symm, ?_, ?_⟩
    · have visited : (walk src dst none pool).1 ≠ [] := by
        rw [walked]
        exact (spans candidate chosen).hops_ne_nil
      rw [routesOfPool_of_visited visited, walked, routes]
      rfl
    · have leaves : link.origin.node = src := of_decide_eq_true (takeFirst?_eq_some next).1
      obtain ⟨later, links, staying⟩ := (spans candidate chosen).links_of_mem mine leaves
      rw [takeFirst?_filter next, List.map_cons, List.map_cons, heads, links]
      congr 2
      -- of what the walk takes after its first link, nothing leaves the source
      have taken : rest.Perm (later ++ (before ++ after).flatMap Candidate.links) := by
        rw [links] at split
        exact ((nextLink?_perm next).symm.trans split).cons_inv
      have none : later.filter (fun link => decide (link.origin.node = src)) = [] :=
        List.filter_eq_nil_iff.mpr fun other found => by simp [staying other found]
      refine (shorter.filter _).eq_of_length ?_
      rw [(remaining.filter _).length_eq, (taken.filter _).length_eq, List.filter_append, none,
        List.nil_append]

/-- **Reconstruction inverts projection.** When no interface is crossed twice, the routes of a
shuffled pool are the candidates whose links it holds, one each, in the order in which their first
links stand in the pool. -/
theorem reconstruct_links {candidates : List Candidate} {pool : List Link}
    (any : candidates ≠ []) (spans : ∀ candidate ∈ candidates, candidate.Spans src dst)
    (distinct : (candidates.flatMap (·.hops)).Nodup)
    (shuffled : pool.Perm (candidates.flatMap Candidate.links)) :
    ∃ (order : List Candidate) (firsts : List Link), order.Perm candidates ∧
      reconstruct src dst pool = order.map (fun candidate => ⟨src, dst, candidate.hops⟩) ∧
      order.map (·.links.head?) = firsts.map some ∧ firsts.Sublist pool := by
  obtain ⟨order, all, routes, heads⟩ := routesOfPool_links spans distinct shuffled
  refine ⟨order, _, all, ?_, heads, List.filter_sublist⟩
  obtain ⟨candidate, member⟩ := List.exists_mem_of_ne_nil _ any
  obtain ⟨link, later, links, _⟩ := (spans candidate member).links
  have here : link ∈ pool := shuffled.mem_iff.mpr
    (List.mem_flatMap.mpr ⟨candidate, member, links ▸ List.mem_cons_self⟩)
  have full : pool.isEmpty = false := List.isEmpty_eq_false_iff_exists_mem.mpr ⟨link, here⟩
  rw [reconstruct, full, routes]
  rfl

/-- Two candidates that cross in one node, by interfaces of their own. -/
def crossing : List Candidate :=
  let node := sampleNode
  [⟨[⟨node 1, 1⟩, ⟨node 2, 1⟩, ⟨node 2, 2⟩, ⟨node 3, 1⟩], ⟨5, false⟩, [], [], []⟩,
    ⟨[⟨node 1, 2⟩, ⟨node 2, 3⟩, ⟨node 2, 4⟩, ⟨node 3, 2⟩], ⟨7, false⟩, [], [], []⟩]

/-- Their links in the opposite order lead back to both. -/
theorem reconstruct_links_crossing :
    ∃ (order : List Candidate) (firsts : List Link), order.Perm crossing ∧
      reconstruct { isd := 1, asn := 1 } { isd := 1, asn := 3 }
          (crossing.flatMap Candidate.links).reverse =
        order.map (fun candidate =>
          ⟨{ isd := 1, asn := 1 }, { isd := 1, asn := 3 }, candidate.hops⟩) ∧
      order.map (·.links.head?) = firsts.map some ∧
      firsts.Sublist (crossing.flatMap Candidate.links).reverse := by
  refine reconstruct_links (by decide) (fun candidate member => ?_) (by decide)
    (List.reverse_perm _)
  rcases List.mem_cons.mp member with rfl | member
  · exact ⟨_, [_, _], _, rfl, rfl, by decide, rfl, by decide⟩
  · obtain rfl := List.mem_singleton.mp member
    exact ⟨_, [_, _], _, rfl, rfl, by decide, rfl, by decide⟩

end Wayfinder
