/-
**Routes go on at the interface that they have reached.**

A walk that finds no link at the very interface that it has reached goes on at another interface of
the same node. In the links of whole candidates this never comes about, even where candidates share
interfaces and links, so that a walk may change from one candidate to another: every interface on the
way is left as often as it is entered, and the links that walks have taken leave that balance as it
was. So the links between consecutive hops of a route are the very links that its walk has taken.

* `walk_continues`: a walk goes on at the interface that it has reached;
* `walk_sets_out`: so does a walk from the source;
* `Candidate.Spans.poised`, `poised_flatMap`: the balance of the links of candidates;
* `reconstruct_continuous`: routes cross links of the pool, none more often than it stands there.
-/

import Wayfinder.Proofs.Reconstruction.Projection
import Wayfinder.Proofs.Reconstruction.Trails

namespace Wayfinder

section Walk

variable {src dst : Node} {starts ends : Multiset Hop} {pool others : List Link} {hop : Hop}
  {link : Link}

/-- Where some link leaves the interface that a walk has reached, the walk goes on at it. -/
theorem nextLink?_continues (poised : Poised id (hop ::ₘ starts) ends pool) (through : hop ∉ ends) :
    ∃ link others, nextLink? src (some hop) pool = some (link, others) ∧ link.origin = hop := by
  obtain ⟨link, member, leaves⟩ := poised.left_or_ended.resolve_right through
  exact nextLink?_of_exact src member leaves

/-- A walk that arrives takes one of the ends. -/
theorem Poised.arrives (poised : Poised id (hop ::ₘ starts) ends pool)
    (final : ∀ link ∈ pool, link.origin ≠ hop) :
    ∃ ends', ends' ≤ ends ∧ Poised id starts ends' pool := by
  have ended : hop ∈ ends := by
    refine poised.left_or_ended.resolve_left ?_
    rintro ⟨link, member, leaves⟩
    exact final link member leaves
  obtain ⟨ends', rfl⟩ := Multiset.exists_cons_of_mem ended
  exact ⟨ends', Multiset.le_cons_self _ _, poised.arrive⟩

variable (src) in
/-- **A walk goes on at the interface that it has reached**: the links between its hops are those that
it takes. What it leaves is balanced as before. -/
theorem walk_continues (apart : hop.node ≠ dst) (poised : Poised id (hop ::ₘ starts) ends pool)
    (arriving : ∀ hop ∈ ends, hop.node = dst) (final : ∀ link ∈ pool, link.origin.node ≠ dst) :
    Link.chain (hop :: (walk src dst (some hop) pool).1) = linksTaken src dst (some hop) pool ∧
      ∃ ends', ends' ≤ ends ∧ Poised id starts ends' (walk src dst (some hop) pool).2 := by
  induction size : pool.length generalizing hop pool with
  | zero =>
    cases List.eq_nil_of_length_eq_zero size
    obtain ⟨link, others, next, _⟩ : ∃ link others,
        nextLink? src (some hop) [] = some (link, others) ∧ link.origin = hop :=
      nextLink?_continues poised fun ended => apart (arriving hop ended)
    cases next
  | succ count hypothesis =>
    obtain ⟨link, others, next, rfl⟩ : ∃ link others,
        nextLink? src (some hop) pool = some (link, others) ∧ link.origin = hop :=
      nextLink?_continues poised fun ended => apart (arriving hop ended)
    have ahead : Poised id (link.target ::ₘ starts) ends others := poised.take (nextLink?_perm next)
    have final' : ∀ other ∈ others, other.origin.node ≠ dst :=
      fun other member => final other ((nextLink?_sublist next).subset member)
    rw [walk_of_next next, linksTaken_of_next next, hopsOf, if_pos rfl]
    split
    · next arrived =>
      exact ⟨rfl, ahead.arrives fun other member leaves =>
        final' other member (leaves ▸ arrived)⟩
    · next onward =>
      have shorter : others.length = count := by
        have := nextLink?_length next
        omega
      obtain ⟨chain, rest⟩ := hypothesis onward ahead final' shorter
      exact ⟨congrArg (link :: ·) chain, rest⟩

/-- **A walk from the source goes on at the interfaces that it reaches.** Its first link leaves an
interface at which a candidate begins, since no link enters the source. -/
theorem walk_sets_out (poised : Poised id starts ends pool)
    (arriving : ∀ hop ∈ ends, hop.node = dst) (final : ∀ link ∈ pool, link.origin.node ≠ dst)
    (outbound : ∀ link ∈ pool, link.target.node ≠ src) :
    Link.chain (walk src dst none pool).1 = linksTaken src dst none pool ∧
      ∃ starts' ends', ends' ≤ ends ∧ Poised id starts' ends' (walk src dst none pool).2 := by
  cases next : nextLink? src none pool with
  | none =>
    rw [walk_of_stuck next, linksTaken_eq_nil.mpr next]
    exact ⟨rfl, starts, ends, le_refl ends, poised⟩
  | some taken =>
    obtain ⟨link, others⟩ := taken
    have leaves : link.origin.node = src := nextLink?_origin next
    have begins : link.origin ∈ starts := by
      have left : link.origin ∈ viewsLeft id pool :=
        mem_viewsLeft.mpr ⟨link, (nextLink?_perm next).mem_iff.mpr List.mem_cons_self, rfl⟩
      have member : link.origin ∈ viewsEntered id pool + starts :=
        poised ▸ Multiset.mem_add.mpr (Or.inl left)
      refine (Multiset.mem_add.mp member).resolve_left fun entered => ?_
      obtain ⟨other, there, enters⟩ := mem_viewsEntered.mp entered
      exact outbound other there ((congrArg Hop.node enters).trans leaves)
    obtain ⟨starts', rfl⟩ := Multiset.exists_cons_of_mem begins
    have ahead : Poised id (link.target ::ₘ starts') ends others := poised.take (nextLink?_perm next)
    have final' : ∀ other ∈ others, other.origin.node ≠ dst :=
      fun other member => final other ((nextLink?_sublist next).subset member)
    have first : hopsOf none link = [link.origin, link.target] := rfl
    rw [walk_of_next next, linksTaken_of_next next, first]
    split
    · next arrived =>
      exact ⟨rfl, starts', ahead.arrives fun other member leaves =>
        final' other member (leaves ▸ arrived)⟩
    · next onward =>
      obtain ⟨chain, rest⟩ := walk_continues src onward ahead arriving final'
      exact ⟨congrArg (link :: ·) chain, starts', rest⟩

/-- **The links between the hops of every route are those that its walk takes.** -/
theorem routesOfPool_chain (poised : Poised id starts ends pool)
    (arriving : ∀ hop ∈ ends, hop.node = dst) (final : ∀ link ∈ pool, link.origin.node ≠ dst)
    (outbound : ∀ link ∈ pool, link.target.node ≠ src) :
    (routesOfPool src dst pool).map (fun route => Link.chain route.hops) =
      trailsOfPool src dst pool := by
  fun_induction routesOfPool src dst pool generalizing starts ends with
  | case1 pool stuck =>
    rw [trailsOfPool_of_stuck stuck]
    rfl
  | case2 pool visited hypothesis =>
    obtain ⟨chain, starts', ends', fewer, rest⟩ :=
      walk_sets_out poised arriving final outbound
    have remaining := (walk_sublist src dst none pool).subset
    rw [trailsOfPool_of_visited visited, List.map_cons, chain, hypothesis rest
      (fun hop member => arriving hop (Multiset.mem_of_le fewer member))
      (fun link member => final link (remaining member))
      fun link member => outbound link (remaining member)]

end Walk

/-! ### The links of candidates -/

section Candidates

variable {src dst : Node}

/-- A link enters each hop but the first one. -/
theorem Link.chain_targets (hops : List Hop) : (Link.chain hops).map (·.target) = hops.tail := by
  fun_induction Link.chain hops with
  | case1 first second rest hypothesis =>
    rw [List.map_cons, hypothesis]
    rfl
  | case2 hops short =>
    rcases hops with _ | ⟨first, _ | ⟨second, rest⟩⟩
    · rfl
    · rfl
    · exact absurd rfl (short first second rest)

/-- Of the links between hops each leaves the hop that the one before it has entered. -/
theorem Link.chain_isChain (hops : List Hop) :
    (Link.chain hops).IsChain fun link next => next.origin = link.target := by
  fun_induction Link.chain hops with
  | case1 first second rest hypothesis =>
    cases rest with
    | nil => exact .singleton _
    | cons third rest => exact .cons_cons rfl hypothesis
  | case2 => exact .nil

/-- The links between hops are a walk from the first one to the last one. -/
theorem Link.chain_walk (first : Hop) (middle : List Hop) (last : Hop) :
    Link.Walk first.node last.node (Link.chain (first :: (middle ++ [last]))) := by
  induction middle generalizing first with
  | nil => exact .last rfl rfl
  | cons second middle hypothesis => exact .step rfl (hypothesis second)

/-- Between hops every interface is left as often as it is entered, but for the first and the last. -/
theorem Link.chain_poised (first : Hop) (middle : List Hop) (last : Hop) :
    Poised id {first} {last} (Link.chain (first :: (middle ++ [last]))) := by
  induction middle generalizing first with
  | nil => exact add_comm ({first} : Multiset Hop) {last}
  | cons second middle hypothesis =>
    have step : Poised id {first} {second} [⟨first, second⟩] :=
      add_comm ({first} : Multiset Hop) {second}
    have both : Poised id ({first} + {second}) ({second} + {last})
        (Link.chain (first :: second :: (middle ++ [last]))) := step.append (hypothesis second)
    rw [add_comm, Multiset.singleton_add, Multiset.singleton_add] at both
    exact both.arrive

namespace Candidate.Spans

variable {candidate : Candidate}

theorem walk (spans : candidate.Spans src dst) : Link.Walk src dst candidate.links := by
  obtain ⟨first, middle, last, hops, rfl, _, rfl, _⟩ := spans
  rw [Candidate.links, hops]
  exact Link.chain_walk first middle last

/-- The links of a candidate leave every interface as often as they enter it, but for its ends. -/
theorem poised (spans : candidate.Spans src dst) :
    ∃ first last, Poised id {first} {last} candidate.links ∧ last.node = dst := by
  obtain ⟨first, middle, last, hops, _, _, arrives, _⟩ := spans
  rw [Candidate.links, hops]
  exact ⟨first, last, Link.chain_poised first middle last, arrives⟩

/-- No link of a candidate enters the source. -/
theorem outbound (spans : candidate.Spans src dst) :
    ∀ link ∈ candidate.links, link.target.node ≠ src := by
  obtain ⟨first, middle, last, hops, _, apart, _, _⟩ := spans
  intro link member
  refine apart link.target ?_
  have target : link.target ∈ candidate.links.map (·.target) := List.mem_map_of_mem member
  rwa [Candidate.links, hops, Link.chain_targets] at target

/-- No link of a candidate leaves the destination. -/
theorem final (spans : candidate.Spans src dst) :
    ∀ link ∈ candidate.links, link.origin.node ≠ dst := by
  obtain ⟨first, middle, last, hops, _, _, _, through⟩ := spans
  intro link member
  refine through link.origin ?_
  have origin : link.origin ∈ candidate.links.map (·.origin) := List.mem_map_of_mem member
  rwa [Candidate.links, hops, Link.chain_origins, ← List.cons_append, List.dropLast_concat] at origin

/-- A candidate has two ends. -/
theorem ne (spans : candidate.Spans src dst) : src ≠ dst := by
  obtain ⟨first, middle, last, _, leaves, _, _, through⟩ := spans
  exact leaves ▸ through first List.mem_cons_self

end Candidate.Spans

/-- The links of candidates leave every interface as often as they enter it, but for the first and
the last ones. -/
theorem poised_flatMap {candidates : List Candidate}
    (spans : ∀ candidate ∈ candidates, candidate.Spans src dst) :
    ∃ starts ends, Poised id starts ends (candidates.flatMap Candidate.links) ∧
      ∀ hop ∈ ends, hop.node = dst := by
  induction candidates with
  | nil => exact ⟨0, 0, rfl, fun hop member => absurd member (Multiset.notMem_zero hop)⟩
  | cons candidate rest hypothesis =>
    obtain ⟨first, last, one, arrives⟩ := (spans candidate List.mem_cons_self).poised
    obtain ⟨starts, ends, others, arriving⟩ :=
      hypothesis fun other member => spans other (List.mem_cons_of_mem _ member)
    refine ⟨{first} + starts, {last} + ends, one.append others, fun hop member => ?_⟩
    rcases Multiset.mem_add.mp member with here | later
    · rwa [Multiset.mem_singleton.mp here]
    · exact arriving hop later

/-- As many walks out of the links of candidates visit some hop as there are candidates. -/
theorem routesOfPool_length {candidates : List Candidate} {pool : List Link} (apart : src ≠ dst)
    (spans : ∀ candidate ∈ candidates, candidate.Spans src dst)
    (shuffled : pool.Perm (candidates.flatMap Candidate.links)) :
    (routesOfPool src dst pool).length = candidates.length := by
  have each : ∀ links ∈ candidates.map Candidate.links, Link.Walk src dst links := by
    intro links member
    obtain ⟨candidate, chosen, rfl⟩ := List.mem_map.mp member
    exact (spans candidate chosen).walk
  have balanced := (balanced_flatten each).perm
    (List.flatMap_def (f := Candidate.links) ▸ shuffled.symm)
  rw [List.length_map] at balanced
  refine (routesOfPool_of_balanced apart balanced fun link member => ?_).1
  obtain ⟨candidate, chosen, mine⟩ := List.mem_flatMap.mp (shuffled.mem_iff.mp member)
  exact (spans candidate chosen).outbound link mine

/-- **Routes go on at the interfaces that they reach.** Out of the links of candidates, in any order,
come as many routes as candidates. What each walk has taken leaves the interface that it has reached,
so that the links between the hops of its route are those that it has taken; and over all routes no
link is crossed more often than it stands in the pool. -/
theorem reconstruct_continuous {candidates : List Candidate} {pool : List Link}
    (any : candidates ≠ []) (spans : ∀ candidate ∈ candidates, candidate.Spans src dst)
    (shuffled : pool.Perm (candidates.flatMap Candidate.links)) :
    (reconstruct src dst pool).length = candidates.length ∧
      (reconstruct src dst pool).map (fun route => Link.chain route.hops) =
        trailsOfPool src dst pool ∧
      (∀ trail ∈ trailsOfPool src dst pool,
        trail.IsChain fun link next => next.origin = link.target) ∧
      ∀ link, ((reconstruct src dst pool).flatMap fun route => Link.chain route.hops).count link ≤
        pool.count link := by
  obtain ⟨candidate, member⟩ := List.exists_mem_of_ne_nil _ any
  have apart : src ≠ dst := (spans candidate member).ne
  have full : pool.isEmpty = false := by
    obtain ⟨link, later, links, _⟩ := (spans candidate member).links
    refine List.isEmpty_eq_false_iff_exists_mem.mpr ⟨link, shuffled.mem_iff.mpr ?_⟩
    exact List.mem_flatMap.mpr ⟨candidate, member, links ▸ List.mem_cons_self⟩
  have routes : reconstruct src dst pool = routesOfPool src dst pool := by
    rw [reconstruct, full]
    rfl
  obtain ⟨starts, ends, poised, arriving⟩ := poised_flatMap spans
  have chains : (routesOfPool src dst pool).map (fun route => Link.chain route.hops) =
      trailsOfPool src dst pool := by
    refine routesOfPool_chain (poised.perm shuffled.symm) arriving ?_ ?_
    · intro link member
      obtain ⟨candidate, chosen, mine⟩ := List.mem_flatMap.mp (shuffled.mem_iff.mp member)
      exact (spans candidate chosen).final link mine
    · intro link member
      obtain ⟨candidate, chosen, mine⟩ := List.mem_flatMap.mp (shuffled.mem_iff.mp member)
      exact (spans candidate chosen).outbound link mine
  rw [routes]
  refine ⟨routesOfPool_length apart spans shuffled, chains, ?_, fun link => ?_⟩
  · rw [← chains]
    intro trail member
    obtain ⟨route, _, rfl⟩ := List.mem_map.mp member
    exact Link.chain_isChain route.hops
  · rw [List.flatMap_def, chains, (trailsOfPool_perm src dst pool).count_eq link,
      List.count_append]
    exact Nat.le_add_right _ _

end Candidates

/-- Two candidates that cross one link, after which the second one passes an interface again. -/
def splicing : List Candidate :=
  let node := sampleNode
  [⟨[⟨node 1, 1⟩, ⟨node 2, 1⟩, ⟨node 3, 1⟩, ⟨node 4, 1⟩], ⟨5, false⟩, [], [], []⟩,
    ⟨[⟨node 1, 2⟩, ⟨node 2, 1⟩, ⟨node 3, 1⟩, ⟨node 2, 1⟩, ⟨node 4, 2⟩], ⟨7, false⟩, [], [], []⟩]

/-- In the opposite order, their links lead to two other routes: the first one leaves the loop at the
second node out, and the second one takes it. -/
theorem reconstruct_continuous_splicing :
    (reconstruct { isd := 1, asn := 1 } { isd := 1, asn := 4 }
        (splicing.flatMap Candidate.links).reverse).length = splicing.length ∧
      (reconstruct { isd := 1, asn := 1 } { isd := 1, asn := 4 }
          (splicing.flatMap Candidate.links).reverse).map (fun route => Link.chain route.hops) =
        trailsOfPool { isd := 1, asn := 1 } { isd := 1, asn := 4 }
          (splicing.flatMap Candidate.links).reverse ∧
      (∀ trail ∈ trailsOfPool { isd := 1, asn := 1 } { isd := 1, asn := 4 }
          (splicing.flatMap Candidate.links).reverse,
        trail.IsChain fun link next => next.origin = link.target) ∧
      ∀ link, ((reconstruct { isd := 1, asn := 1 } { isd := 1, asn := 4 }
          (splicing.flatMap Candidate.links).reverse).flatMap
            fun route => Link.chain route.hops).count link ≤
        (splicing.flatMap Candidate.links).reverse.count link := by
  refine reconstruct_continuous (by decide) (fun candidate member => ?_) (List.reverse_perm _)
  rcases List.mem_cons.mp member with rfl | member
  · exact ⟨_, [_, _], _, rfl, by decide, by decide, by decide, by decide⟩
  · obtain rfl := List.mem_singleton.mp member
    exact ⟨_, [_, _, _], _, rfl, by decide, by decide, by decide, by decide⟩

end Wayfinder
