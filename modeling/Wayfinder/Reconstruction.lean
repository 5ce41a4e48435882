/-
**Routes from a pool of links.**

The policy engine answers with the links of one or more routes, in no order. Routes are walked
out of the pool one after another. A walk leaves the source by the first link of the pool that
does, goes on by a link that continues at the very interface it reached, or else by any link of
the node it reached, uses every link once, and ends at the destination or where no link leads on.

* `takeFirst?`: the first element with a property, and the list without it;
* `nextLink?`: the link by which a walk goes on, and the pool without it;
* `walk`: the hops of one walk, and what it leaves of the pool;
* `reconstruct`: the routes of a pool.
-/

import Wayfinder.Route

namespace Wayfinder

/-- The first element with a property, and the others in their order. -/
def takeFirst? {α : Type} (test : α → Bool) : List α → Option (α × List α)
  | [] => none
  | element :: rest =>
    if test element then some (element, rest)
    else (takeFirst? test rest).map fun (found, others) => (found, element :: others)

/-- Taking an element makes the list shorter by one. -/
theorem takeFirst?_length {α : Type} {test : α → Bool} {elements others : List α} {found : α}
    (taken : takeFirst? test elements = some (found, others)) :
    others.length + 1 = elements.length := by
  induction elements generalizing others with
  | nil => simp [takeFirst?] at taken
  | cons element rest hypothesis =>
    unfold takeFirst? at taken
    split at taken
    · simp_all
    · simp only [Option.map_eq_some_iff] at taken
      obtain ⟨⟨inner, left⟩, step, equal⟩ := taken
      cases equal
      have := hypothesis step
      simp only [List.length_cons]
      omega

/-- The link by which a walk goes on: from the source at its beginning; afterwards from the hop that
was reached, or else from that hop's node. -/
def nextLink? (src : Node) (cursor : Option Hop) (pool : List Link) : Option (Link × List Link) :=
  match cursor with
  | none => takeFirst? (fun link => decide (link.origin.node = src)) pool
  | some hop =>
    (takeFirst? (fun link => decide (link.origin = hop)) pool).or
      (takeFirst? (fun link => decide (link.origin.node = hop.node)) pool)

/-- Going on by a link makes the pool shorter by one. -/
theorem nextLink?_length {src : Node} {cursor : Option Hop} {pool others : List Link} {link : Link}
    (taken : nextLink? src cursor pool = some (link, others)) :
    others.length + 1 = pool.length := by
  unfold nextLink? at taken
  split at taken
  · exact takeFirst?_length taken
  · rw [Option.or_eq_some_iff] at taken
    rcases taken with exact | ⟨_, fallback⟩
    · exact takeFirst?_length exact
    · exact takeFirst?_length fallback

/-- The hops that a link adds to a walk: both its ends, or only its target where the walk has just
reached its origin. -/
def hopsOf (cursor : Option Hop) (link : Link) : List Hop :=
  if cursor = some link.origin then [link.target] else [link.origin, link.target]

/-- Walks on from a hop, or from the source when no hop has been reached, and gives the hops
visited and the pool that is left. -/
def walk (src dst : Node) (cursor : Option Hop) (pool : List Link) : List Hop × List Link :=
  match _next : nextLink? src cursor pool with
  | none => ([], pool)
  | some (link, others) =>
    if link.target.node = dst then (hopsOf cursor link, others)
    else
      let (hops, left) := walk src dst (some link.target) others
      (hopsOf cursor link ++ hops, left)
termination_by pool.length
decreasing_by
  have := nextLink?_length _next
  omega

/-- A walk adds nothing to the pool. -/
theorem walk_length_le (src dst : Node) (cursor : Option Hop) (pool : List Link) :
    (walk src dst cursor pool).2.length ≤ pool.length := by
  fun_induction walk src dst cursor pool with
  | case1 => simp
  | case2 _ _ _ _ next =>
    have := nextLink?_length next
    simp only
    omega
  | case3 _ _ _ _ next _ _ _ equal hypothesis =>
    have := nextLink?_length next
    simp only [equal] at hypothesis
    simp only
    omega

/-- A walk that visits a hop uses up a link. -/
theorem walk_length_lt {src dst : Node} {cursor : Option Hop} {pool : List Link}
    (visited : (walk src dst cursor pool).1 ≠ []) :
    (walk src dst cursor pool).2.length < pool.length := by
  unfold walk at visited ⊢
  split at visited
  · simp at visited
  · next link others next =>
    have shorter := nextLink?_length next
    split
    · simp only
      omega
    · have := walk_length_le src dst (some link.target) others
      simp only
      omega

/-- The routes of a pool, in the order in which they are walked. Links that no walk from the source
reaches are left out. -/
def routesOfPool (src dst : Node) (pool : List Link) : List Route :=
  if _visited : (walk src dst none pool).1 = [] then []
  else
    ⟨src, dst, (walk src dst none pool).1⟩ :: routesOfPool src dst (walk src dst none pool).2
termination_by pool.length
decreasing_by exact walk_length_lt _visited

/-- The routes of an answer of the policy engine. An answer without links is the route that crosses
no interface. -/
def reconstruct (src dst : Node) (links : List Link) : List Route :=
  if links.isEmpty then [⟨src, dst, []⟩] else routesOfPool src dst links

end Wayfinder
