/-
**Routes out of a balanced pool.**

The policy engine answers with the links of one or more walks. The walks may share nodes, interfaces
and links, so that a walk out of the pool may leave the one along which it has begun. What it cannot
do is to get stuck on the way: in the links of whole walks every node is left as often as it is
entered, but for the beginnings and the ends of the walks, and whatever a walk out of the pool takes
leaves that balance as it was.

* `Link.Walk`: the links of a walk between two nodes;
* `Poised`, `Balanced`: a pool with beginnings and ends of walks, in a view of hops and for nodes;
* `Poised.left_or_ended`: some link leaves where a walk begins, unless one ends there;
* `walk_arrives`: a walk out of a balanced pool ends at the destination, and the rest is balanced;
* `reconstruct_walks`: as many routes as walks, each from the source to the destination.
-/

import Mathlib.Algebra.Order.Group.Multiset
import Mathlib.Data.Multiset.Replicate
import Wayfinder.Proofs.Reconstruction.Pool

namespace Wayfinder

/-- The links of a walk from a node to another one: each leaves the node that the one before it has
entered. -/
inductive Link.Walk : Node → Node → List Link → Prop
  | last {src dst : Node} {link : Link} (leaves : link.origin.node = src)
      (enters : link.target.node = dst) : Walk src dst [link]
  | step {src dst : Node} {link : Link} {rest : List Link} (leaves : link.origin.node = src)
      (onward : Walk link.target.node dst rest) : Walk src dst (link :: rest)

/-- A route from a hop at a node to a hop at another one. -/
def Route.Joins (route : Route) (src dst : Node) : Prop :=
  route.src = src ∧ route.dst = dst ∧ ∃ first middle last,
    route.hops = first :: (middle ++ [last]) ∧ first.node = src ∧ last.node = dst

/-! ### Balance -/

section Poised

variable {α : Type} {view : Hop → α} {here : α} {starts ends starts' ends' : Multiset α}
  {pool others : List Link} {link : Link}

/-- What the links of a pool leave, in a view of hops: their nodes, or the hops themselves. -/
def viewsLeft (view : Hop → α) (pool : List Link) : Multiset α :=
  (pool.map fun link => view link.origin : List α)

/-- What the links of a pool enter, in a view of hops. -/
def viewsEntered (view : Hop → α) (pool : List Link) : Multiset α :=
  (pool.map fun link => view link.target : List α)

/-- In a view of hops, everything is left as often as it is entered, but for what walks begin and end
with. -/
def Poised (view : Hop → α) (starts ends : Multiset α) (pool : List Link) : Prop :=
  viewsLeft view pool + ends = viewsEntered view pool + starts

theorem viewsLeft_cons (view : Hop → α) (link : Link) (pool : List Link) :
    viewsLeft view (link :: pool) = view link.origin ::ₘ viewsLeft view pool := rfl

theorem viewsEntered_cons (view : Hop → α) (link : Link) (pool : List Link) :
    viewsEntered view (link :: pool) = view link.target ::ₘ viewsEntered view pool := rfl

theorem mem_viewsLeft : here ∈ viewsLeft view pool ↔ ∃ link ∈ pool, view link.origin = here := by
  simp [viewsLeft]

theorem mem_viewsEntered :
    here ∈ viewsEntered view pool ↔ ∃ link ∈ pool, view link.target = here := by
  simp [viewsEntered]

theorem viewsLeft_append (view : Hop → α) (pool others : List Link) :
    viewsLeft view (pool ++ others) = viewsLeft view pool + viewsLeft view others := by
  simp [viewsLeft]

theorem viewsEntered_append (view : Hop → α) (pool others : List Link) :
    viewsEntered view (pool ++ others) = viewsEntered view pool + viewsEntered view others := by
  simp [viewsEntered]

theorem viewsLeft_perm (view : Hop → α) (shuffled : pool.Perm others) :
    viewsLeft view pool = viewsLeft view others :=
  Multiset.coe_eq_coe.mpr (shuffled.map _)

theorem viewsEntered_perm (view : Hop → α) (shuffled : pool.Perm others) :
    viewsEntered view pool = viewsEntered view others :=
  Multiset.coe_eq_coe.mpr (shuffled.map _)

namespace Poised

/-- The order of the links does not matter. -/
theorem perm (poised : Poised view starts ends pool) (shuffled : pool.Perm others) :
    Poised view starts ends others := by
  unfold Poised at poised ⊢
  rwa [← viewsLeft_perm view shuffled, ← viewsEntered_perm view shuffled]

theorem append (poised : Poised view starts ends pool) (poised' : Poised view starts' ends' others) :
    Poised view (starts + starts') (ends + ends') (pool ++ others) := by
  unfold Poised at poised poised' ⊢
  calc viewsLeft view (pool ++ others) + (ends + ends')
      = (viewsLeft view pool + ends) + (viewsLeft view others + ends') := by
        rw [viewsLeft_append]
        ac_rfl
    _ = (viewsEntered view pool + starts) + (viewsEntered view others + starts') := by
        rw [poised, poised']
    _ = viewsEntered view (pool ++ others) + (starts + starts') := by
        rw [viewsEntered_append]
        ac_rfl

/-- **A walk that takes a link goes on at its target.** -/
theorem take (poised : Poised view (view link.origin ::ₘ starts) ends pool)
    (taken : pool.Perm (link :: others)) : Poised view (view link.target ::ₘ starts) ends others := by
  have whole := poised.perm taken
  unfold Poised at whole ⊢
  rw [viewsLeft_cons, viewsEntered_cons, Multiset.cons_add, Multiset.cons_add, Multiset.add_cons,
    Multiset.cons_swap, Multiset.cons_inj_right] at whole
  rw [whole, Multiset.add_cons]

/-- A walk is over where it has come to its end. -/
theorem arrive (poised : Poised view (here ::ₘ starts) (here ::ₘ ends) pool) :
    Poised view starts ends pool := by
  unfold Poised at poised ⊢
  rwa [Multiset.add_cons, Multiset.add_cons, Multiset.cons_inj_right] at poised

/-- **Some link leaves where a walk begins**, unless one ends there. -/
theorem left_or_ended (poised : Poised view (here ::ₘ starts) ends pool) :
    (∃ link ∈ pool, view link.origin = here) ∨ here ∈ ends := by
  have member : here ∈ viewsLeft view pool + ends := by
    rw [poised, Multiset.add_cons]
    exact Multiset.mem_cons_self _ _
  exact (Multiset.mem_add.mp member).imp_left mem_viewsLeft.mp

end Poised

end Poised

/-- The nodes that the links of a pool leave. -/
abbrev nodesLeft (pool : List Link) : Multiset Node := viewsLeft (·.node) pool

/-- The nodes that the links of a pool enter. -/
abbrev nodesEntered (pool : List Link) : Multiset Node := viewsEntered (·.node) pool

/-- Every node is left as often as it is entered, but for the nodes at which walks begin and end. -/
abbrev Balanced (starts ends : Multiset Node) (pool : List Link) : Prop :=
  Poised (·.node) starts ends pool

section Balance

variable {src dst : Node} {starts ends : Multiset Node} {pool others : List Link} {link : Link}

/-- The links of a walk are balanced but for its beginning and its end. -/
theorem Link.Walk.balanced {links : List Link} (walk : Link.Walk src dst links) :
    Balanced {src} {dst} links := by
  induction walk with
  | @last src dst link leaves enters =>
    subst leaves
    subst enters
    exact add_comm ({link.origin.node} : Multiset Node) {link.target.node}
  | step leaves onward hypothesis =>
    subst leaves
    unfold Balanced Poised at hypothesis ⊢
    rw [viewsLeft_cons, viewsEntered_cons, Multiset.cons_add, hypothesis, Multiset.cons_add,
      ← Multiset.singleton_add, ← Multiset.singleton_add]
    ac_rfl

/-- The links of several walks are balanced but for a beginning and an end of each. -/
theorem balanced_flatten {walks : List (List Link)}
    (each : ∀ links ∈ walks, Link.Walk src dst links) :
    Balanced (Multiset.replicate walks.length src) (Multiset.replicate walks.length dst)
      walks.flatten := by
  induction walks with
  | nil => rfl
  | cons links rest hypothesis =>
    have later := hypothesis fun other member => each other (List.mem_cons_of_mem _ member)
    have first := (each links List.mem_cons_self).balanced
    rw [List.flatten_cons, List.length_cons, Multiset.replicate_succ, Multiset.replicate_succ,
      ← Multiset.singleton_add, ← Multiset.singleton_add]
    exact first.append later

end Balance

/-! ### A walk out of a balanced pool -/

section Arrival

variable {src dst : Node} {cursor : Option Hop} {pool others : List Link} {link : Link}

/-- The node at which a walk stands. -/
def standing (src : Node) (cursor : Option Hop) : Node := cursor.elim src (·.node)

/-- A walk goes on by a link of the node at which it stands. -/
theorem nextLink?_origin (next : nextLink? src cursor pool = some (link, others)) :
    link.origin.node = standing src cursor := by
  cases cursor with
  | none => exact of_decide_eq_true (takeFirst?_eq_some next).1
  | some hop =>
    rcases Option.or_eq_some_iff.mp next with continuing | ⟨_, fallback⟩
    · have origin : link.origin = hop := of_decide_eq_true (takeFirst?_eq_some continuing).1
      rw [origin]
      rfl
    · exact of_decide_eq_true (takeFirst?_eq_some fallback).1

/-- A walk goes on if some link leaves the node at which it stands. -/
theorem nextLink?_of_leaving (member : link ∈ pool)
    (leaves : link.origin.node = standing src cursor) :
    ∃ next others, nextLink? src cursor pool = some (next, others) := by
  cases cursor with
  | none => exact takeFirst?_of_mem member (decide_eq_true leaves)
  | some hop =>
    have fallback : ∃ next others,
        takeFirst? (fun link => decide (link.origin.node = hop.node)) pool = some (next, others) :=
      takeFirst?_of_mem member (decide_eq_true leaves)
    obtain ⟨next, others, taken⟩ := fallback
    simp only [nextLink?, taken]
    cases takeFirst? (fun link => decide (link.origin = hop)) pool with
    | none => exact ⟨next, others, rfl⟩
    | some continuing => exact ⟨continuing.1, continuing.2, rfl⟩

/-- A link adds its target, and nothing after it. -/
theorem hopsOf_eq_append (cursor : Option Hop) (link : Link) :
    ∃ before, hopsOf cursor link = before ++ [link.target] := by
  unfold hopsOf
  split
  · exact ⟨[], rfl⟩
  · exact ⟨[link.origin], rfl⟩

/-- **A walk out of a balanced pool ends at the destination**, and what it leaves is balanced for
the other walks. It cannot get stuck before, since some link leaves the node at which it stands. -/
theorem walk_arrives {starts : Multiset Node} {count : Nat} (apart : standing src cursor ≠ dst)
    (balanced : Balanced (standing src cursor ::ₘ starts) (Multiset.replicate (count + 1) dst)
      pool) :
    (∃ before last, (walk src dst cursor pool).1 = before ++ [last] ∧ last.node = dst) ∧
      Balanced starts (Multiset.replicate count dst) (walk src dst cursor pool).2 := by
  fun_induction walk src dst cursor pool with
  | case1 cursor pool stuck =>
    exfalso
    have through : standing src cursor ∉ Multiset.replicate (count + 1) dst := by
      intro ended
      exact apart (Multiset.eq_of_mem_replicate ended)
    obtain ⟨link, member, leaves⟩ := balanced.left_or_ended.resolve_right through
    obtain ⟨next, others, taken⟩ := nextLink?_of_leaving member leaves
    rw [stuck] at taken
    cases taken
  | case2 cursor pool link others next arrived =>
    rw [← nextLink?_origin next] at balanced
    have ahead := balanced.take (nextLink?_perm next)
    rw [arrived, Multiset.replicate_succ] at ahead
    obtain ⟨before, hops⟩ := hopsOf_eq_append cursor link
    exact ⟨⟨before, link.target, hops, arrived⟩, ahead.arrive⟩
  | case3 cursor pool link others next onward hops left equal hypothesis =>
    rw [← nextLink?_origin next] at balanced
    have ahead := balanced.take (nextLink?_perm next)
    obtain ⟨⟨before, last, visited, arrived⟩, rest⟩ := hypothesis onward ahead
    rw [equal] at visited rest
    refine ⟨⟨hopsOf cursor link ++ before, last, ?_, arrived⟩, rest⟩
    show hopsOf cursor link ++ hops = hopsOf cursor link ++ before ++ [last]
    rw [List.append_assoc]
    exact congrArg _ visited

/-- A walk that visits a hop visits one of the source first. -/
theorem walk_departs (visited : (walk src dst none pool).1 ≠ []) :
    ∃ first second rest, (walk src dst none pool).1 = first :: second :: rest ∧
      first.node = src := by
  cases next : nextLink? src none pool with
  | none =>
    rw [walk_of_stuck next] at visited
    exact absurd rfl visited
  | some taken =>
    obtain ⟨link, others⟩ := taken
    rw [walk_of_next next]
    have leaves : link.origin.node = src := nextLink?_origin next
    have hops : hopsOf none link = [link.origin, link.target] := rfl
    rw [hops]
    split
    · exact ⟨_, _, [], rfl, leaves⟩
    · exact ⟨_, _, (walk src dst (some link.target) others).1, rfl, leaves⟩

/-- **A route out of a balanced pool leads from the source to the destination**, and what it leaves
is balanced for one walk less. -/
theorem walk_joins {count : Nat} (apart : src ≠ dst)
    (balanced : Balanced (Multiset.replicate (count + 1) src)
      (Multiset.replicate (count + 1) dst) pool) :
    (⟨src, dst, (walk src dst none pool).1⟩ : Route).Joins src dst ∧
      Balanced (Multiset.replicate count src) (Multiset.replicate count dst)
        (walk src dst none pool).2 := by
  have standing' : standing src none ≠ dst := apart
  rw [Multiset.replicate_succ] at balanced
  obtain ⟨⟨before, last, visited, arrived⟩, rest⟩ := walk_arrives standing' balanced
  have some' : (walk src dst none pool).1 ≠ [] := by simp [visited]
  obtain ⟨first, second, later, hops, leaves⟩ := walk_departs some'
  refine ⟨⟨rfl, rfl, ?_⟩, rest⟩
  -- at least two hops are visited, so that the last one is not the first
  cases before with
  | nil =>
    rw [visited] at hops
    simp at hops
  | cons head middle =>
    have same : head = first := by
      rw [visited, List.cons_append] at hops
      exact (List.cons.inj hops).1
    exact ⟨head, middle, last, visited, same ▸ leaves, arrived⟩

end Arrival

/-! ### All walks out of a balanced pool -/

variable {src dst : Node}

/-- **There are as many routes as walks**: where no link enters the source, no link leaves it after
that many routes. -/
theorem routesOfPool_of_balanced {count : Nat} {pool : List Link} (apart : src ≠ dst)
    (balanced : Balanced (Multiset.replicate count src) (Multiset.replicate count dst) pool)
    (outbound : ∀ link ∈ pool, link.target.node ≠ src) :
    (routesOfPool src dst pool).length = count ∧
      ∀ route ∈ routesOfPool src dst pool, route.Joins src dst := by
  induction count generalizing pool with
  | zero =>
    have unentered : src ∉ nodesEntered pool := by
      intro entered
      obtain ⟨link, member, enters⟩ := mem_viewsEntered.mp entered
      exact outbound link member enters
    have stuck : nextLink? src none pool = none := by
      cases next : nextLink? src none pool with
      | none => rfl
      | some taken =>
        obtain ⟨link, others⟩ := taken
        have member : link ∈ pool := (nextLink?_perm next).mem_iff.mpr List.mem_cons_self
        have left : src ∈ nodesLeft pool := mem_viewsLeft.mpr ⟨link, member, nextLink?_origin next⟩
        have even : nodesLeft pool = nodesEntered pool := by simpa [Poised] using balanced
        exact absurd (even ▸ left) unentered
    have unvisited : (walk src dst none pool).1 = [] := by rw [walk_of_stuck stuck]
    simp [routesOfPool_of_stuck unvisited]
  | succ count hypothesis =>
    obtain ⟨joins, rest⟩ := walk_joins apart balanced
    have visited : (walk src dst none pool).1 ≠ [] := by
      obtain ⟨_, _, _, _, _, hops, _⟩ := joins
      intro none
      rw [none] at hops
      cases hops
    have outbound' : ∀ link ∈ (walk src dst none pool).2, link.target.node ≠ src :=
      fun link member => outbound link ((walk_sublist src dst none pool).subset member)
    obtain ⟨length, others⟩ := hypothesis rest outbound'
    rw [routesOfPool_of_visited visited]
    refine ⟨by rw [List.length_cons, length], fun route member => ?_⟩
    rcases List.mem_cons.mp member with rfl | later
    · exact joins
    · exact others route later

/-- **Reconstruction is complete.** Out of the links of any number of walks from the source to the
destination, none of which enters the source, come as many routes, each from the source to the
destination. The walks may share nodes, interfaces and links, and their links may come in any
order. -/
theorem reconstruct_walks {walks : List (List Link)} {pool : List Link} (apart : src ≠ dst)
    (any : walks ≠ []) (each : ∀ links ∈ walks, Link.Walk src dst links)
    (outbound : ∀ links ∈ walks, ∀ link ∈ links, link.target.node ≠ src)
    (shuffled : pool.Perm walks.flatten) :
    (reconstruct src dst pool).length = walks.length ∧
      ∀ route ∈ reconstruct src dst pool, route.Joins src dst := by
  have balanced := (balanced_flatten each).perm shuffled.symm
  have outbound' : ∀ link ∈ pool, link.target.node ≠ src := by
    intro link member
    obtain ⟨links, chosen, mine⟩ := List.mem_flatten.mp (shuffled.mem_iff.mp member)
    exact outbound links chosen link mine
  have full : pool.isEmpty = false := by
    obtain ⟨links, member⟩ := List.exists_mem_of_ne_nil _ any
    have some' : ∃ link, link ∈ links := by
      cases each links member with
      | last | step => exact ⟨_, List.mem_cons_self⟩
    obtain ⟨link, mine⟩ := some'
    have here : link ∈ pool := shuffled.mem_iff.mpr (List.mem_flatten.mpr ⟨links, member, mine⟩)
    exact List.isEmpty_eq_false_iff_exists_mem.mpr ⟨link, here⟩
  unfold reconstruct
  rw [full]
  exact routesOfPool_of_balanced apart balanced outbound'

/-- Two walks from the first of four nodes to the last one. Both pass the third node; the second one
passes the second node twice. -/
def tangled : List (List Link) :=
  let node := sampleNode
  [[⟨⟨node 1, 2⟩, ⟨node 3, 3⟩⟩, ⟨⟨node 3, 4⟩, ⟨node 4, 2⟩⟩],
    [⟨⟨node 1, 1⟩, ⟨node 2, 1⟩⟩, ⟨⟨node 2, 2⟩, ⟨node 3, 1⟩⟩, ⟨⟨node 3, 2⟩, ⟨node 2, 3⟩⟩,
      ⟨⟨node 2, 4⟩, ⟨node 4, 1⟩⟩]]

/-- In the opposite order, the links of the two walks lead to two routes. The first one leaves the
loop at the second node out, and the second one goes along links of both walks. -/
theorem reconstruct_walks_tangled :
    (reconstruct { isd := 1, asn := 1 } { isd := 1, asn := 4 } tangled.flatten.reverse).length =
        tangled.length ∧
      ∀ route ∈ reconstruct { isd := 1, asn := 1 } { isd := 1, asn := 4 } tangled.flatten.reverse,
        route.Joins { isd := 1, asn := 1 } { isd := 1, asn := 4 } := by
  refine reconstruct_walks (by decide) (by decide) (fun links member => ?_) (by decide)
    (List.reverse_perm _)
  rcases List.mem_cons.mp member with rfl | member
  · exact .step rfl (.last rfl rfl)
  · obtain rfl := List.mem_singleton.mp member
    exact .step rfl (.step rfl (.step rfl (.last rfl rfl)))

end Wayfinder
