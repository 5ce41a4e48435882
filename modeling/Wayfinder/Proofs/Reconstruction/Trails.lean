/-
**Routes out of any pool.**

Nothing keeps the policy engine from answering with links that are no whole walks: it may have taken
links out of the middle of a walk, or have left loops. A walk out of such a pool still begins at the
source and follows links of the pool, none of them twice. It ends at the destination, or else at a
node that none of the links that are left leaves.

* `Route.along`, `Route.Reaches`: the route along links, and where it begins and ends;
* `linksTaken`, `linksTaken_walk`: the links that a walk takes, and where they end;
* `Trails`, `trailsOfPool`, `unusedOfPool`: the links of all walks, taken out of the pool one after
  another, and those of none;
* `Trails.arrives`: where every node on the way is left as often as it is entered, all arrive;
* `reconstruct_trails`: the routes of any pool;
* `reconstruct_cut_short`: a route can end elsewhere than at the destination;
* `reconstruct_accounts`: what becomes of every link of a pool.
-/

import Wayfinder.Proofs.Reconstruction.Balance

namespace Wayfinder

/-! ### Trails -/

/-- The hops along links, after a hop that has been reached: the origin of each link, unless it is
this hop, and its target. -/
def hopsAlong (cursor : Option Hop) : List Link → List Hop
  | [] => []
  | link :: rest =>
    if cursor = some link.origin then link.target :: hopsAlong (some link.target) rest
    else link.origin :: link.target :: hopsAlong (some link.target) rest

/-- Each link adds the hops that a walk visits by it. -/
theorem hopsAlong_cons (cursor : Option Hop) (link : Link) (rest : List Link) :
    hopsAlong cursor (link :: rest) = hopsOf cursor link ++ hopsAlong (some link.target) rest := by
  rw [hopsAlong, hopsOf]
  split
  · rfl
  · rfl

/-- The route along links. -/
def Route.along (src dst : Node) (trail : List Link) : Route := ⟨src, dst, hopsAlong none trail⟩

/-- A route whose first hop is at a node and whose last hop is at another one. -/
def Route.Reaches (route : Route) (src last : Node) : Prop :=
  ∃ first middle final, route.hops = first :: (middle ++ [final]) ∧ first.node = src ∧
    final.node = last

variable {src dst here last : Node} {cursor : Option Hop} {pool others trail unused : List Link}
  {trails : List (List Link)} {link : Link}

/-- The hops along a walk end at its last node. -/
theorem hopsAlong_of_walk (walks : Link.Walk here last trail) (cursor : Option Hop) :
    ∃ before final, hopsAlong cursor trail = before ++ [final] ∧ final.node = last := by
  induction walks generalizing cursor with
  | @last here last link leaves enters =>
    obtain ⟨before, hops⟩ := hopsOf_eq_append cursor link
    exact ⟨before, link.target, by rw [hopsAlong_cons, hopsAlong, List.append_nil, hops], enters⟩
  | @step here last link rest leaves onward hypothesis =>
    obtain ⟨before, final, hops, ends⟩ := hypothesis (some link.target)
    exact ⟨hopsOf cursor link ++ before, final, by rw [hopsAlong_cons, hops, List.append_assoc], ends⟩

/-- **The route along a walk begins and ends where the walk does.** -/
theorem Link.Walk.reaches (walks : Link.Walk src last trail) :
    (Route.along src dst trail).Reaches src last := by
  obtain ⟨before, final, hops, ends⟩ := hopsAlong_of_walk walks none
  obtain ⟨link, rest, rfl, leaves⟩ : ∃ link rest, trail = link :: rest ∧ link.origin.node = src := by
    cases walks with
    | last leaves enters => exact ⟨_, _, rfl, leaves⟩
    | step leaves onward => exact ⟨_, _, rfl, leaves⟩
  have begins : hopsAlong none (link :: rest) =
      link.origin :: link.target :: hopsAlong (some link.target) rest := rfl
  -- the first link adds two hops, so that the last hop is not the first one
  cases before with
  | nil =>
    rw [begins] at hops
    cases hops
  | cons first middle =>
    refine ⟨first, middle, final, hops, ?_, ends⟩
    rw [begins] at hops
    rw [← (List.cons.inj hops).1, leaves]

/-! ### One walk -/

/-- Where a walk is stuck no link leaves the node at which it stands. -/
theorem leaves_ne_of_stuck (stuck : nextLink? src cursor pool = none) :
    ∀ link ∈ pool, link.origin.node ≠ standing src cursor := by
  intro link member leaves
  obtain ⟨next, others, taken⟩ := nextLink?_of_leaving member leaves
  rw [stuck] at taken
  cases taken

/-- The links that a walk takes out of the pool, in the order in which it takes them. -/
def linksTaken (src dst : Node) (cursor : Option Hop) (pool : List Link) : List Link :=
  match _next : nextLink? src cursor pool with
  | none => []
  | some (link, others) =>
    if link.target.node = dst then [link]
    else link :: linksTaken src dst (some link.target) others
termination_by pool.length
decreasing_by
  have := nextLink?_length _next
  omega

theorem linksTaken_of_next (next : nextLink? src cursor pool = some (link, others)) :
    linksTaken src dst cursor pool =
      if link.target.node = dst then [link]
      else link :: linksTaken src dst (some link.target) others := by
  rw [linksTaken]
  split
  · next none =>
    rw [next] at none
    cases none
  · next found left taken =>
    rw [next] at taken
    cases taken
    rfl

/-- A walk that takes no link is stuck. -/
theorem linksTaken_eq_nil : linksTaken src dst cursor pool = [] ↔ nextLink? src cursor pool = none := by
  constructor
  · intro nothing
    cases next : nextLink? src cursor pool with
    | none => rfl
    | some taken =>
      rw [linksTaken_of_next next] at nothing
      split at nothing <;> cases nothing
  · intro stuck
    rw [linksTaken]
    split
    · rfl
    · next found left taken =>
      rw [stuck] at taken
      cases taken

/-- **A walk visits the hops along the links that it takes.** -/
theorem walk_hops (src dst : Node) (cursor : Option Hop) (pool : List Link) :
    (walk src dst cursor pool).1 = hopsAlong cursor (linksTaken src dst cursor pool) := by
  fun_induction linksTaken src dst cursor pool with
  | case1 cursor pool stuck => rw [walk_of_stuck stuck, hopsAlong]
  | case2 cursor pool link others next arrived =>
    rw [walk_of_next next, if_pos arrived, hopsAlong_cons, hopsAlong, List.append_nil]
  | case3 cursor pool link others next onward hypothesis =>
    rw [walk_of_next next, if_neg onward, hopsAlong_cons, hypothesis]

/-- **A walk leaves the links that it does not take.** -/
theorem walk_perm (src dst : Node) (cursor : Option Hop) (pool : List Link) :
    pool.Perm (linksTaken src dst cursor pool ++ (walk src dst cursor pool).2) := by
  fun_induction linksTaken src dst cursor pool with
  | case1 cursor pool stuck => rw [walk_of_stuck stuck, List.nil_append]
  | case2 cursor pool link others next arrived =>
    rw [walk_of_next next, if_pos arrived]
    exact nextLink?_perm next
  | case3 cursor pool link others next onward hypothesis =>
    rw [walk_of_next next, if_neg onward]
    exact (nextLink?_perm next).trans (hypothesis.cons link)

/-- A walk visits no hop only where it is stuck. -/
theorem walk_eq_nil : (walk src dst cursor pool).1 = [] ↔ linksTaken src dst cursor pool = [] := by
  rw [walk_hops]
  cases linksTaken src dst cursor pool with
  | nil => exact iff_of_true rfl rfl
  | cons link rest =>
    obtain ⟨before, hops⟩ := hopsOf_eq_append cursor link
    simp [hopsAlong_cons, hops]

/-- **The links of a walk are a chain.** It ends at the destination, or at a node that none of the
links leaves that are left. -/
theorem linksTaken_walk (moves : linksTaken src dst cursor pool ≠ []) :
    ∃ last, Link.Walk (standing src cursor) last (linksTaken src dst cursor pool) ∧
      (last = dst ∨ ∀ link ∈ (walk src dst cursor pool).2, link.origin.node ≠ last) := by
  fun_induction linksTaken src dst cursor pool with
  | case1 => exact absurd rfl moves
  | case2 cursor pool link others next arrived =>
    exact ⟨dst, .last (nextLink?_origin next) arrived, Or.inl rfl⟩
  | case3 cursor pool link others next onward hypothesis =>
    have leaves := nextLink?_origin next
    rw [walk_of_next next, if_neg onward]
    by_cases stays : linksTaken src dst (some link.target) others = []
    · have stuck := linksTaken_eq_nil.mp stays
      rw [stays, walk_of_stuck stuck]
      exact ⟨link.target.node, .last leaves rfl, Or.inr (leaves_ne_of_stuck stuck)⟩
    · obtain ⟨last, further, ends⟩ := hypothesis stays
      exact ⟨last, .step leaves further, ends⟩

/-- Only the last link of a walk may enter the destination. -/
theorem linksTaken_through (src dst : Node) (cursor : Option Hop) (pool : List Link) :
    ∀ link ∈ (linksTaken src dst cursor pool).dropLast, link.target.node ≠ dst := by
  fun_induction linksTaken src dst cursor pool with
  | case1 | case2 => exact fun _ member => absurd member List.not_mem_nil
  | case3 cursor pool link others next onward hypothesis =>
    intro other member
    by_cases stays : linksTaken src dst (some link.target) others = []
    · rw [stays] at member
      exact absurd member List.not_mem_nil
    · rw [List.dropLast_cons_of_ne_nil stays] at member
      rcases List.mem_cons.mp member with rfl | later
      · exact onward
      · exact hypothesis other later

/-! ### All walks out of a pool -/

/-- Trails that are taken out of a pool one after another, up to links that are left unused. Each
begins at the source and ends at the destination, or at a node that neither a later trail nor an
unused link leaves. -/
inductive Trails (src dst : Node) (unused : List Link) : List (List Link) → Prop
  | none (exhausted : ∀ link ∈ unused, link.origin.node ≠ src) : Trails src dst unused []
  | next {trail : List Link} {last : Node} {later : List (List Link)}
      (walks : Link.Walk src last trail)
      (ends : last = dst ∨ ∀ link ∈ later.flatten ++ unused, link.origin.node ≠ last)
      (rest : Trails src dst unused later) : Trails src dst unused (trail :: later)

/-- The links of every walk out of a pool, in the order of the walks. -/
def trailsOfPool (src dst : Node) (pool : List Link) : List (List Link) :=
  if _visited : (walk src dst none pool).1 = [] then []
  else linksTaken src dst none pool :: trailsOfPool src dst (walk src dst none pool).2
termination_by pool.length
decreasing_by exact walk_length_lt _visited

/-- The links that no walk out of a pool takes. -/
def unusedOfPool (src dst : Node) (pool : List Link) : List Link :=
  if _visited : (walk src dst none pool).1 = [] then pool
  else unusedOfPool src dst (walk src dst none pool).2
termination_by pool.length
decreasing_by exact walk_length_lt _visited

theorem trailsOfPool_of_visited (visited : (walk src dst none pool).1 ≠ []) :
    trailsOfPool src dst pool =
      linksTaken src dst none pool :: trailsOfPool src dst (walk src dst none pool).2 := by
  rw [trailsOfPool, dif_neg visited]

theorem trailsOfPool_of_stuck (stuck : (walk src dst none pool).1 = []) :
    trailsOfPool src dst pool = [] := by
  rw [trailsOfPool, dif_pos stuck]

theorem unusedOfPool_of_visited (visited : (walk src dst none pool).1 ≠ []) :
    unusedOfPool src dst pool = unusedOfPool src dst (walk src dst none pool).2 := by
  rw [unusedOfPool, dif_neg visited]

theorem unusedOfPool_of_stuck (stuck : (walk src dst none pool).1 = []) :
    unusedOfPool src dst pool = pool := by
  rw [unusedOfPool, dif_pos stuck]

/-- The routes of a pool are those along the links of its walks. -/
theorem routesOfPool_eq (src dst : Node) (pool : List Link) :
    routesOfPool src dst pool = (trailsOfPool src dst pool).map (Route.along src dst) := by
  fun_induction routesOfPool src dst pool with
  | case1 pool stuck =>
    rw [trailsOfPool_of_stuck stuck]
    rfl
  | case2 pool visited hypothesis =>
    rw [trailsOfPool_of_visited visited, List.map_cons, hypothesis, Route.along, ← walk_hops]

/-- **Every link is taken by one walk, or by none.** -/
theorem trailsOfPool_perm (src dst : Node) (pool : List Link) :
    pool.Perm ((trailsOfPool src dst pool).flatten ++ unusedOfPool src dst pool) := by
  fun_induction routesOfPool src dst pool with
  | case1 pool stuck =>
    rw [trailsOfPool_of_stuck stuck, unusedOfPool_of_stuck stuck, List.flatten_nil, List.nil_append]
  | case2 pool visited hypothesis =>
    rw [trailsOfPool_of_visited visited, unusedOfPool_of_visited visited, List.flatten_cons,
      List.append_assoc]
    exact (walk_perm src dst none pool).trans (hypothesis.append_left _)

/-- **The links of the walks are trails** that are taken out of the pool one after another. -/
theorem trailsOfPool_trails (src dst : Node) (pool : List Link) :
    Trails src dst (unusedOfPool src dst pool) (trailsOfPool src dst pool) := by
  fun_induction routesOfPool src dst pool with
  | case1 pool stuck =>
    rw [trailsOfPool_of_stuck stuck, unusedOfPool_of_stuck stuck]
    exact .none (leaves_ne_of_stuck (linksTaken_eq_nil.mp (walk_eq_nil.mp stuck)))
  | case2 pool visited hypothesis =>
    rw [trailsOfPool_of_visited visited, unusedOfPool_of_visited visited]
    obtain ⟨last, walks, ends⟩ := linksTaken_walk fun none => visited (walk_eq_nil.mpr none)
    have left := trailsOfPool_perm src dst (walk src dst none pool).2
    exact .next walks (ends.imp_right fun free link member => free link (left.mem_iff.mpr member))
      hypothesis

theorem trailsOfPool_through {trail : List Link} (member : trail ∈ trailsOfPool src dst pool) :
    ∀ link ∈ trail.dropLast, link.target.node ≠ dst := by
  fun_induction routesOfPool src dst pool with
  | case1 pool stuck =>
    rw [trailsOfPool_of_stuck stuck] at member
    exact absurd member List.not_mem_nil
  | case2 pool visited hypothesis =>
    rw [trailsOfPool_of_visited visited] at member
    rcases List.mem_cons.mp member with rfl | later
    · exact linksTaken_through src dst none pool
    · exact hypothesis later

/-- **The routes of a pool follow trails** that are taken out of it one after another. -/
theorem routesOfPool_trails (src dst : Node) (pool : List Link) :
    ∃ trails unused, routesOfPool src dst pool = trails.map (Route.along src dst) ∧
      pool.Perm (trails.flatten ++ unused) ∧ Trails src dst unused trails :=
  ⟨_, _, routesOfPool_eq src dst pool, trailsOfPool_perm src dst pool,
    trailsOfPool_trails src dst pool⟩

/-! ### Trails that arrive -/

/-- No node but the source is left more often than it is entered. -/
def Sinks (src : Node) (used : List Link) : Prop :=
  ∀ node, node ≠ src → (nodesLeft used).count node ≤ (nodesEntered used).count node

/-- A walk enters its last node once more than it leaves it, and every other node but the source as
often as it leaves it. -/
theorem Link.Walk.count (walks : Link.Walk src last trail) {node : Node} (apart : node ≠ src) :
    (nodesEntered trail).count node =
      (nodesLeft trail).count node + Multiset.count node {last} := by
  have even := congrArg (Multiset.count node) walks.balanced
  have none : Multiset.count node {src} = 0 :=
    Multiset.count_eq_zero.mpr fun member => apart (Multiset.mem_singleton.mp member)
  rw [Multiset.count_add, Multiset.count_add, none, add_zero] at even
  exact even.symm

theorem Sinks.append {used : List Link} (sinks : Sinks src used)
    (walks : Link.Walk src last trail) : Sinks src (used ++ trail) := by
  intro node apart
  have before := sinks node apart
  have even := walks.count apart
  unfold nodesLeft nodesEntered at before even ⊢
  rw [viewsLeft_append, viewsEntered_append, Multiset.count_add, Multiset.count_add]
  omega

/-- The last node of a walk is one that a link of it enters. -/
theorem Link.Walk.enters_last (walks : Link.Walk src last trail) :
    ∃ link ∈ trail, link.target.node = last := by
  induction walks with
  | last leaves enters => exact ⟨_, List.mem_cons_self, enters⟩
  | step leaves onward hypothesis =>
    obtain ⟨link, member, enters⟩ := hypothesis
    exact ⟨link, List.mem_cons_of_mem _ member, enters⟩

/-- **Where every node but the destination is left at least as often as it is entered, every trail
arrives.** A trail that ended elsewhere would have entered its last node once more than all trails
so far have left it, and no link is left that leaves it. -/
theorem Trails.arrives (each : Trails src dst unused trails)
    (outbound : ∀ link ∈ pool, link.target.node ≠ src)
    (through : ∀ node, node ≠ dst → (nodesEntered pool).count node ≤ (nodesLeft pool).count node)
    {used : List Link} (sinks : Sinks src used)
    (whole : pool.Perm (used ++ (trails.flatten ++ unused))) :
    ∀ trail ∈ trails, Link.Walk src dst trail := by
  induction each generalizing used with
  | none => exact fun trail member => absurd member List.not_mem_nil
  | @next trail last later walks ends rest hypothesis =>
    have whole' : pool.Perm ((used ++ trail) ++ (later.flatten ++ unused)) := by
      simpa only [List.flatten_cons, List.append_assoc] using whole
    have arrived : last = dst := by
      rcases ends with arrived | free
      · exact arrived
      · by_contra elsewhere
        obtain ⟨link, member, enters⟩ := walks.enters_last
        have apart : last ≠ src := fun same => outbound link
          (whole'.mem_iff.mpr (List.mem_append_left _ (List.mem_append_right _ member)))
          (enters.trans same)
        have unleft : (viewsLeft (·.node) (later.flatten ++ unused)).count last = 0 := by
          rw [Multiset.count_eq_zero, mem_viewsLeft]
          rintro ⟨other, remains, leaves⟩
          exact free other remains leaves
        have enough := through last elsewhere
        have before := sinks last apart
        have even := walks.count apart
        rw [Multiset.count_singleton_self] at even
        unfold nodesLeft nodesEntered at enough before even
        rw [viewsLeft_perm _ whole', viewsEntered_perm _ whole'] at enough
        simp only [viewsLeft_append, viewsEntered_append, Multiset.count_add] at enough unleft
        omega
    subst arrived
    intro other member
    rcases List.mem_cons.mp member with rfl | member
    · exact walks
    · exact hypothesis (sinks.append walks) whole' other member

/-! ### The routes of any pool -/

/-- What is known of one trail among all. -/
theorem Trails.split {before after : List (List Link)}
    (each : Trails src dst unused (before ++ trail :: after)) :
    ∃ last, Link.Walk src last trail ∧
      (last = dst ∨ ∀ link ∈ after.flatten ++ unused, link.origin.node ≠ last) := by
  induction before with
  | nil =>
    cases each with
    | next walks ends rest => exact ⟨_, walks, ends⟩
  | cons first before hypothesis =>
    cases each with
    | next walks ends rest => exact hypothesis rest

theorem Trails.unused_ne (each : Trails src dst unused trails) :
    ∀ link ∈ unused, link.origin.node ≠ src := by
  induction each with
  | none exhausted => exact exhausted
  | next walks ends rest hypothesis => exact hypothesis

/-- **The routes of any pool.** They follow trails that are taken out of the pool one after another,
up to links of which none leaves the source. Each begins with a hop at the source; it ends with a
hop at the destination, or else at a node that no link left by then leaves. All end at the
destination where no link enters the source and every other node but the destination is left at
least as often as it is entered. -/
theorem reconstruct_trails (src dst : Node) (links : List Link) (any : links ≠ []) :
    ∃ trails unused, reconstruct src dst links = trails.map (Route.along src dst) ∧
      links.Perm (trails.flatten ++ unused) ∧ (∀ link ∈ unused, link.origin.node ≠ src) ∧
      (∀ before trail after, trails = before ++ trail :: after →
        ∃ last, Link.Walk src last trail ∧ (Route.along src dst trail).Reaches src last ∧
          (last = dst ∨ ∀ link ∈ after.flatten ++ unused, link.origin.node ≠ last)) ∧
      ((∀ link ∈ links, link.target.node ≠ src) →
        (∀ node, node ≠ dst → (nodesEntered links).count node ≤ (nodesLeft links).count node) →
        ∀ route ∈ reconstruct src dst links, route.Joins src dst) := by
  obtain ⟨trails, unused, routes, whole, each⟩ := routesOfPool_trails src dst links
  have chosen : reconstruct src dst links = trails.map (Route.along src dst) := by
    have full : links.isEmpty = false := by simpa using any
    unfold reconstruct
    rw [full]
    exact routes
  refine ⟨trails, unused, chosen, whole, each.unused_ne, ?_, ?_⟩
  · rintro before trail after rfl
    obtain ⟨last, walks, ends⟩ := each.split
    exact ⟨last, walks, walks.reaches, ends⟩
  · intro outbound through route member
    obtain ⟨trail, mine, rfl⟩ := List.mem_map.mp (chosen ▸ member)
    have fresh : links.Perm ([] ++ (trails.flatten ++ unused)) := whole
    have walks : Link.Walk src dst trail :=
      each.arrives outbound through (fun _ _ => Nat.le_refl _) fresh trail mine
    exact ⟨rfl, rfl, walks.reaches⟩

/-- Three links towards a fourth node: two of a walk the last link of which is missing, and one of a
loop. -/
def cutShort : List Link :=
  let node := sampleNode
  [⟨⟨node 1, 1⟩, ⟨node 2, 1⟩⟩, ⟨⟨node 2, 2⟩, ⟨node 3, 1⟩⟩, ⟨⟨node 3, 2⟩, ⟨node 2, 3⟩⟩]

/-- The one route of these links is along all of them. -/
theorem reconstruct_trails_cutShort :
    ∃ trails unused,
      reconstruct { isd := 1, asn := 1 } { isd := 1, asn := 4 } cutShort =
        trails.map (Route.along { isd := 1, asn := 1 } { isd := 1, asn := 4 }) ∧
      cutShort.Perm (trails.flatten ++ unused) ∧
      (∀ link ∈ unused, link.origin.node ≠ { isd := 1, asn := 1 }) ∧
      ∀ before trail after, trails = before ++ trail :: after →
        ∃ last, Link.Walk { isd := 1, asn := 1 } last trail ∧
          (Route.along { isd := 1, asn := 1 } { isd := 1, asn := 4 } trail).Reaches
            { isd := 1, asn := 1 } last ∧
          (last = { isd := 1, asn := 4 } ∨
            ∀ link ∈ after.flatten ++ unused, link.origin.node ≠ last) := by
  obtain ⟨trails, unused, routes, whole, rest, each, _⟩ :=
    reconstruct_trails { isd := 1, asn := 1 } { isd := 1, asn := 4 } cutShort (by decide)
  exact ⟨trails, unused, routes, whole, rest, each⟩

/-- **A route can end elsewhere than at the destination.** -/
theorem reconstruct_cut_short :
    ¬ ∀ (src dst : Node) (links : List Link), links ≠ [] →
      ∀ route ∈ reconstruct src dst links, route.Joins src dst := by
  intro joins
  have routes : (reconstruct { isd := 1, asn := 1 } { isd := 1, asn := 4 } cutShort).map
      (fun route => route.hops.getLast?.map (·.node)) = [some { isd := 1, asn := 2 }] := by
    decide +kernel
  obtain ⟨route, member, ends⟩ := List.mem_map.mp (routes ▸ List.mem_cons_self)
  obtain ⟨_, _, first, middle, last, hops, _, arrives⟩ :=
    joins { isd := 1, asn := 1 } { isd := 1, asn := 4 } cutShort (by decide) route member
  rw [hops, ← List.cons_append, List.getLast?_concat, Option.map_some, Option.some_inj,
    arrives] at ends
  exact absurd ends (by decide)

/-! ### The account of a pool -/

/-- **What becomes of every link of a pool.** Whatever links it holds, they are those of the walks,
one chain for each route, and those left over. A chain begins at the source; only its last link may
enter the destination, and where it does not, no link that is left by then leaves its last node. A
route crosses the origins and the targets of its chain, but an origin once that has just been
reached. No link that is left over leaves the source. -/
theorem reconstruct_accounts (src dst : Node) (links : List Link) (any : links ≠ []) :
    reconstruct src dst links =
        (trailsOfPool src dst links).map (fun trail => ⟨src, dst, hopsAlong none trail⟩) ∧
      links.Perm ((trailsOfPool src dst links).flatten ++ unusedOfPool src dst links) ∧
      (∀ before trail after, trailsOfPool src dst links = before ++ trail :: after →
        ∃ last, Link.Walk src last trail ∧ (∀ link ∈ trail.dropLast, link.target.node ≠ dst) ∧
          (last = dst ∨
            ∀ link ∈ after.flatten ++ unusedOfPool src dst links, link.origin.node ≠ last)) ∧
      ∀ link ∈ unusedOfPool src dst links, link.origin.node ≠ src := by
  have each := trailsOfPool_trails src dst links
  refine ⟨?_, trailsOfPool_perm src dst links, fun before trail after split => ?_, each.unused_ne⟩
  · have full : links.isEmpty = false := by simpa using any
    rw [reconstruct, full]
    exact routesOfPool_eq src dst links
  · have mine : trail ∈ trailsOfPool src dst links :=
      split ▸ List.mem_append_right before List.mem_cons_self
    rw [split] at each
    obtain ⟨last, walks, ends⟩ := each.split
    exact ⟨last, walks, trailsOfPool_through mine, ends⟩

/-- A pool with a link of the source to itself, a loop that leads back to the source, a link twice,
and one that no walk reaches. -/
def scattered : List Link :=
  let node := sampleNode
  [⟨⟨node 5, 1⟩, ⟨node 4, 9⟩⟩, ⟨⟨node 1, 1⟩, ⟨node 1, 2⟩⟩, ⟨⟨node 1, 3⟩, ⟨node 2, 1⟩⟩,
    ⟨⟨node 2, 2⟩, ⟨node 1, 4⟩⟩, ⟨⟨node 2, 1⟩, ⟨node 4, 1⟩⟩, ⟨⟨node 1, 3⟩, ⟨node 2, 1⟩⟩]

/-- The first walk takes the link of the source to itself before it reaches the destination; the
second one comes back to the source, where no link is left. Where a link leaves the hop that has been
reached, this hop is visited once. -/
theorem reconstruct_accounts_scattered :
    trailsOfPool { isd := 1, asn := 1 } { isd := 1, asn := 4 } scattered =
        [[scattered[1], scattered[2], scattered[4]], [scattered[5], scattered[3]]] ∧
      unusedOfPool { isd := 1, asn := 1 } { isd := 1, asn := 4 } scattered = [scattered[0]] ∧
      (reconstruct { isd := 1, asn := 1 } { isd := 1, asn := 4 } scattered).map (·.hops) =
        [[⟨sampleNode 1, 1⟩, ⟨sampleNode 1, 2⟩, ⟨sampleNode 1, 3⟩, ⟨sampleNode 2, 1⟩,
            ⟨sampleNode 4, 1⟩],
          [⟨sampleNode 1, 3⟩, ⟨sampleNode 2, 1⟩, ⟨sampleNode 2, 2⟩, ⟨sampleNode 1, 4⟩]] := by
  have trails : trailsOfPool { isd := 1, asn := 1 } { isd := 1, asn := 4 } scattered =
      [[scattered[1], scattered[2], scattered[4]], [scattered[5], scattered[3]]] := by
    decide +kernel
  obtain ⟨routes, _, _, _⟩ :=
    reconstruct_accounts { isd := 1, asn := 1 } { isd := 1, asn := 4 } scattered (by decide)
  refine ⟨trails, by decide +kernel, ?_⟩
  rw [routes, trails]
  decide

end Wayfinder
