/-
**Walks and their pool.**

A walk takes links out of the pool one by one and leaves the others in their order. These facts hold
of every pool.

* `takeFirst?_eq_some`: the element that is taken, and where it stood;
* `nextLink?_of_exact`: a link that continues at the very interface is taken before any other;
* `walk_of_next`, `walk_of_stuck`: one step of a walk;
* `walk_sublist`: what a walk leaves;
* `routesOfPool_of_visited`, `routesOfPool_of_stuck`: one walk out of the pool.
-/

import Wayfinder.Reconstruction

namespace Wayfinder

/-! ### The first element with a property -/

section TakeFirst

variable {α : Type} {test : α → Bool} {elements others : List α} {found : α}

/-- **What is taken has the property, and nothing before it has.** -/
theorem takeFirst?_eq_some (taken : takeFirst? test elements = some (found, others)) :
    test found = true ∧ ∃ before after, elements = before ++ found :: after ∧
      others = before ++ after ∧ ∀ element ∈ before, test element = false := by
  induction elements generalizing others with
  | nil => cases taken
  | cons element rest hypothesis =>
    unfold takeFirst? at taken
    split at taken
    · next passed =>
      cases taken
      exact ⟨passed, [], rest, rfl, rfl, fun _ member => absurd member List.not_mem_nil⟩
    · next failed =>
      obtain ⟨⟨inner, left⟩, step, same⟩ := Option.map_eq_some_iff.mp taken
      cases same
      obtain ⟨passed, before, after, rfl, rfl, none⟩ := hypothesis step
      refine ⟨passed, element :: before, after, rfl, rfl, fun other member => ?_⟩
      rcases List.mem_cons.mp member with rfl | member
      · exact Bool.eq_false_iff.mpr failed
      · exact none other member

theorem takeFirst?_perm (taken : takeFirst? test elements = some (found, others)) :
    elements.Perm (found :: others) := by
  obtain ⟨_, before, after, rfl, rfl, _⟩ := takeFirst?_eq_some taken
  exact List.perm_middle

theorem takeFirst?_sublist (taken : takeFirst? test elements = some (found, others)) :
    others.Sublist elements := by
  obtain ⟨_, before, after, rfl, rfl, _⟩ := takeFirst?_eq_some taken
  exact List.Sublist.append_left (List.sublist_cons_self found after) before

/-- Among the elements with the property, the one that is taken comes first. -/
theorem takeFirst?_filter (taken : takeFirst? test elements = some (found, others)) :
    elements.filter test = found :: others.filter test := by
  obtain ⟨passed, before, after, rfl, rfl, none⟩ := takeFirst?_eq_some taken
  have nothing : before.filter test = [] :=
    List.filter_eq_nil_iff.mpr fun element member => by simp [none element member]
  rw [List.filter_append, List.filter_append, nothing, List.filter_cons_of_pos passed]
  rfl

/-- If there is an element with the property, one is taken. -/
theorem takeFirst?_of_mem {element : α} (member : element ∈ elements) (passed : test element = true) :
    ∃ found others, takeFirst? test elements = some (found, others) := by
  induction elements with
  | nil => cases member
  | cons first rest hypothesis =>
    unfold takeFirst?
    split
    · exact ⟨first, rest, rfl⟩
    · next failed =>
      rcases List.mem_cons.mp member with rfl | member
      · exact absurd passed failed
      · obtain ⟨found, others, taken⟩ := hypothesis member
        exact ⟨found, first :: others, by rw [taken]; rfl⟩

end TakeFirst

/-! ### One step of a walk -/

section Walk

variable {src dst : Node} {cursor : Option Hop} {pool others : List Link} {link : Link}

theorem nextLink?_cases (next : nextLink? src cursor pool = some (link, others)) :
    ∃ test, takeFirst? test pool = some (link, others) := by
  unfold nextLink? at next
  split at next
  · exact ⟨_, next⟩
  · rcases Option.or_eq_some_iff.mp next with continuing | ⟨_, fallback⟩
    · exact ⟨_, continuing⟩
    · exact ⟨_, fallback⟩

theorem nextLink?_perm (next : nextLink? src cursor pool = some (link, others)) :
    pool.Perm (link :: others) := by
  obtain ⟨_, taken⟩ := nextLink?_cases next
  exact takeFirst?_perm taken

theorem nextLink?_sublist (next : nextLink? src cursor pool = some (link, others)) :
    others.Sublist pool := by
  obtain ⟨_, taken⟩ := nextLink?_cases next
  exact takeFirst?_sublist taken

/-- **A walk goes on at the very interface that it has reached**, if some link leaves it. -/
theorem nextLink?_of_exact (src : Node) {hop : Hop} (member : link ∈ pool) (leaves : link.origin = hop) :
    ∃ next others, nextLink? src (some hop) pool = some (next, others) ∧ next.origin = hop := by
  have some' : ∃ next others,
      takeFirst? (fun link => decide (link.origin = hop)) pool = some (next, others) :=
    takeFirst?_of_mem member (decide_eq_true leaves)
  obtain ⟨next, others, taken⟩ := some'
  refine ⟨next, others, ?_, of_decide_eq_true (takeFirst?_eq_some taken).1⟩
  rw [nextLink?, taken, Option.some_or]

/-- The hops after a link: none at the destination, else those of the walk from its target. -/
theorem walk_of_next (next : nextLink? src cursor pool = some (link, others)) :
    walk src dst cursor pool =
      if link.target.node = dst then (hopsOf cursor link, others)
      else (hopsOf cursor link ++ (walk src dst (some link.target) others).1,
        (walk src dst (some link.target) others).2) := by
  rw [walk]
  split
  · next none =>
    rw [next] at none
    cases none
  · next found left taken =>
    rw [next] at taken
    cases taken
    rfl

theorem walk_of_stuck (stuck : nextLink? src cursor pool = none) :
    walk src dst cursor pool = ([], pool) := by
  rw [walk]
  split
  · rfl
  · next found left taken =>
    rw [stuck] at taken
    cases taken

/-- **A walk leaves what it does not take in its order.** -/
theorem walk_sublist (src dst : Node) (cursor : Option Hop) (pool : List Link) :
    (walk src dst cursor pool).2.Sublist pool := by
  fun_induction walk src dst cursor pool with
  | case1 => exact List.Sublist.refl _
  | case2 _ _ _ _ next => exact nextLink?_sublist next
  | case3 _ _ _ _ next _ _ _ equal hypothesis =>
    rw [equal] at hypothesis
    exact hypothesis.trans (nextLink?_sublist next)

/-! ### One walk out of a pool -/

theorem routesOfPool_of_visited (visited : (walk src dst none pool).1 ≠ []) :
    routesOfPool src dst pool =
      ⟨src, dst, (walk src dst none pool).1⟩ ::
        routesOfPool src dst (walk src dst none pool).2 := by
  rw [routesOfPool, dif_neg visited]

theorem routesOfPool_of_stuck (stuck : (walk src dst none pool).1 = []) :
    routesOfPool src dst pool = [] := by
  rw [routesOfPool, dif_pos stuck]

end Walk

/-- The nodes of pools that are written out. -/
def sampleNode (system : UInt8) : Node where
  isd := 1
  asn := system.toNat
  asn_lt := Nat.lt_trans system.toNat_lt (by decide)

end Wayfinder
