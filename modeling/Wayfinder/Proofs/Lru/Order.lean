/-
**The order of last uses.**

A cache keeps its entries in no order that would matter: which one is given up is told by the
readings of the clock alone. As long as the clock goes on, no two readings are the same, so that the
entries have one order of last uses, in whatever order they are kept.

* `Table.find?_perm`, `Table.place_perm`: tables without repeated keys, up to the order of entries;
* `Lru.Ordered`: the entries of a table in the order of their last uses;
* `Lru.Ordered.erase`, `Lru.Ordered.append`, `Lru.Ordered.replace`: the order after a change;
* `Lru.Ordered.oldest?_eq`, `Lru.Ordered.makeRoom_eq`: what is given up is the first entry.
-/

import Wayfinder.Lru

namespace Wayfinder

/-! ### Tables without repeated keys -/

namespace Table

variable {κ ν : Type} [DecidableEq κ] {key : κ} {value : ν} {entries : List (κ × ν)}

/-- Where no key is repeated, a key has the value that stands with it. -/
theorem find?_eq_some_iff (distinct : (entries.map (·.1)).Nodup) :
    find? key entries = some value ↔ (key, value) ∈ entries := by
  induction entries with
  | nil => simp [find?]
  | cons entry rest hypothesis =>
    obtain ⟨other, old⟩ := entry
    rw [List.map_cons, List.nodup_cons] at distinct
    unfold find?
    by_cases same : other = key
    · subst same
      have absent : (other, value) ∉ rest := by
        intro member
        exact distinct.1 (List.mem_map.mpr ⟨_, member, rfl⟩)
      simp [absent, eq_comm]
    · simp [same, Ne.symm same, hypothesis distinct.2]

/-- A key without a value is absent. -/
theorem absent_of_find? (none : find? key entries = none) : key ∉ entries.map (·.1) := by
  induction entries with
  | nil => simp
  | cons entry rest hypothesis =>
    obtain ⟨other, old⟩ := entry
    unfold find? at none
    split at none
    · cases none
    · next differs =>
      rw [List.map_cons, List.mem_cons, not_or]
      exact ⟨Ne.symm differs, hypothesis none⟩

/-- **Where no key is repeated, the order of the entries does not matter.** -/
theorem find?_perm {others : List (κ × ν)} (distinct : (entries.map (·.1)).Nodup)
    (reordered : entries.Perm others) (key : κ) : find? key entries = find? key others := by
  have distinct' : (others.map (·.1)).Nodup := (reordered.map _).nodup_iff.mp distinct
  apply Option.ext
  intro value
  rw [find?_eq_some_iff distinct, find?_eq_some_iff distinct', reordered.mem_iff]

/-- A key that is absent is given a value at the end. -/
theorem place_of_absent (absent : key ∉ entries.map (·.1)) :
    place key value entries = entries ++ [(key, value)] := by
  induction entries with
  | nil => rfl
  | cons entry rest hypothesis =>
    obtain ⟨other, old⟩ := entry
    rw [List.map_cons, List.mem_cons, not_or] at absent
    rw [place, if_neg (Ne.symm absent.1), hypothesis absent.2, List.cons_append]

/-- What is left of entries when a key is taken out of them that is absent. -/
theorem filter_of_absent (absent : key ∉ entries.map (·.1)) :
    (entries.filter fun entry => !decide (entry.1 = key)) = entries := by
  rw [List.filter_eq_self]
  intro entry member
  have differs : entry.1 ≠ key := by
    rintro rfl
    exact absent (List.mem_map_of_mem member)
  simp [differs]

/-- **A key that is given a value may as well be taken out before.** -/
theorem place_perm (distinct : (entries.map (·.1)).Nodup) :
    (place key value entries).Perm
      ((entries.filter fun entry => !decide (entry.1 = key)) ++ [(key, value)]) := by
  induction entries with
  | nil => exact List.Perm.refl _
  | cons entry rest hypothesis =>
    obtain ⟨other, old⟩ := entry
    rw [List.map_cons, List.nodup_cons] at distinct
    by_cases same : other = key
    · subst same
      rw [place, if_pos rfl, List.filter_cons_of_neg (by simp), filter_of_absent distinct.1]
      exact (List.perm_append_singleton _ _).symm
    · rw [place, if_neg same, List.filter_cons_of_pos (by simp [same]), List.cons_append]
      exact (hypothesis distinct.2).cons _

/-- A key that is present is given another value in its place. -/
theorem place_of_present (distinct : (entries.map (·.1)).Nodup)
    (present : key ∈ entries.map (·.1)) :
    place key value entries =
      entries.map fun entry => if entry.1 = key then (key, value) else entry := by
  induction entries with
  | nil => cases present
  | cons entry rest hypothesis =>
    obtain ⟨other, old⟩ := entry
    rw [List.map_cons, List.nodup_cons] at distinct
    by_cases same : other = key
    · subst same
      have kept : ∀ entry ∈ rest,
          (if entry.1 = other then (other, value) else entry) = id entry := by
        intro entry member
        exact if_neg fun same => distinct.1 (List.mem_map.mpr ⟨entry, member, same⟩)
      rw [place, if_pos rfl, List.map_cons, if_pos rfl, List.map_congr_left kept, List.map_id]
    · rw [List.map_cons, List.mem_cons] at present
      have later : key ∈ rest.map (·.1) := present.resolve_left (Ne.symm same)
      rw [place, if_neg same, hypothesis distinct.2 later, List.map_cons, if_neg same]

end Table

/-! ### Entries in the order of their last uses -/

namespace Lru

variable {κ ν : Type}

/-- The entries of a table in the order of their last uses, all of them up to a reading of the
clock. -/
structure Ordered (clock : UInt64) (entries : Table κ (Entry ν)) (ordered : List (κ × Entry ν)) :
    Prop where
  /-- The order in which the table keeps its entries does not matter. -/
  perm : ordered.Perm entries.entries
  /-- No two entries have the same last use. -/
  rising : ordered.Pairwise fun first second => first.2.lastUse < second.2.lastUse
  bounded : ∀ entry ∈ ordered, entry.2.lastUse ≤ clock
  distinct : (ordered.map (·.1)).Nodup

/-- Among entries there is an oldest one. -/
theorem oldest?_eq_none {entries : List (κ × Entry ν)} (none : oldest? entries = Option.none) :
    entries = [] := by
  cases entries with
  | nil => rfl
  | cons entry rest =>
    unfold oldest? at none
    split at none
    · cases none
    · split at none <;> cases none

/-- The oldest entry is one of the entries, and none of them was used before it. -/
theorem oldest?_eq_some {entries : List (κ × Entry ν)} {oldest : κ × Entry ν}
    (found : oldest? entries = some oldest) :
    oldest ∈ entries ∧ ∀ entry ∈ entries, oldest.2.lastUse ≤ entry.2.lastUse := by
  induction entries generalizing oldest with
  | nil => cases found
  | cons entry rest hypothesis =>
    unfold oldest? at found
    split at found
    · next none =>
      cases found
      rw [oldest?_eq_none none]
      simp
    · next other some' =>
      obtain ⟨member, least⟩ := hypothesis some'
      split at found
      · next earlier =>
        cases found
        refine ⟨List.mem_cons_of_mem _ member, fun candidate among => ?_⟩
        rcases List.mem_cons.mp among with rfl | later
        · exact UInt64.le_of_lt earlier
        · exact least candidate later
      · next notEarlier =>
        cases found
        refine ⟨List.mem_cons_self, fun candidate among => ?_⟩
        rcases List.mem_cons.mp among with rfl | later
        · exact UInt64.le_refl _
        · exact UInt64.le_trans (UInt64.not_lt.mp notEarlier) (least candidate later)

/-- Making room takes nothing out where there is room. -/
theorem makeRoom_of_lt [DecidableEq κ] {capacity : Nat} {entries : Table κ (Entry ν)}
    (room : entries.size < capacity) (rounds : Nat) :
    makeRoom capacity rounds entries = ([], entries) := by
  cases rounds with
  | zero => rfl
  | succ rounds => rw [makeRoom, if_pos room]

namespace Ordered

variable {clock clock' : UInt64} {entries : Table κ (Entry ν)} {ordered : List (κ × Entry ν)}
  {key : κ} {entry : Entry ν}

theorem empty (clock : UInt64) : Ordered clock (Table.empty : Table κ (Entry ν)) [] where
  perm := List.Perm.refl _
  rising := List.Pairwise.nil
  bounded := by simp
  distinct := by simp

/-- A table may keep its entries in any other order. -/
theorem shuffle (order : Ordered clock entries ordered) {entries' : Table κ (Entry ν)}
    (reordered : entries'.entries.Perm entries.entries) : Ordered clock entries' ordered :=
  { order with perm := order.perm.trans reordered.symm }

theorem size_eq (order : Ordered clock entries ordered) : entries.size = ordered.length :=
  order.perm.length_eq.symm

theorem keys_distinct (order : Ordered clock entries ordered) :
    (entries.entries.map (·.1)).Nodup :=
  (order.perm.map _).nodup_iff.mp order.distinct

/-- **The oldest entry is the first one.** -/
theorem oldest?_eq {first : κ × Entry ν} {rest : List (κ × Entry ν)}
    (order : Ordered clock entries (first :: rest)) : oldest? entries.entries = some first := by
  cases found : oldest? entries.entries with
  | none =>
    have empty := order.perm
    rw [oldest?_eq_none found] at empty
    exact absurd empty.eq_nil (List.cons_ne_nil _ _)
  | some oldest =>
    obtain ⟨member, least⟩ := oldest?_eq_some found
    rcases List.mem_cons.mp (order.perm.mem_iff.mpr member) with rfl | later
    · rfl
    · have before := (List.pairwise_cons.mp order.rising).1 oldest later
      have after := least first (order.perm.mem_iff.mp List.mem_cons_self)
      exact absurd before (UInt64.not_lt.mpr after)

variable [DecidableEq κ]

theorem get?_eq (order : Ordered clock entries ordered) (key : κ) :
    entries.get? key = Table.find? key ordered :=
  (Table.find?_perm order.distinct order.perm key).symm

/-- A key that is taken out leaves the order of the others. -/
theorem erase (order : Ordered clock entries ordered) (key : κ) :
    Ordered clock (entries.erase key) (ordered.filter fun entry => !decide (entry.1 = key)) where
  perm := order.perm.filter _
  rising := order.rising.filter _
  bounded entry member := order.bounded entry (List.mem_filter.mp member).1
  distinct := order.distinct.sublist (List.filter_sublist.map _)

/-- **An entry that is used goes to the end**, since the clock goes on. -/
theorem append (order : Ordered clock entries ordered) (absent : key ∉ ordered.map (·.1))
    (later : clock < clock') (last : entry.lastUse = clock') :
    Ordered clock' (entries.put key entry) (ordered ++ [(key, entry)]) where
  perm := by
    have absent' : key ∉ entries.entries.map (·.1) := by
      rwa [← (order.perm.map (·.1)).mem_iff]
    show (ordered ++ [(key, entry)]).Perm (Table.place key entry entries.entries)
    rw [Table.place_of_absent absent']
    exact order.perm.append_right _
  rising := by
    rw [List.pairwise_append]
    refine ⟨order.rising, List.pairwise_singleton _ _, fun first member final among => ?_⟩
    rw [List.mem_singleton.mp among, last]
    exact UInt64.lt_of_le_of_lt (order.bounded first member) later
  bounded other member := by
    rcases List.mem_append.mp member with old | new
    · exact UInt64.le_of_lt (UInt64.lt_of_le_of_lt (order.bounded other old) later)
    · rw [List.mem_singleton.mp new, last]
      exact UInt64.le_refl _
  distinct := by
    rw [List.map_append, List.nodup_append]
    refine ⟨order.distinct, by simp, fun first member last among => ?_⟩
    rw [List.map_singleton, List.mem_singleton] at among
    subst among
    rintro rfl
    exact absent member

/-- The entry of a key that is present or not is used last. -/
theorem use (order : Ordered clock entries ordered) (key : κ) (later : clock < clock')
    (last : entry.lastUse = clock') :
    Ordered clock' (entries.put key entry)
      ((ordered.filter fun other => !decide (other.1 = key)) ++ [(key, entry)]) := by
  have absent : key ∉ (ordered.filter fun other => !decide (other.1 = key)).map (·.1) := by
    simp
  have absent' : key ∉ (entries.erase key).entries.map (·.1) := by
    rwa [← ((order.erase key).perm.map (·.1)).mem_iff]
  refine ((order.erase key).append absent later last).shuffle ?_
  show (Table.place key entry entries.entries).Perm
    (Table.place key entry (entries.erase key).entries)
  rw [Table.place_of_absent absent']
  exact Table.place_perm order.keys_distinct

/-- **Another value in the place of an old one leaves the order as it is.** -/
theorem replace (order : Ordered clock entries ordered) {old : Entry ν}
    (here : entries.get? key = some old) (same : entry.lastUse = old.lastUse) :
    Ordered clock (entries.put key entry)
      (ordered.map fun other => if other.1 = key then (key, entry) else other) := by
  rw [order.get?_eq, Table.find?_eq_some_iff order.distinct] at here
  have present : key ∈ entries.entries.map (·.1) :=
    List.mem_map.mpr ⟨_, order.perm.mem_iff.mp here, rfl⟩
  -- the entry of the key is the old one, so that no last use changes
  have lastUse : ∀ other ∈ ordered,
      (if other.1 = key then (key, entry) else other).2.lastUse = other.2.lastUse := by
    intro other member
    split
    · next this =>
      have value : Table.find? key ordered = some other.2 :=
        (Table.find?_eq_some_iff order.distinct).mpr (this ▸ member)
      rw [(Table.find?_eq_some_iff order.distinct).mpr here] at value
      rw [same, Option.some.inj value]
    · rfl
  have keys : (ordered.map fun other => if other.1 = key then (key, entry) else other).map (·.1) =
      ordered.map (·.1) := by
    rw [List.map_map]
    refine List.map_congr_left fun other member => ?_
    by_cases this : other.1 = key <;> simp [this]
  refine ⟨?_, ?_, ?_, keys ▸ order.distinct⟩
  · show List.Perm _ (Table.place key entry entries.entries)
    rw [Table.place_of_present order.keys_distinct present]
    exact order.perm.map _
  · rw [List.pairwise_map]
    refine order.rising.imp_of_mem fun {first second} member member' before => ?_
    rwa [lastUse first member, lastUse second member']
  · intro other member
    obtain ⟨before, among, rfl⟩ := List.mem_map.mp member
    rw [lastUse before among]
    exact order.bounded before among

/-- **Where one entry is too many, the first one is given up**, and no other. -/
theorem makeRoom_eq {capacity : Nat} {first : κ × Entry ν} {rest : List (κ × Entry ν)}
    (order : Ordered clock entries (first :: rest)) (full : entries.size = capacity) :
    makeRoom capacity entries.size entries = ([first.1], entries.erase first.1) ∧
      Ordered clock (entries.erase first.1) rest := by
  have left : ((first :: rest).filter fun entry => !decide (entry.1 = first.1)) = rest := by
    rw [List.filter_cons_of_neg (by simp)]
    exact Table.filter_of_absent (List.nodup_cons.mp order.distinct).1
  have order' : Ordered clock (entries.erase first.1) rest := left ▸ order.erase first.1
  have size : entries.size = rest.length + 1 := order.size_eq
  refine ⟨?_, order'⟩
  have room : (entries.erase first.1).size < capacity := by
    rw [order'.size_eq]
    omega
  rw [size, makeRoom, if_neg (by omega), order.oldest?_eq]
  simp only [makeRoom_of_lt room]

end Ordered

end Lru

end Wayfinder
