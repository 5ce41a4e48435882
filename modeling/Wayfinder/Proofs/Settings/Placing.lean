/-
**Values at paths.**

A value that is laid over a tree at a path changes what lies on the path and nothing beside it. So
what a setting is worth, after any number of values have been placed, is told by the last of them
whose path leads to the setting, as long as no path leads to its part or into the setting; and the
parts stay tables. When the tree is laid over another one, a setting that it does not have keeps
the value from below.

* `get?_change`, `get?_mergeFields`: keys after a change and after tables have been joined;
* `at?`: the value of a setting in its part of the tree;
* `touches`: whether a path has to do with a setting;
* `at?_of_apart`, `at?_of_placed`: a setting after one value has been placed;
* `Direct`, `at?_under`: a setting after several values have been placed;
* `Parted`, `parted_under`: the parts stay tables;
* `at?_merge`: a setting in a tree that is laid over another one.
-/

import Mathlib.Data.List.Induction
import Wayfinder.Settings.Layers

namespace Wayfinder.SettingTree

variable {key other : String} {fields upper : List (String × SettingTree)}
  {update : SettingTree → SettingTree} {under value tree next : SettingTree}

/-! ### Keys -/

theorem get?_cons : (table ((other, value) :: fields)).get? key =
    if other = key then some value else (table fields).get? key := by
  simp only [get?, SettingTree.fields, List.find?_cons]
  split <;> simp_all

/-- **What stands under a key after a change.** -/
theorem get?_change : (table (change key update fields)).get? other =
    if key = other then some (update (((table fields).get? key).getD (.table [])))
    else (table fields).get? other := by
  induction fields with
  | nil =>
    rw [change, get?_cons]
    rfl
  | cons head rest hypothesis =>
    obtain ⟨name, value⟩ := head
    rw [change, get?_cons, get?_cons]
    by_cases here : name = key
    · subst here
      rw [if_pos rfl, if_pos rfl, get?_cons]
      split <;> rfl
    · rw [if_neg here, if_neg here, get?_cons, hypothesis]
      by_cases there : name = other
      · subst there
        rw [if_pos rfl, if_neg (Ne.symm here), if_pos rfl]
      · rw [if_neg there, if_neg there]

theorem get?_eq_none : (table fields).get? key = none ↔ key ∉ fields.map (·.1) := by
  rw [get?, Option.map_eq_none_iff, List.find?_eq_none]
  simp only [decide_eq_true_eq, List.mem_map, not_exists, not_and]
  rfl

/-- Whether a tree is a table in which no key stands twice. -/
def Keyed (tree : SettingTree) : Prop :=
  ∃ fields, tree = .table fields ∧ (fields.map (·.1)).Nodup

theorem keyed_empty : Keyed (.table []) :=
  ⟨[], rfl, List.nodup_nil⟩

/-- A change adds no key that is there. -/
theorem nodup_change (distinct : (fields.map (·.1)).Nodup) :
    ((change key update fields).map (·.1)).Nodup := by
  have keys : (change key update fields).map (·.1) =
      if key ∈ fields.map (·.1) then fields.map (·.1) else fields.map (·.1) ++ [key] := by
    clear distinct
    induction fields with
    | nil => rfl
    | cons head rest hypothesis =>
      obtain ⟨name, value⟩ := head
      rw [change]
      by_cases here : name = key
      · subst here
        simp
      · rw [if_neg here, List.map_cons, hypothesis]
        have apart : key ≠ name := Ne.symm here
        simp only [List.map_cons, List.mem_cons, apart, false_or]
        split <;> rfl
  rw [keys]
  split
  · exact distinct
  · next absent => exact List.nodup_append.mpr ⟨distinct, by simp, by grind⟩

/-! ### Tables that are joined -/

theorem merge_leaf (leaf : ∀ fields, value ≠ .table fields) : merge under value = value := by
  cases value with
  | table fields => exact absurd rfl (leaf fields)
  | missing | bool | integer | real | text | list => rfl

/-- **What stands under a key when fields have been laid over a tree.** -/
theorem get?_mergeFields (distinct : (upper.map (·.1)).Nodup) :
    (mergeFields under upper).get? key =
      match (table upper).get? key with
      | some value => some (merge ((under.get? key).getD (.table [])) value)
      | none => under.get? key := by
  induction upper generalizing under with
  | nil => rfl
  | cons head rest hypothesis =>
    obtain ⟨name, value⟩ := head
    obtain ⟨once, distinct⟩ := List.nodup_cons.mp distinct
    rw [mergeFields, hypothesis distinct, get?_cons, get?_change]
    by_cases here : name = key
    · subst here
      rw [if_pos rfl, if_pos rfl, get?_eq_none.mpr once]
      rfl
    · rw [if_neg here, if_neg here]
      rfl

/-! ### Settings in their parts -/

/-- The value of a setting in its part of the tree. -/
def at? (tree : SettingTree) (part name : String) : Option SettingTree :=
  (tree.get? part).bind (·.get? name)

/-- Whether a path has to do with a setting: it leads to the setting, to its part or into it. -/
def touches (part name : String) : List SettingStep → Bool
  | .key first :: .key second :: _ => first == part && second == name
  | .key first :: _ => first == part
  | _ => true

section

variable {part name : String} {path : List SettingStep}

theorem place?_key_eq_some : place? value (.key key :: path) tree = some next ↔
    ∃ inner, place? value path ((tree.get? key).getD (.table [])) = some inner ∧
      next = .table (change key (fun _ => inner) tree.fields) := by
  rw [place?, Option.map_eq_some_iff]
  simp only [eq_comm]

/-- Keys lead everywhere. -/
theorem place?_of_keys (keys : ∀ step ∈ path, ∃ name, step = .key name) (tree : SettingTree) :
    ∃ next, place? value path tree = some next := by
  induction path generalizing tree with
  | nil => exact ⟨_, rfl⟩
  | cons step rest hypothesis =>
    obtain ⟨name, rfl⟩ := keys step List.mem_cons_self
    obtain ⟨inner, placed⟩ := hypothesis (fun other member =>
      keys other (List.mem_cons_of_mem _ member)) ((tree.get? name).getD (.table []))
    exact ⟨_, place?_key_eq_some.mpr ⟨inner, placed, rfl⟩⟩

/-- What stands under a key when a value has been placed below another one, or below this one. -/
theorem get?_place? (other : String) (placed : place? value (.key key :: path) tree = some next) :
    ∃ inner, place? value path ((tree.get? key).getD (.table [])) = some inner ∧
      next.get? other = if key = other then some inner else tree.get? other := by
  obtain ⟨inner, below, rfl⟩ := place?_key_eq_some.mp placed
  exact ⟨inner, below, get?_change⟩

/-- **A path that has nothing to do with a setting leaves its value.** -/
theorem at?_of_apart (apart : touches part name path = false)
    (placed : place? value path tree = some next) : next.at? part name = tree.at? part name := by
  match path, apart with
  | .key first :: rest, apart =>
    obtain ⟨inner, placed, same⟩ := get?_place? part placed
    rw [at?, at?, same]
    by_cases here : first = part
    · subst here
      match rest, apart, placed with
      | .key second :: rest, apart, placed =>
        have there : second ≠ name := by simpa [touches] using apart
        obtain ⟨_, _, same⟩ := get?_place? name placed
        rw [if_pos rfl, Option.bind_some, same, if_neg there]
        cases tree.get? first with
        | none | some => rfl
      | [], apart, _ | .item _ :: _, apart, _ => simp [touches] at apart
    · rw [if_neg here]
  | [], apart | .item _ :: _, apart => cases apart

/-- **A leaf that is placed at a setting is its value.** -/
theorem at?_of_placed (leaf : ∀ fields, value ≠ .table fields)
    (placed : place? value [.key part, .key name] tree = some next) :
    next.at? part name = some value := by
  obtain ⟨inner, placed, same⟩ := get?_place? part placed
  obtain ⟨_, placed, same'⟩ := get?_place? name placed
  cases placed
  rw [at?, same, if_pos rfl, Option.bind_some, same', if_pos rfl, merge_leaf leaf]

end

/-! ### Several values -/

section

variable {placed : List (List SettingStep × SettingTree)} {part name : String}
  {parts : List String} {path : List SettingStep}

theorem under_concat {entry : List SettingStep × SettingTree} :
    Layers.under (placed ++ [entry]) tree = .ok next ↔
      ∃ middle, Layers.under placed tree = .ok middle ∧
        place? entry.2 entry.1 middle = some next := by
  rw [Layers.under, List.foldlM_append]
  show (Layers.under placed tree).bind (Layers.under [entry]) = .ok next ↔ _
  have last (middle : SettingTree) :
      Layers.under [entry] middle = .ok next ↔ place? entry.2 entry.1 middle = some next := by
    rw [Layers.under, List.foldlM_cons]
    cases place? entry.2 entry.1 middle with
    | none => exact ⟨nofun, nofun⟩
    | some tree =>
      exact ⟨fun same => congrArg some (Except.ok.inj same),
        fun same => congrArg Except.ok (Option.some.inj same)⟩
  cases Layers.under placed tree with
  | error fault => exact ⟨nofun, fun ⟨_, laid, _⟩ => nomatch laid⟩
  | ok middle =>
    refine (last middle).trans ⟨fun placed => ⟨middle, rfl, placed⟩, ?_⟩
    rintro ⟨_, ⟨⟩, placed⟩
    exact placed

/-- Whether all values that have to do with a setting are leaves that are placed at it. -/
def Direct (part name : String) (placed : List (List SettingStep × SettingTree)) : Prop :=
  ∀ entry ∈ placed, touches part name entry.1 = true →
    entry.1 = [.key part, .key name] ∧ ∀ fields, entry.2 ≠ .table fields

/-- **The value of a setting is the last one that has been placed there.** -/
theorem at?_under (direct : Direct part name placed)
    (laid : Layers.under placed tree = .ok next) :
    next.at? part name =
      ((placed.reverse.find? fun entry => touches part name entry.1).map (·.2)).or
        (tree.at? part name) := by
  induction placed using List.reverseRecOn generalizing next with
  | nil =>
    cases laid
    rfl
  | append_singleton placed entry hypothesis =>
    obtain ⟨middle, laid, last⟩ := under_concat.mp laid
    have before := hypothesis (fun other member =>
      direct other (List.mem_append_left _ member)) laid
    rw [List.reverse_append, List.reverse_singleton, List.singleton_append, List.find?_cons]
    cases touching : touches part name entry.1 with
    | true =>
      obtain ⟨path, value⟩ := entry
      obtain ⟨rfl, leaf⟩ := direct _ (List.mem_append_right _ (List.mem_singleton_self _)) touching
      exact at?_of_placed leaf last
    | false =>
      rw [at?_of_apart touching last]
      exact before

/-- A tree whose parts are tables, and in which no key stands twice. -/
structure Parted (parts : List String) (tree : SettingTree) : Prop where
  keyed : Keyed tree
  part : ∀ part ∈ parts, ∀ inner, tree.get? part = some inner → Keyed inner

theorem parted_empty (parts : List String) : Parted parts (.table []) :=
  ⟨keyed_empty, fun _ _ _ found => nomatch found⟩

/-- A path that leads to a key in a part, if it leads to a part at all. -/
inductive Enters (parts : List String) : List SettingStep → Prop
  | elsewhere {first : String} {rest : List SettingStep} (apart : first ∉ parts) :
      Enters parts (.key first :: rest)
  | inside {first second : String} {rest : List SettingStep} :
      Enters parts (.key first :: .key second :: rest)

theorem Keyed.change {inner : SettingTree} (keyed : Keyed tree) :
    Keyed (.table (change key (fun _ => inner) tree.fields)) := by
  obtain ⟨fields, rfl, distinct⟩ := keyed
  exact ⟨_, rfl, nodup_change distinct⟩

theorem Parted.place? (parted : Parted parts tree) (enters : Enters parts path)
    (placed : place? value path tree = some next) : Parted parts next := by
  cases enters with
  | @elsewhere first rest apart =>
    obtain ⟨inner, _, rfl⟩ := place?_key_eq_some.mp placed
    refine ⟨parted.keyed.change, fun part member other found => ?_⟩
    have apart : first ≠ part := fun same => apart (same ▸ member)
    rw [get?_change, if_neg apart] at found
    exact parted.part part member other found
  | @inside first second rest =>
    obtain ⟨inner, below, rfl⟩ := place?_key_eq_some.mp placed
    refine ⟨parted.keyed.change, fun part member other found => ?_⟩
    rw [get?_change] at found
    split at found
    · next same =>
      subst same
      cases found
      obtain ⟨_, _, rfl⟩ := place?_key_eq_some.mp below
      refine Keyed.change ?_
      cases old : tree.get? first with
      | none => exact keyed_empty
      | some inner => exact parted.part first member inner old
    · exact parted.part part member other found

/-- **The parts stay tables.** -/
theorem parted_under (parted : Parted parts tree)
    (enters : ∀ entry ∈ placed, Enters parts entry.1)
    (laid : Layers.under placed tree = .ok next) : Parted parts next := by
  induction placed using List.reverseRecOn generalizing next with
  | nil =>
    cases laid
    exact parted
  | append_singleton placed entry hypothesis =>
    obtain ⟨middle, laid, last⟩ := under_concat.mp laid
    have before := hypothesis (fun other member =>
      enters other (List.mem_append_left _ member)) laid
    exact before.place? (enters entry (List.mem_append_right _ (List.mem_singleton_self _))) last

/-! ### One tree laid over another -/

/-- **A setting in a tree that is laid over another one** has its value from there, or else from
below. -/
theorem at?_merge (parted : Parted parts tree) (member : part ∈ parts)
    (leaf : ∀ value, tree.at? part name = some value → ∀ fields, value ≠ .table fields) :
    (merge under tree).at? part name = (tree.at? part name).or (under.at? part name) := by
  obtain ⟨⟨fields, rfl, distinct⟩, parts⟩ := parted
  rw [merge, at?, at?, at?, get?_mergeFields distinct]
  cases found : (table fields).get? part with
  | none => rfl
  | some inner =>
    obtain ⟨inner, rfl, distinct⟩ := parts part member _ found
    show (merge _ (.table inner)).get? name = _
    rw [merge, get?_mergeFields distinct]
    show _ = ((table inner).get? name).or _
    cases there : (table inner).get? name with
    | none =>
      cases under.get? part with
      | none | some => rfl
    | some value =>
      have leaf := leaf value (by rw [at?, found]; exact there)
      exact congrArg some (merge_leaf leaf)

theorem mergeFields_table (fields upper : List (String × SettingTree)) :
    ∃ joined, mergeFields (.table fields) upper = .table joined := by
  induction upper generalizing fields with
  | nil => exact ⟨fields, rfl⟩
  | cons head rest hypothesis => exact hypothesis _

/-- A part that is a table below is one in the whole. -/
theorem table_merge (parted : Parted parts tree) (member : part ∈ parts)
    (below : under.get? part = some (.table fields)) :
    ∃ joined, (merge under tree).get? part = some (.table joined) := by
  obtain ⟨⟨fields, rfl, distinct⟩, parts⟩ := parted
  rw [merge, get?_mergeFields distinct, below]
  cases found : (table fields).get? part with
  | none => exact ⟨_, rfl⟩
  | some inner =>
    obtain ⟨inner, rfl, distinct⟩ := parts part member _ found
    obtain ⟨joined, same⟩ := mergeFields_table _ inner
    exact ⟨joined, congrArg some same⟩

end

end Wayfinder.SettingTree
