/-
**Small tables.**

A table assigns values to keys. It keeps its keys in the order in which they arrived; a key that
is given a new value keeps its place.

* `Table.get?`: the view of a table, as a partial function;
* `get?_put`, `get?_erase`: the two operations in terms of the view;
* `bind_get?_put`, `bind_get?_erase`: the same for what is read off the values.
-/

namespace Wayfinder

/-- A table from keys to values. -/
structure Table (κ ν : Type) where
  entries : List (κ × ν) := []
deriving Repr

namespace Table

variable {κ ν : Type} [DecidableEq κ]

/-- The table without keys. -/
def empty : Table κ ν := ⟨[]⟩

/-- The keys, in order of arrival. -/
def keys (table : Table κ ν) : List κ := table.entries.map (·.1)

/-- The number of keys. -/
def size (table : Table κ ν) : Nat := table.entries.length

/-- The value of a key among entries. -/
def find? (key : κ) : List (κ × ν) → Option ν
  | [] => none
  | (other, value) :: rest => if other = key then some value else find? key rest

/-- The value of a key. -/
def get? (table : Table κ ν) (key : κ) : Option ν := find? key table.entries

/-- Gives a key a value among entries. -/
def place (key : κ) (value : ν) : List (κ × ν) → List (κ × ν)
  | [] => [(key, value)]
  | (other, old) :: rest =>
    if other = key then (key, value) :: rest else (other, old) :: place key value rest

/-- Gives a key a value. -/
def put (table : Table κ ν) (key : κ) (value : ν) : Table κ ν := ⟨place key value table.entries⟩

/-- Takes a key out. -/
def erase (table : Table κ ν) (key : κ) : Table κ ν :=
  ⟨table.entries.filter fun entry => !decide (entry.1 = key)⟩

/-- Takes the keys out whose entries satisfy a test. -/
def eraseWhere (table : Table κ ν) (test : κ → ν → Bool) : Table κ ν :=
  ⟨table.entries.filter fun entry => !test entry.1 entry.2⟩

/-- A key that is given a value has it; other keys keep theirs. -/
theorem find?_place (key other : κ) (value : ν) (entries : List (κ × ν)) :
    find? other (place key value entries) = if key = other then some value
      else find? other entries := by
  induction entries with
  | nil => simp [place, find?]
  | cons entry rest hypothesis =>
    obtain ⟨first, old⟩ := entry
    simp only [place, find?]
    split
    · next same =>
      subst same
      simp only [find?]
      split <;> rfl
    · next differs =>
      simp only [find?, hypothesis]
      by_cases here : first = other
      · subst here
        simp [Ne.symm differs]
      · simp [here]

@[simp] theorem get?_put (table : Table κ ν) (key other : κ) (value : ν) :
    (table.put key value).get? other = if key = other then some value else table.get? other :=
  find?_place key other value table.entries

theorem get?_put_self (table : Table κ ν) (key : κ) (value : ν) :
    (table.put key value).get? key = some value := by
  rw [get?_put, if_pos rfl]

/-- A key that is taken out has no value; other keys keep theirs. -/
theorem find?_filter_ne (key other : κ) (entries : List (κ × ν)) :
    find? other (entries.filter fun entry => !decide (entry.1 = key)) =
      if key = other then none else find? other entries := by
  induction entries with
  | nil => simp [find?]
  | cons entry rest hypothesis =>
    obtain ⟨first, old⟩ := entry
    by_cases same : first = key
    · subst same
      by_cases here : first = other <;> simp_all [find?]
    · simp only [List.filter_cons, same, decide_false, Bool.not_false, if_true, find?, hypothesis]
      by_cases here : first = other
      · subst here
        simp [Ne.symm same]
      · simp [here]

@[simp] theorem get?_erase (table : Table κ ν) (key other : κ) :
    (table.erase key).get? other = if key = other then none else table.get? other :=
  find?_filter_ne key other table.entries

theorem get?_put_of_ne (table : Table κ ν) {key other : κ} (apart : other ≠ key) (value : ν) :
    (table.put key value).get? other = table.get? other := by
  rw [get?_put, if_neg (Ne.symm apart)]

theorem get?_erase_self (table : Table κ ν) (key : κ) : (table.erase key).get? key = none := by
  rw [get?_erase, if_pos rfl]

theorem get?_erase_of_ne (table : Table κ ν) {key other : κ} (apart : other ≠ key) :
    (table.erase key).get? other = table.get? other := by
  rw [get?_erase, if_neg (Ne.symm apart)]

/-- After a key has been given a value, every value is that one or an old one. -/
theorem get?_of_put {table : Table κ ν} {key other : κ} {value found : ν}
    (here : (table.put key value).get? other = some found) :
    (key = other ∧ value = found) ∨ table.get? other = some found := by
  rw [get?_put] at here
  split at here
  · next same => exact Or.inl ⟨same, Option.some.inj here⟩
  · exact Or.inr here

/-- After a key has been taken out, every value is an old one. -/
theorem get?_of_erase {table : Table κ ν} {key other : κ} {found : ν}
    (here : (table.erase key).get? other = some found) : table.get? other = some found := by
  rw [get?_erase] at here
  split at here
  · cases here
  · exact here

/-- A key keeps its value when one that has another value, or none, is given a value. -/
theorem get?_put_of_differs {table : Table κ ν} {key other : κ} {value : ν}
    (here : table.get? other = some value) (differs : table.get? key ≠ some value) (new : ν) :
    (table.put key new).get? other = some value := by
  have apart : key ≠ other := fun same => differs (same ▸ here)
  rw [get?_put, if_neg apart, here]

/-- A key keeps its value when one that has another value, or none, is taken out. -/
theorem get?_erase_of_differs {table : Table κ ν} {key other : κ} {value : ν}
    (here : table.get? other = some value) (differs : table.get? key ≠ some value) :
    (table.erase key).get? other = some value := by
  have apart : key ≠ other := fun same => differs (same ▸ here)
  rw [get?_erase, if_neg apart, here]

/-- A value of a key is among the entries. -/
theorem mem_entries_of_get? {table : Table κ ν} {key : κ} {value : ν}
    (here : table.get? key = some value) : (key, value) ∈ table.entries := by
  obtain ⟨entries⟩ := table
  induction entries with
  | nil => cases here
  | cons entry rest hypothesis =>
    obtain ⟨other, old⟩ := entry
    rw [get?, find?] at here
    split at here
    · next same =>
      subst same
      cases here
      exact List.mem_cons_self
    · exact List.mem_cons_of_mem _ (hypothesis here)

/-- A table in which no key has a value is empty. -/
theorem entries_eq_nil {table : Table κ ν} (none : ∀ key, table.get? key = none) :
    table.entries = [] := by
  obtain ⟨entries⟩ := table
  cases entries with
  | nil => rfl
  | cons entry rest =>
    have found := none entry.1
    rw [get?, find?, if_pos rfl] at found
    cases found

@[simp] theorem get?_empty (key : κ) : (empty : Table κ ν).get? key = none := rfl

/-! ### What is read off the values -/

section Read

variable {μ : Type} {table : Table κ ν} {key : κ} {value : ν} {read : ν → Option μ}

theorem bind_get?_put (table : Table κ ν) (key other : κ) (value : ν) (read : ν → Option μ) :
    ((table.put key value).get? other).bind read =
      if key = other then read value else (table.get? other).bind read := by
  rw [get?_put]
  split
  · rfl
  · rfl

theorem bind_get?_erase (table : Table κ ν) (key other : κ) (read : ν → Option μ) :
    ((table.erase key).get? other).bind read =
      if key = other then none else (table.get? other).bind read := by
  rw [get?_erase]
  split
  · rfl
  · rfl

/-- A value off which the same is read as off the old one does not show. -/
theorem bind_get?_put_same (same : read value = (table.get? key).bind read) (other : κ) :
    ((table.put key value).get? other).bind read = (table.get? other).bind read := by
  rw [bind_get?_put]
  split
  · next here => rw [← here, same]
  · rfl

/-- A value off which nothing is read is not missed. -/
theorem bind_get?_erase_silent (silent : (table.get? key).bind read = none) (other : κ) :
    ((table.erase key).get? other).bind read = (table.get? other).bind read := by
  rw [bind_get?_erase]
  split
  · next here => rw [← here, silent]
  · rfl

end Read

end Table

end Wayfinder
