/-
**Faults of settings.**

* `SettingsFault`: why settings could not be loaded.
-/

namespace Wayfinder

/-- Why settings could not be loaded. -/
inductive SettingsFault where
  /-- A layer or a value cannot be read. -/
  | malformed
  /-- A key leads to a position that a list does not have. -/
  | outOfBounds
  /-- A rule is broken. -/
  | invalid (rule : String)
deriving DecidableEq, Repr

end Wayfinder
