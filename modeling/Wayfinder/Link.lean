/-
**Hops and links.**

A route crosses interfaces of nodes. A hop is one interface of one node; a link leads from one
hop to another and has a direction. Two links between the same nodes differ by their interfaces.
-/

import Wayfinder.Node

namespace Wayfinder

/-- The number of an interface within its node. -/
abbrev InterfaceId := UInt64

/-- An interface of a node. -/
structure Hop where
  node : Node
  interface : InterfaceId
deriving DecidableEq, Repr

/-- A directed link between two hops. -/
structure Link where
  origin : Hop
  target : Hop
deriving DecidableEq, Repr

/-- The links between consecutive hops. -/
def Link.chain : List Hop → List Link
  | first :: second :: rest => ⟨first, second⟩ :: chain (second :: rest)
  | _ => []

end Wayfinder
