/-
**Routes.**

A route is the list of hops from a source to a destination. Its sequence is the list of hop
predicates that data packets carry: one group per node, with the interface by which the route
enters and the one by which it leaves, `0` standing for an end of the route.

* `Hop.runs`: the hops grouped by node;
* `Route.sequence`: the hop predicates.
-/

import Wayfinder.Link

namespace Wayfinder

/-- A route in order of visit. -/
structure Route where
  src : Node
  dst : Node
  hops : List Hop
deriving DecidableEq, Repr

/-- Groups consecutive hops of one node. Each run has the interfaces in order. -/
def Hop.runs : List Hop → List (Node × List InterfaceId)
  | [] => []
  | hop :: rest =>
    match runs rest with
    | (node, interfaces) :: later =>
      if node = hop.node then (node, hop.interface :: interfaces) :: later
      else (hop.node, [hop.interface]) :: (node, interfaces) :: later
    | [] => [(hop.node, [hop.interface])]

/-- Where a run stands in a route. A run that is both first and last counts as first. -/
inductive RunPosition where
  | first
  | middle
  | last
deriving DecidableEq, Repr

/-- The decimal text of an interface. -/
def InterfaceId.characters (interface : InterfaceId) : List Char :=
  Numeral.ofNat 10 interface.toNat

/-- The predicate of one run: a lone interface is an exit at the beginning, an entry at the end and
both in between; of several interfaces the first is the entry and the last the exit. -/
def runPredicate (position : RunPosition) (node : Node) (interfaces : List InterfaceId) :
    List Char :=
  let pair (entry exit : InterfaceId) : List Char :=
    node.characters ++ '#' :: InterfaceId.characters entry ++ ',' :: InterfaceId.characters exit
  match interfaces with
  | [] => pair 0 0
  | [single] =>
    match position with
    | .first => pair 0 single
    | .last => pair single 0
    | .middle => node.characters ++ '#' :: InterfaceId.characters single
  | entry :: next :: rest => pair entry ((next :: rest).getLast (by simp))

/-- The predicates of the runs after the first one. -/
def laterPredicates : List (Node × List InterfaceId) → List (List Char)
  | [] => []
  | [(node, interfaces)] => [runPredicate .last node interfaces]
  | (node, interfaces) :: rest => runPredicate .middle node interfaces :: laterPredicates rest

/-- The predicates of all runs. -/
def runPredicates : List (Node × List InterfaceId) → List (List Char)
  | [] => []
  | (node, interfaces) :: rest => runPredicate .first node interfaces :: laterPredicates rest

/-- The hop predicates of a route, separated by blanks. -/
def Route.sequence (route : Route) : String :=
  String.ofList (List.intercalate [' '] (runPredicates (Hop.runs route.hops)))

end Wayfinder
