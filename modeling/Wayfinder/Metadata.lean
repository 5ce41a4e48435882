/-
**Metadata of nodes and links.**

Besides routes, the service answers with attributes of the nodes and links on the way. An attribute
has a name and one value, a truth value, a number of 32 bits or a text. A bundle holds the
attributes of nodes and those of links, each in the order in which they were found; nothing is
removed when bundles are joined.

* `Metadata.append`, `Metadata.concat`: bundles one after another.
-/

import Wayfinder.Link

namespace Wayfinder

/-- The value of an attribute. -/
inductive AttributeValue where
  | bool (value : Bool)
  | int32 (value : Int32)
  | string (value : String)
deriving DecidableEq, Repr

/-- The truth value, of an attribute that has one. -/
def AttributeValue.bool? : AttributeValue → Option Bool
  | .bool value => some value
  | _ => none

/-- The number, of an attribute that has one. -/
def AttributeValue.int32? : AttributeValue → Option Int32
  | .int32 value => some value
  | _ => none

/-- The text, of an attribute that has one. -/
def AttributeValue.string? : AttributeValue → Option String
  | .string value => some value
  | _ => none

/-- An attribute of a node. -/
structure NodeAttribute where
  name : String
  node : Node
  value : AttributeValue
deriving DecidableEq, Repr

/-- An attribute of a link. -/
structure LinkAttribute where
  name : String
  link : Link
  value : AttributeValue
deriving DecidableEq, Repr

/-- A bundle of attributes. -/
structure Metadata where
  nodes : List NodeAttribute := []
  links : List LinkAttribute := []
deriving DecidableEq, Repr

namespace Metadata

/-- The name of the attribute that gives the bandwidth of a link, in kbit/s. -/
def bandwidthName : String := "bandwidth"

/-- The name of the attribute that gives the latency of a link, in microseconds. -/
def latencyName : String := "latency"

/-- The name of the attribute that gives a country in which a node operates. -/
def operatesName : String := "operates"

/-- The bundle without attributes. -/
def empty : Metadata := {}

/-- Whether the bundle has no attributes. -/
def isEmpty (bundle : Metadata) : Bool := bundle.nodes.isEmpty && bundle.links.isEmpty

/-- The attributes of one bundle, then those of another. -/
protected def append (first second : Metadata) : Metadata :=
  ⟨first.nodes ++ second.nodes, first.links ++ second.links⟩

instance : Append Metadata := ⟨Metadata.append⟩

/-- All bundles of a list, one after another. -/
def concat : List Metadata → Metadata
  | [] => empty
  | bundle :: rest => bundle ++ concat rest

@[simp] theorem nodes_append (first second : Metadata) :
    (first ++ second).nodes = first.nodes ++ second.nodes := rfl

@[simp] theorem links_append (first second : Metadata) :
    (first ++ second).links = first.links ++ second.links := rfl

end Metadata

end Wayfinder
