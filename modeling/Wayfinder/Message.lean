/-
**Messages.**

Requests and answers travel as records of texts: nodes and interfaces are spelled out, and an
attribute has one slot for each type of value, of which exactly one should be filled. Records are
validated when they come in; an answer names the first fault.

* `LinkRecord.read`, `MetadataRecord.read`, `MetadataQueryRecord.read`: validation;
* `LinkRecord.ofLink`, `RouteRecord.ofRoute`, `MetadataRecord.ofMetadata`: writing;
* `MetadataQuery.endpoints`: the two nodes that a request is about.
-/

import Wayfinder.Fault
import Wayfinder.Metadata
import Wayfinder.Route

namespace Wayfinder

/-- A link in texts. -/
structure LinkRecord where
  nodeA : String
  interfaceA : String
  nodeB : String
  interfaceB : String
deriving DecidableEq, Repr

/-- A hop in texts. -/
structure HopRecord where
  node : String
  interface : String
deriving DecidableEq, Repr

/-- A route in texts, with its hop predicates. -/
structure RouteRecord where
  src : String
  dst : String
  sequence : String
  hops : List HopRecord
deriving DecidableEq, Repr

/-- The slots for the value of an attribute. -/
structure ValueSlots where
  bool : Option Bool := none
  int32 : Option Int32 := none
  string : Option String := none
deriving DecidableEq, Repr

/-- An attribute of a node in texts. -/
structure NodeAttributeRecord where
  name : String
  node : String
  value : ValueSlots
deriving DecidableEq, Repr

/-- An attribute of a link in texts. -/
structure LinkAttributeRecord where
  name : String
  link : LinkRecord
  value : ValueSlots
deriving DecidableEq, Repr

/-- A bundle of attributes in texts. -/
structure MetadataRecord where
  nodes : List NodeAttributeRecord := []
  links : List LinkAttributeRecord := []
deriving DecidableEq, Repr

/-- A request for routes. -/
structure RouteQuery where
  destination : String
deriving DecidableEq, Repr

/-- An answer with routes. -/
structure RouteAnswer where
  routes : List RouteRecord
deriving DecidableEq, Repr

/-- A request for metadata, as it arrives. -/
structure MetadataQueryRecord where
  src : String
  dst : String
  topology : List LinkRecord := []
deriving DecidableEq, Repr

/-- A request for metadata whose links have been read. -/
structure MetadataQuery where
  src : String
  dst : String
  topology : List Link := []
deriving DecidableEq, Repr

/-- The answer to a failed request. -/
structure FaultRecord where
  code : ErrorCode
  message : String
deriving DecidableEq, Repr

/-! ### Validation -/

/-- The node of a field. Blanks around it do not count. -/
def readNode (field text : String) : Except PayloadFault Node :=
  match Node.parseTrimmed text with
  | .ok node => .ok node
  | .error _ => .error (.invalidNode field text)

/-- The interface of a field: a decimal numeral of 64 bits between blanks, with an optional plus
sign. -/
def readInterface (field text : String) : Except PayloadFault InterfaceId :=
  match Numeral.unsigned? UInt64.size (Text.trim text.toList) with
  | some value => .ok (UInt64.ofNat value)
  | none => .error (.invalidInterface field text)

/-- The link of a record. Fields are read in order. -/
def LinkRecord.read (record : LinkRecord) : Except PayloadFault Link := do
  let nodeA ← readNode "as_a" record.nodeA
  let interfaceA ← readInterface "if_a" record.interfaceA
  let nodeB ← readNode "as_b" record.nodeB
  let interfaceB ← readInterface "if_b" record.interfaceB
  return ⟨⟨nodeA, interfaceA⟩, ⟨nodeB, interfaceB⟩⟩

/-- The number of filled slots. -/
def ValueSlots.populated (slots : ValueSlots) : Nat :=
  slots.bool.isSome.toNat + slots.int32.isSome.toNat + slots.string.isSome.toNat

/-- The value in the slots of the attribute with the given name. -/
def ValueSlots.value (name : String) (slots : ValueSlots) : Except PayloadFault AttributeValue :=
  match slots with
  | ⟨some value, none, none⟩ => .ok (.bool value)
  | ⟨none, some value, none⟩ => .ok (.int32 value)
  | ⟨none, none, some value⟩ => .ok (.string value)
  | other => .error (.ambiguousValue name other.populated)

/-- The attribute of a record: its node is read before its value. -/
def NodeAttributeRecord.read (record : NodeAttributeRecord) :
    Except PayloadFault NodeAttribute := do
  let node ← readNode "as" record.node
  let value ← record.value.value record.name
  return ⟨record.name, node, value⟩

/-- The attribute of a record: its link is read before its value. -/
def LinkAttributeRecord.read (record : LinkAttributeRecord) :
    Except PayloadFault LinkAttribute := do
  let link ← record.link.read
  let value ← record.value.value record.name
  return ⟨record.name, link, value⟩

/-- The bundle of a record: attributes of nodes are read before those of links. -/
def MetadataRecord.read (record : MetadataRecord) : Except PayloadFault Metadata := do
  let nodes ← record.nodes.mapM NodeAttributeRecord.read
  let links ← record.links.mapM LinkAttributeRecord.read
  return ⟨nodes, links⟩

/-- The request of a record. -/
def MetadataQueryRecord.read (record : MetadataQueryRecord) :
    Except PayloadFault MetadataQuery := do
  let topology ← record.topology.mapM LinkRecord.read
  return ⟨record.src, record.dst, topology⟩

/-- The two nodes of a request, the source first. -/
def MetadataQuery.endpoints (query : MetadataQuery) : Except MetadataFault (Node × Node) :=
  match Node.parseTrimmed query.src, Node.parseTrimmed query.dst with
  | .error fault, _ => .error (.ofNode query.src fault)
  | .ok _, .error fault => .error (.ofNode query.dst fault)
  | .ok src, .ok dst => .ok (src, dst)

/-! ### Writing -/

/-- The text of an interface. -/
def InterfaceId.text (interface : InterfaceId) : String := Numeral.decimal interface.toNat

/-- The record of a link. -/
def LinkRecord.ofLink (link : Link) : LinkRecord :=
  ⟨link.origin.node.text, InterfaceId.text link.origin.interface,
    link.target.node.text, InterfaceId.text link.target.interface⟩

/-- The record of a hop. -/
def HopRecord.ofHop (hop : Hop) : HopRecord := ⟨hop.node.text, InterfaceId.text hop.interface⟩

/-- The record of a route. -/
def RouteRecord.ofRoute (route : Route) : RouteRecord :=
  ⟨route.src.text, route.dst.text, route.sequence, route.hops.map HopRecord.ofHop⟩

/-- The slots with one value. -/
def ValueSlots.ofValue : AttributeValue → ValueSlots
  | .bool value => { bool := some value }
  | .int32 value => { int32 := some value }
  | .string value => { string := some value }

/-- The record of an attribute of a node. -/
def NodeAttributeRecord.ofAttribute (entry : NodeAttribute) : NodeAttributeRecord :=
  ⟨entry.name, entry.node.text, ValueSlots.ofValue entry.value⟩

/-- The record of an attribute of a link. -/
def LinkAttributeRecord.ofAttribute (entry : LinkAttribute) : LinkAttributeRecord :=
  ⟨entry.name, LinkRecord.ofLink entry.link, ValueSlots.ofValue entry.value⟩

/-- The record of a bundle. -/
def MetadataRecord.ofMetadata (bundle : Metadata) : MetadataRecord :=
  ⟨bundle.nodes.map NodeAttributeRecord.ofAttribute,
    bundle.links.map LinkAttributeRecord.ofAttribute⟩

/-- The answer to a request that failed. -/
def FaultRecord.ofFault (fault : ServiceFault) : FaultRecord := ⟨fault.code, fault.message⟩

end Wayfinder
