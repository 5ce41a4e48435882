/-
**The JSON forms of the domain.**

How nodes, links, routes, candidates and metadata are read from documents and written as such.
Nodes are texts, attribute values are objects with one key that names their type, durations have
seconds and nanoseconds, instants are calendar texts.

* `X.ofJson?` and `X.toJson` for every such type `X`.
-/

import Wayfinder.Candidate
import Wayfinder.Fault
import Wayfinder.Json.Record
import Wayfinder.Json.Reader
import Wayfinder.Metadata
import Wayfinder.Route

namespace Wayfinder

open Json

/-- Reads a node, from its name. -/
def Node.ofJson? (document : Json) : Option Node := do
  let text ← document.text?
  (Node.parse text).toOption

/-- Writes a node, by its name. -/
def Node.toJson (node : Node) : Json := Json.ofString node.text

/-- Reads a hop, with the given name for its interface. -/
def Hop.ofJsonWith? (interfaceName : String) (document : Json) : Option Hop := do
  let [node, interface] ← document.record? [required "node", required interfaceName] | none
  return ⟨← present? Node.ofJson? node, ← present? word? interface⟩

/-- Writes a hop, with the given name for its interface. -/
def Hop.toJsonWith (interfaceName : String) (hop : Hop) : Json :=
  Json.ofFields [("node", hop.node.toJson), (interfaceName, Json.ofNat hop.interface.toNat)]

/-- The name of the interface of a hop of a route. -/
def Hop.onRoute : String := "interface"

/-- The name of the interface of a hop of a candidate. -/
def Hop.onCandidate : String := "id"

/-- Reads a link. -/
def Link.ofJson? (document : Json) : Option Link := do
  let [nodeA, interfaceA, nodeB, interfaceB] ← document.record?
    [required "as_a", required "if_a", required "as_b", required "if_b"] | none
  let origin : Hop := ⟨← present? Node.ofJson? nodeA, ← present? word? interfaceA⟩
  let target : Hop := ⟨← present? Node.ofJson? nodeB, ← present? word? interfaceB⟩
  return ⟨origin, target⟩

/-- Writes a link. -/
def Link.toJson (link : Link) : Json :=
  Json.ofFields
    [("as_a", link.origin.node.toJson), ("if_a", Json.ofNat link.origin.interface.toNat),
      ("as_b", link.target.node.toJson), ("if_b", Json.ofNat link.target.interface.toNat)]

/-- Reads a route. -/
def Route.ofJson? (document : Json) : Option Route := do
  let [src, dst, hops] ← document.record? [required "src", required "dst", required "hops"] | none
  return ⟨← present? Node.ofJson? src, ← present? Node.ofJson? dst,
    ← present? (list? (Hop.ofJsonWith? Hop.onRoute)) hops⟩

/-- Writes a route. -/
def Route.toJson (route : Route) : Json :=
  Json.ofFields
    [("src", route.src.toJson), ("dst", route.dst.toJson),
      ("hops", Json.ofList (Hop.toJsonWith Hop.onRoute) route.hops)]

/-- Reads the links of a route that obeys a policy. -/
def policyLinksOfJson? (document : Json) : Option (List Link) := do
  let [links] ← document.record? [required "links"] | none
  present? (list? Link.ofJson?) links

/-- Writes the links of a route that obeys a policy. -/
def policyLinksToJson (links : List Link) : Json :=
  Json.ofFields [("links", Json.ofList Link.toJson links)]

/-- Reads a duration. Nanoseconds beyond a second are carried over. -/
def Duration.ofJson? (document : Json) : Option Duration := do
  let [seconds, nanos] ← document.strictRecord? [required "secs", required "nanos"] | none
  let seconds ← present? (natural? UInt64.size) seconds
  let nanos ← present? (natural? UInt32.size) nanos
  if seconds + nanos / 1000000000 < UInt64.size then some (Duration.ofSeconds seconds + nanos)
  else none

/-- Writes a duration. -/
def Duration.toJson (duration : Duration) : Json :=
  Json.ofFields
    [("secs", Json.ofNat (duration / 1000000000)), ("nanos", Json.ofNat (duration % 1000000000))]

/-- Reads a place. -/
def Coordinates.ofJson? (document : Json) : Option Coordinates := do
  let [latitude, longitude, address] ← document.record?
    [required "latitude", required "longitude", optional "address"] | none
  return ⟨← present? single? latitude, ← present? single? longitude, ← maybe? text? address⟩

/-- Writes a place, its numbers as the caller chooses. An infinite number has no written form and
becomes `null`. -/
def Coordinates.toJson (writeNumber : Decimal.Binary → Json) (place : Coordinates) : Json :=
  let write (number : Decimal.Binary) : Json :=
    if number.isFinite then writeNumber number else .null
  Json.ofFields
    [("latitude", write place.latitude), ("longitude", write place.longitude),
      ("address", Json.ofOption Json.ofString place.address)]

/-- Reads an instant. -/
def Moment.ofJson? (document : Json) : Option Moment := document.text?.bind Moment.parse?

/-- Reads a candidate. -/
def Candidate.ofJson? (document : Json) : Option Candidate := do
  let [hops, expiry, bandwidth, latency, places] ← document.record?
    [required "interfaces", required "expiry", optional "bandwidth_kbps", optional "latency",
      optional "geo"] | none
  return {
    hops := ← present? (list? (Hop.ofJsonWith? Hop.onCandidate)) hops
    expiry := ← present? Moment.ofJson? expiry
    bandwidth := ← orElse? [] (list? (option? word?)) bandwidth
    latency := ← orElse? [] (list? (option? Duration.ofJson?)) latency
    places := ← orElse? [] (list? (option? Coordinates.ofJson?)) places }

/-- Writes a candidate, the numbers of its places as the caller chooses. -/
def Candidate.toJson (writeNumber : Decimal.Binary → Json) (candidate : Candidate) : Json :=
  Json.ofFields
    [("interfaces", Json.ofList (Hop.toJsonWith Hop.onCandidate) candidate.hops),
      ("expiry", Json.ofString candidate.expiry.text),
      ("bandwidth_kbps",
        Json.ofList (Json.ofOption fun kbps => Json.ofNat (UInt64.toNat kbps)) candidate.bandwidth),
      ("latency", Json.ofList (Json.ofOption Duration.toJson) candidate.latency),
      ("geo", Json.ofList (Json.ofOption (Coordinates.toJson writeNumber)) candidate.places)]

/-- Reads the value of an attribute: an object with one key. -/
def AttributeValue.ofJson? : Json → Option AttributeValue
  | .object [(some "bool", value)] => value.bool?.map .bool
  | .object [(some "int32", value)] => value.int32?.map .int32
  | .object [(some "string", value)] => value.text?.map .string
  | _ => none

/-- Writes the value of an attribute. -/
def AttributeValue.toJson : AttributeValue → Json
  | .bool value => Json.ofFields [("bool", .bool value)]
  | .int32 value => Json.ofFields [("int32", Json.ofInt value.toInt)]
  | .string value => Json.ofFields [("string", Json.ofString value)]

/-- Reads an attribute of a node. -/
def NodeAttribute.ofJson? (document : Json) : Option NodeAttribute := do
  let [name, node, value] ← document.record?
    [required "name", required "node", required "value"] | none
  return ⟨← present? text? name, ← present? Node.ofJson? node,
    ← present? AttributeValue.ofJson? value⟩

/-- Writes an attribute of a node. -/
def NodeAttribute.toJson (entry : NodeAttribute) : Json :=
  Json.ofFields
    [("name", Json.ofString entry.name), ("node", entry.node.toJson),
      ("value", entry.value.toJson)]

/-- Reads an attribute of a link. -/
def LinkAttribute.ofJson? (document : Json) : Option LinkAttribute := do
  let [name, link, value] ← document.record?
    [required "name", required "link", required "value"] | none
  return ⟨← present? text? name, ← present? Link.ofJson? link,
    ← present? AttributeValue.ofJson? value⟩

/-- Writes an attribute of a link. -/
def LinkAttribute.toJson (entry : LinkAttribute) : Json :=
  Json.ofFields
    [("name", Json.ofString entry.name), ("link", entry.link.toJson),
      ("value", entry.value.toJson)]

/-- Reads a bundle of attributes. Both lists may be left out. -/
def Metadata.ofJson? (document : Json) : Option Metadata := do
  let [nodes, links] ← document.record? [optional "node_info", optional "link_info"] | none
  return ⟨← orElse? [] (list? NodeAttribute.ofJson?) nodes,
    ← orElse? [] (list? LinkAttribute.ofJson?) links⟩

/-- Writes a bundle of attributes. -/
def Metadata.toJson (bundle : Metadata) : Json :=
  Json.ofFields
    [("node_info", Json.ofList NodeAttribute.toJson bundle.nodes),
      ("link_info", Json.ofList LinkAttribute.toJson bundle.links)]

/-- Reads a code: its name, alone or as the only key of an object that holds nothing for it. -/
def ErrorCode.ofJson? : Json → Option ErrorCode
  | .string (some text) => ErrorCode.ofText? text
  | .object [(some text, .null)] => ErrorCode.ofText? text
  | _ => none

/-- Writes a code, by its name. -/
def ErrorCode.toJson (code : ErrorCode) : Json := Json.ofString code.text

/-- Reads the document of a text. -/
def Json.read? {α : Type} (read : Json → Option α) (text : String) : Option α :=
  (Json.parse? text).bind read

end Wayfinder
