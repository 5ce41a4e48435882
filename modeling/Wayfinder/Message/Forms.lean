/-
**The JSON forms of messages.**

A record is an object whose fields hold texts; lists that may be empty may be left out. An
attribute has its slots beside its other fields, so that it is read from an object only, and
everything in that object has to be readable.

* `ofJson?` and `toJson` for every record;
* `slotted?`: the fields of a record with slots.
-/

import Wayfinder.Json.Forms
import Wayfinder.Message

namespace Wayfinder

open Json

/-- Reads a link. -/
def LinkRecord.ofJson? (document : Json) : Option LinkRecord := do
  let [nodeA, interfaceA, nodeB, interfaceB] ← document.record?
    [required "as_a", required "if_a", required "as_b", required "if_b"] | none
  return ⟨← present? text? nodeA, ← present? text? interfaceA, ← present? text? nodeB,
    ← present? text? interfaceB⟩

/-- Writes a link. -/
def LinkRecord.toJson (record : LinkRecord) : Json :=
  Json.ofFields
    [("as_a", Json.ofString record.nodeA), ("if_a", Json.ofString record.interfaceA),
      ("as_b", Json.ofString record.nodeB), ("if_b", Json.ofString record.interfaceB)]

/-- Reads a hop. -/
def HopRecord.ofJson? (document : Json) : Option HopRecord := do
  let [node, interface] ← document.record? [required "as", required "interface_id"] | none
  return ⟨← present? text? node, ← present? text? interface⟩

/-- Writes a hop. -/
def HopRecord.toJson (record : HopRecord) : Json :=
  Json.ofFields
    [("as", Json.ofString record.node), ("interface_id", Json.ofString record.interface)]

/-- Reads a route. -/
def RouteRecord.ofJson? (document : Json) : Option RouteRecord := do
  let [src, dst, sequence, hops] ← document.record?
    [required "src", required "dst", required "sequence", required "hops"] | none
  return ⟨← present? text? src, ← present? text? dst, ← present? text? sequence,
    ← present? (list? HopRecord.ofJson?) hops⟩

/-- Writes a route. -/
def RouteRecord.toJson (record : RouteRecord) : Json :=
  Json.ofFields
    [("src", Json.ofString record.src), ("dst", Json.ofString record.dst),
      ("sequence", Json.ofString record.sequence),
      ("hops", Json.ofList HopRecord.toJson record.hops)]

/-- The names of the slots. -/
def ValueSlots.declared : List Field :=
  [optional "value_bool", optional "value_int32", optional "value_string"]

/-- The slots, from the documents of their fields. -/
def ValueSlots.ofDocuments? : List (Option Json) → Option ValueSlots
  | [bool, int32, string] => do
    return ⟨← maybe? bool? bool, ← maybe? int32? int32, ← maybe? text? string⟩
  | _ => none

/-- Reads slots that stand alone. -/
def ValueSlots.ofJson? (document : Json) : Option ValueSlots :=
  (document.record? declared).bind ofDocuments?

/-- The fields of the filled slots. -/
def ValueSlots.fields (slots : ValueSlots) : List (String × Json) :=
  (slots.bool.toList.map fun value => ("value_bool", .bool value)) ++
    (slots.int32.toList.map fun value => ("value_int32", Json.ofInt value.toInt)) ++
    (slots.string.toList.map fun value => ("value_string", Json.ofString value))

/-- Writes slots that stand alone. -/
def ValueSlots.toJson (slots : ValueSlots) : Json := Json.ofFields slots.fields

/-- The greatest depth of nesting of a record with slots, its own place counted. -/
def nestingLimit : Nat := 127

/-- Reads a record that has slots beside its own fields. It is an object; whatever stands beside
the declared fields is read as well, so that it has to be plain and not too deeply nested. The
record itself lies `level` containers deep. -/
def slotted? (level : Nat) (declared : List Field) :
    Json → Option (List (Option Json) × ValueSlots)
  | .object fields =>
    let own (field : Option String × Json) : Bool :=
      declared.any fun known => field.1 == some known.name
    let others := fields.filter fun field => !own field
    if others.all fun field => field.2.isPlain && decide (level + field.2.depth ≤ nestingLimit)
    then do
      let documents ← named? declared fields
      let slots ← (named? ValueSlots.declared fields).bind ValueSlots.ofDocuments?
      return (documents, slots)
    else none
  | _ => none

/-- Reads an attribute of a node that lies `level` containers deep. -/
def NodeAttributeRecord.ofJson? (level : Nat) (document : Json) :
    Option NodeAttributeRecord := do
  let ([name, node], value) ← slotted? level [required "name", required "as"] document | none
  return ⟨← present? text? name, ← present? text? node, value⟩

/-- Writes an attribute of a node. -/
def NodeAttributeRecord.toJson (record : NodeAttributeRecord) : Json :=
  Json.ofFields
    ([("name", Json.ofString record.name), ("as", Json.ofString record.node)] ++
      record.value.fields)

/-- Reads an attribute of a link that lies `level` containers deep. -/
def LinkAttributeRecord.ofJson? (level : Nat) (document : Json) :
    Option LinkAttributeRecord := do
  let ([name, link], value) ← slotted? level [required "name", required "link"] document | none
  return ⟨← present? text? name, ← present? LinkRecord.ofJson? link, value⟩

/-- Writes an attribute of a link. -/
def LinkAttributeRecord.toJson (record : LinkAttributeRecord) : Json :=
  Json.ofFields
    ([("name", Json.ofString record.name), ("link", record.link.toJson)] ++ record.value.fields)

/-- Reads a bundle. Its records lie three containers deep. -/
def MetadataRecord.ofJson? (document : Json) : Option MetadataRecord := do
  let [nodes, links] ← document.record? [optional "node_info", optional "link_info"] | none
  return ⟨← orElse? [] (list? (NodeAttributeRecord.ofJson? 3)) nodes,
    ← orElse? [] (list? (LinkAttributeRecord.ofJson? 3)) links⟩

/-- Writes a bundle. -/
def MetadataRecord.toJson (record : MetadataRecord) : Json :=
  Json.ofFields
    [("node_info", Json.ofList NodeAttributeRecord.toJson record.nodes),
      ("link_info", Json.ofList LinkAttributeRecord.toJson record.links)]

/-- Reads a request for routes. -/
def RouteQuery.ofJson? (document : Json) : Option RouteQuery := do
  let [destination] ← document.record? [required "destination"] | none
  return ⟨← present? text? destination⟩

/-- Writes a request for routes. -/
def RouteQuery.toJson (query : RouteQuery) : Json :=
  Json.ofFields [("destination", Json.ofString query.destination)]

/-- Reads an answer with routes. -/
def RouteAnswer.ofJson? (document : Json) : Option RouteAnswer := do
  let [routes] ← document.record? [required "paths"] | none
  return ⟨← present? (list? RouteRecord.ofJson?) routes⟩

/-- Writes an answer with routes. -/
def RouteAnswer.toJson (answer : RouteAnswer) : Json :=
  Json.ofFields [("paths", Json.ofList RouteRecord.toJson answer.routes)]

/-- Reads a request for metadata. Its links may be left out. -/
def MetadataQueryRecord.ofJson? (document : Json) : Option MetadataQueryRecord := do
  let [src, dst, topology] ← document.record?
    [required "src", required "dst", optional "topology"] | none
  return ⟨← present? text? src, ← present? text? dst,
    ← orElse? [] (list? LinkRecord.ofJson?) topology⟩

/-- Writes a request for metadata. -/
def MetadataQueryRecord.toJson (query : MetadataQueryRecord) : Json :=
  Json.ofFields
    [("src", Json.ofString query.src), ("dst", Json.ofString query.dst),
      ("topology", Json.ofList LinkRecord.toJson query.topology)]

/-- Reads a request for metadata whose links are links already. They may be left out. -/
def MetadataQuery.ofJson? (document : Json) : Option MetadataQuery := do
  let [src, dst, topology] ← document.record?
    [required "src", required "dst", optional "topology"] | none
  return ⟨← present? text? src, ← present? text? dst,
    ← orElse? [] (list? Link.ofJson?) topology⟩

/-- Writes a request for metadata whose links have been read. -/
def MetadataQuery.toJson (query : MetadataQuery) : Json :=
  Json.ofFields
    [("src", Json.ofString query.src), ("dst", Json.ofString query.dst),
      ("topology", Json.ofList Link.toJson query.topology)]

/-- Reads the answer to a failed request. -/
def FaultRecord.ofJson? (document : Json) : Option FaultRecord := do
  let [code, message] ← document.record? [required "code", required "message"] | none
  return ⟨← present? ErrorCode.ofJson? code, ← present? text? message⟩

/-- Writes the answer to a failed request. -/
def FaultRecord.toJson (record : FaultRecord) : Json :=
  Json.ofFields [("code", record.code.toJson), ("message", Json.ofString record.message)]

/-- A record without fields. -/
def emptyRecord? (document : Json) : Option Unit := do
  let [] ← document.record? [] | none
  return ()

end Wayfinder
