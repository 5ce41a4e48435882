/-
**Metadata of a candidate.**

A survey walks over the hops of a candidate and collects attributes: for each link its bandwidth and
latency as far as they are known, and for each hop whose place is known the countries there, if
geolocation is wanted. The countries of a place have to be asked for, so that a survey may stop at a
hop and wait.

* `Survey.wanted?`: the place whose countries the survey waits for;
* `Survey.pass`: over the next hop;
* `Survey.advance`: as far as no countries are needed;
* `Survey.complete`: the whole walk, with the places asked for.
-/

import Wayfinder.Candidate
import Wayfinder.Metadata

namespace Wayfinder

/-- A walk over a candidate. What is known of hops already passed has been taken off. -/
structure Survey where
  hops : List Hop
  bandwidth : List (Option UInt64)
  latency : List (Option Duration)
  places : List (Option Coordinates)
  found : Metadata := {}
deriving DecidableEq, Repr

namespace Survey

/-- A survey before its first hop. -/
def ofCandidate (candidate : Candidate) : Survey :=
  ⟨candidate.hops, candidate.bandwidth, candidate.latency, candidate.places, {}⟩

/-- The first element of a list of which it may be unknown. -/
def first? {α : Type} : List (Option α) → Option α
  | some value :: _ => some value
  | _ => none

/-- A number as a value of 32 bits with a sign, the greatest one if it is too great. -/
def clamp (value : Nat) : Int32 := Int32.ofNat (min value 0x7FFFFFFF)

/-- The attributes of a link: its bandwidth, then its latency. -/
def linkAttributes (link : Link) (bandwidth : Option UInt64) (latency : Option Duration) :
    List LinkAttribute :=
  (bandwidth.toList.map fun kbps =>
      ⟨Metadata.bandwidthName, link, .int32 (clamp kbps.toNat)⟩) ++
    latency.toList.map fun span =>
      ⟨Metadata.latencyName, link, .int32 (clamp (Duration.micros span))⟩

/-- The texts that are not empty, each once, in the order of their first occurrence; those already
seen are left out. -/
def distinct (seen : List String) : List String → List String
  | [] => []
  | text :: rest =>
    if text.isEmpty || seen.contains text then distinct seen rest
    else text :: distinct (text :: seen) rest

/-- The attributes of a node that operates in countries. -/
def nodeAttributes (node : Node) (countries : List String) : List NodeAttribute :=
  (distinct [] countries).map fun country => ⟨Metadata.operatesName, node, .string country⟩

/-- Passes the next hop, which lies in the given countries, and the link behind it. -/
def pass (countries : List String) (survey : Survey) : Survey :=
  match survey.hops with
  | [] => survey
  | hop :: rest =>
    let links :=
      match rest with
      | [] => []
      | next :: _ => linkAttributes ⟨hop, next⟩ (first? survey.bandwidth) (first? survey.latency)
    { hops := rest
      bandwidth := survey.bandwidth.tail
      latency := survey.latency.tail
      places := survey.places.tail
      found := survey.found ++ ⟨nodeAttributes hop.node countries, links⟩ }

/-- The place of the next hop, if geolocation is wanted and the place is known. -/
def wanted? (geolocating : Bool) (survey : Survey) : Option Coordinates :=
  if geolocating && !survey.hops.isEmpty then first? survey.places else none

/-- Whether all hops have been passed. -/
def isOver (survey : Survey) : Bool := survey.hops.isEmpty

/-- Passes up to `count` hops, but none whose countries are wanted. -/
def passUpTo (geolocating : Bool) : Nat → Survey → Survey
  | 0, survey => survey
  | count + 1, survey =>
    if survey.isOver || (survey.wanted? geolocating).isSome then survey
    else passUpTo geolocating count (survey.pass [])

/-- Goes on as far as no countries are wanted. -/
def advance (geolocating : Bool) (survey : Survey) : Survey :=
  passUpTo geolocating survey.hops.length survey

/-- Passes up to `count` hops, with the countries of each place from a function; gives the places
asked for, too. -/
def completeBy (lookUp : Option (Coordinates → List String)) : Nat → Survey →
    List Coordinates × Metadata
  | 0, survey => ([], survey.found)
  | count + 1, survey =>
    match lookUp, survey.wanted? lookUp.isSome with
    | some find, some place =>
      let (places, found) := completeBy lookUp count (survey.pass (find place))
      (place :: places, found)
    | _, _ => completeBy lookUp count (survey.pass [])

/-- The metadata of a candidate, when the countries of every place are given by a function, and the
places asked for in order. -/
def complete (lookUp : Option (Coordinates → List String)) (candidate : Candidate) :
    List Coordinates × Metadata :=
  completeBy lookUp candidate.hops.length (ofCandidate candidate)

end Survey

end Wayfinder
