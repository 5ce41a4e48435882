/-
**Scripted collaborators.**

In a simulation the collaborators follow a script: what they answer, after which delay, and whether
they fail. They keep a record of the questions put to them. What an oracle offers is valid for a
time that begins when it is asked.

* `Script`: the ways of all collaborators;
* `Script.send`: the answer to a question, with the lines that the record gets.
-/

import Wayfinder.Service
import Wayfinder.Simulation.Kernel

namespace Wayfinder.Simulation

/-- What an oracle offers for a destination. The expiry of a candidate is counted from the question
on. -/
structure Offer where
  candidates : List Candidate := []
  delay : Duration := 0
  fail : Option String := none

/-- The ways of a topology oracle. -/
structure OracleScript where
  localNode : Node := ⟨1, 0xff0000000110, by decide, by decide⟩
  localDelay : Duration := 0
  localFail : Option String := none
  offer : Offer := {}
  /-- Offers for particular destinations. -/
  special : List (Node × Offer) := []
  closeFail : Option String := none

/-- What the policy engine makes of links. -/
inductive PolicyMode where
  /-- All links, as one route. -/
  | pass
  /-- All links in reverse order, as one route. -/
  | reverse
  /-- One route per link. -/
  | each
  /-- An answer that does not depend on the question. -/
  | fixed (routes : List (List Link))

/-- The ways of the policy engine. -/
structure PolicyScript where
  mode : PolicyMode := .pass
  delay : Duration := 0
  fail : Option String := none
  subscribeDelay : Duration := 0
  subscribeFail : Option String := none
  closeFail : Option String := none

/-- The ways of the geolocation service at a latitude. -/
structure GeoRule where
  /-- The latitude as a number of 64 bits. -/
  latitude : Decimal.Binary
  countries : List String := []
  delay : Duration := 0
  fail : Option String := none
  /-- Whether the task that asks breaks down. -/
  crash : Bool := false

/-- The ways of a metadata source outside the service. -/
structure SourceScript where
  name : String
  metadata : Metadata := {}
  openFail : Option String := none
  closeFail : Option String := none
  fetchFail : Option String := none

/-- The ways of all collaborators. -/
structure Script where
  /-- The oracle of the resolver. -/
  routeOracle : OracleScript := {}
  /-- The oracle of the metadata sources. -/
  metadataOracle : OracleScript := {}
  policy : PolicyScript := {}
  geolocation : List GeoRule := []
  /-- The sources outside the service by position. -/
  sources : List (Nat × SourceScript) := []

/-- A question whose answer arrives after a delay, and may be a failure. -/
def delayed (now : Timestamp) (limit : Option Duration) (query : Query) (delay : Duration)
    (fail : Option String) (answer : Reply) : Sent Reply :=
  { exchange := {
      began := now
      limit
      arrival := now + (delay : Int)
      answer := match fail with
        | some message => query.failed (.unavailable query.service message)
        | none => answer
      overdue := query.failed (.timeout query.service (limit.getD 0)) } }

/-- A candidate whose time of validity begins now. -/
def validFrom (now : Timestamp) (candidate : Candidate) : Candidate :=
  { candidate with expiry := ⟨now + candidate.expiry.nanos, false⟩ }

/-- What an oracle offers for a destination. -/
def OracleScript.offerFor (script : OracleScript) (dst : Node) : Offer :=
  ((script.special.find? (·.1 = dst)).map (·.2)).getD script.offer

/-- What the policy engine makes of links. -/
def PolicyMode.apply (links : List Link) : PolicyMode → List (List Link)
  | .pass => [links]
  | .reverse => [links.reverse]
  | .each => links.map ([·])
  | .fixed routes => routes

/-- Whether two numbers are equal; the two zeros are. -/
def sameNumber (first second : Decimal.Binary) : Bool :=
  decide (first = second) || (first.isZero && second.isZero)

/-- The rule for a place. Where none applies there are no countries. A number of 32 bits is exact
among those of 64, so that a rule with a number in between never applies. -/
def ruleFor (rules : List GeoRule) (place : Coordinates) : GeoRule :=
  let latitude := Decimal.double.convert place.latitude
  (rules.find? fun rule => sameNumber rule.latitude latitude).getD { latitude }

/-- What the geolocation service answers by a rule. -/
def GeoRule.countries? (rule : GeoRule) : Except CallFault (List String) :=
  match rule.fail with
  | some message => .error (.unavailable Wayfinder.geolocation message)
  | none => .ok rule.countries

/-! ### Records -/

/-- The text of a hop in a record. -/
def hopText (hop : Hop) : String := hop.node.text ++ "#" ++ InterfaceId.text hop.interface

/-- The text of a link in a record. -/
def linkText (link : Link) : String := hopText link.origin ++ ">" ++ hopText link.target

/-- The text of a place in a record. -/
def placeText (place : Coordinates) : String :=
  Decimal.single.write place.latitude ++ "," ++ Decimal.single.write place.longitude

/-- The source at a position. -/
def Script.source (script : Script) (position : Nat) : SourceScript :=
  ((script.sources.find? (·.1 = position)).map (·.2)).getD { name := "" }

/-- The text of a question in a record. -/
def Script.line (script : Script) : Query → String
  | .localNode => "local_node"
  | .candidates dst src fresh =>
    "find_paths " ++ dst.text ++ " " ++ src.text ++ (if fresh then " true" else " false")
  | .compliant src dst links =>
    "find_paths " ++ src.text ++ " " ++ dst.text ++ " [" ++
      " ".intercalate (links.map linkText) ++ "]"
  | .subscribe address => "subscribe " ++ address
  | .closePolicy | .closeOracle => "close"
  | .countries place => placeText place
  | .openSource position => "init " ++ (script.source position).name
  | .closeSource position => "close " ++ (script.source position).name
  | .fetchSource position query =>
    "get " ++ (script.source position).name ++ " " ++ query.src ++ " " ++ query.dst ++ " " ++
      Numeral.decimal query.topology.length

/-- The metadata of a candidate when the geolocation service, if there is one, follows rules, and
the record of the questions put to it. -/
def surveyBy (rules : Option (List GeoRule)) (candidate : Candidate) : List LogLine × Metadata :=
  let lookUp := rules.map fun known place => (ruleFor known place).countries?.toOption.getD []
  let (places, found) := Survey.complete lookUp candidate
  (places.map fun place => ⟨.geolocation, placeText place⟩, found)

/-- Whether a task belongs to the resolver's side. -/
def isRouteTask : Service.Task → Bool
  | .resolver _ | .session _ => true
  | .panel _ => false

/-- The oracle that a task asks. -/
def Script.oracleOf (script : Script) (task : Service.Task) : OracleScript :=
  if isRouteTask task then script.routeOracle else script.metadataOracle

/-- Who gets a question of a task. -/
def partyOf (task : Service.Task) : Query → Party
  | .localNode | .candidates _ _ _ | .closeOracle =>
    if isRouteTask task then .routeOracle else .metadataOracle
  | .compliant _ _ _ | .subscribe _ | .closePolicy => .policy
  | .countries _ => .geolocation
  | .openSource _ | .closeSource _ | .fetchSource _ _ => .source

/-- The answer of a source outside the service. -/
def sourceReply (source : SourceScript) (fail : Option String) (found : Metadata) : Reply :=
  .source (match fail with
    | some message => .error (.unreadable source.name message)
    | none => .ok found)

/-- The answer to a question. -/
def Script.reply (script : Script) (now : Timestamp) (task : Service.Task) (query : Query)
    (limit : Option Duration) : Sent Reply :=
  let oracle := script.oracleOf task
  let policy := script.policy
  let delayed := delayed now limit query
  match query with
  | .localNode => delayed oracle.localDelay oracle.localFail (.node (.ok oracle.localNode))
  | .candidates dst _ _ =>
    let offer := oracle.offerFor dst
    delayed offer.delay offer.fail (.candidates (.ok (offer.candidates.map (validFrom now))))
  | .closeOracle => delayed 0 oracle.closeFail (.done (.ok ()))
  | .compliant _ _ links =>
    delayed policy.delay policy.fail (.compliant (.ok (policy.mode.apply links)))
  | .subscribe _ => delayed policy.subscribeDelay policy.subscribeFail (.done (.ok ()))
  | .closePolicy => delayed 0 policy.closeFail (.done (.ok ()))
  | .countries place =>
    let rule := ruleFor script.geolocation place
    delayed rule.delay none (if rule.crash then .crashed else .countries rule.countries?)
  | .openSource position =>
    let source := script.source position
    delayed 0 none (sourceReply source source.openFail {})
  | .closeSource position =>
    let source := script.source position
    delayed 0 none (sourceReply source source.closeFail {})
  | .fetchSource position _ =>
    let source := script.source position
    delayed 0 none (sourceReply source source.fetchFail source.metadata)

/-- The answer to a question, and what is recorded of the question. -/
def Script.send (now : Timestamp) (task : Service.Task) (query : Query)
    (limit : Option Duration) (script : Script) : Sent Reply × List LogLine :=
  (script.reply now task query limit,
    [⟨partyOf task query, script.line query⟩])

end Wayfinder.Simulation
