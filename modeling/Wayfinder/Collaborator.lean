/-
**Collaborators.**

The service asks a topology oracle for candidates, a policy engine for the links that obey the
policies, and a geolocation service for countries. A question that is out waits for its answer, in
most cases only for a limited time. A component that works on calls is a machine: each of its steps
changes its state and has effects, which whoever runs the machine carries out.

* `Exchange.poll`: the answer to a question that is out, or its deadline;
* `Query`, `Reply`: the questions and their answers;
* `Effect`: what a step asks of the outside;
* `Effect.embed?`: the same among the effects of a greater machine.
-/

import Wayfinder.Candidate
import Wayfinder.Fault
import Wayfinder.Message

namespace Wayfinder

/-- The number of a call. Calls are numbered in the order in which they start. -/
abbrev CallId := Nat

/-- The name of the topology oracle in messages. -/
def topologyOracle : String := "topology oracle"

/-- The name of the policy engine in messages. -/
def policyEngine : String := "policy engine"

/-- The name of the geolocation service in messages. -/
def geolocation : String := "geolocation"

/-- A question that is out. -/
structure Exchange (ρ : Type) where
  /-- When the question was asked. -/
  began : Timestamp
  /-- How long the answer may take. -/
  limit : Option Duration
  /-- When the answer arrives. -/
  arrival : Timestamp
  answer : ρ
  /-- What stands in for the answer when it takes too long. -/
  overdue : ρ
deriving Repr

/-- The end of the time that the answer may take. -/
def Exchange.deadline? {ρ : Type} (exchange : Exchange ρ) : Option Timestamp :=
  exchange.limit.map fun limit => exchange.began + (limit : Int)

/-- What whoever waits finds at an instant: the answer once it has arrived, else the stand-in from
the deadline on. An answer that arrives at the deadline itself is in time. -/
def Exchange.poll {ρ : Type} (exchange : Exchange ρ) (now : Timestamp) : Option ρ :=
  if exchange.arrival ≤ now then some exchange.answer
  else
    match exchange.deadline? with
    | some deadline => if deadline ≤ now then some exchange.overdue else none
    | none => none

/-- A question to a collaborator. -/
inductive Query where
  /-- At which node the service runs. -/
  | localNode
  /-- The candidates towards a node, found anew if so wanted. -/
  | candidates (dst src : Node) (fresh : Bool)
  /-- The links that obey the policies, one list per route. -/
  | compliant (src dst : Node) (links : List Link)
  /-- A request to be told about changes of the policies. -/
  | subscribe (address : String)
  | closePolicy
  | closeOracle
  /-- The countries of a place. -/
  | countries (place : Coordinates)
  /-- Requests to a metadata source outside the service, named by its position. -/
  | openSource (position : Nat)
  | closeSource (position : Nat)
  | fetchSource (position : Nat) (query : MetadataQuery)
deriving DecidableEq, Repr

/-- An answer of a collaborator. -/
inductive Reply where
  | node (answer : Except CallFault Node)
  | candidates (answer : Except CallFault (List Candidate))
  | compliant (answer : Except CallFault (List (List Link)))
  | countries (answer : Except CallFault (List String))
  | done (answer : Except CallFault Unit)
  | source (answer : Except MetadataFault Metadata)
  /-- The task that asked breaks down. -/
  | crashed
deriving Repr

/-- The name of the collaborator that a question goes to. -/
def Query.service : Query → String
  | .localNode | .candidates _ _ _ | .closeOracle => topologyOracle
  | .compliant _ _ _ | .subscribe _ | .closePolicy => policyEngine
  | .countries _ => geolocation
  | .openSource _ | .closeSource _ | .fetchSource _ _ => ""

/-- The answer to a question that failed. -/
def Query.failed (fault : CallFault) : Query → Reply
  | .localNode => .node (.error fault)
  | .candidates _ _ _ => .candidates (.error fault)
  | .compliant _ _ _ => .compliant (.error fault)
  | .countries _ => .countries (.error fault)
  | .subscribe _ | .closePolicy | .closeOracle => .done (.error fault)
  | .openSource _ | .closeSource _ | .fetchSource _ _ => .source (.error (.oracle fault))

/-- What a step of a machine asks of the outside. Machines differ in their tasks `τ`, their
questions `κ` and the outcomes `ο` of their calls. -/
inductive Effect (τ κ ο : Type) where
  /-- The task asks a question and waits. -/
  | ask (task : τ) (query : κ) (limit : Option Duration)
  /-- The task can go on when its turn comes. -/
  | rouse (task : τ)
  /-- The task goes on before the others. -/
  | resume (task : τ)
  /-- The task wants to be roused at an instant. -/
  | wait (task : τ) (due : Timestamp)
  /-- A new task begins when its turn comes, and wants to be roused at an instant. -/
  | spawn (task : τ) (due : Timestamp)
  /-- The call has its outcome. -/
  | finish (call : CallId) (outcome : ο)
deriving DecidableEq, Repr

/-- An effect as one of a machine that contains this one. An outcome is for that machine to deal
with. -/
def Effect.embed? {τ υ κ ο π : Type} (into : τ → υ) : Effect τ κ ο → Option (Effect υ κ π)
  | .ask task query limit => some (.ask (into task) query limit)
  | .rouse task => some (.rouse (into task))
  | .resume task => some (.resume (into task))
  | .wait task due => some (.wait (into task) due)
  | .spawn task due => some (.spawn (into task) due)
  | .finish _ _ => none

end Wayfinder
