/-
**Opening and closing the resolver's collaborators.**

At the beginning the service asks the policy engine to be told about changes of the policies. At the
end it closes the policy engine and then the topology oracle; both are attempted, and a failure of
the first is reported before one of the second.

* `State`: the calls that wait for an answer;
* `subscribe`, `release`: the two kinds of calls;
* `answer`: an answer has come.
-/

import Wayfinder.Collaborator
import Wayfinder.Table

namespace Wayfinder.Session

/-- How a call ends. -/
abbrev Outcome := Except ResolveFault Unit

/-- Where a call stands. -/
inductive Stage where
  | subscribing
  | closingPolicy
  /-- Waits for the oracle; the policy engine has answered. -/
  | closingOracle (policy : Except CallFault Unit)
deriving Repr

/-- The calls that wait. -/
structure State where
  /-- How long the policy engine may take to subscribe. -/
  timeout : Duration
  calls : Table CallId Stage := {}
deriving Repr

/-- What a step asks of the outside. A call is its own only task. -/
abbrev Effects := List (Effect CallId Query Outcome)

/-- Asks to be told about changes of the policies, at an address. -/
def subscribe (id : CallId) (address : String) (state : State) : State × Effects :=
  ({ state with calls := state.calls.put id .subscribing },
    [.ask id (.subscribe address) (some state.timeout)])

/-- Begins to close the collaborators. Closing has no deadline. -/
def release (id : CallId) (state : State) : State × Effects :=
  ({ state with calls := state.calls.put id .closingPolicy }, [.ask id .closePolicy none])

/-- The outcome of closing both. -/
def closed (policy oracle : Except CallFault Unit) : Outcome :=
  match policy, oracle with
  | .error fault, _ => .error (.policy fault)
  | .ok _, .error fault => .error (.oracle fault)
  | .ok _, .ok _ => .ok ()

/-- The outcome of subscribing. -/
def subscribed : Except CallFault Unit → Outcome
  | .error fault => .error (.policy fault)
  | .ok _ => .ok ()

/-- A call hears its answer. -/
def answer (id : CallId) (reply : Reply) (state : State) : State × Effects :=
  let finish (outcome : Outcome) : State × Effects :=
    ({ state with calls := state.calls.erase id }, [.finish id outcome])
  match state.calls.get? id, reply with
  | some .subscribing, .done result => finish (subscribed result)
  | some .closingPolicy, .done result =>
    ({ state with calls := state.calls.put id (.closingOracle result) },
      [.ask id .closeOracle none])
  | some (.closingOracle policy), .done result => finish (closed policy result)
  | _, _ => (state, [])

/-- Gives a call up. -/
def cancel (id : CallId) (state : State) : State :=
  { state with calls := state.calls.erase id }

end Wayfinder.Session
