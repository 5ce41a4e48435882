/-
**The machines that can be simulated.**

* `serviceMachine`: the service, whole or in parts;
* `cacheMachine`: the cache of routes with its timers;
* `workerMachine`: a worker whose job takes its time and may break down;
* `deadlineMachine`: a question with a deadline.
-/

import Wayfinder.Simulation.Scenario
import Wayfinder.Simulation.Script
import Wayfinder.Worker

namespace Wayfinder.Simulation

/-! ### The service -/

/-- A request to the service, or the call of a method with a body. -/
inductive ServiceRequest where
  | request (request : Request)
  | method (method body : String)

/-- The service among scripted collaborators. -/
def serviceMachine :
    Machine Service.State Service.Task Query Reply ServiceRequest Service.Outcome Script where
  start _ id
    | .request request => Service.start id request
    | .method method body => Service.startMethod id method body
  proceed := Service.proceed
  answer := Service.answer
  cancel := Service.cancel
  send := Script.send

/-! ### The cache of routes -/

/-- What can be done with the cache. -/
inductive CacheRequest where
  | insert (dst : Node) (routes : List Route) (validity : Int) (generation : UInt64)
  | get (dst : Node)
  | purge

/-- What the cache answers. -/
inductive CacheResponse where
  | inserted (outcome : RouteCache.Outcome)
  | found (routes : Option (List Route))
  | purged

/-- Carries a request out. An insertion is valid for a time from now on. -/
def startCache (now : Timestamp) (id : CallId) (request : CacheRequest)
    (cache : RouteCache (List Route)) :
    RouteCache (List Route) × List (Effect TimerId Empty CacheResponse) :=
  match request with
  | .insert dst routes validity generation =>
    let expiry := now + validity
    match cache.insert dst routes expiry generation now with
    | (.stored timer, after) =>
      (after, [.spawn timer expiry, .finish id (.inserted (.stored timer))])
    | (outcome, after) => (after, [.finish id (.inserted outcome)])
  | .get dst =>
    let (found, after) := cache.get dst now
    (after, [.finish id (.found found)])
  | .purge => (cache.purge, [.finish id .purged])

/-- The timer that has come due. -/
def proceedCache (now : Timestamp) (timer : TimerId) (cache : RouteCache (List Route)) :
    Option (RouteCache (List Route) × List (Effect TimerId Empty CacheResponse)) :=
  match cache.timers.get? timer with
  | some due => if due.deadline ≤ now then some (cache.fire timer, []) else none
  | none => none

/-- The cache of routes on its own. -/
def cacheMachine :
    Machine (RouteCache (List Route)) TimerId Empty Empty CacheRequest CacheResponse Unit where
  start := startCache
  proceed := proceedCache
  answer _ _ _ cache := (cache, [])
  cancel _ _ cache := (cache, [])
  send _ _ query _ _ := query.elim

/-! ### A worker -/

/-- What can be done with a worker. -/
inductive WorkerRequest where
  | stop
  | drop
  | name

/-- What a worker answers. -/
inductive WorkerResponse where
  | stopped (outcome : Worker.Outcome)
  | name (name : String)

/-- The ways of a job. -/
structure JobScript where
  delay : Duration := 0
  /-- The run that breaks down, if it is not zero. -/
  crashOn : Nat := 0

/-- The number of whole milliseconds since the beginning. -/
def millis (instant : Timestamp) : String := Numeral.signed (instant / 1000000)

/-- A run of the job. -/
def sendRun (now : Timestamp) (run : Nat) (script : JobScript) :
    Sent Worker.JobReply × List LogLine :=
  let crashes := decide (run = script.crashOn)
  let line (what : String) (instant : Timestamp) : LogLine :=
    ⟨.job, what ++ " " ++ Numeral.decimal run ++ " at " ++ millis instant⟩
  let answer : Worker.JobReply := if crashes then .crashed else .finished
  ({ exchange := {
      began := now
      limit := none
      arrival := now + (script.delay : Int)
      answer
      overdue := answer }
     parting := if crashes then none else some (line "finish") },
    [line "start" now])

/-- The outcomes of calls that stop a worker, as responses. -/
def workerEffects (effects : Worker.Effects) :
    List (Effect Worker.Task Nat WorkerResponse) :=
  effects.filterMap fun
    | .finish id outcome => some (.finish id (.stopped outcome))
    | other => other.embed? id

/-- Takes the outcome of a step of a worker over. -/
def liftWorker (stepped : Worker.State × Worker.Effects) :
    Worker.State × List (Effect Worker.Task Nat WorkerResponse) :=
  (stepped.1, workerEffects stepped.2)

/-- A worker with a scripted job. -/
def workerMachine :
    Machine Worker.State Worker.Task Nat Worker.JobReply WorkerRequest WorkerResponse
      JobScript where
  start _ id
    | .stop => fun state => liftWorker (Worker.stop id state)
    | .drop => fun state => liftWorker (Worker.drop state)
    | .name => fun state => (state, [.finish id (.name state.name)])
  proceed now task state := (Worker.proceed now task state).map liftWorker
  answer _ _ reply state := liftWorker (Worker.finished reply state)
  cancel _ id state := (Worker.cancel id state, [])
  send now _ run _ script := sendRun now run script

/-! ### A deadline -/

/-- A question whose answer comes after a delay, and may be a failure. -/
structure DelayedQuestion where
  limit : Duration
  delay : Duration
  fail : Option String

/-- How a question with a deadline ends. -/
abbrev DeadlineOutcome := Except CallFault Unit

/-- The answer to a question with a deadline. -/
def sendDelayed (now : Timestamp) (question : DelayedQuestion) (limit : Option Duration) :
    Sent DeadlineOutcome :=
  { exchange := {
      began := now
      limit
      arrival := now + (question.delay : Int)
      answer := match question.fail with
        | some message => .error (.unavailable topologyOracle message)
        | none => .ok ()
      overdue := .error (.timeout topologyOracle question.limit) } }

/-- Questions with deadlines. The state holds the calls that wait; the answer to a question that was
given up is dropped. -/
def deadlineMachine :
    Machine (List CallId) CallId DelayedQuestion DeadlineOutcome DelayedQuestion DeadlineOutcome
      Unit where
  start _ id question waiting := (id :: waiting, [.ask id question (some question.limit)])
  proceed _ _ _ := none
  answer _ id outcome waiting :=
    if waiting.contains id then (waiting.erase id, [.finish id outcome]) else (waiting, [])
  cancel _ id waiting := (waiting.erase id, [])
  send now _ question limit _ := (sendDelayed now question limit, [])

end Wayfinder.Simulation
