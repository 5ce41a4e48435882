/-
**The service.**

The service resolves routes and collects metadata. Requests come as calls of named methods with
bodies in JSON, or from the process that runs the service: one to begin, one to end.

* `Request.ofMethod`: the request of a method and a body;
* `Service.start`, `Service.proceed`, `Service.answer`, `Service.cancel`: the machine;
* `Response.body`: the body of an answer.
-/

import Wayfinder.Json.Writer
import Wayfinder.Message.Forms
import Wayfinder.Panel
import Wayfinder.Resolver
import Wayfinder.Session
import Wayfinder.Settings

namespace Wayfinder

/-- What a call wants of the service. -/
inductive Request where
  | resolve (destination : String)
  /-- The policies have changed. -/
  | purge
  | fetch (query : MetadataQuery)
  /-- Makes every source refresh what it has. -/
  | refresh
  /-- Asks to be told about changes of the policies. -/
  | subscribe (address : String)
  /-- Closes the collaborators of the resolver. -/
  | release
  | openSources
  | closeSources
  /-- Asks for the names of the sources. -/
  | names
  /-- Begins the service: subscribes and opens the sources. -/
  | begin
  /-- Ends the service: closes the sources and the collaborators. -/
  | finish
deriving Repr

/-- What a call answers with. -/
inductive Response where
  | nothing
  | routes (routes : List Route)
  | metadata (bundle : Metadata)
  | names (names : List String)
deriving DecidableEq, Repr

/-- What a message says of a body that cannot be decoded. -/
def undecodable : String := "<decode>"

/-- The request of a method and a body. A method that has no body does not look at it. -/
def Request.ofMethod (method body : String) : Except ServiceFault Request :=
  match method with
  | "ResolvePaths" =>
    match Json.read? RouteQuery.ofJson? body with
    | some query => .ok (.resolve query.destination)
    | none => .error (.invalidRequest undecodable)
  | "RefreshPathCache" => .ok .purge
  | "GetMetadata" =>
    match Json.read? MetadataQueryRecord.ofJson? body with
    | some record =>
      match record.read with
      | .ok query => .ok (.fetch query)
      | .error fault => .error (.ofPayload fault)
    | none => .error (.invalidRequest undecodable)
  | other => .error (.unknownMethod other)

/-- The document of an answer. -/
def Response.toJson : Response → Json
  | .nothing => Json.ofFields []
  | .routes found => (RouteAnswer.mk (found.map RouteRecord.ofRoute)).toJson
  | .metadata bundle => (MetadataRecord.ofMetadata bundle).toJson
  | .names known => Json.ofList Json.ofString known

/-- The body of an answer. -/
def Response.body (response : Response) : String := response.toJson.write

namespace Service

/-- Where a call of the service stands. -/
inductive Stage where
  /-- Waits for the resolver. -/
  | resolving
  /-- Waits for the session, and begins the service if so wanted. -/
  | subscribing (beginning : Bool)
  /-- Waits for the session to close the collaborators; the sources have been closed before if the
  service ends. -/
  | releasing (sources : Except MetadataFault Unit)
  /-- Waits for the panel, and ends the service if so wanted. -/
  | visiting (ending : Bool)
deriving Repr

/-- How a call ends. -/
abbrev Outcome := Except ServiceFault Response

/-- What the caller of a method gets: the body of the answer, or the record of a fault. -/
def render : Outcome → Except FaultRecord String
  | .ok response => .ok response.body
  | .error fault => .error (FaultRecord.ofFault fault)

/-- The state of the service. -/
structure State where
  resolver : Resolver.State
  session : Session.State
  panel : Panel.State
  /-- The address under which the policy engine reaches the service. -/
  callback : String
  calls : Table CallId Stage := {}

/-- What can be given a turn. -/
inductive Task where
  | resolver (task : Resolver.Task)
  | session (call : CallId)
  | panel (task : Panel.Task)
deriving DecidableEq, Repr

/-- What a step asks of the outside. -/
abbrev Effects := List (Effect Task Query Outcome)

/-- Takes a call out with its outcome. -/
def conclude (id : CallId) (outcome : Outcome) (state : State) : State × Effects :=
  ({ state with calls := state.calls.erase id }, [.finish id outcome])

/-- Moves a call to a stage. -/
def State.moveTo (state : State) (id : CallId) (stage : Stage) : State :=
  { state with calls := state.calls.put id stage }

/-! ### The resolver -/

/-- The outcome of a call of the resolver. -/
def ofResolver : Resolver.Outcome → Outcome
  | .ok finding => .ok (.routes finding.routes)
  | .error fault => .error (.resolving fault)

/-- Takes effects of the resolver over, in order. -/
def absorbResolver : Resolver.Effects → State → State × Effects
  | [], state => (state, [])
  | effect :: rest, state =>
    let (after, first) : State × Effects :=
      match effect with
      | .finish id outcome => conclude id (ofResolver outcome) state
      | other => (state, (other.embed? .resolver).toList)
    let (final, others) := absorbResolver rest after
    (final, first ++ others)

/-- Puts the outcome of a step of the resolver in its place. -/
def settleResolver (stepped : Resolver.State × Resolver.Effects) (state : State) :
    State × Effects :=
  absorbResolver stepped.2 { state with resolver := stepped.1 }

/-! ### The panel -/

/-- Begins a call of the panel. The panel only takes the call in; the call goes on by itself. -/
def startPanel (id : CallId) (errand : Panel.Errand) (state : State) : State × Effects :=
  let (panel, _) := Panel.start id errand state.panel
  ({ state with panel }, [.resume (.panel (.call id))])

/-- Begins to close the collaborators, after the sources. -/
def startRelease (id : CallId) (sources : Except MetadataFault Unit) (state : State) :
    State × Effects :=
  let (session, _) := Session.release id state.session
  (({ state with session }).moveTo id (.releasing sources),
    [.ask (.session id) .closePolicy none])

/-- The outcome of a call of the panel. -/
def ofPanel : Panel.Outcome → Outcome
  | .ok (some bundle) => .ok (.metadata bundle)
  | .ok none => .ok .nothing
  | .error fault => .error (.metadata fault)

/-- The panel is done with a call. When the service ends, the collaborators come next. -/
def afterPanel (id : CallId) (outcome : Panel.Outcome) (state : State) : State × Effects :=
  match state.calls.get? id with
  | some (.visiting true) => startRelease id (outcome.map fun _ => ()) state
  | some _ => conclude id (ofPanel outcome) state
  | none => (state, [])

/-- Takes effects of the panel over, in order. -/
def absorbPanel : Panel.Effects → State → State × Effects
  | [], state => (state, [])
  | effect :: rest, state =>
    let (after, first) : State × Effects :=
      match effect with
      | .finish id outcome => afterPanel id outcome state
      | other => (state, (other.embed? .panel).toList)
    let (final, others) := absorbPanel rest after
    (final, first ++ others)

/-- Puts the outcome of a step of the panel in its place. -/
def settlePanel (stepped : Panel.State × Panel.Effects) (state : State) : State × Effects :=
  absorbPanel stepped.2 { state with panel := stepped.1 }

/-! ### The session -/

/-- The outcome of ending the service: a failure of the sources comes before one of the
collaborators. -/
def ended (sources : Except MetadataFault Unit) (session : Session.Outcome) : Outcome :=
  match sources, session with
  | .error fault, _ => .error (.metadata fault)
  | .ok _, .error fault => .error (.resolving fault)
  | .ok _, .ok _ => .ok .nothing

/-- The session is done with a call. When the service begins, the sources come next. -/
def afterSession (id : CallId) (outcome : Session.Outcome) (state : State) : State × Effects :=
  match state.calls.get? id, outcome with
  | some (.subscribing true), .ok _ => startPanel id .open (state.moveTo id (.visiting false))
  | some (.subscribing _), .error fault => conclude id (.error (.resolving fault)) state
  | some (.subscribing false), .ok _ => conclude id (.ok .nothing) state
  | some (.releasing sources), outcome => conclude id (ended sources outcome) state
  | _, _ => (state, [])

/-- Takes effects of the session over, in order. -/
def absorbSession : Session.Effects → State → State × Effects
  | [], state => (state, [])
  | effect :: rest, state =>
    let (after, first) : State × Effects :=
      match effect with
      | .finish id outcome => afterSession id outcome state
      | other => (state, (other.embed? .session).toList)
    let (final, others) := absorbSession rest after
    (final, first ++ others)

/-- Puts the outcome of a step of the session in its place. -/
def settleSession (stepped : Session.State × Session.Effects) (state : State) : State × Effects :=
  absorbSession stepped.2 { state with session := stepped.1 }

/-! ### The machine -/

/-- Begins a call. -/
def start (id : CallId) (request : Request) (state : State) : State × Effects :=
  match request with
  | .resolve destination =>
    settleResolver (Resolver.start id destination state.resolver) (state.moveTo id .resolving)
  | .purge =>
    conclude id (.ok .nothing)
      { state with resolver := { state.resolver with cache := state.resolver.cache.purge } }
  | .names => conclude id (.ok (.names state.panel.names)) state
  | .fetch query => startPanel id (.fetch query) (state.moveTo id (.visiting false))
  | .refresh => startPanel id .refresh (state.moveTo id (.visiting false))
  | .openSources => startPanel id .open (state.moveTo id (.visiting false))
  | .closeSources => startPanel id .close (state.moveTo id (.visiting false))
  | .subscribe address =>
    settleSession (Session.subscribe id address state.session)
      (state.moveTo id (.subscribing false))
  | .begin =>
    settleSession (Session.subscribe id state.callback state.session)
      (state.moveTo id (.subscribing true))
  | .release => startRelease id (.ok ()) state
  | .finish => startPanel id .close (state.moveTo id (.visiting true))

/-- Begins the call of a method. A request that is refused has no effect. -/
def startMethod (id : CallId) (method body : String) (state : State) : State × Effects :=
  match Request.ofMethod method body with
  | .ok request => start id request state
  | .error fault => conclude id (.error fault) state

/-- The step of a task that waits for nothing outside, `none` if there is none to take. -/
def proceed (now : Timestamp) (task : Task) (state : State) : Option (State × Effects) :=
  match task with
  | .resolver task =>
    (Resolver.proceed now task state.resolver).map fun stepped => settleResolver stepped state
  | .panel task =>
    (Panel.proceed now task state.panel).map fun stepped => settlePanel stepped state
  | .session _ => none

/-- A task hears an answer. -/
def answer (now : Timestamp) (task : Task) (reply : Reply) (state : State) : State × Effects :=
  match task with
  | .resolver (.call id) =>
    settleResolver (Resolver.step now (.answer id reply) state.resolver) state
  | .resolver (.timer _) => (state, [])
  | .session id => settleSession (Session.answer id reply state.session) state
  | .panel task => settlePanel (Panel.answer task reply state.panel) state

/-- Gives a call up, wherever it waits. -/
def cancel (now : Timestamp) (id : CallId) (state : State) : State × Effects :=
  match state.calls.get? id with
  | some .resolving =>
    settleResolver (Resolver.step now (.cancel id) state.resolver)
      { state with calls := state.calls.erase id }
  | some (.visiting _) =>
    settlePanel (Panel.cancel id state.panel) { state with calls := state.calls.erase id }
  | some (.subscribing _) | some (.releasing _) =>
    ({ state with
        calls := state.calls.erase id
        session := Session.cancel id state.session }, [])
  | none => (state, [])

/-- The sources that settings ask for: the atlas, and an archive if a directory is set. -/
def sourcesOf (settings : MetadataSettings) (geolocator : Bool)
    (directory : String → Option Directory) : List Panel.Source :=
  .atlas (Atlas.State.initial settings.cacheSize (settings.geolocation && geolocator)
      settings.timeout settings.refresh) ::
    settings.directory.toList.map fun path => .archive { path, directory := directory path }

/-- The service that settings ask for. Countries are asked for only if the settings want that and
there is a geolocation service. -/
def ofSettings (settings : Settings) (geolocator : Bool)
    (directory : String → Option Directory) : State :=
  { resolver := .initial settings.routes.cacheSize settings.routes.timeout
    session := { timeout := settings.routes.timeout }
    panel := { sources := sourcesOf settings.metadata geolocator directory }
    callback := settings.server.callback }

end Service

end Wayfinder
