/-
**Causes of failure.**

Every failure is a value that names its cause. Each kind has a wording and a code; the code tells a
caller whether the request was at fault, a collaborator, or the service itself.

* `CallFault`: a collaborator refused or did not answer in time;
* `StopFault`: a periodic job could not be stopped in order;
* `ResolveFault`, `MetadataFault`: a request for routes or for metadata failed;
* `PayloadFault`: a record of a message is malformed;
* `ServiceFault`: a call of the service failed.
-/

import Wayfinder.Text.Quoted
import Wayfinder.Time.Duration
import Wayfinder.Node

namespace Wayfinder

/-- The class of a failure, as callers see it. -/
inductive ErrorCode where
  | invalidArgument
  | unavailable
  | deadlineExceeded
  | failedPrecondition
  | internal
deriving DecidableEq, Repr

namespace ErrorCode

/-- All codes. -/
def all : List ErrorCode :=
  [.invalidArgument, .unavailable, .deadlineExceeded, .failedPrecondition, .internal]

/-- The name of a code. -/
def text : ErrorCode → String
  | .invalidArgument => "INVALID_ARGUMENT"
  | .unavailable => "UNAVAILABLE"
  | .deadlineExceeded => "DEADLINE_EXCEEDED"
  | .failedPrecondition => "FAILED_PRECONDITION"
  | .internal => "INTERNAL"

/-- The code of a name. -/
def ofText? (text : String) : Option ErrorCode := all.find? (·.text == text)

end ErrorCode

/-- Why a call of a collaborator gave no result. -/
inductive CallFault where
  | unavailable (service message : String)
  | timeout (service : String) (limit : Duration)
deriving DecidableEq, Repr

namespace CallFault

/-- The wording of a call without result. -/
def message : CallFault → String
  | .unavailable service message => service ++ " unavailable: " ++ message
  | .timeout service limit => service ++ " did not answer within " ++ limit.text

/-- The class of a call without result. -/
def code : CallFault → ErrorCode
  | .unavailable _ _ => .unavailable
  | .timeout _ _ => .deadlineExceeded

end CallFault

/-- Why a periodic job was not stopped in order. -/
inductive StopFault where
  | alreadyStopped (job : String)
  | crashed (job : String)
deriving DecidableEq, Repr

/-- The wording of a failure to stop a job. -/
def StopFault.message : StopFault → String
  | .alreadyStopped job => "periodic job '" ++ job ++ "' was already stopped"
  | .crashed job => "periodic job '" ++ job ++ "' panicked"

/-- Why a request for routes failed. -/
inductive ResolveFault where
  | invalidDestination (detail : String)
  | oracle (fault : CallFault)
  | policy (fault : CallFault)
deriving DecidableEq, Repr

namespace ResolveFault

/-- The wording of a failure to resolve. -/
def message : ResolveFault → String
  | .invalidDestination detail => "invalid destination: " ++ detail
  | .oracle fault => "topology oracle error: " ++ fault.message
  | .policy fault => "policy engine error: " ++ fault.message

/-- The class of a failure to resolve. -/
def code : ResolveFault → ErrorCode
  | .invalidDestination _ => .invalidArgument
  | .oracle fault => fault.code
  | .policy fault => fault.code

end ResolveFault

/-- Why a request for metadata, or the care of its sources, failed. -/
inductive MetadataFault where
  | invalidNode (detail : String)
  | oracle (fault : CallFault)
  | unreadable (path message : String)
  | job (fault : StopFault)
deriving DecidableEq, Repr

namespace MetadataFault

/-- The wording of a failure about metadata. -/
def message : MetadataFault → String
  | .invalidNode detail => "invalid node: " ++ detail
  | .oracle fault => "topology oracle error: " ++ fault.message
  | .unreadable path message => "local metadata at " ++ path ++ " is unreadable: " ++ message
  | .job fault => "refresh worker error: " ++ fault.message

/-- The class of a failure about metadata. -/
def code : MetadataFault → ErrorCode
  | .invalidNode _ => .invalidArgument
  | .oracle fault => fault.code
  | .unreadable _ _ => .failedPrecondition
  | .job _ => .internal

/-- The fault of a text that should have named a node. The text is shown as it was given, its fault
without the blanks around it. -/
def ofNode (text : String) (fault : NodeFault) : MetadataFault :=
  .invalidNode (Text.quote text ++ ": " ++ fault.message)

end MetadataFault

/-- What is wrong with a record of a message. -/
inductive PayloadFault where
  | invalidNode (field value : String)
  | invalidInterface (field value : String)
  | ambiguousValue (name : String) (populated : Nat)
deriving DecidableEq, Repr

/-- The wording of a fault in a record. -/
def PayloadFault.message : PayloadFault → String
  | .invalidNode field value => "invalid node identifier " ++ Text.quote value ++ " in " ++ field
  | .invalidInterface field value =>
    "invalid interface identifier " ++ Text.quote value ++ " in " ++ field
  | .ambiguousValue name populated =>
    "metadata '" ++ name ++ "' must carry exactly one value, found " ++ Numeral.decimal populated

/-- Why a call of the service failed. -/
inductive ServiceFault where
  | invalidRequest (detail : String)
  | unknownMethod (method : String)
  | resolving (fault : ResolveFault)
  | metadata (fault : MetadataFault)
  | encoding (detail : String)
deriving DecidableEq, Repr

namespace ServiceFault

/-- The wording of a failed call of the service. -/
def message : ServiceFault → String
  | .invalidRequest detail => "invalid request: " ++ detail
  | .unknownMethod method => "unknown method: " ++ method
  | .resolving fault => fault.message
  | .metadata fault => fault.message
  | .encoding detail => "failed to encode response: " ++ detail

/-- The class of a failed call of the service. -/
def code : ServiceFault → ErrorCode
  | .invalidRequest _ => .invalidArgument
  | .unknownMethod _ => .invalidArgument
  | .resolving fault => fault.code
  | .metadata fault => fault.code
  | .encoding _ => .internal

/-- A malformed record makes the request invalid. -/
def ofPayload (fault : PayloadFault) : ServiceFault := .invalidRequest fault.message

end ServiceFault

end Wayfinder
