/-
**Candidate routes.**

The topology oracle answers with candidate routes: the hops that a route crosses, the instant at
which it stops being valid, and what is known of its links and hops. The lists of attributes may
be shorter or longer than the route.

* `Candidate.links`: the links between consecutive hops;
* `earliestExpiry`: the earliest end of validity among candidates.
-/

import Wayfinder.Link
import Wayfinder.Time.Calendar
import Wayfinder.Decimal.Binary

namespace Wayfinder

/-- A place on the globe, in degrees, with numbers of 32 bits. -/
structure Coordinates where
  latitude : Decimal.Binary
  longitude : Decimal.Binary
  address : Option String
deriving DecidableEq, Repr

/-- A candidate route. -/
structure Candidate where
  /-- The interfaces in order of crossing. -/
  hops : List Hop
  /-- The earliest instant at which some hop stops being valid. -/
  expiry : Moment
  /-- The bandwidth of each link in kbit/s. -/
  bandwidth : List (Option UInt64) := []
  /-- The latency of each link. -/
  latency : List (Option Duration) := []
  /-- The place of each hop. -/
  places : List (Option Coordinates) := []
deriving DecidableEq, Repr

/-- The links of a candidate. -/
def Candidate.links (candidate : Candidate) : List Link := Link.chain candidate.hops

/-- The earliest expiry among candidates, `none` without any. -/
def earliestExpiry : List Candidate → Option Timestamp
  | [] => none
  | candidate :: rest =>
    match earliestExpiry rest with
    | some later => some (min candidate.expiry.nanos later)
    | none => some candidate.expiry.nanos

end Wayfinder
