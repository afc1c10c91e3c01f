import Failover.Http.Url
import Failover.Text

-- The paths of the admin interface.

namespace Failover.Admin

/-- A request. The target is a path, with a query behind a question mark. -/
structure Request where
  method : String
  target : String
  contentType : Option String
  body : String

/-- What a path leads to. Ids of nodes are still encoded. -/
inductive Route where
  | metrics
  | health
  | status
  | nodes
  | node (id : String)
  | maintenance (id : String)
  | events
  | trigger
  | promote (id : String)
  | acknowledge
  deriving DecidableEq, Repr

namespace Request

/-- What stands behind the scheme and the server that a full address
names. -/
def withoutServer (target : String) : String :=
  match target.splitOn "://" with
  | scheme :: rest@(_ :: _) =>
    if scheme.contains '/' || scheme.contains '?' then target
    else
      let place := String.intercalate "://" rest
      String.ofList (place.toList.dropWhile fun c => c != '/' && c != '?')
  | _ => target

/-- The target without what a client keeps to itself. -/
def resource (r : Request) : String := withoutServer (((r.target.splitOn "#").head?).getD "")

/-- No path at all leads to the root. -/
def path (r : Request) : String :=
  let path := ((r.resource.splitOn "?").head?).getD ""
  if path.isEmpty then "/" else path

def query (r : Request) : String := String.intercalate "?" ((r.resource.splitOn "?").drop 1)

end Request

namespace Route

/-- What lies under the path of the failover interface. A name of a node at
the end of a path is never empty. -/
def ofSegments? : List String → Option Route
  | ["status"] => some .status
  | ["nodes"] => some .nodes
  | ["nodes", id] => if id.isEmpty then none else some (.node id)
  | ["nodes", id, "maintenance"] => some (.maintenance id)
  | ["events"] => some .events
  | ["trigger"] => some .trigger
  | ["promote", id] => if id.isEmpty then none else some (.promote id)
  | ["acknowledge"] => some .acknowledge
  | _ => none

def ofPath? (path : String) : Option Route :=
  match path.splitOn "/" with
  | ["", "metrics"] => some .metrics
  | ["", "health"] => some .health
  | "" :: "api" :: "v1" :: "failover" :: rest => ofSegments? rest
  | _ => none

/-- The methods that a route takes. -/
def methods : Route → List String
  | metrics | health | status | events => ["GET", "HEAD"]
  | nodes => ["GET", "HEAD", "POST"]
  | node _ => ["GET", "HEAD", "DELETE"]
  | maintenance _ | trigger | promote _ | acknowledge => ["POST"]

/-- The encoded id in a path. -/
def id? : Route → Option String
  | node id | maintenance id | promote id => some id
  | _ => none

end Route

/-- How many events are asked for: the standard number when no limit is
given, and nothing when the limit cannot be read or is given twice. -/
def eventLimit? (query : String) : Option Nat :=
  match (Http.formFields query).filter fun f => f.1 == some "limit" with
  | [] => some 50
  | [(_, value)] => value.bind (Text.natural? (twoTo 64 - 1))
  | _ => none

end Failover.Admin
