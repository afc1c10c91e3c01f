import Failover.Admin.Response
import Failover.Admin.Route
import Failover.Http.MediaType
import Failover.Settings.Cluster

-- The admin interface: how a request is answered, and where the interface
-- listens.

namespace Failover.Admin

/-- How a request is dealt with: it is answered at once, or it starts an
operation, and is answered from what that operation tells. -/
inductive Handling where
  | respond (r : Response)
  | operate (op : Operation) (finish : Coordinator → Answer → Response)

/-- The time of a request, and when the interface came up. -/
structure Clock where
  now : Moment
  since : Moment

def Clock.uptime (t : Clock) : Span := t.now.since t.since

/-! ## Answers -/

def healthResponse (c : Coordinator) (t : Clock) : Response :=
  let status :=
    if !c.isRunning then "stopped"
    else if c.cluster.state = .normal then "healthy"
    else "degraded"
  .document (.record
    [ ("status", .text status)
    , ("version", .text Coordinator.version)
    , ("coordinator_id", .text c.id)
    , ("running", .bool c.isRunning)
    , ("cluster_state", .text c.cluster.state.name)
    , ("current_primary", Data.ofOption .text c.cluster.primary)
    , ("uptime_secs", .int (t.uptime / Span.perSecond))
    , ("timestamp", .text t.now.toOffsetText) ]) (if c.isRunning then 200 else 503)

def nodesResponse (c : Coordinator) : Response :=
  .document (.record
    [ ("nodes", c.nodeStatusData)
    , ("total", Data.nat c.cluster.nodes.size)
    , ("active", Data.nat c.cluster.activeNodes.length)
    , ("healthy", Data.nat c.cluster.healthyNodes.length) ]) 200

/-- The details of a member. -/
def nodeResponse (c : Coordinator) (id : String) (status : Nat) : Response :=
  match c.cluster.node? id with
  | some n => .document n.detailData status
  | none => failure (.nodeNotFound id)

def eventsResponse (c : Coordinator) (limit : Nat) : Response :=
  let events := c.log.recent limit
  .document (.record
    [ ("events", .list (events.map FailoverEvent.toData))
    , ("total", Data.nat events.length) ]) 200

/-- What an operator reads after an action. -/
def actionResponse (c : Coordinator) (outcome : String) (previous : Option String) : Response :=
  .document (.record <|
    [ ("outcome", .text outcome)
    , ("cluster_state", .text c.cluster.state.name)
    , ("current_primary", Data.ofOption .text c.cluster.primary) ] ++
    (previous.toList.map fun p => ("previous_primary", .text p))) 200

/-! ## Ends of operations -/

def afterTrigger (c : Coordinator) : Answer → Response
  | .outcome (.promoted _ previous) => actionResponse c "promoted" previous
  | .outcome .cancelled => actionResponse c "cancelled" none
  | .outcome (.failed f) => failure f.toError
  | .outcome (.skipped s) => failure (.invalidState ("cannot fail over while " ++ s.name))
  | .refused e => failure e
  | _ => .bare 200

def afterPromote (previous : Option String) (c : Coordinator) : Answer → Response
  | .refused e => failure e
  | _ => actionResponse c "promoted" previous

def afterAcknowledge (c : Coordinator) : Answer → Response
  | .refused e => failure e
  | _ => actionResponse c "acknowledged" none

def afterRemove (c : Coordinator) : Answer → Response
  | .removed n => .document (.record
      [ ("id", .text n.id)
      , ("was_primary", .bool n.primary)
      , ("cluster_state", .text c.cluster.state.name)
      , ("current_primary", Data.ofOption .text c.cluster.primary) ]) 200
  | .refused e => failure e
  | _ => .bare 200

/-! ## Bodies -/

/-- A body that does not say what it should is refused: with one status
when it is no document, and with another when it is a document of the wrong
shape. -/
def readBody {α : Type} (r : Request) (read : Decoder α) : Except Response α :=
  if !Http.declaresJson r.contentType then .error (.rejected 415)
  else
    let (document, complete) := Json.scan r.body
    match read .json document with
    | .error .mismatch => .error (.rejected 422)
    | .error .malformed => .error (.rejected 400)
    | .ok a => if complete then .ok a else .error (.rejected 400)

/-- The reason that an operator gives for a failover, if any. -/
def reasonDecoder : Decoder (Option String) :=
  Decode.record [.may "reason" (Decode.optional Decode.string) fun x _ => x] none

def enabledDecoder : Decoder Bool :=
  Decode.record [.must "enabled" Decode.boolean fun x _ => x] false

def standardReason : String := "requested through admin API"

/-! ## Actions -/

/-- Adds the node that a request describes. -/
def addNode (spec : NodeSpec) (t : Clock) (c : Coordinator) : Coordinator × Response :=
  if Text.allBlank spec.id || Text.allBlank spec.host then
    (c, .text "node id and host must not be empty" 400)
  else
    match c.addNode spec t.now with
    | .ok c => (c, nodeResponse c spec.id 201)
    | .error e => (c, failure e)

def setMaintenance (id : String) (enabled : Bool) (c : Coordinator) : Coordinator × Response :=
  match c.setMaintenance id enabled with
  | .ok c => (c, nodeResponse c id 200)
  | .error e => (c, failure e)

/-- The order for a failover. A reason that shows nothing is none. -/
def triggerOperation (reason : Option String) : Operation :=
  .trigger ((reason.filter fun r => !Text.allBlank r).getD standardReason)

def answered (p : Coordinator × Response) : Coordinator × Handling := (p.1, .respond p.2)

/-- A route with a method that it takes. Ids are decoded before a body is
read. -/
def dispatch (route : Route) (r : Request) (t : Clock) (c : Coordinator) : Coordinator × Handling :=
  match (route.id?.getD "" |> Http.percentDecoded?) with
  | none => (c, .respond (.rejected 400))
  | some id =>
    match route with
    | .metrics =>
      ({ c with metrics := c.metrics.set .uptimeSeconds t.uptime.seconds }, .respond (.bare 200))
    | .health => (c, .respond (healthResponse c t))
    | .status => (c, .respond (.document c.statusData 200))
    | .nodes =>
      if r.method == "POST" then
        match readBody r NodeSpec.decoder with
        | .ok spec => answered (addNode spec t c)
        | .error refusal => (c, .respond refusal)
      else (c, .respond (nodesResponse c))
    | .node _ =>
      if r.method == "DELETE" then (c, .operate (.remove id) afterRemove)
      else (c, .respond (nodeResponse c id 200))
    | .maintenance _ =>
      match readBody r enabledDecoder with
      | .ok enabled => answered (setMaintenance id enabled c)
      | .error refusal => (c, .respond refusal)
    | .events =>
      match eventLimit? r.query with
      | some limit => (c, .respond (eventsResponse c limit))
      | none => (c, .respond (.rejected 400))
    | .trigger =>
      match readBody r reasonDecoder with
      | .ok reason => (c, .operate (triggerOperation reason) afterTrigger)
      | .error refusal => (c, .respond refusal)
    | .promote _ => (c, .operate (.promote id) (afterPromote c.cluster.primary))
    | .acknowledge => (c, .operate .acknowledge afterAcknowledge)

/-- Questions about what is allowed are answered before a request is counted
or looked at. -/
def isPreflight (r : Request) : Bool := r.method == "OPTIONS"

/-- Deals with a request. Unknown paths are not found; known ones take their
own methods only. -/
def handle (r : Request) (t : Clock) (c : Coordinator) : Coordinator × Handling :=
  if isPreflight r then (c, .respond (.bare 200))
  else
    match Route.ofPath? r.path with
    | none => (c, .respond (.bare 404))
    | some route =>
      if route.methods.contains r.method then dispatch route r t c
      else (c, .respond (.bare 405))

/-- The answer as it is sent: without a body when only its head was asked
for. -/
def sent (r : Request) (answer : Response) : Response :=
  if r.method == "HEAD" then { answer with body := .none } else answer

/-- Counts a request that has been answered. -/
def count (r : Request) (status : Nat) (took : Span) (c : Coordinator) : Coordinator :=
  if isPreflight r then c
  else { c with metrics := c.metrics.recordRequest r.method status took.seconds }

/-! ## Listening -/

/-- Whether an address is one of this machine. -/
def isLocalAddress (address : String) : Bool :=
  ["0.0.0.0", "localhost", "::", "[::]", "::1", "[::1]"].contains address ||
    match (address.splitOn ".").mapM String.toNat? with
    | some [127, b, c, d] => b < 256 && c < 256 && d < 256
    | _ => false

/-- Listens until it is told to stop. An address of another machine cannot
be listened at, nor can a port that is taken. -/
def listen (taken : List Nat) (s : ServerSettings) : Except BaseError Unit :=
  if !isLocalAddress s.bindAddress then
    .error (.io "Cannot assign requested address (os error 99)")
  else if taken.contains s.port then .error (.io "Address already in use (os error 98)")
  else .ok ()

end Failover.Admin
