import Failover.Admin.Handler

-- Scripts: what happens in a drill, and how hosts and observers behave in it.

namespace Failover.Drill

/-- How a host answers. Delays are in milliseconds; a text in the place of
measurements is the failure to give them. Scripts of steps `σ` run while a
connection or a ping waits. -/
structure Host (σ : Type) where
  reachable : Bool
  ping : Bool
  connectDelay : Nat
  pingDelay : Nat
  metricsDelay : Nat
  servicesDelay : Nat
  metrics : Except String (ResourceMetrics Float)
  services : Except String (ServiceHealth Float)
  onConnect : List σ
  onPing : List σ

/-- A host in good order. -/
def Host.standard {σ : Type} : Host σ where
  reachable := true
  ping := true
  connectDelay := 0
  pingDelay := 0
  metricsDelay := 0
  servicesDelay := 0
  metrics := .ok ⟨20.0, 30.0, 40.0, 0.0⟩
  services := .ok ⟨4, 4, 0.0, 0.0⟩
  onConnect := []
  onPing := []

/-- A change of a host. What is left out stays as it is. -/
structure HostChange (σ : Type) where
  reachable : Option Bool
  ping : Option Bool
  connectDelay : Option Nat
  pingDelay : Option Nat
  metricsDelay : Option Nat
  servicesDelay : Option Nat
  metrics : Option (Except String (ResourceMetrics Float))
  services : Option (Except String (ServiceHealth Float))
  onConnect : Option (List σ)
  onPing : Option (List σ)
  deriving Inhabited

def Host.change {σ : Type} (h : Host σ) (c : HostChange σ) : Host σ where
  reachable := c.reachable.getD h.reachable
  ping := c.ping.getD h.ping
  connectDelay := c.connectDelay.getD h.connectDelay
  pingDelay := c.pingDelay.getD h.pingDelay
  metricsDelay := c.metricsDelay.getD h.metricsDelay
  servicesDelay := c.servicesDelay.getD h.servicesDelay
  metrics := c.metrics.getD h.metrics
  services := c.services.getD h.services
  onConnect := c.onConnect.getD h.onConnect
  onPing := c.onPing.getD h.onPing

/-- How an observer takes its notices. -/
inductive Manner where
  /-- Leaves no trace in the drill. -/
  | silent
  | calm
  | failing
  /-- Never comes to an end. -/
  | stuck
  deriving DecidableEq, Repr, Inhabited

inductive NoticeKind where
  | failover
  | recovery
  | state
  deriving DecidableEq, Repr

/-- An observer. Its manner shows on notices of some kinds, or on all of
them; its scripts run on notices by their keys. -/
structure Observer (σ : Type) where
  name : String
  manner : Manner
  kinds : Option (List NoticeKind)
  delay : Nat
  scripts : List (String × List σ)
  deriving Inhabited

/-- What happens in a drill, one thing after the other. -/
inductive Step where
  /-- Adds a node, if the description of it can be read. -/
  | add (spec : Except Fault NodeSpec)
  /-- Registers a node as it is. One without a heartbeat has been heard of
  just now. -/
  | register (node : Node) (heard : Option Moment)
  | unregister (id : String)
  | maintenance (id : String) (enabled : Bool)
  | operate (op : Operation)
  | status
  | nodeStatus
  | node (id : String)
  | events (limit : Option Nat)
  | registry (id : String)
  | change (host : String) (c : HostChange Step)
  | sleep (ms : Nat)
  | record (id : String) (report : HealthReport Float)
  | beat (id : String) (time : Option Moment)
  | scan (time : Option Moment)
  | sendHeartbeats
  | sweep
  | check (id : String)
  | healthChanges
  | ownChanges
  | observe (observer : Observer Step)
  | metrics
  | eventFile
  | summary
  | start
  | stop
  | running
  | http (r : Admin.Request)
  | parallel (branches : List (List Step))

instance : Inhabited Step := ⟨.status⟩

/-- What the registry of a cluster tells. -/
structure RegistryView where
  size : Nat
  contains : Bool
  active : List String
  primaryCount : Nat
  lastFailure : Option FailureRecord

/-- What a step comes to. -/
inductive Result where
  | nothing
  | refused (e : FailoverError)
  | unreadable (f : Fault)
  | node (n : Option Node)
  | removal (r : Removal)
  | answer (a : Answer)
  | document (d : Data)
  | events (es : List FailoverEvent)
  | flag (b : Bool)
  | text (s : String)
  | registry (v : RegistryView)
  | changes (cs : List HealthChange)
  | change (c : Option HealthChange)
  | silences (ss : List Silence)
  | heartbeats (s : HeartbeatSummary)
  | report (r : Option (HealthReport Float))
  | metrics (m : Metrics)
  | file (text : Option String)
  | response (r : Admin.Response)
  | branches (rs : List (List Result))

instance : Inhabited Result := ⟨.nothing⟩

/-- What hosts, observers and scripts have done. -/
inductive Entry where
  | line (s : String)
  | script (r : Result)

end Failover.Drill
