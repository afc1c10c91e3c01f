import Failover.Cluster.Basic
import Failover.Data.Decode
import Failover.Node.Basic
import Failover.Settings.Failover

-- Probes: what a node says about itself when it is asked, how that is scored, and
-- how the report of a probe changes the node that was probed.

namespace Failover

/-! ## Measurements -/

/-- Usage of the machine, in percent. -/
structure ResourceMetrics (α : Type) where
  cpu : α
  memory : α
  disk : α
  /-- Told, but not scored. -/
  networkIo : α
  deriving Repr

/-- The services of a node: how many run, how fast they answer and which
percentage of the requests fails. -/
structure ServiceHealth (α : Type) where
  running : Nat
  total : Nat
  responseTimeMs : α
  errorRate : α
  deriving Repr

open Decode (FieldRule)

namespace ResourceMetrics

def blank : ResourceMetrics Float := ⟨0.0, 0.0, 0.0, 0.0⟩

def fields : List (FieldRule (ResourceMetrics Float)) :=
  [ .may "cpu_usage" Decode.float fun x m => { m with cpu := x }
  , .may "memory_usage" Decode.float fun x m => { m with memory := x }
  , .may "disk_usage" Decode.float fun x m => { m with disk := x }
  , .may "network_io" Decode.float fun x m => { m with networkIo := x } ]

def decoder : Decoder (ResourceMetrics Float) := Decode.record fields blank

def toData (m : ResourceMetrics Float) : Data := .record
  [ ("cpu_usage", Data.number m.cpu)
  , ("memory_usage", Data.number m.memory)
  , ("disk_usage", Data.number m.disk)
  , ("network_io", Data.number m.networkIo) ]

/-- The usage that a node keeps. -/
def usage {α : Type} (m : ResourceMetrics α) : Table α :=
  Table.ofList [("cpu_usage", m.cpu), ("memory_usage", m.memory), ("disk_usage", m.disk)]

end ResourceMetrics

namespace ServiceHealth

def blank : ServiceHealth Float := ⟨0, 0, 0.0, 0.0⟩

def fields : List (FieldRule (ServiceHealth Float)) :=
  [ .may "services_running" Decode.word32 fun x h => { h with running := x }
  , .may "services_total" Decode.word32 fun x h => { h with total := x }
  , .may "response_time_ms" Decode.float fun x h => { h with responseTimeMs := x }
  , .may "error_rate" Decode.float fun x h => { h with errorRate := x } ]

def decoder : Decoder (ServiceHealth Float) := Decode.record fields blank

def toData (h : ServiceHealth Float) : Data := .record
  [ ("services_running", Data.nat h.running)
  , ("services_total", Data.nat h.total)
  , ("response_time_ms", Data.number h.responseTimeMs)
  , ("error_rate", Data.number h.errorRate) ]

end ServiceHealth

end Failover

namespace Failover.Health

/-! ## Scores -/

-- A weighted sum of three partial scores. Each of them is floored at zero. Only
-- the sum is cut at one.

variable {α : Type} [Scalar α]

def resourceWeight : α := 0.4
def serviceWeight : α := 0.4
def latencyWeight : α := 0.2

/-- Each limit that is passed multiplies the resource score by this. -/
def breachPenalty : α := 0.8

/-- How many limits of the machine are passed. To reach a limit is not to
pass it. -/
def breaches (t : HealthThresholds α) (m : ResourceMetrics α) : Nat :=
  [decide (t.cpuUsage < m.cpu), decide (t.memoryUsage < m.memory),
    decide (t.diskUsage < m.disk)].count true

def resourceScore (t : HealthThresholds α) (m : ResourceMetrics α) : α :=
  Scalar.positivePart (Scalar.power breachPenalty (breaches t m))

/-- The share of services that run; none when no service is declared. -/
def runningShare (h : ServiceHealth α) : α :=
  if h.total = 0 then Scalar.zero else Scalar.ofInt h.running / Scalar.ofInt h.total

/-- The share of requests that do not fail, and never less than zero. -/
def successShare (h : ServiceHealth α) : α :=
  Scalar.positivePart (Scalar.one - h.errorRate / Scalar.ofInt 100)

/-- The mean of the two shares. -/
def serviceScore (h : ServiceHealth α) : α :=
  (runningShare h + successShare h) / Scalar.ofInt 2

/-- One at no latency, zero from the limit on. -/
def latencyScore (t : HealthThresholds α) (latencyMs : α) : α :=
  Scalar.positivePart (Scalar.one - latencyMs / t.networkLatency)

/-- The weighted sum of the partial scores. -/
def weightedScore (t : HealthThresholds α) (m : ResourceMetrics α) (h : ServiceHealth α)
    (latencyMs : α) : α :=
  resourceWeight * resourceScore t m + serviceWeight * serviceScore h +
    latencyWeight * latencyScore t latencyMs

def totalScore (t : HealthThresholds α) (m : ResourceMetrics α) (h : ServiceHealth α)
    (latencyMs : α) : α :=
  Scalar.clampUnit (weightedScore t m h latencyMs)

end Failover.Health

namespace Failover

/-! ## Reports -/

/-- How a probe ended, and how long it took in milliseconds. -/
inductive ProbeResult (α : Type) where
  /-- No connection could be opened. -/
  | unreachable (latencyMs : α)
  /-- A question was not answered. -/
  | broken (latencyMs : α)
  | answered (resources : ResourceMetrics α) (services : ServiceHealth α) (latencyMs : α)

structure HealthReport (α : Type) where
  status : HealthStatus
  score : α
  resources : Option (ResourceMetrics α)
  latencyMs : α

/-- A change of a node's status. -/
structure HealthChange where
  node : String
  previous : HealthStatus
  current : HealthStatus
  score : Float

namespace HealthReport

variable {α : Type} [Scalar α]

/-- A report without measurements. -/
def failed (status : HealthStatus) (latencyMs : α) : HealthReport α :=
  { status, score := 0.0, resources := none, latencyMs }

/-- A node that cannot be reached is unhealthy. Nothing is known of one that
does not answer, nor of one whose answers make no number. -/
def ofResult (t : HealthThresholds α) : ProbeResult α → HealthReport α
  | .unreachable latencyMs => failed .unhealthy latencyMs
  | .broken latencyMs => failed .unknown latencyMs
  | .answered resources services latencyMs =>
    let score := Health.totalScore t resources services latencyMs
    if Scalar.isFinite score then
      { status := .ofScore score, score, resources := some resources, latencyMs }
    else failed .unknown latencyMs

end HealthReport

namespace Node

/-- Takes a report into the record of a node. Usage that was not measured
stays as it was known. -/
def withReport (n : Node) (r : HealthReport Float) : Node :=
  { n with
    status := r.status
    score := r.score
    latencyMs := r.latencyMs
    usage := match r.resources with
      | some m => m.usage
      | none => n.usage
    failures := if r.status.isFailure then min (n.failures + 1) maxFailures else 0 }

/-- Nodes that a sweep asks: those that are active, and the primary in any
case, but none in maintenance. -/
def isProbed (n : Node) : Bool := (n.active || n.primary) && n.status != .maintenance

end Node

namespace Cluster

def probeTargets (c : Cluster) : List Node := c.list.filter (·.isProbed)

/-- Records a report. A node that has left or has gone into maintenance
keeps its record. -/
def record (c : Cluster) (id : String) (r : HealthReport Float) : Option HealthChange × Cluster :=
  match c.node? id with
  | none => (none, c)
  | some n =>
    if n.status == .maintenance then (none, c)
    else
      (if n.status == r.status then none
        else some { node := id, previous := n.status, current := r.status, score := r.score },
        { c with nodes := c.nodes.modify id (·.withReport r) })

/-- Records the reports of a sweep one after another. The changes are in the
order of the reports. -/
def recordAll (c : Cluster) : List (String × HealthReport Float) → List HealthChange × Cluster
  | [] => ([], c)
  | (id, r) :: rest =>
    let (change, c) := c.record id r
    let (changes, c) := c.recordAll rest
    (change.toList ++ changes, c)

end Cluster

end Failover
