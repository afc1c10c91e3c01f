import Failover.Moment.Basic
import Failover.Number.Fixed
import Failover.Number.Scalar
import Failover.Table

-- The members of a cluster, the parts they play and the verdicts on their
-- health.

namespace Failover

/-! ## Parts -/

inductive NodeRole where
  /-- Serves the protected role. -/
  | primary
  /-- First choice for promotion. -/
  | secondary
  /-- Cold backup. -/
  | backup
  /-- Warm standby. -/
  | standby
  /-- Ready to take over at once. -/
  | hotSpare
  deriving DecidableEq, Repr

namespace NodeRole

instance : Inhabited NodeRole := ⟨secondary⟩

def all : List NodeRole := [primary, secondary, backup, standby, hotSpare]

def name : NodeRole → String
  | primary => "primary"
  | secondary => "secondary"
  | backup => "backup"
  | standby => "standby"
  | hotSpare => "hot_spare"

def ofName? (s : String) : Option NodeRole := all.find? fun r => r.name == s

/-- How well the role suits a promotion, from zero to one. -/
def promotionScore {α : Type} [Scalar α] : NodeRole → α
  | secondary => 1.0
  | hotSpare => 0.9
  | standby => 0.8
  | backup => 0.6
  | primary => 0.5

end NodeRole

/-! ## Verdicts -/

inductive HealthStatus where
  | healthy
  | degraded
  | unhealthy
  /-- No verdict yet, or the probe itself failed. -/
  | unknown
  /-- Kept from probes by an operator. -/
  | maintenance
  deriving DecidableEq, Repr

namespace HealthStatus

instance : Inhabited HealthStatus := ⟨unknown⟩

def all : List HealthStatus := [healthy, degraded, unhealthy, unknown, maintenance]

def name : HealthStatus → String
  | healthy => "healthy"
  | degraded => "degraded"
  | unhealthy => "unhealthy"
  | unknown => "unknown"
  | maintenance => "maintenance"

def ofName? (s : String) : Option HealthStatus := all.find? fun h => h.name == s

/-- A score of eight tenths is healthy, one of six tenths is degraded, and
everything else is unhealthy. -/
def ofScore {α : Type} [Scalar α] (score : α) : HealthStatus :=
  if (0.8 : α) ≤ score then healthy
  else if (0.6 : α) ≤ score then degraded
  else unhealthy

/-- Whether the verdict counts as a failed check. -/
def isFailure : HealthStatus → Bool
  | unhealthy | unknown => true
  | _ => false

end HealthStatus

/-! ## Members -/

/-- A member as its coordinator sees it. -/
structure Node where
  id : String
  name : String
  /-- The host that probes go to. -/
  address : String
  port : Nat
  role : NodeRole
  status : HealthStatus
  score : Float
  lastHeartbeat : Moment
  /-- Percentages by name. -/
  usage : Table Float
  latencyMs : Float
  active : Bool
  primary : Bool
  priority : Int
  labels : Table String
  /-- Failed health checks in a row. -/
  failures : Nat
  deriving Inhabited

/-- A request to join. -/
structure NodeSpec where
  id : String
  name : Option String
  host : String
  port : Nat
  role : NodeRole
  priority : Int
  labels : Table String
  deriving Inhabited

namespace Node

def isHealthy (n : Node) : Bool := n.status == .healthy

/-- Failure counts stay at this number once they reach it. -/
def maxFailures : Nat := twoTo 32 - 1

def endpoint (n : Node) : String := n.address ++ ":" ++ toString n.port

/-- The mean of some values, if there are any. -/
def meanOf? {α : Type} [Scalar α] : List α → Option α
  | [] => none
  | first :: rest => some (Scalar.sum first rest / Scalar.ofInt (rest.length + 1))

/-- The mean of the known usage percentages. -/
def averageUsage? (n : Node) : Option Float := meanOf? n.usage.values

end Node

/-- A member that has just joined: active, with no verdict yet. Its name is
its id unless it has another. -/
def NodeSpec.toNode (spec : NodeSpec) (now : Moment) : Node where
  id := spec.id
  name := spec.name.getD spec.id
  address := spec.host
  port := spec.port
  role := spec.role
  status := .unknown
  score := 0.0
  lastHeartbeat := now
  usage := Table.empty
  latencyMs := 0.0
  active := true
  primary := false
  priority := spec.priority
  labels := spec.labels
  failures := 0

end Failover
