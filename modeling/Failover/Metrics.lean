import Failover.Cluster.Basic
import Failover.Event.Basic

-- Metrics: counts, levels and durations that a monitoring system collects.

namespace Failover

/-- How a failover ended. -/
inductive Ending where
  | completed
  | failed
  | cancelled
  deriving DecidableEq, Repr

def Ending.name : Ending → String
  | completed => "completed"
  | failed => "failed"
  | cancelled => "cancelled"

/-- What is counted. -/
inductive Counter where
  | events (type : EventType)
  | failovers (ending : Ending)
  | observerErrors
  | heartbeatsFailed
  | heartbeatTimeouts
  | httpRequests (method : String) (status : Nat)
  deriving DecidableEq, Repr

/-- What has a level. -/
inductive Gauge where
  | clusterState
  | nodesTotal
  | nodesActive
  | nodesHealthy
  | healthScore (node : String)
  | uptimeSeconds
  deriving DecidableEq, Repr

/-- What has a distribution: durations in seconds. -/
inductive Histogram where
  | failoverSeconds (ending : Ending)
  | httpSeconds (method : String)
  deriving DecidableEq, Repr

/-- A name with labels. -/
structure Series where
  name : String
  labels : List (String × String)
  deriving Repr

/-- The labels stand in braces behind the name. -/
def Series.text (s : Series) : String :=
  if s.labels.isEmpty then s.name
  else
    s.name ++ "\x7b" ++ String.intercalate "," (s.labels.map fun l => l.1 ++ "=" ++ l.2) ++ "\x7d"

def Counter.series : Counter → Series
  | events t => ⟨"sentinel_failover_events_total", [("type", t.name)]⟩
  | failovers e => ⟨"sentinel_failovers_total", [("result", e.name)]⟩
  | observerErrors => ⟨"sentinel_observer_errors_total", []⟩
  | heartbeatsFailed => ⟨"sentinel_heartbeats_failed_total", []⟩
  | heartbeatTimeouts => ⟨"sentinel_heartbeat_timeouts_total", []⟩
  | httpRequests method status => ⟨"sentinel_http_requests_total",
      [("method", method), ("status", toString status),
        ("status_class", toString (status / 100) ++ "xx")]⟩

def Gauge.series : Gauge → Series
  | clusterState => ⟨"sentinel_cluster_state", []⟩
  | nodesTotal => ⟨"sentinel_nodes_total", []⟩
  | nodesActive => ⟨"sentinel_nodes_active", []⟩
  | nodesHealthy => ⟨"sentinel_nodes_healthy", []⟩
  | healthScore node => ⟨"sentinel_node_health_score", [("node", node)]⟩
  | uptimeSeconds => ⟨"sentinel_uptime_seconds", []⟩

def Histogram.series : Histogram → Series
  | failoverSeconds e => ⟨"sentinel_failover_duration_seconds", [("result", e.name)]⟩
  | httpSeconds method => ⟨"sentinel_http_request_duration_seconds", [("method", method)]⟩

/-- How many values there were, and their sum. -/
structure Sample where
  count : Nat
  sum : Float

structure Metrics where
  counters : List (Counter × Nat)
  gauges : List (Gauge × Float)
  histograms : List (Histogram × Sample)
  deriving Inhabited

namespace Metrics

def empty : Metrics := ⟨[], [], []⟩

/-- Changes the value of a key; one that is not there starts from `zero`. -/
def update {κ α : Type} [DecidableEq κ] (key : κ) (zero : α) (f : α → α) :
    List (κ × α) → List (κ × α)
  | [] => [(key, f zero)]
  | (k, v) :: rest => if k = key then (k, f v) :: rest else (k, v) :: update key zero f rest

def count (m : Metrics) (c : Counter) (by_ : Nat) : Metrics :=
  { m with counters := update c 0 (· + by_) m.counters }

/-- Counts, but makes no series for a count of nothing. -/
def countSome (m : Metrics) (c : Counter) (by_ : Nat) : Metrics :=
  if by_ = 0 then m else m.count c by_

def set (m : Metrics) (g : Gauge) (level : Float) : Metrics :=
  { m with gauges := update g 0.0 (fun _ => level) m.gauges }

def observe (m : Metrics) (h : Histogram) (seconds : Float) : Metrics :=
  { m with
    histograms := update h ⟨0, 0.0⟩ (fun s => ⟨s.count + 1, s.sum + seconds⟩) m.histograms }

/-! ## What is recorded together -/

def recordState (m : Metrics) (s : ClusterState) : Metrics :=
  m.set .clusterState (Float.ofNat s.code)

def recordEvent (m : Metrics) (e : FailoverEvent) : Metrics :=
  (m.count (.events e.type) 1).recordState e.newState

def recordFailover (m : Metrics) (e : Ending) (seconds : Float) : Metrics :=
  (m.count (.failovers e) 1).observe (.failoverSeconds e) seconds

def recordHeartbeats (m : Metrics) (failed timeouts : Nat) : Metrics :=
  (m.countSome .heartbeatsFailed failed).countSome .heartbeatTimeouts timeouts

/-- State, sizes and the score of every member. -/
def recordCluster (m : Metrics) (c : Cluster) : Metrics :=
  let m := m.recordState c.state
  let m := m.set .nodesTotal (Float.ofNat c.nodes.size)
  let m := m.set .nodesActive (Float.ofNat c.activeNodes.length)
  let m := m.set .nodesHealthy (Float.ofNat c.healthyNodes.length)
  c.list.foldl (fun m n => m.set (.healthScore n.id) n.score) m

def recordRequest (m : Metrics) (method : String) (status : Nat) (seconds : Float) : Metrics :=
  (m.count (.httpRequests method status) 1).observe (.httpSeconds method) seconds

end Metrics

end Failover
