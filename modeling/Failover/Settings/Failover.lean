import Failover.Failure
import Failover.Moment.Basic
import Failover.Number.Scalar
import Failover.Text

-- The settings of failure detection and failover.

namespace Failover

/-! ## What starts a failover -/

inductive FailoverMode where
  /-- Failed health checks and silence both start a failover. -/
  | automatic
  /-- Only an operator starts a failover. -/
  | manual
  /-- Only an operator starts a failover, at planned times. -/
  | scheduled
  /-- Only failed health checks start a failover. -/
  | healthBased
  deriving DecidableEq, Repr

namespace FailoverMode

instance : Inhabited FailoverMode := ⟨automatic⟩

def all : List FailoverMode := [automatic, manual, scheduled, healthBased]

def name : FailoverMode → String
  | automatic => "automatic"
  | manual => "manual"
  | scheduled => "scheduled"
  | healthBased => "health_based"

/-- The name in one word, as a person reads it. -/
def title : FailoverMode → String
  | automatic => "Automatic"
  | manual => "Manual"
  | scheduled => "Scheduled"
  | healthBased => "HealthBased"

def ofName? (s : String) : Option FailoverMode := all.find? fun m => m.name == s

def triggersOnHealth : FailoverMode → Bool
  | automatic | healthBased => true
  | _ => false

def triggersOnSilence : FailoverMode → Bool
  | automatic => true
  | _ => false

/-- A mode as a person writes it: in any case, and with a hyphen for the
low line. -/
def parse (s : String) : Except BaseError FailoverMode :=
  let lower := Text.asciiLower s
  match ofName? (if lower == "health-based" then "health_based" else lower) with
  | some m => .ok m
  | none => .error (.invalidArgument ("unknown failover mode: " ++ lower))

end FailoverMode

/-! ## Settings -/

/-- The weights of a candidate's score. -/
structure PriorityWeights (α : Type) where
  healthScore : α
  resourceUsage : α
  networkLatency : α
  nodeRole : α
  deriving Repr

namespace PriorityWeights

variable {α : Type} [Scalar α]

def standard : PriorityWeights α :=
  { healthScore := 0.4, resourceUsage := 0.2, networkLatency := 0.2, nodeRole := 0.2 }

def toList (w : PriorityWeights α) : List α :=
  [w.healthScore, w.resourceUsage, w.networkLatency, w.nodeRole]

/-- Every weight is a number that is finite and not negative. -/
def usable (w : PriorityWeights α) : Bool :=
  w.toList.all fun x => Scalar.isFinite x && !decide (x < Scalar.zero)

end PriorityWeights

/-- The limits of a health check. Usage and error rate are percentages, the
latency is in milliseconds. -/
structure HealthThresholds (α : Type) where
  cpuUsage : α
  memoryUsage : α
  diskUsage : α
  networkLatency : α
  errorRate : α
  deriving Repr

namespace HealthThresholds

variable {α : Type} [Scalar α]

def standard : HealthThresholds α :=
  { cpuUsage := 80.0, memoryUsage := 85.0, diskUsage := 90.0, networkLatency := 100.0
    errorRate := 5.0 }

/-- The latency limit is not zero or less. -/
def usable (t : HealthThresholds α) : Bool := !decide (t.networkLatency ≤ Scalar.zero)

end HealthThresholds

structure FailoverSettings where
  /-- Time between two rounds of pings. -/
  heartbeatIntervalMs : Nat
  /-- Silence after which a node counts as dead. -/
  heartbeatTimeoutMs : Nat
  /-- Time between two health sweeps. -/
  healthCheckIntervalMs : Nat
  /-- Time between two looks at the failover conditions. -/
  monitorIntervalMs : Nat
  /-- The longest that the choice of a candidate may take. -/
  failoverTimeoutMs : Nat
  connectTimeoutMs : Nat
  /-- The longest that one hook of an observer may take. -/
  observerTimeoutMs : Nat
  /-- Failed checks in a row before the primary is failed over. -/
  maxConsecutiveFailures : Nat
  mode : FailoverMode
  autoRecovery : Bool
  /-- Time between a failover and the return of the failed node. -/
  recoveryDelayMs : Nat
  /-- Members that must be reachable before a promotion. -/
  quorumSize : Nat
  enforceQuorum : Bool
  weights : PriorityWeights Float
  thresholds : HealthThresholds Float
  /-- Events kept in memory. -/
  eventHistorySize : Nat
  /-- A file that takes every event as a line. -/
  eventLogPath : Option String
  deriving Repr

/-- Why settings cannot be used. -/
inductive Complaint where
  | zeroInterval (name : String)
  | timeoutWithinInterval (timeout interval : Nat)
  | noFailuresAllowed
  | noHistory
  | emptyQuorum
  | unusableWeights
  | unusableLatency
  | emptyNodeId
  | duplicateNode (id : String)
  | zeroRequestTimeout
  deriving DecidableEq, Repr

namespace Complaint

def message : Complaint → String
  | zeroInterval name => name ++ " must be greater than zero"
  | timeoutWithinInterval timeout interval =>
    "heartbeat_timeout_ms (" ++ toString timeout ++ ") must exceed heartbeat_interval_ms (" ++
      toString interval ++ ")"
  | noFailuresAllowed => "max_consecutive_failures must be at least 1"
  | noHistory => "event_history_size must be at least 1"
  | emptyQuorum => "quorum_size must be at least 1 when quorum is enforced"
  | unusableWeights => "priority weights must be finite and non-negative"
  | unusableLatency => "health_thresholds.network_latency must be positive"
  | emptyNodeId => "node id must not be empty"
  | duplicateNode id => "duplicate node id: " ++ id
  | zeroRequestTimeout => "probe.request_timeout_ms must be greater than zero"

def toError (c : Complaint) : BaseError := .invalidConfig c.message

end Complaint

namespace FailoverSettings

def standard : FailoverSettings where
  heartbeatIntervalMs := 5000
  heartbeatTimeoutMs := 15000
  healthCheckIntervalMs := 10000
  monitorIntervalMs := 1000
  failoverTimeoutMs := 30000
  connectTimeoutMs := 5000
  observerTimeoutMs := 5000
  maxConsecutiveFailures := 3
  mode := .automatic
  autoRecovery := true
  recoveryDelayMs := 300000
  quorumSize := 2
  enforceQuorum := false
  weights := .standard
  thresholds := .standard
  eventHistorySize := 1000
  eventLogPath := none

instance : Inhabited FailoverSettings := ⟨standard⟩

def intervals (s : FailoverSettings) : List (String × Nat) :=
  [ ("heartbeat_interval_ms", s.heartbeatIntervalMs)
  , ("heartbeat_timeout_ms", s.heartbeatTimeoutMs)
  , ("health_check_interval_ms", s.healthCheckIntervalMs)
  , ("monitor_interval_ms", s.monitorIntervalMs)
  , ("failover_timeout_ms", s.failoverTimeoutMs)
  , ("connect_timeout_ms", s.connectTimeoutMs)
  , ("observer_timeout_ms", s.observerTimeoutMs) ]

/-- Everything that is wrong, in the order in which it is reported. -/
def complaints (s : FailoverSettings) : List Complaint :=
  (s.intervals.filter (·.2 == 0)).map (fun i => .zeroInterval i.1) ++
  (if s.heartbeatTimeoutMs ≤ s.heartbeatIntervalMs then
    [.timeoutWithinInterval s.heartbeatTimeoutMs s.heartbeatIntervalMs] else []) ++
  (if s.maxConsecutiveFailures == 0 then [.noFailuresAllowed] else []) ++
  (if s.eventHistorySize == 0 then [.noHistory] else []) ++
  (if s.enforceQuorum && s.quorumSize == 0 then [.emptyQuorum] else []) ++
  (if s.weights.usable then [] else [.unusableWeights]) ++
  (if s.thresholds.usable then [] else [.unusableLatency])

/-- Settings are used only when nothing is wrong; otherwise the first
complaint is told. -/
def validate (s : FailoverSettings) : Except Complaint Unit :=
  match s.complaints with
  | [] => .ok ()
  | c :: _ => .error c

/-! ## Times as spans -/

def heartbeatTimeout (s : FailoverSettings) : Span := Span.ofMillis s.heartbeatTimeoutMs
def failoverTimeout (s : FailoverSettings) : Span := Span.ofMillis s.failoverTimeoutMs
def connectTimeout (s : FailoverSettings) : Span := Span.ofMillis s.connectTimeoutMs
def observerTimeout (s : FailoverSettings) : Span := Span.ofMillis s.observerTimeoutMs
def recoveryDelay (s : FailoverSettings) : Span := Span.ofMillis s.recoveryDelayMs

end FailoverSettings

end Failover
