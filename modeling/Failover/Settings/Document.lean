import Failover.Node.Document
import Failover.Settings.Cluster

-- Settings as documents.

namespace Failover

open Decode (FieldRule)

def FailoverMode.decoder : Decoder FailoverMode := Decode.choice FailoverMode.ofName?

namespace PriorityWeights

def fields : List (FieldRule (PriorityWeights Float)) :=
  [ .may "health_score" Decode.float fun x w => { w with healthScore := x }
  , .may "resource_usage" Decode.float fun x w => { w with resourceUsage := x }
  , .may "network_latency" Decode.float fun x w => { w with networkLatency := x }
  , .may "node_role" Decode.float fun x w => { w with nodeRole := x } ]

def decoder : Decoder (PriorityWeights Float) := Decode.record fields .standard

def toData (w : PriorityWeights Float) : Data := .record
  [ ("health_score", Data.number w.healthScore)
  , ("resource_usage", Data.number w.resourceUsage)
  , ("network_latency", Data.number w.networkLatency)
  , ("node_role", Data.number w.nodeRole) ]

end PriorityWeights

namespace HealthThresholds

def fields : List (FieldRule (HealthThresholds Float)) :=
  [ .may "cpu_usage" Decode.float fun x t => { t with cpuUsage := x }
  , .may "memory_usage" Decode.float fun x t => { t with memoryUsage := x }
  , .may "disk_usage" Decode.float fun x t => { t with diskUsage := x }
  , .may "network_latency" Decode.float fun x t => { t with networkLatency := x }
  , .may "error_rate" Decode.float fun x t => { t with errorRate := x } ]

def decoder : Decoder (HealthThresholds Float) := Decode.record fields .standard

def toData (t : HealthThresholds Float) : Data := .record
  [ ("cpu_usage", Data.number t.cpuUsage)
  , ("memory_usage", Data.number t.memoryUsage)
  , ("disk_usage", Data.number t.diskUsage)
  , ("network_latency", Data.number t.networkLatency)
  , ("error_rate", Data.number t.errorRate) ]

end HealthThresholds

namespace FailoverSettings

def fields : List (FieldRule FailoverSettings) :=
  [ .may "heartbeat_interval_ms" Decode.word64 fun x s => { s with heartbeatIntervalMs := x }
  , .may "heartbeat_timeout_ms" Decode.word64 fun x s => { s with heartbeatTimeoutMs := x }
  , .may "health_check_interval_ms" Decode.word64 fun x s => { s with healthCheckIntervalMs := x }
  , .may "monitor_interval_ms" Decode.word64 fun x s => { s with monitorIntervalMs := x }
  , .may "failover_timeout_ms" Decode.word64 fun x s => { s with failoverTimeoutMs := x }
  , .may "connect_timeout_ms" Decode.word64 fun x s => { s with connectTimeoutMs := x }
  , .may "observer_timeout_ms" Decode.word64 fun x s => { s with observerTimeoutMs := x }
  , .may "max_consecutive_failures" Decode.word32 fun x s => { s with maxConsecutiveFailures := x }
  , .may "failover_mode" FailoverMode.decoder fun x s => { s with mode := x }
  , .may "auto_recovery_enabled" Decode.boolean fun x s => { s with autoRecovery := x }
  , .may "recovery_delay_ms" Decode.word64 fun x s => { s with recoveryDelayMs := x }
  , .may "quorum_size" Decode.word64 fun x s => { s with quorumSize := x }
  , .may "enforce_quorum" Decode.boolean fun x s => { s with enforceQuorum := x }
  , .may "priority_weights" PriorityWeights.decoder fun x s => { s with weights := x }
  , .may "health_thresholds" HealthThresholds.decoder fun x s => { s with thresholds := x }
  , .may "event_history_size" Decode.word64 fun x s => { s with eventHistorySize := x }
  , .may "event_log_path" (Decode.optional Decode.string) fun x s => { s with eventLogPath := x } ]

def decoder : Decoder FailoverSettings := Decode.record fields .standard

def toData (s : FailoverSettings) : Data := .record
  [ ("heartbeat_interval_ms", Data.nat s.heartbeatIntervalMs)
  , ("heartbeat_timeout_ms", Data.nat s.heartbeatTimeoutMs)
  , ("health_check_interval_ms", Data.nat s.healthCheckIntervalMs)
  , ("monitor_interval_ms", Data.nat s.monitorIntervalMs)
  , ("failover_timeout_ms", Data.nat s.failoverTimeoutMs)
  , ("connect_timeout_ms", Data.nat s.connectTimeoutMs)
  , ("observer_timeout_ms", Data.nat s.observerTimeoutMs)
  , ("max_consecutive_failures", Data.nat s.maxConsecutiveFailures)
  , ("failover_mode", .text s.mode.name)
  , ("auto_recovery_enabled", .bool s.autoRecovery)
  , ("recovery_delay_ms", Data.nat s.recoveryDelayMs)
  , ("quorum_size", Data.nat s.quorumSize)
  , ("enforce_quorum", .bool s.enforceQuorum)
  , ("priority_weights", s.weights.toData)
  , ("health_thresholds", s.thresholds.toData)
  , ("event_history_size", Data.nat s.eventHistorySize)
  , ("event_log_path", Data.ofOption .text s.eventLogPath) ]

end FailoverSettings

namespace ServerSettings

def fields : List (FieldRule ServerSettings) :=
  [ .may "enabled" Decode.boolean fun x s => { s with enabled := x }
  , .may "bind_address" Decode.string fun x s => { s with bindAddress := x }
  , .may "port" Decode.word16 fun x s => { s with port := x } ]

def decoder : Decoder ServerSettings := Decode.record fields .standard

def toData (s : ServerSettings) : Data := .record
  [ ("enabled", .bool s.enabled)
  , ("bind_address", .text s.bindAddress)
  , ("port", Data.nat s.port) ]

end ServerSettings

namespace LoggingSettings

def fields : List (FieldRule LoggingSettings) :=
  [ .may "level" Decode.string fun x s => { s with level := x }
  , .may "format" Decode.string fun x s => { s with format := x } ]

def decoder : Decoder LoggingSettings := Decode.record fields .standard

def toData (s : LoggingSettings) : Data := .record [("level", .text s.level), ("format", .text s.format)]

end LoggingSettings

namespace ProbeSettings

def fields : List (FieldRule ProbeSettings) :=
  [ .may "scheme" Decode.string fun x s => { s with scheme := x }
  , .may "request_timeout_ms" Decode.word64 fun x s => { s with requestTimeoutMs := x } ]

def decoder : Decoder ProbeSettings := Decode.record fields .standard

def toData (s : ProbeSettings) : Data := .record
  [("scheme", .text s.scheme), ("request_timeout_ms", Data.nat s.requestTimeoutMs)]

end ProbeSettings

namespace ClusterSettings

/-- The identity of a coordinator stands in a record of its own. -/
def identity (host : String) : Decoder String :=
  Decode.record [.may "id" Decode.string fun x _ => x] host

def fields (host : String) : List (FieldRule ClusterSettings) :=
  [ .may "coordinator" (identity host) fun x s => { s with coordinatorId := x }
  , .may "server" ServerSettings.decoder fun x s => { s with server := x }
  , .may "logging" LoggingSettings.decoder fun x s => { s with logging := x }
  , .may "probe" ProbeSettings.decoder fun x s => { s with probe := x }
  , .may "failover" FailoverSettings.decoder fun x s => { s with failover := x }
  , .may "nodes" (Decode.listOf NodeSpec.decoder) fun x s => { s with nodes := x } ]

def decoder (host : String) : Decoder ClusterSettings := Decode.record (fields host) (standard host)

def toData (s : ClusterSettings) : Data := .record
  [ ("coordinator", .record [("id", .text s.coordinatorId)])
  , ("server", s.server.toData)
  , ("logging", s.logging.toData)
  , ("probe", s.probe.toData)
  , ("failover", s.failover.toData)
  , ("nodes", .list (s.nodes.map NodeSpec.toData)) ]

end ClusterSettings

end Failover
