import Failover.Settings.Cluster
import Failover.Text

-- Settings out of environment variables. A variable that cannot be read is
-- passed over.

namespace Failover.ClusterSettings

/-- The variables by name. -/
abbrev Variables := List (String × String)

def valueOf? (vars : Variables) (name : String) : Option String :=
  (vars.find? fun v => v.1 == name).map (·.2)

/-- Changes the settings when a variable is there and can be read. -/
def withVariable {α : Type} (vars : Variables) (name : String) (read : String → Option α)
    (set : α → ClusterSettings → ClusterSettings) (s : ClusterSettings) : ClusterSettings :=
  match (valueOf? vars name).bind read with
  | some a => set a s
  | none => s

/-- The variables that settings are read from, besides those of the command
line. -/
def variableNames : List String :=
  ["SENTINEL_COORDINATOR_ID", "SENTINEL_HEARTBEAT_TIMEOUT_MS", "SENTINEL_AUTO_RECOVERY"]

def ofVariables (host : String) (vars : Variables) : ClusterSettings :=
  standard host
    |> withVariable vars "SENTINEL_COORDINATOR_ID" some (fun x s => { s with coordinatorId := x })
    |> withVariable vars "SENTINEL_BIND_ADDRESS" some
        (fun x s => { s with server := { s.server with bindAddress := x } })
    |> withVariable vars "SENTINEL_PORT" (Text.natural? (twoTo 16 - 1))
        (fun x s => { s with server := { s.server with port := x } })
    |> withVariable vars "SENTINEL_LOG_LEVEL" some
        (fun x s => { s with logging := { s.logging with level := x } })
    |> withVariable vars "SENTINEL_LOG_FORMAT" some
        (fun x s => { s with logging := { s.logging with format := x } })
    |> withVariable vars "SENTINEL_FAILOVER_MODE" (fun t => (FailoverMode.parse t).toOption)
        (fun x s => { s with failover := { s.failover with mode := x } })
    |> withVariable vars "SENTINEL_HEARTBEAT_TIMEOUT_MS" (Text.natural? (twoTo 64 - 1))
        (fun x s => { s with failover := { s.failover with heartbeatTimeoutMs := x } })
    |> withVariable vars "SENTINEL_AUTO_RECOVERY" some
        (fun x s => { s with failover := { s.failover with autoRecovery := x == "true" } })
    |> withVariable vars "SENTINEL_EVENT_LOG" some
        (fun x s => { s with failover := { s.failover with eventLogPath := some x } })

end Failover.ClusterSettings
