import Failover.Node.Basic
import Failover.Settings.Failover

-- The settings of a whole coordinator: its identity, its server, its
-- probes, its failover and its first members.

namespace Failover

structure ServerSettings where
  enabled : Bool
  bindAddress : String
  port : Nat
  deriving Repr

def ServerSettings.standard : ServerSettings :=
  { enabled := true, bindAddress := "0.0.0.0", port := 9400 }

structure LoggingSettings where
  level : String
  /-- Text or JSON. -/
  format : String
  deriving Repr

def LoggingSettings.standard : LoggingSettings := { level := "info", format := "text" }

/-- How nodes are asked over HTTP. -/
structure ProbeSettings where
  scheme : String
  requestTimeoutMs : Nat
  deriving Repr

def ProbeSettings.standard : ProbeSettings := { scheme := "http", requestTimeoutMs := 5000 }

structure ClusterSettings where
  coordinatorId : String
  server : ServerSettings
  logging : LoggingSettings
  probe : ProbeSettings
  failover : FailoverSettings
  nodes : List NodeSpec

namespace ClusterSettings

/-- The settings of an empty document. A coordinator is called after the
host it runs on. -/
def standard (host : String) : ClusterSettings where
  coordinatorId := host
  server := .standard
  logging := .standard
  probe := .standard
  failover := .standard
  nodes := []

/-- The first node whose id is empty or was there before. -/
def nodeComplaint? : List String → List NodeSpec → Option Complaint
  | _, [] => none
  | seen, n :: rest =>
    if n.id.isEmpty then some .emptyNodeId
    else if seen.contains n.id then some (.duplicateNode n.id)
    else nodeComplaint? (n.id :: seen) rest

/-- An empty list of nodes is no fault here: it is found when the
coordinator starts. -/
def validate (s : ClusterSettings) : Except Complaint Unit := do
  s.failover.validate
  match nodeComplaint? [] s.nodes with
  | some c => .error c
  | none => if s.probe.requestTimeoutMs == 0 then .error .zeroRequestTimeout else .ok ()

end ClusterSettings

end Failover
