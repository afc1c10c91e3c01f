import Failover.Data.Decode

-- The states that a cluster as a whole goes through.

namespace Failover

inductive ClusterState where
  | normal
  /-- The last failover failed. -/
  | degraded
  | failoverInProgress
  | failoverComplete
  | recoveryInProgress
  | recoveryComplete
  deriving DecidableEq, Repr

namespace ClusterState

instance : Inhabited ClusterState := ⟨normal⟩

def all : List ClusterState :=
  [normal, degraded, failoverInProgress, failoverComplete, recoveryInProgress, recoveryComplete]

def name : ClusterState → String
  | normal => "normal"
  | degraded => "degraded"
  | failoverInProgress => "failover_in_progress"
  | failoverComplete => "failover_complete"
  | recoveryInProgress => "recovery_in_progress"
  | recoveryComplete => "recovery_complete"

def ofName? (s : String) : Option ClusterState := all.find? fun c => c.name == s

def decoder : Decoder ClusterState := Decode.choice ofName?

/-- The name in one word, as a person reads it. -/
def title : ClusterState → String
  | normal => "Normal"
  | degraded => "Degraded"
  | failoverInProgress => "FailoverInProgress"
  | failoverComplete => "FailoverComplete"
  | recoveryInProgress => "RecoveryInProgress"
  | recoveryComplete => "RecoveryComplete"

/-- The number that stands for the state in the metrics. -/
def code : ClusterState → Nat
  | normal => 0
  | degraded => 1
  | failoverInProgress => 2
  | failoverComplete => 3
  | recoveryInProgress => 4
  | recoveryComplete => 5

/-- Somebody is at work on a change of state. -/
def isTransitional : ClusterState → Bool
  | failoverInProgress | recoveryInProgress => true
  | _ => false

/-- A failover has ended, well or badly, and nobody has tidied up yet. -/
def isSettled : ClusterState → Bool
  | degraded | failoverComplete => true
  | _ => false

end ClusterState

end Failover
