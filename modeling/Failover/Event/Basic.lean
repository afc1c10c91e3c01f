import Failover.Cluster.State
import Failover.Data.Json
import Failover.Moment.Text
import Failover.Node.Document

-- Events: the record of each transition of the cluster.

namespace Failover

inductive EventType where
  | failoverInitiated
  | failoverCompleted
  | failoverFailed
  /-- The primary came back before another node was promoted. -/
  | failoverCancelled
  | recoveryInitiated
  | recoveryCompleted
  | stateChanged
  | manualPromotion
  deriving DecidableEq, Repr

namespace EventType

instance : Inhabited EventType := ⟨stateChanged⟩

def all : List EventType :=
  [failoverInitiated, failoverCompleted, failoverFailed, failoverCancelled, recoveryInitiated,
    recoveryCompleted, stateChanged, manualPromotion]

def name : EventType → String
  | failoverInitiated => "failover_initiated"
  | failoverCompleted => "failover_completed"
  | failoverFailed => "failover_failed"
  | failoverCancelled => "failover_cancelled"
  | recoveryInitiated => "recovery_initiated"
  | recoveryCompleted => "recovery_completed"
  | stateChanged => "state_changed"
  | manualPromotion => "manual_promotion"

def ofName? (s : String) : Option EventType := all.find? fun t => t.name == s

def decoder : Decoder EventType := Decode.choice ofName?

def isFailover : EventType → Bool
  | failoverInitiated | failoverCompleted | failoverFailed | failoverCancelled
  | manualPromotion => true
  | _ => false

def isRecovery : EventType → Bool
  | recoveryInitiated | recoveryCompleted => true
  | _ => false

end EventType

structure FailoverEvent where
  id : String
  type : EventType
  /-- The node that the transition started from. -/
  trigger : Option String
  /-- The node that the transition leads to. -/
  target : Option String
  oldState : ClusterState
  newState : ClusterState
  time : Moment
  reason : String
  metadata : Table Data
  deriving Inhabited

namespace FailoverEvent

open Decode (FieldRule)

def fields : List (FieldRule FailoverEvent) :=
  [ .must "id" Decode.string fun x e => { e with id := x }
  , .must "type" EventType.decoder fun x e => { e with type := x }
  , .mayInRecord "trigger_node" (Decode.optional Decode.string) fun x e => { e with trigger := x }
  , .mayInRecord "target_node" (Decode.optional Decode.string) fun x e => { e with target := x }
  , .must "old_state" ClusterState.decoder fun x e => { e with oldState := x }
  , .must "new_state" ClusterState.decoder fun x e => { e with newState := x }
  , .must "timestamp" Moment.decoder fun x e => { e with time := x }
  , .must "reason" Decode.string fun x e => { e with reason := x }
  , .may "metadata" (Decode.tableOf Decode.anything) fun x e => { e with metadata := x } ]

def decoder : Decoder FailoverEvent := Decode.record fields default

/-- The members of the document of an event, with its metadata in this order. -/
def membersIn (e : FailoverEvent) (entries : List (String × Data)) : List (String × Data) :=
  [ ("id", .text e.id)
  , ("type", .text e.type.name)
  , ("trigger_node", Data.ofOption .text e.trigger)
  , ("target_node", Data.ofOption .text e.target)
  , ("old_state", .text e.oldState.name)
  , ("new_state", .text e.newState.name)
  , ("timestamp", .text e.time.toText)
  , ("reason", .text e.reason)
  , ("metadata", .record entries) ]

def toData (e : FailoverEvent) : Data := .record (e.membersIn e.metadata.toList)

/-- The event as one line of JSON. -/
def line (e : FailoverEvent) : String := Json.compact e.toData

/-- The event that a line holds. -/
def ofLine? (s : String) : Option FailoverEvent := Json.read? decoder s

end FailoverEvent

end Failover
