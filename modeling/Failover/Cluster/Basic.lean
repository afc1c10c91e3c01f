import Failover.Cluster.State
import Failover.Failure
import Failover.Node.Basic

-- The members of a cluster, their primary, the state of the cluster and the
-- record of its last failure. They change together.

namespace Failover

/-- What the current cycle of failover and recovery started from. -/
structure FailureRecord where
  node : Option String
  time : Moment
  deriving DecidableEq, Repr

structure Cluster where
  nodes : Table Node
  primary : Option String
  state : ClusterState
  lastFailure : Option FailureRecord
  deriving Inhabited

/-- A node that has left, and whether it was the primary. -/
structure Removal where
  node : Node
  wasPrimary : Bool

/-- A node that has not been heard of for too long. -/
structure Silence where
  node : String
  wasPrimary : Bool
  lasted : Span

namespace Cluster

def empty : Cluster := { nodes := .empty, primary := none, state := .normal, lastFailure := none }

/-! ## Questions -/

def node? (c : Cluster) (id : String) : Option Node := c.nodes.get? id

def contains (c : Cluster) (id : String) : Bool := c.nodes.contains id

/-- All nodes in the order of their ids. -/
def list (c : Cluster) : List Node := c.nodes.values

def activeNodes (c : Cluster) : List Node := c.list.filter (·.active)

def healthyNodes (c : Cluster) : List Node := c.list.filter (·.isHealthy)

/-- How many nodes are marked as primary. -/
def primaryCount (c : Cluster) : Nat := (c.list.filter (·.primary)).length

def primaryNode? (c : Cluster) : Option Node := c.primary.bind c.node?

def isPrimary (c : Cluster) (id : String) : Bool := c.primary == some id

/-! ## Membership -/

/-- The node as primary, with a clean record. -/
def crown (n : Node) : Node := { n with primary := true, role := .primary, failures := 0 }

/-- A node that looks like a primary steps back; every other node stays as
it is. -/
def depose (n : Node) : Node :=
  if n.primary || n.role == .primary then { n with primary := false, role := .secondary } else n

/-- Makes one node the only primary. -/
def promote (c : Cluster) (id : String) : Cluster :=
  { c with
    nodes := c.nodes.map fun _ n => if n.id == id then crown n else depose n
    primary := some id }

/-- The primary that a promotion of this node takes the part from. -/
def primaryBefore (c : Cluster) (id : String) : Option String := c.primary.filter (· != id)

/-- A new member. One that asks for the part of the primary gets it when
nobody has it, and becomes a secondary otherwise. -/
def add (c : Cluster) (n : Node) : Except FailoverError Cluster :=
  if c.contains n.id then .error (.nodeAlreadyExists n.id)
  else
    let plain := { n with primary := false }
    let wants := n.role == .primary || n.primary
    if wants then
      match c.primary with
      | some _ => .ok { c with nodes := c.nodes.insert n.id { plain with role := .secondary } }
      | none => .ok ({ c with nodes := c.nodes.insert n.id plain }.promote n.id)
    else .ok { c with nodes := c.nodes.insert n.id plain }

/-- A member leaves. If it was the primary, there is none afterwards. -/
def remove (c : Cluster) (id : String) : Except FailoverError (Removal × Cluster) :=
  match c.node? id with
  | none => .error (.nodeNotFound id)
  | some n =>
    let was := c.isPrimary id
    .ok (⟨n, was⟩, { c with nodes := c.nodes.erase id, primary := if was then none else c.primary })

/-- A node in maintenance is neither probed nor promoted. When maintenance
ends, nothing is known of its health. -/
def setMaintenance (c : Cluster) (id : String) (enabled : Bool) : Except FailoverError Cluster :=
  if c.contains id then
    .ok { c with
      nodes := c.nodes.modify id fun n =>
        let status :=
          if enabled then .maintenance
          else if n.status == .maintenance then .unknown
          else n.status
        { n with status, failures := 0 } }
  else .error (.nodeNotFound id)

/-! ## Heartbeats -/

/-- A node has answered. Whether it was inactive until now is told as
well. -/
def recordHeartbeat (c : Cluster) (id : String) (time : Moment) : Bool × Cluster :=
  match c.node? id with
  | none => (false, c)
  | some n =>
    (!n.active,
      { c with nodes := c.nodes.modify id fun n => { n with lastHeartbeat := time, active := true } })

/-- An active node that was silent for longer than the limit. -/
def isSilent (limit : Span) (now : Moment) (n : Node) : Bool :=
  n.active && decide (limit < now.since n.lastHeartbeat)

def silences (c : Cluster) (limit : Span) (now : Moment) : List Silence :=
  (c.list.filter (isSilent limit now)).map fun n =>
    { node := n.id, wasPrimary := c.isPrimary n.id, lasted := now.since n.lastHeartbeat }

/-- Silent nodes become inactive and unhealthy. -/
def scanTimeouts (c : Cluster) (limit : Span) (now : Moment) : Cluster :=
  { c with
    nodes := c.nodes.map fun _ n =>
      if isSilent limit now n then { n with active := false, status := .unhealthy, score := 0.0 }
      else n }

end Cluster

/-! ## Rounds of pings -/

structure HeartbeatSummary where
  delivered : Nat
  failed : Nat
  /-- Inactive nodes that answered again. -/
  reactivated : List String
  deriving Inhabited

namespace HeartbeatSummary

def zero : HeartbeatSummary := { delivered := 0, failed := 0, reactivated := [] }

def toData (s : HeartbeatSummary) : Data := .record
  [ ("delivered", Data.nat s.delivered)
  , ("failed", Data.nat s.failed)
  , ("reactivated", .list (s.reactivated.map .text)) ]

end HeartbeatSummary

namespace Cluster

/-- Takes the answer of one node into a round. -/
def recordPing (time : Moment) (acc : HeartbeatSummary × Cluster) (id : String) (answered : Bool) :
    HeartbeatSummary × Cluster :=
  let (s, c) := acc
  if answered then
    let (back, c) := c.recordHeartbeat id time
    ({ s with
      delivered := s.delivered + 1
      reactivated := if back then s.reactivated ++ [id] else s.reactivated }, c)
  else ({ s with failed := s.failed + 1 }, c)

/-- Takes the answers of a round into the cluster, all at the time at which
the round ended. -/
def recordPings (c : Cluster) (time : Moment) (answers : List (String × Bool)) :
    HeartbeatSummary × Cluster :=
  answers.foldl (fun acc a => recordPing time acc a.1 a.2) (.zero, c)

end Cluster

end Failover
