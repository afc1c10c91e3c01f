import Failover.Coordinator.Activity

-- Recovery: the way back to the normal state after a failover.

namespace Failover

namespace Coordinator

/-- The cluster is normal again, and nothing is left of the failure. -/
def settleAs (state : ClusterState) (c : Coordinator) : Coordinator :=
  { c with cluster := { c.cluster with state, lastFailure := none } }

/-- Back to the normal state without a recovery, because the failed node is
gone. -/
def settle (now : Moment) : Section := fun c =>
  let old := c.cluster.state
  if old.isSettled then
    let c := c.settleAs .normal
    let e := c.newEvent now .stateChanged old .normal "Failed node is no longer a cluster member"
    announceLast e true .done c
  else close true .done c

/-- The last section of a recovery. -/
def reopen (now : Moment) : Section := fun c =>
  let state := if c.cluster.state = .recoveryComplete then .normal else c.cluster.state
  let c := { c with cluster := { c.cluster with state } }
  let e := c.newEvent now .stateChanged .recoveryComplete .normal "Recovery complete"
  announceLast e true .done c

/-- The part that a node has when it has joined again: that of the primary
if it still is the primary. -/
def rejoined (primary : Bool) (n : Node) : Node :=
  { n with failures := 0, primary, role := if primary then .primary else .secondary }

/-- The second section of a recovery: the failed node joins again. -/
def rejoin (now : Moment) (id : String) : Section := fun c =>
  let resumes := c.cluster.isPrimary id
  let reason :=
    match c.cluster.node? id with
    | some n => "Node " ++ id ++ " rejoined as " ++ (rejoined resumes n).role.name
    | none => "Node " ++ id ++ " left the cluster during recovery"
  let cluster := { c.cluster with
    nodes := c.cluster.nodes.modify id (rejoined resumes)
    lastFailure := none
    state := .recoveryComplete }
  let c := { c with cluster }.updateStats fun s => { s with recoveries := s.recoveries + 1 }
  let e := c.newEvent now .recoveryCompleted .recoveryInProgress .recoveryComplete reason
  announce { e with trigger := some id } .reopen c

/-- The first section of a recovery. -/
def beginRecovery (now : Moment) (id : String) : Section := fun c =>
  let old := c.cluster.state
  if old.isSettled then
    let c := { c with cluster := { c.cluster with state := .recoveryInProgress } }
    let e := c.newEvent now .recoveryInitiated old .recoveryInProgress
      ("Node " ++ id ++ " is healthy again")
    announce { e with trigger := some id } (.rejoin id) c
  else close true .done c

/-- Some time after the failure the failed node joins again if it is well.
If it has left, the cluster is normal at once. -/
def checkRecovery (now : Moment) : Section := fun c =>
  match c.cluster.lastFailure with
  | none => close true .done c
  | some failure =>
    if now.since failure.time < c.settings.recoveryDelay then close true .done c
    else
      match failure.node.bind c.cluster.node? with
      | some n => if n.active && n.isHealthy then beginRecovery now n.id c else close true .done c
      | none => settle now c

end Coordinator

end Failover
