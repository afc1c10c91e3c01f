import Failover.Cluster.Basic
import Failover.Coordinator.Promotion
import Failover.Coordinator.Recovery

-- The operations of a coordinator that take time: how each begins, and how it
-- goes on with an answer.

namespace Failover

inductive Operation where
  /-- Ping every member, and fail over if the primary is silent. -/
  | heartbeatRound
  /-- Probe the members, and fail over if one of the conditions holds. -/
  | healthSweep
  /-- Look at the failover and recovery conditions. -/
  | watch
  /-- An operator asks for a failover. -/
  | trigger (reason : String)
  /-- An operator makes a node the primary. -/
  | promote (id : String)
  /-- An operator takes note of a failover, and the cluster is normal
  again. -/
  | acknowledge
  /-- A node leaves. -/
  | remove (id : String)

namespace Coordinator

/-! ## Orders of an operator -/

def refuse (e : FailoverError) : Section := close false (.refused e)

/-- Why a node cannot be made the primary. -/
def promotionFault? (c : Coordinator) (id : String) : Option FailoverError :=
  if c.cluster.state.isTransitional then
    some (.invalidState ("cannot promote while " ++ c.cluster.state.name))
  else
    match c.cluster.node? id with
    | none => some (.nodeNotFound id)
    | some n =>
      if !n.active || !n.isHealthy then
        some (.notEligible
          ("node " ++ id ++ " is " ++ n.status.name ++ " (active=" ++
            (if n.active then "true" else "false") ++ ")"))
      else if c.cluster.isPrimary id then
        some (.invalidState ("node " ++ id ++ " is already primary"))
      else none

/-- Makes a node the primary by hand. The cluster is normal afterwards. -/
def promoteNode (now : Moment) (id : String) : Section := fun c =>
  match c.promotionFault? id with
  | some e => refuse e c
  | none =>
    let old := c.cluster.state
    let previous := c.cluster.primaryBefore id
    let c := { c with cluster := c.cluster.promote id }.settleAs .normal
    let e := c.newEvent now .manualPromotion old .normal
      ("Node " ++ id ++ " manually promoted to primary")
    announceLast { e with trigger := previous, target := some id } false .done c

/-- Only what has ended can be acknowledged. -/
def acknowledge (now : Moment) : Section := fun c =>
  let old := c.cluster.state
  if old = .normal then close false (.acknowledged .normal) c
  else if old.isTransitional then
    refuse (.invalidState ("cannot acknowledge while " ++ old.name)) c
  else
    let c := c.settleAs .normal
    let e := c.newEvent now .stateChanged old .normal "Acknowledged by operator"
    announceLast e false (.acknowledged .normal) c

/-- A failover that an operator asks for. -/
def orderFailover (now : Moment) (reason : String) : Section := fun c =>
  if c.cluster.nodes.isEmpty then refuse (.invalidState "no nodes registered") c
  else beginFailover now (.order reason) .order c

/-- A node leaves. If it was the primary, a failover starts. -/
def removeNode (now : Moment) (id : String) : Section := fun c =>
  match c.cluster.remove id with
  | .error e => refuse e c
  | .ok (removal, cluster) =>
    let c := { c with cluster }.updateLevels
    if removal.wasPrimary then beginFailover now (.removal id) (.removal removal.node) c
    else close false (.removed removal.node) c

/-! ## Rounds -/

/-- The round of pings is over: silent nodes are marked, and a silent
primary is replaced. -/
def afterPings (now : Moment) (targets : List Node) (answers : List Bool) : Section := fun c =>
  let (summary, cluster) := c.cluster.recordPings now ((targets.map (·.id)).zip answers)
  let silences := cluster.silences c.settings.heartbeatTimeout now
  let c := { c with
    cluster := cluster.scanTimeouts c.settings.heartbeatTimeout now
    metrics := c.metrics.recordHeartbeats summary.failed silences.length }
  match silences.find? (·.wasPrimary) with
  | some s =>
    if c.settings.mode.triggersOnSilence then beginFailover now (.silence s.node) .heartbeat c
    else close false .done c
  | none => close false .done c

/-- The probes are over: their reports are recorded, and the failover
conditions are looked at. -/
def afterProbes (now : Moment) (targets : List Node) (results : List (ProbeResult Float)) :
    Section := fun c =>
  let reports := results.map (HealthReport.ofResult c.settings.thresholds)
  let (changes, cluster) := c.cluster.recordAll ((targets.map (·.id)).zip reports)
  evaluate now ({ c with cluster }.noteChanges changes)

/-- What a look at the conditions comes to depends on the state. -/
def watch (now : Moment) : Section := fun c =>
  if c.cluster.state = .normal then evaluate now c
  else if c.cluster.state.isSettled && c.settings.autoRecovery then checkRecovery now c
  else close true .done c

/-! ## Sections -/

/-- The section that follows the notices of an event. -/
def proceed (now : Moment) : Continuation → Section
  | .select a => selectCandidate now a
  | .rejoin id => rejoin now id
  | .reopen => reopen now
  | .close renewLevels answer => close renewLevels answer

/-- A hook is over, well or not. After the last one the failures are
counted. -/
def afterHook (now : Moment) (rest : List Hook) (failures : Nat) (next : Continuation)
    (succeeded : Bool) : Section := fun c =>
  let failures := if succeeded then failures else failures + 1
  match rest with
  | hook :: rest => (c, .waits (.announcing hook rest failures next))
  | [] => proceed now next (c.countHookFailures failures)

/-- The first section of an operation. -/
def firstSection (now : Moment) : Operation → Section
  | .heartbeatRound => fun c => (c, .waits (.pinging c.cluster.list))
  | .healthSweep => fun c => (c, .waits (.probing c.cluster.probeTargets))
  | .watch => watch now
  | .trigger reason => orderFailover now reason
  | .promote id => promoteNode now id
  | .acknowledge => acknowledge now
  | .remove id => removeNode now id

/-- The section that follows an answer. -/
def nextSection (now : Moment) : (a : Activity) → a.Reply → Section
  | .pinging targets, answers => afterPings now targets answers
  | .probing targets, results => afterProbes now targets results
  | .connecting a deadline candidate _ rest, reply => afterConnect now a deadline candidate rest reply
  | .announcing _ rest failures next, succeeded => afterHook now rest failures next succeeded
  | .ready next, _ => proceed now next

end Coordinator

end Failover
