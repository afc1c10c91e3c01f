import Failover.Coordinator.Activity

-- Failover: from the trigger to the promotion of a candidate, or to the
-- failure of the attempt.

namespace Failover

namespace Coordinator

/-- Ends an attempt with its last event. -/
def conclude (e : FailoverEvent) (a : Attempt) (o : Outcome) : Section :=
  announceLast e a.purpose.renewsLevels (a.purpose.answer o)

/-- The attempt has failed: the cluster goes on degraded. -/
def failAttempt (now : Moment) (a : Attempt) (f : FailoverFailure) : Section := fun c =>
  let cluster :=
    if c.cluster.state = .failoverInProgress then { c.cluster with state := .degraded }
    else c.cluster
  let c := { c with cluster }.updateStats fun s => { s with failed := s.failed + 1 }
  let c := { c with metrics := c.metrics.recordFailover .failed (now.since a.started).seconds }
  let e := c.newEvent now .failoverFailed .failoverInProgress .degraded f.message
  conclude { e with trigger := a.failing } a (.failed f) c

/-- The primary is back: the cluster goes on as before. -/
def cancelAttempt (now : Moment) (a : Attempt) : Section := fun c =>
  let state :=
    if c.cluster.state = .failoverInProgress then ClusterState.normal else c.cluster.state
  let c := { c with cluster := { c.cluster with state, lastFailure := none } }
  let c := c.updateStats fun s => { s with falseAlarms := s.falseAlarms + 1 }
  let c := { c with metrics := c.metrics.recordFailover .cancelled (now.since a.started).seconds }
  let e :=
    c.newEvent now .failoverCancelled .failoverInProgress .normal "Primary recovered before promotion"
  conclude { e with trigger := a.failing } a .cancelled c

/-- A candidate can still be promoted while it is an active member and the
failover goes on. -/
def canPromote (c : Coordinator) (id : String) : Bool :=
  c.cluster.state == .failoverInProgress && (c.cluster.node? id).any (·.active)

/-- What is noted with a completed failover. -/
def completionNotes (candidate : Candidate) (ms : Float) (previous : Option String) : Table Data :=
  .ofList <|
    [("candidate_score", Data.number candidate.score), ("failover_time_ms", Data.number ms)] ++
      (previous.toList.map fun p => ("previous_primary", Data.text p))

/-- The candidate becomes the primary, unless it is lost. -/
def commitPromotion (now : Moment) (a : Attempt) (candidate : Candidate) : Section := fun c =>
  if c.canPromote candidate.id then
    let previous := c.cluster.primaryBefore candidate.id
    let elapsed := now.since a.started
    let cluster := { c.cluster.promote candidate.id with state := .failoverComplete }
    let c := { c with cluster }.updateStats fun s =>
      { s with completed := s.completed + 1 }.recordTime elapsed.millis
    let c := { c with metrics := c.metrics.recordFailover .completed elapsed.seconds }
    let e := c.newEvent now .failoverCompleted .failoverInProgress .failoverComplete
      ("Node " ++ candidate.id ++ " promoted to primary")
    let e := { e with
      trigger := a.failing
      target := some candidate.id
      metadata := completionNotes candidate elapsed.millis previous }
    conclude e a (.promoted candidate.id previous) c
  else failAttempt now a (.candidateLost candidate.id) c

/-- Turns to the next candidate. -/
def tryNext (now : Moment) (a : Attempt) (deadline : Moment) :
    List (Candidate × Node) → Section
  | [] => failAttempt now a .noCandidate
  | (candidate, node) :: rest => fun c =>
    (c, .waits (.connecting a deadline candidate node rest))

/-- Chooses a candidate from the members as they are now. The time for the
choice starts here. -/
def selectCandidate (now : Moment) (a : Attempt) : Section := fun c =>
  match Selection.of c.settings c.cluster.list a with
  | .falseAlarm => cancelAttempt now a c
  | .failed f => failAttempt now a f c
  | .candidates ranked => tryNext now a (now.plus c.settings.failoverTimeout) ranked c

/-- A candidate has answered, or has not, or the deadline came first. -/
def afterConnect (now : Moment) (a : Attempt) (deadline : Moment) (candidate : Candidate)
    (rest : List (Candidate × Node)) : Option Bool → Section
  | some true => commitPromotion now a candidate
  | some false => tryNext now a deadline rest
  | none => fun c => failAttempt now a (.timedOut c.settings.failoverTimeout) c

/-- Starts an attempt. In every state but the normal one it is skipped. -/
def beginFailover (now : Moment) (trigger : Trigger) (purpose : Purpose) : Section := fun c =>
  if c.cluster.state = .normal then
    let failing := trigger.node?.or c.cluster.primary
    let a : Attempt := { trigger, failing, started := now, purpose }
    let cluster := { c.cluster with
      state := .failoverInProgress
      lastFailure := some { node := failing, time := now } }
    let c := { c with cluster }.updateStats fun s => { s with initiated := s.initiated + 1 }
    let e := c.newEvent now .failoverInitiated .normal .failoverInProgress trigger.reason
    let e := { e with trigger := failing, metadata := .ofList [("initiator", .text c.id)] }
    announce e (.select a) c
  else close purpose.renewsLevels (purpose.answer (.skipped c.cluster.state)) c

/-! ## When a failover is due -/

/-- What makes a failover necessary, if anything does: a primary that is
silent, a primary that fails its checks, or no primary while a standby could
take over. -/
def failoverCondition? (c : Coordinator) : Option Trigger :=
  let mode := c.settings.mode
  if c.cluster.state = .normal then
    match c.cluster.primaryNode? with
    | some p =>
      if !p.active && mode.triggersOnSilence then some (.silence p.id)
      else if c.settings.maxConsecutiveFailures ≤ p.failures && mode.triggersOnHealth then
        some (.failures p.id p.failures)
      else none
    | none =>
      if (mode.triggersOnHealth || mode.triggersOnSilence) && c.cluster.list.any (·.isStandby) then
        some .noPrimary
      else none
  else none

/-- Looks at the failover conditions, starts a failover if one is due, and
renews the levels in the end. -/
def evaluate (now : Moment) : Section := fun c =>
  match c.failoverCondition? with
  | some trigger => beginFailover now trigger .watch c
  | none => close true .done c

end Coordinator

end Failover
