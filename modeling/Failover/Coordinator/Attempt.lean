import Failover.Candidate
import Failover.Cluster.Basic
import Failover.Event.Log

-- Attempts to fail over: why one is made, how it can end and what follows.

namespace Failover

/-- Why a failover is started. -/
inductive Trigger where
  | silence (node : String)
  | failures (node : String) (count : Nat)
  | removal (node : String)
  | noPrimary
  /-- An operator asks for it. -/
  | order (reason : String)
  deriving DecidableEq, Repr

namespace Trigger

/-- The node that the failover is started against, if the trigger names
one. -/
def node? : Trigger → Option String
  | silence n | failures n _ | removal n => some n
  | noPrimary | order _ => none

def reason : Trigger → String
  | silence n => "Primary node " ++ n ++ " heartbeat timeout"
  | failures n count =>
    "Primary node " ++ n ++ " has " ++ toString count ++ " consecutive health failures"
  | removal n => "Primary node " ++ n ++ " removed from cluster"
  | noPrimary => "Cluster has no primary"
  | order reason => "Manual failover: " ++ reason

/-- What the coordinator has observed may be wrong by the time of the
promotion; what an operator has done or asked for is not doubted. -/
def mayBeFalseAlarm : Trigger → Bool
  | silence _ | failures _ _ => true
  | _ => false

end Trigger

/-- Why a failover failed. -/
inductive FailoverFailure where
  | noCandidate
  | quorumNotReached (needed got : Nat)
  | timedOut (after : Span)
  | candidateLost (id : String)
  deriving DecidableEq, Repr

namespace FailoverFailure

def message : FailoverFailure → String
  | noCandidate => "No suitable node found for failover"
  | quorumNotReached needed got =>
    "Quorum not reached: " ++ toString got ++ " reachable members, " ++ toString needed ++
      " required"
  | timedOut after => "Failover timed out after " ++ toString after.toMillis ++ "ms"
  | candidateLost id => "Candidate " ++ id ++ " left the cluster before promotion"

def toError (f : FailoverFailure) : FailoverError :=
  match f with
  | noCandidate => .noCandidate
  | quorumNotReached needed got => .quorumNotReached needed got
  | timedOut _ => .timeout f.message
  | candidateLost id => .nodeUnreachable id

end FailoverFailure

/-- How an attempt ended. -/
inductive Outcome where
  | promoted (node : String) (previous : Option String)
  /-- The primary came back before a candidate was promoted. -/
  | cancelled
  | failed (failure : FailoverFailure)
  /-- The cluster was in another state than the normal one. -/
  | skipped (state : ClusterState)
  deriving Repr

/-- What an operation tells when it is over. -/
inductive Answer where
  | done
  | outcome (o : Outcome)
  | acknowledged (state : ClusterState)
  | removed (node : Node)
  | refused (e : FailoverError)

/-- Which operation an attempt is a part of. -/
inductive Purpose where
  /-- A round of pings. -/
  | heartbeat
  /-- A sweep, or a look at the failover conditions. -/
  | watch
  /-- The primary has left. -/
  | removal (node : Node)
  /-- An operator asks for it. -/
  | order

namespace Purpose

/-- An operator is told how the attempt ended; to skip it is to refuse. -/
def answer : Purpose → Outcome → Answer
  | removal n, _ => .removed n
  | order, .skipped s => .refused (.invalidState ("cannot fail over while " ++ s.name))
  | order, o => .outcome o
  | _, _ => .done

/-- Whether the levels in the metrics are renewed afterwards. -/
def renewsLevels : Purpose → Bool
  | watch => true
  | _ => false

end Purpose

structure Attempt where
  trigger : Trigger
  /-- The node that is replaced. -/
  failing : Option String
  started : Moment
  purpose : Purpose

/-- What the choice of a candidate comes to before anybody is asked. -/
inductive Selection where
  | falseAlarm
  | failed (f : FailoverFailure)
  /-- To be tried in this order. -/
  | candidates (ranked : List (Candidate × Node))

namespace Selection

/-- The node that was to be replaced is back. -/
def isFalseAlarm (nodes : List Node) (a : Attempt) : Bool :=
  a.trigger.mayBeFalseAlarm &&
    match a.failing.bind fun id => nodes.find? (·.id == id) with
    | some n => n.active && n.isHealthy
    | none => false

/-- The active members besides the failing one. -/
def reachableMembers (nodes : List Node) (failing : Option String) : Nat :=
  (nodes.filter fun n => n.active && failing != some n.id).length

/-- First a false alarm is looked for, then the quorum is counted, and only
then candidates are ranked. -/
def of (s : FailoverSettings) (nodes : List Node) (a : Attempt) : Selection :=
  let members := reachableMembers nodes a.failing
  if isFalseAlarm nodes a then .falseAlarm
  else if s.enforceQuorum && members < s.quorumSize then
    .failed (.quorumNotReached s.quorumSize members)
  else
    .candidates <| (Candidate.rank s.weights nodes a.failing).filterMap fun cand =>
      (nodes.find? (·.id == cand.id)).map fun n => (cand, n)

end Selection

end Failover
