import Failover.Coordinator.Attempt
import Failover.Coordinator.Basic

-- Operations that take time. Such an operation runs in sections: each section
-- changes the coordinator at once, and between two sections the operation
-- waits for an answer from outside while other operations may run.

namespace Failover

/-- What an operation goes on with when the notices of an event are out. -/
inductive Continuation where
  /-- A failover has begun: a candidate is to be chosen. -/
  | select (a : Attempt)
  /-- A recovery has begun: the node is to join again. -/
  | rejoin (node : String)
  /-- A recovery has ended: the cluster is to be normal again. -/
  | reopen
  /-- The operation is over. -/
  | close (renewLevels : Bool) (answer : Answer)

/-- An operation between two sections, by what it waits for. -/
inductive Activity where
  /-- The answers of these nodes to a ping. -/
  | pinging (targets : List Node)
  /-- The probes of these nodes. -/
  | probing (targets : List Node)
  /-- A connection to a candidate, until the deadline; the others come
  after. -/
  | connecting (a : Attempt) (deadline : Moment) (candidate : Candidate) (node : Node)
      (rest : List (Candidate × Node))
  /-- A hook of an observer; the others come after. So many hooks of this
  event have failed before. -/
  | announcing (hook : Hook) (rest : List Hook) (failures : Nat) (next : Continuation)
  /-- Nothing: no observer is to be told, and the operation goes on at
  once. -/
  | ready (next : Continuation)

/-- What answers an activity: whether each target answered, the result of
each target, whether the candidate could be reached (nothing when the
deadline came first), and whether the hook succeeded. -/
def Activity.Reply : Activity → Type
  | .pinging _ => List Bool
  | .probing _ => List (ProbeResult Float)
  | .connecting .. => Option Bool
  | .announcing .. => Bool
  | .ready _ => Unit

/-- Where a section leaves its operation. -/
inductive Progress where
  | waits (a : Activity)
  | ends (answer : Answer)

/-- A section: it changes the coordinator and says how the operation goes
on. -/
abbrev Section := Coordinator → Coordinator × Progress

namespace Coordinator

/-- The end of an operation. -/
def close (renewLevels : Bool) (answer : Answer) : Section := fun c =>
  (if renewLevels then c.updateLevels else c, .ends answer)

/-- Records an event and tells the observers before the operation goes
on. -/
def announce (e : FailoverEvent) (next : Continuation) : Section := fun c =>
  let c := c.append e
  match e.hooks c.observers with
  | [] => (c, .waits (.ready next))
  | hook :: rest => (c, .waits (.announcing hook rest 0 next))

/-- The last event of an operation. -/
def announceLast (e : FailoverEvent) (renewLevels : Bool) (answer : Answer) : Section :=
  announce e (.close renewLevels answer)

end Coordinator

end Failover
