import Failover.Drill.Process
import Failover.Drill.Script

-- The state of a drill: a coordinator, the hosts and observers around it,
-- and a second set of eyes on the same cluster.

namespace Failover.Drill

/-- What is seen after a step: its result, the time, the cluster, the events
of the step and what was logged. -/
structure Frame where
  result : Result
  time : Nat
  cluster : Cluster
  events : List FailoverEvent
  entries : List Entry

/-- Where the loops of the coordinator are. -/
inductive Loops where
  | off
  /-- They are to begin. -/
  | starting
  | on
  /-- They are to end. -/
  | stopping
  deriving DecidableEq, Repr

structure World where
  /-- The moment at which the drill begins. -/
  epoch : Moment
  coordinator : Coordinator
  hosts : Table (Host Step)
  observers : List (Observer Step)
  /-- Changes that the second checker has seen and nobody has collected. -/
  ownChanges : List HealthChange
  loops : Loops
  /-- What was logged since the last frame, last first. -/
  entries : List Entry
  /-- How many events there were at the last frame. -/
  seen : Nat
  /-- The frames, last first. -/
  frames : List Frame

abbrev Play := Process World

namespace World

def moment (w : World) (ms : Nat) : Moment := w.epoch.plus (Span.ofMillis ms)

def host (w : World) (name : String) : Host Step := (w.hosts.get? name).getD .standard

def note (e : Entry) (w : World) : World := { w with entries := e :: w.entries }

def changeHost (name : String) (c : HostChange Step) (w : World) : World :=
  { w with hosts := w.hosts.insert name ((w.host name).change c) }

def setCluster (cluster : Cluster) (w : World) : World :=
  { w with coordinator := { w.coordinator with cluster } }

def noteOwn (changes : List HealthChange) (w : World) : World :=
  { w with ownChanges := EventLog.lastOf Coordinator.changeCapacity (w.ownChanges ++ changes) }

def observe (o : Observer Step) (w : World) : World :=
  { w with observers := w.observers ++ [o], coordinator := w.coordinator.addObserver }

/-- Ends a step: what was logged and what happened goes into a frame. -/
def closeFrame (time : Nat) (r : Result) (w : World) : World :=
  let log := w.coordinator.log
  let frame : Frame :=
    { result := r, time, cluster := w.coordinator.cluster, events := log.since w.seen
      entries := w.entries.reverse }
  { w with entries := [], seen := log.appended, frames := frame :: w.frames }

/-- Runs one section of an operation. -/
def runSection (s : Moment → Section) (ms : Nat) (w : World) : Progress × World :=
  let (c, progress) := s (w.moment ms) w.coordinator
  (progress, { w with coordinator := c })

end World

/-- A section as a part of a process. -/
def runSection (s : Moment → Section) : Play Progress := .act (World.runSection s) .done

end Failover.Drill
