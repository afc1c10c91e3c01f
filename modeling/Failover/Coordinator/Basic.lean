import Failover.Event.Basic
import Failover.Event.Log
import Failover.Folder
import Failover.Health.Report
import Failover.Metrics
import Failover.Text

-- The coordinator of a cluster, as it is between two operations, and the
-- operations that end at once.

namespace Failover

/-! ## What observers are told -/

inductive Notice where
  | failover (event : FailoverEvent)
  | recovery (event : FailoverEvent)
  | stateChange (old new : ClusterState)

/-- A notice for one observer. Observers are numbered in the order in which
they were registered. -/
structure Hook where
  observer : Nat
  notice : Notice

namespace FailoverEvent

/-- The notices of an event, in the order in which an observer gets them. -/
def notices (e : FailoverEvent) : List Notice :=
  (if e.type.isFailover then [.failover e] else []) ++
  (if e.type.isRecovery then [.recovery e] else []) ++
  (if e.oldState = e.newState then [] else [.stateChange e.oldState e.newState])

/-- One observer after the other gets all notices of the event. -/
def hooks (e : FailoverEvent) (observers : Nat) : List Hook :=
  (List.range observers).flatMap fun i => e.notices.map fun n => ⟨i, n⟩

end FailoverEvent

structure Coordinator where
  id : String
  settings : FailoverSettings
  cluster : Cluster
  log : EventLog
  metrics : Metrics
  /-- How many observers there are. -/
  observers : Nat
  /-- The last changes of health that nobody has collected. -/
  changes : List HealthChange
  started : Bool
  stopped : Bool
  deriving Inhabited

namespace Coordinator

/-- How many changes of health wait for somebody to collect them. -/
def changeCapacity : Nat := 256

def updateLevels (c : Coordinator) : Coordinator :=
  { c with metrics := c.metrics.recordCluster c.cluster }

/-! ## Beginning -/

/-- A coordinator without members. Its settings must be valid, and the file
of its event log must open. -/
def create (folder : Folder) (id : String) (settings : FailoverSettings) :
    Except FailoverError Coordinator := do
  match settings.validate with
  | .error complaint => throw (.base complaint.toError)
  | .ok () => pure ()
  let log ←
    match settings.eventLogPath with
    | none => pure (EventLog.ofCapacity settings.eventHistorySize)
    | some path =>
      match folder.openAt path with
      | .ok file => pure (EventLog.withFile settings.eventHistorySize file.text)
      | .error fault => throw (.io fault.message)
  return { id, settings, cluster := .empty, log, metrics := .empty, observers := 0, changes := []
           started := false, stopped := false }

/-- Lets a node join. -/
def addNode (c : Coordinator) (spec : NodeSpec) (now : Moment) : Except FailoverError Coordinator :=
  match c.cluster.add (spec.toNode now) with
  | .ok cluster => .ok { c with cluster }.updateLevels
  | .error e => .error e

def addNodes (c : Coordinator) (specs : List NodeSpec) (now : Moment) :
    Except FailoverError Coordinator :=
  specs.foldlM (fun c spec => c.addNode spec now) c

def addObserver (c : Coordinator) : Coordinator := { c with observers := c.observers + 1 }

/-- A coordinator with its first members. -/
def build (folder : Folder) (id : String) (settings : FailoverSettings) (specs : List NodeSpec)
    (now : Moment) : Except FailoverError Coordinator := do
  (← create folder id settings).addNodes specs now

/-! ## Operations that end at once -/

def setMaintenance (c : Coordinator) (id : String) (enabled : Bool) :
    Except FailoverError Coordinator :=
  match c.cluster.setMaintenance id enabled with
  | .ok cluster => .ok { c with cluster }
  | .error e => .error e

/-- The loops may run from now on. A coordinator starts once, and only with
members. -/
def start (c : Coordinator) : Except FailoverError Coordinator := do
  match c.settings.validate with
  | .error complaint => throw (.base complaint.toError)
  | .ok () => pure ()
  if c.cluster.nodes.isEmpty then
    throw (.invalidConfig "no nodes registered, nothing to coordinate")
  if c.started then throw (.invalidState "coordinator already started")
  return { c with started := true }.updateLevels

def stop (c : Coordinator) : Coordinator := { c with stopped := true }

def isRunning (c : Coordinator) : Bool := c.started && !c.stopped

/-! ## Questions -/

def version : String := "0.1.0"

def statusData (c : Coordinator) : Data := .record
  [ ("current_state", .text c.cluster.state.name)
  , ("current_primary", Data.ofOption .text c.cluster.primary)
  , ("failover_mode", .text c.settings.mode.name)
  , ("total_nodes", Data.nat c.cluster.nodes.size)
  , ("active_nodes", Data.nat c.cluster.activeNodes.length)
  , ("healthy_nodes", Data.nat c.cluster.healthyNodes.length)
  , ("stats", c.log.stats.toData)
  , ("last_event", Data.ofOption FailoverEvent.toData c.log.last?) ]

def nodeStatusData (c : Coordinator) : Data := Data.ofTable Node.statusData c.cluster.nodes

/-- The coordinator in one line, for a person. -/
def summary (c : Coordinator) : String :=
  "FailoverCoordinator \x7b coordinator_id: " ++ Text.quoted c.id ++ ", mode: " ++
    c.settings.mode.title ++ ", nodes: " ++ toString c.cluster.nodes.size ++ ", state: " ++
    c.cluster.state.title ++ " \x7d"

/-! ## Events -/

/-- The id of the event of this number: a hexadecimal number in five
groups. -/
def eventId (n : Nat) : String :=
  let digits := String.ofList (Nat.toDigits 16 n)
  "00000000-0000-4000-8000-" ++ String.ofList (List.replicate (12 - digits.length) '0') ++ digits

/-- An event of this moment that names no nodes. -/
def newEvent (c : Coordinator) (now : Moment) (type : EventType) (old new : ClusterState)
    (reason : String) : FailoverEvent :=
  { id := eventId c.log.appended, type, trigger := none, target := none, oldState := old
    newState := new, time := now, reason, metadata := .empty }

def append (c : Coordinator) (e : FailoverEvent) : Coordinator :=
  { c with log := c.log.append e, metrics := c.metrics.recordEvent e }

def updateStats (c : Coordinator) (f : FailoverStats → FailoverStats) : Coordinator :=
  { c with log := c.log.updateStats f }

/-- Counts the hooks of one event that failed. -/
def countHookFailures (c : Coordinator) (failures : Nat) : Coordinator :=
  if failures = 0 then c
  else
    { c.updateStats (fun s => { s with callbackErrors := s.callbackErrors + failures }) with
      metrics := c.metrics.count .observerErrors failures }

/-- Changes of health that are new, for whoever collects them. -/
def noteChanges (c : Coordinator) (changes : List HealthChange) : Coordinator :=
  { c with changes := EventLog.lastOf changeCapacity (c.changes ++ changes) }

end Coordinator

end Failover
