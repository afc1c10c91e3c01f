import Failover.Drill.Scene

-- How the steps of a drill are carried out.

namespace Failover.Drill

/-- Acts on the world at once. -/
def atOnce (f : Nat → World → Result × World) : Play Result := .act f .done

/-- Looks at the world. -/
def tell (f : World → Result) : Play Result := .view fun _ w => f w

/-- Changes the coordinator, or says why not. -/
def attempt (f : Nat → World → Except FailoverError Coordinator) : Play Result :=
  atOnce fun now w =>
    match f now w with
    | .ok c => (.nothing, { w with coordinator := c })
    | .error e => (.refused e, w)

/-! ## The registry -/

def register (n : Node) (heard : Option Moment) : Play Result :=
  attempt fun now w => do
    let n := { n with lastHeartbeat := heard.getD (w.moment now) }
    return { w.coordinator with cluster := ← w.coordinator.cluster.add n }

def unregister (id : String) : Play Result :=
  atOnce fun _ w =>
    match w.coordinator.cluster.remove id with
    | .ok (removal, cluster) => (.removal removal, w.setCluster cluster)
    | .error e => (.refused e, w)

def registryView (id : String) (c : Cluster) : RegistryView where
  size := c.nodes.size
  contains := c.contains id
  active := c.activeNodes.map (·.id)
  primaryCount := c.primaryCount
  lastFailure := c.lastFailure

/-! ## The second checker and monitor -/

def record (id : String) (r : HealthReport Float) : Play Result :=
  atOnce fun _ w =>
    let (change, cluster) := w.coordinator.cluster.record id r
    (.change change, (w.setCluster cluster).noteOwn change.toList)

def beat (id : String) (time : Option Moment) : Play Result :=
  atOnce fun now w =>
    let (back, cluster) := w.coordinator.cluster.recordHeartbeat id (time.getD (w.moment now))
    (.flag back, w.setCluster cluster)

def scan (time : Option Moment) : Play Result :=
  atOnce fun now w =>
    let time := time.getD (w.moment now)
    let limit := w.coordinator.settings.heartbeatTimeout
    let c := w.coordinator.cluster
    (.silences (c.silences limit time), w.setCluster (c.scanTimeouts limit time))

def sendHeartbeats (run : Runner) : Play Result := do
  let targets ← .view fun _ w => w.coordinator.cluster.list
  let answers ← Process.all (targets.map (ping run))
  atOnce fun now w =>
    let (summary, cluster) :=
      w.coordinator.cluster.recordPings (w.moment now) ((targets.map (·.id)).zip answers)
    (.heartbeats summary, w.setCluster cluster)

def connectTimeout : Play Nat := .view fun _ w => w.coordinator.settings.connectTimeoutMs

def sweep (run : Runner) : Play Result := do
  let targets ← .view fun _ w => w.coordinator.cluster.probeTargets
  let timeout ← connectTimeout
  let results ← Process.all (targets.map (probe run timeout))
  atOnce fun _ w =>
    let reports := results.map (HealthReport.ofResult w.coordinator.settings.thresholds)
    let (changes, cluster) :=
      w.coordinator.cluster.recordAll ((targets.map (·.id)).zip reports)
    (.changes changes, (w.setCluster cluster).noteOwn changes)

def check (run : Runner) (id : String) : Play Result := do
  match ← .view fun _ w => w.coordinator.cluster.node? id with
  | none => return .report none
  | some n =>
    let timeout ← connectTimeout
    let result ← probe run timeout n
    tell fun w => .report (some (.ofResult w.coordinator.settings.thresholds result))

/-! ## Loops -/

def start : Play Result :=
  atOnce fun _ w =>
    match w.coordinator.start with
    | .error e => (.refused e, w)
    | .ok c =>
      (.nothing, { w with
        coordinator := c
        loops := if c.stopped then .off else .starting })

/-- Ends the loops, and waits until they have ended. -/
def stop : Play Result := do
  let waits ← .act (fun _ w =>
    let w := { w with coordinator := w.coordinator.stop }
    match w.loops with
    | .starting | .on => (true, { w with loops := .stopping })
    | _ => (false, w)) .done
  if waits then .turn true (.done .nothing) else return .nothing

/-! ## Requests -/

def clock : Play Admin.Clock := .view fun now w => ⟨w.moment now, w.epoch⟩

/-- A request to the admin interface, with the count that is kept of it. -/
def request (run : Runner) (r : Admin.Request) : Play Result := do
  let begun ← clock
  let handling ← .act (fun _ (w : World) =>
    let (c, handling) := Admin.handle r begun w.coordinator
    (handling, { w with coordinator := c })) .done
  let answer ←
    match handling with
    | .respond answer => pure answer
    | .operate op finish => do
      let a ← perform run op
      .view fun _ w => finish w.coordinator a
  let ended ← clock
  .update fun w =>
    { w with coordinator := Admin.count r answer.status (ended.now.since begun.now) w.coordinator }
  return .response (Admin.sent r answer)

/-! ## Steps -/

/-- One thing after the other, with the results in order. -/
def inOrder (runStep : Step → Play Result) : List Step → Play (List Result)
  | [] => .done []
  | s :: rest => do
    let r ← runStep s
    return r :: (← inOrder runStep rest)

/-- The steps of a script, each with its result in the log. -/
def inPlace (runStep : Step → Play Result) (steps : List Step) : Play Unit :=
  steps.foldr (fun s rest => do
    let r ← runStep s
    .update (World.note (.script r))
    rest) (.done ())

/-- Carries out a step. The number is how deep scripts may start each
other. -/
def runStep : Nat → Step → Play Result
  | 0, _ => .never
  | depth + 1, step =>
    let run : Runner := inPlace (runStep depth)
    match step with
    | .add (.ok spec) => attempt fun now w => w.coordinator.addNode spec (w.moment now)
    | .add (.error fault) => return .unreadable fault
    | .register n heard => register n heard
    | .unregister id => unregister id
    | .maintenance id enabled => attempt fun _ w => w.coordinator.setMaintenance id enabled
    | .operate op => do return .answer (← perform run op)
    | .status => tell fun w => .document w.coordinator.statusData
    | .nodeStatus => tell fun w => .document w.coordinator.nodeStatusData
    | .node id => tell fun w => .node (w.coordinator.cluster.node? id)
    | .events limit => tell fun w =>
        .events (w.coordinator.log.recent (limit.getD w.coordinator.log.size))
    | .registry id => tell fun w => .registry (registryView id w.coordinator.cluster)
    | .change host c => atOnce fun _ w => (.nothing, w.changeHost host c)
    | .sleep ms => do
      .wait ms
      return .nothing
    | .record id report => record id report
    | .beat id time => beat id time
    | .scan time => scan time
    | .sendHeartbeats => sendHeartbeats run
    | .sweep => sweep run
    | .check id => check run id
    | .healthChanges => atOnce fun _ w =>
        (.changes w.coordinator.changes,
          { w with coordinator := { w.coordinator with changes := [] } })
    | .ownChanges => atOnce fun _ w => (.changes w.ownChanges, { w with ownChanges := [] })
    | .observe o => atOnce fun _ w => (.nothing, w.observe o)
    | .metrics => tell fun w => .metrics w.coordinator.metrics
    | .eventFile => tell fun w => .file w.coordinator.log.file
    | .summary => tell fun w => .text w.coordinator.summary
    | .start => start
    | .stop => stop
    | .running => tell fun w => .flag w.coordinator.isRunning
    | .http r => request run r
    | .parallel branches => do
      return .branches (← Process.all (branches.map (inOrder (runStep depth))))

/-- How deep scripts may start each other. -/
def scriptDepth : Nat := 1000

/-- The steps of a drill, each with its frame. -/
def playAll (steps : List Step) : Play Unit :=
  steps.foldr (fun s rest => do
    let r ← runStep scriptDepth s
    .act (fun now w => ((), w.closeFrame now r)) .done
    rest) (.done ())

end Failover.Drill
