import Failover.Drill.World

-- How hosts and observers act their parts, and how an operation of the
-- coordinator runs among them. The runner of scripts is a parameter: it takes
-- the steps that are run in place.

namespace Failover.Drill

/-- Runs the steps of a script in place. -/
abbrev Runner := List Step → Play Unit

/-! ## Hosts -/

/-- A host as it behaves when it is called. -/
def hostNow (name : String) : Play (Host Step) := .view fun _ w => w.host name

/-- Opens a connection. A host that takes as long as the timeout or longer
is not reached. -/
def connect (run : Runner) (n : Node) (timeout : Nat) : Play Bool := do
  .update (World.note (.line ("connect " ++ n.endpoint)))
  let h ← hostNow n.address
  run h.onConnect
  if timeout ≤ h.connectDelay then
    .wait timeout
    return false
  else
    .wait h.connectDelay
    return h.reachable

def fetchMetrics (n : Node) : Play (Except String (ResourceMetrics Float)) := do
  let h ← hostNow n.address
  .wait h.metricsDelay
  return h.metrics

def fetchServices (n : Node) : Play (Except String (ServiceHealth Float)) := do
  let h ← hostNow n.address
  .wait h.servicesDelay
  return h.services

def ping (run : Runner) (n : Node) : Play Bool := do
  let h ← hostNow n.address
  run h.onPing
  .wait h.pingDelay
  return h.ping

/-- Milliseconds since a time. -/
def since (start : Nat) : Play Float := .view fun now _ => (Span.ofMillis (now - start)).millis

/-- Probes a node: a connection, then its measurements, then its services. -/
def probe (run : Runner) (timeout : Nat) (n : Node) : Play (ProbeResult Float) := do
  let start ← .view fun now _ => now
  if !(← connect run n timeout) then return .unreachable (← since start)
  match ← fetchMetrics n with
  | .error _ => return .broken (← since start)
  | .ok resources =>
    match ← fetchServices n with
    | .error _ => return .broken (← since start)
    | .ok services => return .answered resources services (← since start)

/-! ## Observers -/

def kindOf : Notice → NoticeKind
  | .failover _ => .failover
  | .recovery _ => .recovery
  | .stateChange _ _ => .state

/-- What an observer logs about a notice. -/
def lineOf (name : String) : Notice → String
  | .failover e => name ++ " failover " ++ e.type.name
  | .recovery e => name ++ " recovery " ++ e.type.name
  | .stateChange old new => name ++ " state " ++ old.name ++ "->" ++ new.name

/-- The key of the script that runs on a notice. -/
def keyOf : Notice → String
  | .failover e | .recovery e => e.type.name
  | .stateChange _ new => "state:" ++ new.name

/-- Takes a notice, and says whether that went well. -/
def hear (run : Runner) (o : Observer Step) (notice : Notice) : Play Bool := do
  if o.manner = .silent then return true
  .update (World.note (.line (lineOf o.name notice)))
  match o.scripts.find? fun s => s.1 == keyOf notice with
  | some (_, steps) => run steps
  | none => pure ()
  .wait o.delay
  if o.kinds.all (·.contains (kindOf notice)) then
    match o.manner with
    | .failing => return false
    | .stuck => .never
    | _ => return true
  else return true

/-- A hook must end within the time that observers have. -/
def notify (run : Runner) (hook : Hook) : Play Bool := do
  let (observer, limit) ← .view fun _ w =>
    (w.observers[hook.observer]?, w.coordinator.settings.observerTimeoutMs)
  match observer with
  | none => return true
  | some o => return (← Process.timeout limit (hear run o hook.notice)).getD false

/-! ## Operations -/

/-- The connection to a candidate, until the deadline of the choice. -/
def connectBy (run : Runner) (n : Node) (deadline : Moment) : Play (Option Bool) := do
  let (timeout, left) ← .view fun now w =>
    (w.coordinator.settings.connectTimeoutMs, deadline.since (w.moment now))
  Process.timeout (left / Span.perMilli).toNat (connect run n timeout)

/-- What an activity waits for. -/
def await (run : Runner) : (a : Activity) → Play a.Reply
  | .pinging targets => Process.all (targets.map (ping run))
  | .probing targets => do
    let timeout ← .view fun _ w => w.coordinator.settings.connectTimeoutMs
    Process.all (targets.map (probe run timeout))
  | .connecting _ deadline _ node _ => connectBy run node deadline
  | .announcing hook _ _ _ => notify run hook
  | .ready _ => .done ()

/-- Runs an operation from here to its end. The number bounds its
sections. -/
def follow (run : Runner) : Nat → Progress → Play Answer
  | _, .ends answer => .done answer
  | 0, _ => .never
  | fuel + 1, .waits a => do
    let reply ← await run a
    follow run fuel (← runSection fun now => Coordinator.nextSection now a reply)

/-- No operation has more sections than this. -/
def sectionLimit : Nat := 1000000

def perform (run : Runner) (op : Operation) : Play Answer := do
  follow run sectionLimit (← runSection fun now => Coordinator.firstSection now op)

end Failover.Drill
