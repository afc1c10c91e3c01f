import Failover.Drill.Play

-- A drill from beginning to end: its script runs beside the three loops of
-- the coordinator, and time goes on only when nobody can do anything.

namespace Failover.Drill

/-- A loop: an operation that is repeated. -/
structure Loop where
  period : Nat
  operation : Operation
  /-- The timer of the next time. -/
  due : Nat
  number : Nat
  /-- The operation that is under way. -/
  current : Option (Play Answer)

/-- How late a loop may be and still keep its times. -/
def slack : Nat := 5

/-- The time after this one: one period later, or one period from now when
the loop is too late to keep its times. -/
def Loop.nextDue (l : Loop) (now : Nat) : Nat :=
  if l.due + slack < now then now + l.period else l.due + l.period

/-- Operations of a loop start scripts as others do. -/
def Loop.process (l : Loop) : Play Answer := perform (inPlace (runStep scriptDepth)) l.operation

/-- A loop as far as it comes now. The number bounds how many times it can
make up for. -/
def Loop.poll (now : Nat) : Nat → Loop → Nat × World → Loop × (Nat × World)
  | 0, l, s => (l, s)
  | fuel + 1, l, s =>
    match l.current with
    | some p =>
      match p.poll now s with
      | (.done _, s) => Loop.poll now fuel { l with current := none } s
      | (p, s) => ({ l with current := some p }, s)
    | none =>
      if l.due ≤ now then
        let (number, w) := s
        let l := { l with due := l.nextDue now, number, current := some l.process }
        Loop.poll now fuel l (number + 1, w)
      else (l, s)

/-- The timer that wakes a loop. -/
def Loop.timer? (l : Loop) : Option Process.Timer :=
  match l.current with
  | some p => p.timer?
  | none => some (l.due, l.number)

/-- A drill under way. -/
structure Run where
  now : Nat
  number : Nat
  world : World
  main : Play Unit
  loops : List Loop

namespace Run

/-- The loops of a coordinator, each one period before its first time. -/
def firstLoops (s : FailoverSettings) (now number : Nat) : List Loop :=
  [ ⟨s.heartbeatIntervalMs, .heartbeatRound, now + s.heartbeatIntervalMs, number, none⟩
  , ⟨s.healthCheckIntervalMs, .healthSweep, now + s.healthCheckIntervalMs, number + 1, none⟩
  , ⟨s.monitorIntervalMs, .watch, now + s.monitorIntervalMs, number + 2, none⟩ ]

/-- Begins or ends the loops as the coordinator was told. -/
def tend (r : Run) : Run :=
  match r.world.loops with
  | .starting =>
    { r with
      world := { r.world with loops := .on }
      loops := firstLoops r.world.coordinator.settings r.now r.number
      number := r.number + 3 }
  | .stopping => { r with world := { r.world with loops := .off }, loops := [] }
  | _ => r

/-- The first timer of the loops from this place on, with its place. -/
def firstTimer? : Nat → List Loop → Option (Process.Timer × Nat)
  | _, [] => none
  | i, l :: rest =>
    match l.timer?, firstTimer? (i + 1) rest with
    | none, later => later
    | some t, none => some (t, i)
    | some t, some (u, j) =>
      if Process.sooner (some t) (some u) = some t then some (t, i) else some (u, j)

def pollMain (r : Run) (now : Nat) : Run :=
  let (main, (number, world)) := r.main.poll now (r.number, r.world)
  { r with now, number, world, main }

def pollLoop (r : Run) (now i : Nat) : Run :=
  match r.loops[i]? with
  | none => r
  | some l =>
    let (l, (number, world)) := l.poll now 100 (r.number, r.world)
    { r with now, number, world, loops := r.loops.set i l }

/-- Wakes whoever is woken first, and at one time the loops before the
script. Nothing is left to do when the script is over, or when nobody waits
for a time. -/
def step? (r : Run) : Option Run :=
  let r := r.tend
  match r.main with
  | .done _ => none
  | _ =>
    match r.main.timer?, firstTimer? 0 r.loops with
    | none, none => none
    | some t, none => some (r.pollMain (max r.now t.1))
    | none, some (t, i) => some (r.pollLoop (max r.now t.1) i)
    | some t, some (u, i) =>
      if t.1 < u.1 then some (r.pollMain (max r.now t.1)) else some (r.pollLoop (max r.now u.1) i)

/-- Goes on until nothing is left to do. The number bounds the steps. -/
def finish : Nat → Run → Run
  | 0, r => r
  | fuel + 1, r =>
    match r.step? with
    | some r => finish fuel r
    | none => r

end Run

/-- No drill takes more steps than this. -/
def stepLimit : Nat := 1000000000

/-- Plays a script, and gives its frames. -/
def play (epoch : Moment) (c : Coordinator) (hosts : List (String × HostChange Step))
    (observers : List (Observer Step)) (steps : List Step) : List Frame :=
  let world : World :=
    { epoch, coordinator := c, hosts := .empty, observers := [], ownChanges := [], loops := .off
      entries := [], seen := 0, frames := [] }
  let world := hosts.foldl (fun w h => w.changeHost h.1 h.2) world
  let world := observers.foldl (fun w o => w.observe o) world
  let run : Run := { now := 0, number := 0, world, main := playAll steps, loops := [] }
  (Run.finish stepLimit run).world.frames.reverse

end Failover.Drill
