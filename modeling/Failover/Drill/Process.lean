-- Processes: what a run in virtual time still has to do. A process acts on a
-- state at once, waits until a time, or goes on with parts side by side or
-- under a deadline. Times are in milliseconds.

namespace Failover.Drill

/-- A process on a state `σ` that ends with a value. -/
inductive Process (σ : Type) : Type → Type 1 where
  | done {α : Type} (a : α) : Process σ α
  /-- Acts at once; the time is known to it. -/
  | act {α β : Type} (f : Nat → σ → β × σ) (next : β → Process σ α) : Process σ α
  /-- Waits for so long from the moment it is reached. -/
  | sleep {α : Type} (span : Nat) (next : Process σ α) : Process σ α
  /-- Waits until a time. Of two timers of one time the one with the lower
  number is first. -/
  | until {α : Type} (time number : Nat) (next : Process σ α) : Process σ α
  /-- Gives a part so long from the moment it is reached. -/
  | limit {α β : Type} (span : Nat) (body : Process σ β) (next : Option β → Process σ α) :
      Process σ α
  /-- Gives a part until a time. -/
  | within {α β : Type} (time number : Nat) (body : Process σ β)
      (next : Option β → Process σ α) : Process σ α
  /-- Runs two parts side by side and goes on when both have ended. -/
  | both {α β γ : Type} (first : Process σ β) (second : Process σ γ)
      (next : β → γ → Process σ α) : Process σ α
  /-- Runs many parts side by side and goes on when all have ended. Those that
  can go on do so in the order of their timers. -/
  | many {α β : Type} (count : Nat) (parts : Fin count → Process σ β)
      (next : List β → Process σ α) : Process σ α
  /-- Lets all others run before it goes on, at the same time. -/
  | turn {α : Type} (fresh : Bool) (next : Process σ α) : Process σ α
  /-- Waits for ever. -/
  | never {α : Type} : Process σ α

namespace Process

variable {σ α β : Type}

/-! ## Building -/

/-- Goes on with the value of a process. -/
def andThen : Process σ α → (α → Process σ β) → Process σ β
  | done a, k => k a
  | act f next, k => act f fun b => andThen (next b) k
  | sleep span next, k => sleep span (andThen next k)
  | .until time number next, k => .until time number (andThen next k)
  | limit span body next, k => limit span body fun r => andThen (next r) k
  | within time number body next, k => within time number body fun r => andThen (next r) k
  | both first second next, k => both first second fun b c => andThen (next b c) k
  | many count parts next, k => many count parts fun bs => andThen (next bs) k
  | turn fresh next, k => turn fresh (andThen next k)
  | never, _ => never

instance : Monad (Process σ) where
  pure := done
  bind := andThen

/-- Changes the state. -/
def update (f : σ → σ) : Process σ Unit := act (fun _ s => ((), f s)) done

/-- Looks at the state. -/
def view (f : Nat → σ → α) : Process σ α := act (fun t s => (f t s, s)) done

def wait (span : Nat) : Process σ Unit := sleep span (done ())

/-- Ends with nothing when the time is over first. -/
def timeout (span : Nat) (p : Process σ α) : Process σ (Option α) := limit span p done

/-- Runs some parts side by side. Whenever one of them can go on, they are
gone through in their order. -/
def few : List (Process σ α) → Process σ (List α)
  | [] => done []
  | p :: rest => both p (few rest) fun a as => done (a :: as)

/-- So many parts are few. -/
def fewLimit : Nat := 30

/-- Runs all parts side by side. -/
def all (ps : List (Process σ α)) : Process σ (List α) :=
  if ps.length ≤ fewLimit then few ps else many ps.length (fun i => ps[i]) done

/-! ## Timers -/

/-- A time, and the number that says which of two timers of one time is
first. -/
abbrev Timer := Nat × Nat

namespace Timer

def isSooner (a b : Timer) : Bool := a.1 < b.1 || (a.1 == b.1 && a.2 < b.2)

end Timer

/-- The earlier of two timers. -/
def sooner : Option Timer → Option Timer → Option Timer
  | none, b => b
  | a, none => a
  | some a, some b => if b.isSooner a then some b else some a

/-- The timer that wakes a process. -/
def timer? {α : Type} : Process σ α → Option Timer
  | done _ | never => none
  | act _ _ | sleep _ _ | limit _ _ _ | turn _ _ => some (0, 0)
  | .until time number _ => some (time, number)
  | within time number body _ => sooner (timer? body) (some (time, number))
  | both first second _ => sooner (timer? first) (timer? second)
  | many _ parts _ => (List.ofFn fun i => timer? (parts i)).foldl sooner none

/-- The places of the timers that are over, in the order of the timers. -/
def woken {count : Nat} (now : Nat) (timers : Fin count → Option Timer) : List (Fin count) :=
  let due := (List.finRange count).filterMap fun i => ((timers i).filter (·.1 ≤ now)).map fun t => (t, i)
  (due.mergeSort fun a b => !b.1.isSooner a.1).map (·.2)

/-- The values of parts that have all ended. -/
def values? (ps : List (Process σ α)) : Option (List α) :=
  ps.mapM fun p =>
    match p with
    | done a => some a
    | _ => none

/-! ## Running -/

/-- A process as far as it comes now. A part that ends at its deadline has
ended in time. The number of the next timer is kept beside the state. -/
def poll (now : Nat) {α : Type} : Process σ α → Nat × σ → Process σ α × (Nat × σ)
  | done a, s => (done a, s)
  | act f next, (number, s) =>
    let (b, s) := f now s
    poll now (next b) (number, s)
  | sleep span next, (number, s) =>
    if span = 0 then poll now next (number, s)
    else (.until (now + span) number next, (number + 1, s))
  | .until time number next, s =>
    if time ≤ now then poll now next s else (.until time number next, s)
  | limit span body next, s =>
    match poll now body s with
    | (done b, s) => poll now (next (some b)) s
    | (body, (number, s)) =>
      if span = 0 then poll now (next none) (number, s)
      else (within (now + span) number body next, (number + 1, s))
  | within time number body next, s =>
    match poll now body s with
    | (done b, s) => poll now (next (some b)) s
    | (body, s) =>
      if time ≤ now then poll now (next none) s else (within time number body next, s)
  | both first second next, s =>
    let (first, s) := poll now first s
    let (second, s) := poll now second s
    match first, second with
    | done b, done c => poll now (next b c) s
    | first, second => (both first second next, s)
  | many count parts next, s =>
    let (polled, s) := (woken now fun i => timer? (parts i)).foldl
      (fun (polled, s) i =>
        let (part, s) := poll now (parts i) s
        (polled.set i part, s))
      (Vector.ofFn parts, s)
    match values? polled.toList with
    | some bs => poll now (next bs) s
    | none => (many count (fun i => polled[i]) next, s)
  | turn fresh next, s => if fresh then (turn false next, s) else poll now next s
  | never, s => (never, s)

end Process

end Failover.Drill
