import Failover.Coordinator.Operation

-- Runs of a coordinator with many operations in flight. An operation stops
-- wherever it waits for an answer; meanwhile others start, go on, or are
-- dropped, in any order and with any answers. An operation that waits for
-- nothing may also have to let others go first, as it may when several
-- threads run.

namespace Failover

/-- An operation in flight: which one it is, in the order of the starts, and
what it waits for. -/
structure Task where
  number : Nat
  activity : Activity

/-- A coordinator with its operations in flight. -/
structure System where
  coordinator : Coordinator
  tasks : List Task
  /-- How many operations were started. -/
  started : Nat
  /-- Every event there was, oldest first. The log keeps the last ones. -/
  history : List FailoverEvent

/-- What is done to a coordinator at once. -/
inductive Order where
  | join (spec : NodeSpec)
  /-- A node goes into the registry as it is. -/
  | register (n : Node)
  /-- A node is taken out of the registry, and nobody looks after the
  primary. -/
  | unregister (id : String)
  | maintenance (id : String) (enabled : Bool)
  | observe

/-- What happens next to a system. -/
inductive Move where
  | start (now : Moment) (op : Operation)
  | resume (now : Moment) (number : Nat) (a : Activity) (reply : a.Reply)
  | drop (number : Nat)
  | order (now : Moment) (o : Order)

/-- An order that is refused changes nothing. -/
def Order.apply (now : Moment) (c : Coordinator) : Order → Coordinator
  | join spec => (c.addNode spec now).toOption.getD c
  | register n => ((c.cluster.add n).toOption.map fun cluster => { c with cluster }).getD c
  | unregister id =>
    ((c.cluster.remove id).toOption.map fun r => { c with cluster := r.2 }).getD c
  | maintenance id enabled => (c.setMaintenance id enabled).toOption.getD c
  | observe => c.addObserver

def Move.isDrop : Move → Bool
  | drop _ => true
  | _ => false

/-- An operation stays in flight while it waits. -/
def Progress.tasks (number : Nat) : Progress → List Task
  | waits a => [⟨number, a⟩]
  | ends _ => []

namespace System

/-- No operation has been started yet. -/
def initial (c : Coordinator) : System := { coordinator := c, tasks := [], started := 0, history := [] }

def cluster (w : System) : Cluster := w.coordinator.cluster

def state (w : System) : ClusterState := w.cluster.state

/-- A section has run, for an operation that stands between these others. -/
def turn (w : System) (number : Nat) (before after : List Task) (r : Coordinator × Progress) :
    System :=
  { w with
    coordinator := r.1
    tasks := before ++ r.2.tasks number ++ after
    history := w.history ++ r.1.log.since w.coordinator.log.appended }

/-- An operation starts behind the others. -/
def launch (w : System) (now : Moment) (op : Operation) : System :=
  { w.turn w.started w.tasks [] (Coordinator.firstSection now op w.coordinator) with
    started := w.started + 1 }

def obey (w : System) (now : Moment) (o : Order) : System :=
  { w with coordinator := o.apply now w.coordinator }

end System

/-- One move of a system: a section of one operation, an operation dropped
where it waits, or an order. -/
inductive Step : System → Move → System → Prop
  | start (w : System) (now : Moment) (op : Operation) : Step w (.start now op) (w.launch now op)
  | resume (w : System) (now : Moment) (before after : List Task) (number : Nat) (a : Activity)
      (reply : a.Reply) (h : w.tasks = before ++ ⟨number, a⟩ :: after) :
      Step w (.resume now number a reply)
        (w.turn number before after (Coordinator.nextSection now a reply w.coordinator))
  | drop (w : System) (before after : List Task) (t : Task) (h : w.tasks = before ++ t :: after) :
      Step w (.drop t.number) { w with tasks := before ++ after }
  | order (w : System) (now : Moment) (o : Order) : Step w (.order now o) (w.obey now o)

/-- A run, with every move and the system that it found. -/
inductive Run (start : System) : List (System × Move) → System → Prop
  | nil : Run start [] start
  | snoc {trace : List (System × Move)} {w w' : System} {m : Move} :
      Run start trace w → Step w m w' → Run start (trace ++ [(w, m)]) w'

/-- A coordinator that has just been created has no members. -/
def Coordinator.Fresh (c : Coordinator) : Prop :=
  ∃ folder id settings, Coordinator.create folder id settings = .ok c

/-- A run from the beginning. -/
def History (trace : List (System × Move)) (w : System) : Prop :=
  ∃ c, Coordinator.Fresh c ∧ Run (.initial c) trace w

/-- No operation is dropped. -/
def Undropped (trace : List (System × Move)) : Prop := ∀ s ∈ trace, s.2.isDrop = false

/-- A run goes on where another has come to. -/
theorem Run.trans {first second : List (System × Move)} {start mid w : System}
    (h : Run start first mid) (h' : Run mid second w) : Run start (first ++ second) w := by
  induction h' with
  | nil =>
    rw [List.append_nil]
    exact h
  | snoc _ hs ih =>
    rw [← List.append_assoc]
    exact ih.snoc hs

theorem Run.of_nil {start w : System} (h : Run start [] w) : w = start := by
  generalize htrace : ([] : List (System × Move)) = trace at h
  cases h with
  | nil => rfl
  | snoc => simp at htrace

/-- A run comes to each of its systems, and goes on from there with the move
that it has made. -/
theorem Run.split {before after : List (System × Move)} {s : System × Move} {start w : System}
    (h : Run start (before ++ s :: after) w) :
    Run start before s.1 ∧ ∃ w', Step s.1 s.2 w' ∧ Run w' after w := by
  generalize htrace : before ++ s :: after = trace at h
  induction h generalizing after with
  | nil => simp at htrace
  | @snoc trace w w' m hrun hs ih =>
    rcases after.eq_nil_or_concat with rfl | ⟨after', last, rfl⟩
    · obtain ⟨rfl, hlast⟩ := List.append_inj' htrace rfl
      cases hlast
      exact ⟨hrun, w', hs, .nil⟩
    · have hsplit : (before ++ s :: after') ++ [last] = trace ++ [(w, m)] := by
        rw [← htrace]
        simp
      obtain ⟨htrace', hlast⟩ := List.append_inj' hsplit rfl
      cases hlast
      obtain ⟨hbefore, w'', hs', hafter⟩ := ih htrace'
      rw [List.concat_eq_append]
      exact ⟨hbefore, w'', hs', hafter.snoc hs⟩

/-- What does not hold at first and holds in the end comes about with one of the
steps. -/
theorem Run.first {trace : List (System × Move)} {start w : System} {P : System → Prop}
    (hrun : Run start trace w) (hstart : ¬ P start) (hw : P w) :
    ∃ before s after w', trace = before ++ s :: after ∧ Run start before s.1 ∧
      Step s.1 s.2 w' ∧ Run w' after w ∧ (∀ x ∈ before ++ [s], ¬ P x.1) ∧ P w' := by
  induction trace generalizing start with
  | nil =>
    rw [hrun.of_nil] at hw
    exact absurd hw hstart
  | cons s rest ih =>
    obtain ⟨found, m⟩ := s
    obtain ⟨hnil, w', hs, hrest⟩ := (show Run start ([] ++ (found, m) :: rest) w from hrun).split
    have hfound : found = start := hnil.of_nil
    subst hfound
    by_cases hw' : P w'
    · exact ⟨[], (found, m), rest, w', rfl, .nil, hs, hrest, by simpa using hstart, hw'⟩
    · obtain ⟨before, s', after, w'', rfl, hbefore, hs', hafter, hnot, hw''⟩ := ih hrest hw'
      have hlonger := (Run.nil.snoc hs).trans hbefore
      refine ⟨(found, m) :: before, s', after, w'', rfl, hlonger, hs', hafter, ?_, hw''⟩
      intro x hx
      rcases List.mem_cons.mp hx with rfl | hx
      · exact hstart
      · exact hnot x hx

/-! ## Scripts -/

/-- A line of a script. The operation that goes on is named by its place among
those in flight. -/
inductive Cue where
  | start (now : Moment) (op : Operation)
  | resume (now : Moment) (place : Nat)
  | order (now : Moment) (o : Order)

namespace System

/-- Follows a line of a script. Nothing happens when nobody is in the place. -/
def follow (answers : (a : Activity) → a.Reply) (w : System) : Cue → System
  | .start now op => w.launch now op
  | .resume now place =>
    match w.tasks[place]? with
    | none => w
    | some t => w.turn t.number (w.tasks.take place) (w.tasks.drop (place + 1))
        (Coordinator.nextSection now t.activity (answers t.activity) w.coordinator)
  | .order now o => w.obey now o

def play (answers : (a : Activity) → a.Reply) (w : System) (script : List Cue) : System :=
  script.foldl (follow answers) w

/-- The move that a line of a script comes to. -/
def move? (answers : (a : Activity) → a.Reply) (w : System) : Cue → Option Move
  | .start now op => some (.start now op)
  | .resume now place =>
    w.tasks[place]?.map fun t => .resume now t.number t.activity (answers t.activity)
  | .order now o => some (.order now o)

/-- The moves of a script, each with the system that it finds. -/
def moves (answers : (a : Activity) → a.Reply) (w : System) : List Cue → List (System × Move)
  | [] => []
  | cue :: rest =>
    (w.move? answers cue).toList.map (fun m => (w, m)) ++ moves answers (w.follow answers cue) rest

end System

/-- The answers when all is well: everybody can be reached, and no hook
fails. -/
def calm : (a : Activity) → a.Reply
  | .pinging targets => targets.map fun _ => true
  | .probing targets =>
    targets.map fun _ => .answered ⟨20.0, 30.0, 40.0, 0.0⟩ ⟨4, 4, 0.0, 0.0⟩ 0.0
  | .connecting .. => some true
  | .announcing .. => true
  | .ready _ => ()

/-- A coordinator as it is created with the standard settings. -/
def Coordinator.standard : Coordinator :=
  { id := "sentinel", settings := .standard, cluster := .empty, log := .ofCapacity 1000
    metrics := .empty, observers := 0, changes := [], started := false, stopped := false }

theorem Coordinator.fresh_standard : standard.Fresh := ⟨⟨[], []⟩, "sentinel", .standard, by rfl⟩

/-- A healthy member. -/
def Node.well (id : String) (role : NodeRole) : Node :=
  { (NodeSpec.toNode { NodeSpec.blank with id, role } ⟨0, false⟩) with status := .healthy, score := 1.0 }

theorem System.follow_move (answers : (a : Activity) → a.Reply) (w : System) (cue : Cue) :
    (w.move? answers cue = none ∧ w.follow answers cue = w) ∨
      ∃ m, w.move? answers cue = some m ∧ m.isDrop = false ∧ Step w m (w.follow answers cue) := by
  cases cue with
  | start now op => exact Or.inr ⟨_, rfl, rfl, .start w now op⟩
  | order now o => exact Or.inr ⟨_, rfl, rfl, .order w now o⟩
  | resume now place =>
    simp only [follow, move?]
    cases ht : w.tasks[place]? with
    | none => exact Or.inl ⟨rfl, rfl⟩
    | some t =>
      obtain ⟨hlt, rfl⟩ := List.getElem?_eq_some_iff.mp ht
      have hsplit := (List.take_append_drop place w.tasks).symm
      rw [List.drop_eq_getElem_cons hlt] at hsplit
      exact Or.inr ⟨_, rfl, rfl, .resume w now _ _ _ _ _ hsplit⟩

theorem System.follow_step (answers : (a : Activity) → a.Reply) (w : System) (cue : Cue) :
    w.follow answers cue = w ∨ ∃ m, m.isDrop = false ∧ Step w m (w.follow answers cue) := by
  rcases w.follow_move answers cue with ⟨_, heq⟩ | ⟨m, _, hdrop, hs⟩
  · exact Or.inl heq
  · exact Or.inr ⟨m, hdrop, hs⟩

/-- A script is a run. -/
theorem System.play_run (answers : (a : Activity) → a.Reply) (w : System) (script : List Cue) :
    Run w (w.moves answers script) (w.play answers script) ∧ Undropped (w.moves answers script) := by
  induction script generalizing w with
  | nil => exact ⟨.nil, by simp [Undropped, moves]⟩
  | cons cue rest ih =>
    obtain ⟨hrun, hd⟩ := ih (w.follow answers cue)
    rcases w.follow_move answers cue with ⟨hm, heq⟩ | ⟨m, hm, hdrop, hs⟩
    · simp only [moves, hm, Option.toList_none, List.map_nil, List.nil_append]
      refine ⟨?_, hd⟩
      rw [heq] at hrun
      simpa only [play, List.foldl_cons, heq] using hrun
    · simp only [moves, hm, Option.toList_some, List.map_cons, List.map_nil]
      refine ⟨(Run.nil.snoc hs).trans hrun, fun s hmem => ?_⟩
      rcases List.mem_cons.mp hmem with rfl | hmem
      · exact hdrop
      · exact hd s hmem

/-- What a script comes to can be reached. -/
theorem System.play_history {c : Coordinator} (hc : c.Fresh) (answers : (a : Activity) → a.Reply)
    (script : List Cue) :
    ∃ trace, History trace (System.play answers (.initial c) script) ∧ Undropped trace := by
  obtain ⟨hrun, hd⟩ := System.play_run answers (.initial c) script
  exact ⟨_, ⟨c, hc, hrun⟩, hd⟩

/-! ## Invariants -/

theorem Coordinator.Fresh.blank {c : Coordinator} (h : c.Fresh) :
    c.cluster = .empty ∧ c.observers = 0 ∧ c.log.events = [] ∧ c.log.appended = 0 ∧
      c.log.stats = .zero := by
  obtain ⟨folder, id, settings, h⟩ := h
  simp only [create, bind, Except.bind, pure, Except.pure, throw, throwThe, MonadExceptOf.throw] at h
  repeat' split at h
  all_goals cases h
  all_goals simp_all [EventLog.ofCapacity, EventLog.withFile, EventLog.onBytes]

theorem Coordinator.Fresh.valid {c : Coordinator} (h : c.Fresh) : c.settings.validate = .ok () := by
  obtain ⟨folder, id, settings, h⟩ := h
  simp only [create, bind, Except.bind, pure, Except.pure, throw, throwThe, MonadExceptOf.throw] at h
  repeat' split at h
  all_goals cases h
  all_goals assumption

theorem History.extend {before trace : List (System × Move)} {start w : System}
    (h : History before start) (hrun : Run start trace w) : History (before ++ trace) w := by
  obtain ⟨c, hc, hbefore⟩ := h
  exact ⟨c, hc, hbefore.trans hrun⟩

/-- What holds at first and is kept by every step holds in every run. -/
theorem History.holds {P : System → Prop} (h0 : ∀ c, Coordinator.Fresh c → P (.initial c))
    (hstep : ∀ w m w', P w → Step w m w' → P w') {trace : List (System × Move)} {w : System}
    (h : History trace w) : P w := by
  obtain ⟨c, hc, hrun⟩ := h
  induction hrun with
  | nil => exact h0 c hc
  | snoc _ hs ih => exact hstep _ _ _ ih hs

/-- The same for runs in which no operation is dropped. -/
theorem History.holds_undropped {P : System → Prop}
    (h0 : ∀ c, Coordinator.Fresh c → P (.initial c))
    (hstep : ∀ w m w', P w → m.isDrop = false → Step w m w' → P w')
    {trace : List (System × Move)} {w : System} (h : History trace w) (hd : Undropped trace) :
    P w := by
  obtain ⟨c, hc, hrun⟩ := h
  induction hrun with
  | nil => exact h0 c hc
  | snoc _ hs ih =>
    have hlast := hd _ (List.mem_append_right _ (List.mem_singleton_self _))
    exact hstep _ _ _ (ih fun s hs => hd s (List.mem_append_left _ hs)) hlast hs

end Failover
