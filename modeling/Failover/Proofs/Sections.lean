import Failover.Proofs.Interleaving
import Failover.Proofs.Ranking

-- What one section of an operation can do. Whatever the operation is, a
-- section changes the cluster in one of a few ways, records one event at
-- most, and leaves the settings alone. Every law of the runs goes through
-- these cases, and none looks into a section itself.

namespace Failover

/-! ## How far an operation has come -/

/-- The change of state that an operation is in the middle of. -/
inductive Phase where
  | plain
  /-- A failover has been started and not been settled. -/
  | failover
  /-- A recovery has been started, and the node has not joined again. -/
  | recovery
  /-- The node has joined again, and the cluster is to be normal. -/
  | reopening
  deriving DecidableEq, Repr

def Continuation.phase : Continuation → Phase
  | select _ => .failover
  | rejoin _ => .recovery
  | reopen => .reopening
  | close _ _ => .plain

def Activity.phase : Activity → Phase
  | pinging _ | probing _ => .plain
  | connecting .. => .failover
  | announcing _ _ _ next | ready next => next.phase

def Progress.phase : Progress → Phase
  | waits a => a.phase
  | ends _ => .plain

/-- The candidates of an attempt that are still to answer. -/
def Activity.shortlist : Activity → List (Attempt × Candidate)
  | connecting a _ candidate _ rest => (a, candidate) :: rest.map fun x => (a, x.1)
  | _ => []

def Progress.shortlist : Progress → List (Attempt × Candidate)
  | waits a => a.shortlist
  | ends _ => []

/-- The candidate that has been reached. -/
def Activity.chosen? : (a : Activity) → a.Reply → Option (Attempt × Candidate)
  | connecting a _ candidate _ _, some true => some (a, candidate)
  | _, _ => none

/-! ## What can happen to a cluster -/

/-- What operations do to the members on their way, without a change of
state. -/
inductive Upkeep (limit : Span) (now : Moment) (k : Cluster) : Cluster → Prop
  | nothing : Upkeep limit now k k
  | round (answers : List (String × Bool)) :
      Upkeep limit now k ((k.recordPings now answers).2.scanTimeouts limit now)
  | sweep (reports : List (String × HealthReport Float)) :
      Upkeep limit now k (k.recordAll reports).2
  | leave {id : String} {r : Removal} {k' : Cluster} (h : k.remove id = .ok (r, k')) :
      Upkeep limit now k k'

def FailoverEvent.Tells (e : FailoverEvent) (type : EventType) (old new : ClusterState) : Prop :=
  e.type = type ∧ e.oldState = old ∧ e.newState = new

/-- The ways in which a section changes a cluster, when this candidate has
just been reached: the phase of its operation before and after, the event, and
the cluster afterwards. -/
inductive Turn (now : Moment) (limit : Span) (chosen : Option (Attempt × Candidate))
    (k : Cluster) : Phase → Phase → Option FailoverEvent → Cluster → Prop
  | stay (p : Phase) : Turn now limit chosen k p p none k
  | tend {k' : Cluster} (h : Upkeep limit now k k') : Turn now limit chosen k .plain .plain none k'
  | begin {k' : Cluster} {e : FailoverEvent} (h : Upkeep limit now k k')
      (hs : k'.state = .normal) (he : e.Tells .failoverInitiated .normal .failoverInProgress) :
      Turn now limit chosen k .plain .failover (some e) { k' with
        state := .failoverInProgress, lastFailure := some { node := e.trigger, time := now } }
  | fail {e : FailoverEvent} (he : e.Tells .failoverFailed .failoverInProgress .degraded) :
      Turn now limit chosen k .failover .plain (some e)
        (if k.state = .failoverInProgress then { k with state := .degraded } else k)
  | cancel {e : FailoverEvent} (he : e.Tells .failoverCancelled .failoverInProgress .normal) :
      Turn now limit chosen k .failover .plain (some e) { k with
        state := if k.state = .failoverInProgress then .normal else k.state, lastFailure := none }
  | commit {e : FailoverEvent} {a : Attempt} {candidate : Candidate} {n : Node}
      (hc : chosen = some (a, candidate)) (hs : k.state = .failoverInProgress)
      (hn : k.node? candidate.id = some n) (ha : n.active = true) (hf : e.trigger = a.failing)
      (ht : e.target = some candidate.id)
      (he : e.Tells .failoverCompleted .failoverInProgress .failoverComplete) :
      Turn now limit chosen k .failover .plain (some e)
        { k.promote candidate.id with state := .failoverComplete }
  | recover {e : FailoverEvent} (hs : k.state.isSettled = true)
      (he : e.Tells .recoveryInitiated k.state .recoveryInProgress) :
      Turn now limit chosen k .plain .recovery (some e) { k with state := .recoveryInProgress }
  | rejoin {e : FailoverEvent} (id : String)
      (he : e.Tells .recoveryCompleted .recoveryInProgress .recoveryComplete) :
      Turn now limit chosen k .recovery .reopening (some e) { k with
        nodes := k.nodes.modify id (Coordinator.rejoined (k.isPrimary id)), lastFailure := none
        state := .recoveryComplete }
  | reopen {e : FailoverEvent} (he : e.Tells .stateChanged .recoveryComplete .normal) :
      Turn now limit chosen k .reopening .plain (some e)
        { k with state := if k.state = .recoveryComplete then .normal else k.state }
  | release {e : FailoverEvent} (hn : k.state ≠ .normal) (hs : k.state.isTransitional = false)
      (he : e.Tells .stateChanged k.state .normal) :
      Turn now limit chosen k .plain .plain (some e) { k with state := .normal, lastFailure := none }
  | promote {e : FailoverEvent} {id : String} {n : Node} (hs : k.state.isTransitional = false)
      (hn : k.node? id = some n) (ha : n.active = true) (hh : n.isHealthy = true)
      (hp : k.isPrimary id = false) (he : e.Tells .manualPromotion k.state .normal) :
      Turn now limit chosen k .plain .plain (some e)
        { k.promote id with state := .normal, lastFailure := none }

/-! ## What can happen to a coordinator -/

/-- The number in the statistics that goes up with the events of this type, if
one does. -/
def EventType.counter? : EventType → Option (FailoverStats → Nat)
  | failoverInitiated => some (·.initiated)
  | failoverCompleted => some (·.completed)
  | failoverFailed => some (·.failed)
  | failoverCancelled => some (·.falseAlarms)
  | recoveryCompleted => some (·.recoveries)
  | recoveryInitiated | stateChanged | manualPromotion => none

/-- The statistics have counted an event of this type, or none. -/
def FailoverStats.Counted (s : FailoverStats) (type : Option EventType) (s' : FailoverStats) : Prop :=
  ∀ t counter, EventType.counter? t = some counter →
    counter s' = counter s + if type = some t then 1 else 0

/-- The log has taken an event, or none, and the statistics have counted it. -/
def EventLog.Took (log : EventLog) (e : Option FailoverEvent) (log' : EventLog) : Prop :=
  ∃ stats, log' = { e.elim log log.append with stats } ∧ log.stats.Counted (e.map (·.type)) stats

/-- Nothing has changed that the operations go by, but for the cluster. An
event of this type has been counted that the log is still to take. -/
structure Coordinator.Alike (type : Option EventType) (c c' : Coordinator) : Prop where
  settings : c'.settings = c.settings
  observers : c'.observers = c.observers
  log : ∃ stats, c'.log = { c.log with stats } ∧ c.log.stats.Counted type stats

/-- What a section does, for an operation that was in this phase, had this
list of candidates and has just reached this one. -/
structure Turned (now : Moment) (asked : List (Attempt × Candidate))
    (chosen : Option (Attempt × Candidate)) (p : Phase) (c : Coordinator)
    (r : Coordinator × Progress) : Prop where
  settings : r.1.settings = c.settings
  observers : r.1.observers = c.observers
  /-- No attempt turns to the node that it replaces. -/
  shortlist : ∀ x ∈ r.2.shortlist, x ∈ asked ∨ x.1.failing ≠ some x.2.id
  turn : ∃ e, c.log.Took e r.1.log ∧
    Turn now c.settings.heartbeatTimeout chosen c.cluster p r.2.phase e r.1.cluster

namespace FailoverStats

variable {s s' s'' : FailoverStats} {type : Option EventType}

theorem Counted.refl (s : FailoverStats) : s.Counted none s := by
  intro t counter _
  simp

theorem Counted.trans (h : s.Counted none s') (h' : s'.Counted type s'') : s.Counted type s'' := by
  intro t counter ht
  have hfirst := h t counter ht
  have hsecond := h' t counter ht
  simp only [reduceCtorEq, if_false] at hfirst
  omega

/-- Some types of events move no number. -/
theorem counted_uncounted {t : EventType} (h : t.counter? = none) : s.Counted (some t) s := by
  intro t' counter ht'
  have hne : t ≠ t' := by
    rintro rfl
    rw [h] at ht'
    cases ht'
  simp [hne]

theorem counted_initiated :
    s.Counted (some .failoverInitiated) { s with initiated := s.initiated + 1 } := by
  intro t counter ht
  cases t <;> cases ht <;> rfl

theorem counted_completed (ms : Float) : s.Counted (some .failoverCompleted)
    ({ s with completed := s.completed + 1 }.recordTime ms) := by
  intro t counter ht
  cases t <;> cases ht <;> rfl

theorem counted_failed : s.Counted (some .failoverFailed) { s with failed := s.failed + 1 } := by
  intro t counter ht
  cases t <;> cases ht <;> rfl

theorem counted_cancelled :
    s.Counted (some .failoverCancelled) { s with falseAlarms := s.falseAlarms + 1 } := by
  intro t counter ht
  cases t <;> cases ht <;> rfl

theorem counted_recovered :
    s.Counted (some .recoveryCompleted) { s with recoveries := s.recoveries + 1 } := by
  intro t counter ht
  cases t <;> cases ht <;> rfl

/-- Failures of hooks are counted without an event. -/
theorem counted_callbackErrors (n : Nat) : s.Counted none { s with callbackErrors := n } := by
  intro t counter ht
  cases t <;> cases ht <;> rfl

end FailoverStats

/-- What came into the log is the event that it took. -/
theorem EventLog.since_append (log : EventLog) (e : FailoverEvent) :
    (log.append e).since log.appended = [e] := by
  have hone : log.appended + 1 - log.appended = 1 := Nat.add_sub_cancel_left _ _
  simp [EventLog.since, EventLog.lastOf, EventLog.append, hone]

theorem EventLog.since_appended (log : EventLog) : log.since log.appended = [] := by
  simp [EventLog.since, EventLog.lastOf]

theorem EventLog.Took.since {log log' : EventLog} {e : Option FailoverEvent} (h : log.Took e log') :
    log'.since log.appended = e.toList := by
  obtain ⟨stats, rfl, _⟩ := h
  cases e with
  | none => exact log.since_appended
  | some e => exact log.since_append e

namespace Coordinator

variable {now : Moment} {asked : List (Attempt × Candidate)}
  {chosen : Option (Attempt × Candidate)} {p : Phase} {c c' : Coordinator}

theorem alike_of_log (hs : c'.settings = c.settings) (ho : c'.observers = c.observers)
    (hl : c'.log = c.log) : c.Alike none c' :=
  ⟨hs, ho, _, hl, .refl c.log.stats⟩

theorem Alike.refl (c : Coordinator) : c.Alike none c := alike_of_log rfl rfl rfl

theorem Alike.trans {c'' : Coordinator} {type : Option EventType} (h : c.Alike none c')
    (h' : c'.Alike type c'') : c.Alike type c'' := by
  obtain ⟨stats, hl, hcounted⟩ := h.log
  obtain ⟨stats', hl', hcounted'⟩ := h'.log
  refine ⟨h'.settings.trans h.settings, h'.observers.trans h.observers, stats', ?_, ?_⟩
  · rw [hl', hl]
  · rw [hl] at hcounted'
    exact hcounted.trans hcounted'

/-- A section that records nothing. -/
theorem turned_quiet {progress : Progress} (h : c.Alike none c')
    (hl : ∀ x ∈ progress.shortlist, x ∈ asked ∨ x.1.failing ≠ some x.2.id)
    (ht : Turn now c.settings.heartbeatTimeout chosen c.cluster p progress.phase none c'.cluster) :
    Turned now asked chosen p c (c', progress) :=
  ⟨h.settings, h.observers, hl, none, h.log, ht⟩

/-- Such a section asks nobody. -/
theorem turned_unasked {progress : Progress} (h : c.Alike none c') (hl : progress.shortlist = [])
    (ht : Turn now c.settings.heartbeatTimeout chosen c.cluster p progress.phase none c'.cluster) :
    Turned now asked chosen p c (c', progress) :=
  turned_quiet h (by simp [hl]) ht

/-- An event is recorded before anybody hears of it. -/
theorem announce_waits (e : FailoverEvent) (next : Continuation) (c : Coordinator) :
    ∃ a, announce e next c = (c.append e, .waits a) ∧ a.phase = next.phase ∧ a.shortlist = [] := by
  unfold announce
  dsimp only
  split <;> exact ⟨_, rfl, rfl, rfl⟩

theorem announce_cluster (e : FailoverEvent) (next : Continuation) (c : Coordinator) :
    (announce e next c).1.cluster = c.cluster := by
  obtain ⟨a, heq, _⟩ := announce_waits e next c
  rw [heq]
  rfl

theorem close_cluster (renewLevels : Bool) (answer : Answer) (c : Coordinator) :
    (close renewLevels answer c).1.cluster = c.cluster := by
  unfold close
  split <;> rfl

theorem announce_took {e : FailoverEvent} (h : c.Alike (some e.type) c') (next : Continuation) :
    c.log.Took (some e) (announce e next c').1.log := by
  obtain ⟨a, heq, _⟩ := announce_waits e next c'
  obtain ⟨stats, hl, hcounted⟩ := h.log
  rw [heq]
  exact ⟨stats, by simp only [append]; rw [hl]; rfl, hcounted⟩

/-- A section that ends with an event. -/
theorem turned_announce {e : FailoverEvent} {next : Continuation} (h : c.Alike (some e.type) c')
    (ht : Turn now c.settings.heartbeatTimeout chosen c.cluster p next.phase (some e) c'.cluster) :
    Turned now asked chosen p c (announce e next c') := by
  have htook := announce_took h next
  obtain ⟨a, heq, hp, hl⟩ := announce_waits e next c'
  rw [heq] at htook ⊢
  refine ⟨h.settings, h.observers, by simp [Progress.shortlist, hl], _, htook, ?_⟩
  rw [← hp] at ht
  exact ht

theorem turned_close {renewLevels : Bool} {answer : Answer} (h : c.Alike none c')
    (ht : Turn now c.settings.heartbeatTimeout chosen c.cluster p .plain none c'.cluster) :
    Turned now asked chosen p c (close renewLevels answer c') := by
  unfold close
  split
  · exact turned_unasked ⟨h.settings, h.observers, h.log⟩ rfl ht
  · exact turned_unasked h rfl ht

/-! ## Failovers -/

theorem beginFailover_turned {trigger : Trigger} {purpose : Purpose} (h : c.Alike none c')
    (hu : Upkeep c.settings.heartbeatTimeout now c.cluster c'.cluster) :
    Turned now asked chosen .plain c (beginFailover now trigger purpose c') := by
  unfold beginFailover
  split
  · rename_i hs
    exact turned_announce (h.trans ⟨rfl, rfl, _, rfl, FailoverStats.counted_initiated⟩)
      (Turn.begin hu hs ⟨rfl, rfl, rfl⟩)
  · exact turned_close h (.tend hu)

/-- In any state but the normal one nothing begins. -/
theorem beginFailover_skipped (hs : c.cluster.state ≠ .normal) (now : Moment) (trigger : Trigger)
    (purpose : Purpose) : beginFailover now trigger purpose c =
      close purpose.renewsLevels (purpose.answer (.skipped c.cluster.state)) c := by
  unfold beginFailover
  rw [if_neg hs]

theorem evaluate_turned (h : c.Alike none c')
    (hu : Upkeep c.settings.heartbeatTimeout now c.cluster c'.cluster) :
    Turned now asked chosen .plain c (evaluate now c') := by
  unfold evaluate
  split
  · exact beginFailover_turned h hu
  · exact turned_close h (.tend hu)

theorem failAttempt_turned {a : Attempt} {f : FailoverFailure} (h : c.Alike none c')
    (hk : c'.cluster = c.cluster) : Turned now asked chosen .failover c (failAttempt now a f c') := by
  unfold failAttempt conclude announceLast
  refine turned_announce (h.trans ⟨rfl, rfl, _, rfl, FailoverStats.counted_failed⟩) ?_
  simp only [updateStats, hk]
  exact Turn.fail ⟨rfl, rfl, rfl⟩

theorem cancelAttempt_turned {a : Attempt} (h : c.Alike none c') (hk : c'.cluster = c.cluster) :
    Turned now asked chosen .failover c (cancelAttempt now a c') := by
  unfold cancelAttempt conclude announceLast
  refine turned_announce (h.trans ⟨rfl, rfl, _, rfl, FailoverStats.counted_cancelled⟩) ?_
  simp only [updateStats, hk]
  exact Turn.cancel ⟨rfl, rfl, rfl⟩

theorem canPromote_iff {id : String} : c.canPromote id = true ↔
    c.cluster.state = .failoverInProgress ∧ ∃ n, c.cluster.node? id = some n ∧ n.active = true := by
  simp [canPromote, Option.any_eq_true]

theorem commitPromotion_turned {a : Attempt} {candidate : Candidate} :
    Turned now asked (some (a, candidate)) .failover c (commitPromotion now a candidate c) := by
  unfold commitPromotion
  split
  · rename_i hcan
    obtain ⟨hs, n, hn, hactive⟩ := canPromote_iff.mp hcan
    refine turned_announce ⟨rfl, rfl, _, rfl, FailoverStats.counted_completed _⟩ ?_
    exact Turn.commit rfl hs hn hactive rfl rfl ⟨rfl, rfl, rfl⟩
  · exact failAttempt_turned (.refl c) rfl

theorem tryNext_turned {a : Attempt} {deadline : Moment} {ranked : List (Candidate × Node)}
    (h : c.Alike none c') (hk : c'.cluster = c.cluster)
    (hr : ∀ x ∈ ranked, (a, x.1) ∈ asked ∨ a.failing ≠ some x.1.id) :
    Turned now asked chosen .failover c (tryNext now a deadline ranked c') := by
  cases ranked with
  | nil => exact failAttempt_turned h hk
  | cons x rest =>
    refine turned_quiet h ?_ (hk ▸ .stay .failover)
    intro y hy
    obtain ⟨z, hz, rfl⟩ := List.mem_map.mp (show y ∈ (x :: rest).map fun z => (a, z.1) from hy)
    exact hr z hz

/-- The node that is replaced is no candidate. -/
theorem candidates_differ {s : FailoverSettings} {nodes : List Node} {a : Attempt}
    {ranked : List (Candidate × Node)} (h : Selection.of s nodes a = .candidates ranked) :
    ∀ x ∈ ranked, a.failing ≠ some x.1.id := by
  intro x hx
  obtain ⟨n, _, he, hid⟩ := Selection.eligible h x hx
  simp only [Node.isEligible, Bool.and_eq_true, bne_iff_ne, hid] at he
  exact he.2

theorem selectCandidate_turned {a : Attempt} (h : c.Alike none c') (hk : c'.cluster = c.cluster) :
    Turned now asked chosen .failover c (selectCandidate now a c') := by
  unfold selectCandidate
  split
  · exact cancelAttempt_turned h hk
  · exact failAttempt_turned h hk
  · rename_i hranked
    exact tryNext_turned h hk fun x hx => Or.inr (candidates_differ hranked x hx)

theorem afterConnect_turned {a : Attempt} {deadline : Moment} {candidate : Candidate}
    {node : Node} {rest : List (Candidate × Node)} {reply : Option Bool} :
    Turned now (Activity.shortlist (.connecting a deadline candidate node rest))
      (Activity.chosen? (.connecting a deadline candidate node rest) reply) .failover c
      (afterConnect now a deadline candidate rest reply c) := by
  unfold afterConnect
  split
  · exact commitPromotion_turned
  · refine tryNext_turned (.refl c) rfl fun x hx => Or.inl ?_
    exact List.mem_cons_of_mem _ (List.mem_map_of_mem hx)
  · exact failAttempt_turned (.refl c) rfl

/-! ## Recoveries -/

theorem settle_turned : Turned now asked chosen .plain c (settle now c) := by
  unfold settle
  dsimp only
  split
  · rename_i hs
    refine turned_announce ⟨rfl, rfl, _, rfl, FailoverStats.counted_uncounted rfl⟩
      (Turn.release ?_ ?_ ⟨rfl, rfl, rfl⟩)
    · intro hn
      simp [hn, ClusterState.isSettled] at hs
    · revert hs
      cases c.cluster.state <;> simp [ClusterState.isSettled, ClusterState.isTransitional]
  · exact turned_close (.refl c) (.stay .plain)

theorem beginRecovery_turned {id : String} : Turned now asked chosen .plain c (beginRecovery now id c) := by
  unfold beginRecovery
  dsimp only
  split
  · rename_i hs
    exact turned_announce ⟨rfl, rfl, _, rfl, FailoverStats.counted_uncounted rfl⟩
      (Turn.recover hs ⟨rfl, rfl, rfl⟩)
  · exact turned_close (.refl c) (.stay .plain)

theorem checkRecovery_turned : Turned now asked chosen .plain c (checkRecovery now c) := by
  unfold checkRecovery
  have hclose : Turned now asked chosen .plain c (close true .done c) := turned_close (.refl c) (.stay .plain)
  repeat' split
  · exact hclose
  · exact hclose
  · exact beginRecovery_turned
  · exact hclose
  · exact settle_turned

theorem rejoin_turned {id : String} (h : c.Alike none c') (hk : c'.cluster = c.cluster) :
    Turned now asked chosen .recovery c (rejoin now id c') := by
  unfold rejoin
  refine turned_announce (h.trans ⟨rfl, rfl, _, rfl, FailoverStats.counted_recovered⟩) ?_
  simp only [updateStats, hk]
  exact Turn.rejoin id ⟨rfl, rfl, rfl⟩

theorem reopen_turned (h : c.Alike none c') (hk : c'.cluster = c.cluster) :
    Turned now asked chosen .reopening c (reopen now c') := by
  unfold reopen announceLast
  refine turned_announce (h.trans ⟨rfl, rfl, _, rfl, FailoverStats.counted_uncounted rfl⟩) ?_
  simp only [hk]
  exact Turn.reopen ⟨rfl, rfl, rfl⟩

/-! ## Orders of an operator -/

theorem refuse_turned {e : FailoverError} : Turned now asked chosen .plain c (refuse e c) :=
  turned_close (.refl c) (.stay .plain)

theorem promotionFault?_eq_none {id : String} (h : c.promotionFault? id = none) :
    c.cluster.state.isTransitional = false ∧
      ∃ n, c.cluster.node? id = some n ∧ n.active = true ∧ n.isHealthy = true ∧
        c.cluster.isPrimary id = false := by
  unfold promotionFault? at h
  split at h
  · cases h
  · rename_i hs
    refine ⟨by simpa using hs, ?_⟩
    split at h
    · cases h
    · rename_i n hn
      split at h
      · cases h
      · rename_i hwell
        split at h
        · cases h
        · rename_i hp
          simp only [Bool.or_eq_true, Bool.not_eq_eq_eq_not, Bool.not_true, not_or,
            Bool.not_eq_false] at hwell
          exact ⟨n, hn, hwell.1, hwell.2, by simpa using hp⟩

theorem promotionFault?_of_fit {id : String} {n : Node}
    (hs : c.cluster.state.isTransitional = false) (hn : c.cluster.node? id = some n)
    (ha : n.active = true) (hh : n.isHealthy = true) (hp : c.cluster.isPrimary id = false) :
    c.promotionFault? id = none := by
  simp [promotionFault?, hs, hn, ha, hh, hp]

theorem promoteNode_turned {id : String} : Turned now asked chosen .plain c (promoteNode now id c) := by
  unfold promoteNode
  split
  · exact refuse_turned
  · rename_i hfault
    obtain ⟨hs, n, hn, ha, hh, hp⟩ := promotionFault?_eq_none hfault
    exact turned_announce ⟨rfl, rfl, _, rfl, FailoverStats.counted_uncounted rfl⟩
      (Turn.promote hs hn ha hh hp ⟨rfl, rfl, rfl⟩)

theorem acknowledge_turned : Turned now asked chosen .plain c (acknowledge now c) := by
  unfold acknowledge
  dsimp only
  split
  · exact turned_close (.refl c) (.stay .plain)
  · rename_i hn
    split
    · exact refuse_turned
    · rename_i hs
      exact turned_announce ⟨rfl, rfl, _, rfl, FailoverStats.counted_uncounted rfl⟩
        (Turn.release hn (by simpa using hs) ⟨rfl, rfl, rfl⟩)

theorem orderFailover_turned {reason : String} :
    Turned now asked chosen .plain c (orderFailover now reason c) := by
  unfold orderFailover
  split
  · exact refuse_turned
  · exact beginFailover_turned (.refl c) .nothing

theorem removeNode_turned {id : String} : Turned now asked chosen .plain c (removeNode now id c) := by
  unfold removeNode
  split
  · exact refuse_turned
  · rename_i removal cluster hr
    dsimp only
    split
    · exact beginFailover_turned (alike_of_log rfl rfl rfl) (.leave hr)
    · exact turned_close (alike_of_log rfl rfl rfl) (.tend (.leave hr))

/-! ## Rounds -/

theorem afterPings_turned {targets : List Node} {answers : List Bool} :
    Turned now asked chosen .plain c (afterPings now targets answers c) := by
  unfold afterPings
  dsimp only
  have hu : Upkeep c.settings.heartbeatTimeout now c.cluster _ :=
    .round ((targets.map (·.id)).zip answers)
  split
  · split
    · exact beginFailover_turned (alike_of_log rfl rfl rfl) hu
    · exact turned_close (alike_of_log rfl rfl rfl) (.tend hu)
  · exact turned_close (alike_of_log rfl rfl rfl) (.tend hu)

theorem afterProbes_turned {targets : List Node} {results : List (ProbeResult Float)} :
    Turned now asked chosen .plain c (afterProbes now targets results c) := by
  unfold afterProbes
  exact evaluate_turned (alike_of_log rfl rfl rfl) (.sweep _)

theorem watch_turned : Turned now asked chosen .plain c (watch now c) := by
  unfold watch
  repeat' split
  · exact evaluate_turned (.refl c) .nothing
  · exact checkRecovery_turned
  · exact turned_close (.refl c) (.stay .plain)

/-! ## Every section -/

theorem firstSection_turned (now : Moment) (op : Operation) (c : Coordinator) :
    Turned now [] none .plain c (firstSection now op c) := by
  cases op with
  | heartbeatRound => exact turned_unasked (.refl c) rfl (.stay .plain)
  | healthSweep => exact turned_unasked (.refl c) rfl (.stay .plain)
  | watch => exact watch_turned
  | trigger reason => exact orderFailover_turned
  | promote id => exact promoteNode_turned
  | acknowledge => exact acknowledge_turned
  | remove id => exact removeNode_turned

theorem proceed_turned {next : Continuation} (h : c.Alike none c') (hk : c'.cluster = c.cluster) :
    Turned now asked chosen next.phase c (proceed now next c') := by
  cases next with
  | select a => exact selectCandidate_turned h hk
  | rejoin id => exact rejoin_turned h hk
  | reopen => exact reopen_turned h hk
  | close renewLevels answer => exact turned_close h (hk ▸ .stay .plain)

theorem alike_countHookFailures (c : Coordinator) (failures : Nat) :
    c.Alike none (c.countHookFailures failures) ∧
      (c.countHookFailures failures).cluster = c.cluster := by
  unfold countHookFailures
  split
  · exact ⟨.refl c, rfl⟩
  · exact ⟨⟨rfl, rfl, _, rfl, FailoverStats.counted_callbackErrors _⟩, rfl⟩

theorem nextSection_turned (now : Moment) (a : Activity) (reply : a.Reply) (c : Coordinator) :
    Turned now a.shortlist (a.chosen? reply) a.phase c (nextSection now a reply c) := by
  cases a with
  | pinging targets => exact afterPings_turned
  | probing targets => exact afterProbes_turned
  | connecting a deadline candidate node rest => exact afterConnect_turned
  | ready next => exact proceed_turned (.refl c) rfl
  | announcing hook rest failures next =>
    change Turned now [] none next.phase c (afterHook now rest failures next reply c)
    unfold afterHook
    dsimp only
    split
    · exact turned_unasked (.refl c) rfl (.stay next.phase)
    · exact proceed_turned (alike_countHookFailures c _).1 (alike_countHookFailures c _).2

end Coordinator

/-! ## What an order can do -/

/-- The ways in which an order changes a cluster. -/
inductive Ordered (k : Cluster) : Cluster → Prop
  | nothing : Ordered k k
  | join {n : Node} {k' : Cluster} (h : k.add n = .ok k') : Ordered k k'
  | leave {id : String} {r : Removal} {k' : Cluster} (h : k.remove id = .ok (r, k')) : Ordered k k'
  | maintain {id : String} {enabled : Bool} {k' : Cluster} (h : k.setMaintenance id enabled = .ok k') :
      Ordered k k'

/-- An order changes the members at most, or brings an observer. -/
structure Obeyed (c c' : Coordinator) : Prop where
  settings : c'.settings = c.settings
  log : c'.log = c.log
  cluster : Ordered c.cluster c'.cluster

theorem order_obeyed (now : Moment) (c : Coordinator) (o : Order) : Obeyed c (o.apply now c) := by
  cases o with
  | join spec =>
    simp only [Order.apply, Coordinator.addNode]
    split
    · rename_i k' h
      exact ⟨rfl, rfl, .join h⟩
    · exact ⟨rfl, rfl, .nothing⟩
  | register n =>
    simp only [Order.apply]
    cases h : c.cluster.add n with
    | ok k' => exact ⟨rfl, rfl, .join h⟩
    | error _ => exact ⟨rfl, rfl, .nothing⟩
  | unregister id =>
    simp only [Order.apply]
    cases h : c.cluster.remove id with
    | ok r => exact ⟨rfl, rfl, .leave h⟩
    | error _ => exact ⟨rfl, rfl, .nothing⟩
  | maintenance id enabled =>
    simp only [Order.apply, Coordinator.setMaintenance]
    split
    · rename_i k' h
      exact ⟨rfl, rfl, .maintain h⟩
    · exact ⟨rfl, rfl, .nothing⟩
  | observe => exact ⟨rfl, rfl, .nothing⟩

end Failover
