import Failover.Proofs.Sections
import Failover.Proofs.Tables

-- Two runs of one section, side by side. What a section does depends on the
-- cluster, the settings and the answer it goes on with. The observers and the
-- time spent on them reach the times of the events and of a completed
-- failover, and nothing else.

namespace Failover

/-! ## What does not depend on the observers -/

/-- What an event says, whenever it happened and however long the failover
took. -/
def FailoverEvent.gist (e : FailoverEvent) : FailoverEvent :=
  { e with time := ⟨0, false⟩, metadata := e.metadata.erase "failover_time_ms" }

/-- The statistics are equal, but for the failures of hooks and the mean
duration of a failover. -/
structure FailoverStats.Akin (s s' : FailoverStats) : Prop where
  initiated : s'.initiated = s.initiated
  completed : s'.completed = s.completed
  failed : s'.failed = s.failed
  recoveries : s'.recoveries = s.recoveries
  falseAlarms : s'.falseAlarms = s.falseAlarms

/-- The logs have taken as many events, and the events that they keep say the
same. -/
structure EventLog.Akin (log log' : EventLog) : Prop where
  capacity : log'.capacity = log.capacity
  appended : log'.appended = log.appended
  events : log'.events.map FailoverEvent.gist = log.events.map FailoverEvent.gist
  stats : log.stats.Akin log'.stats

/-- The operation begins with a question to the nodes. -/
def Operation.polls : Operation → Bool
  | heartbeatRound | healthSweep => true
  | _ => false

namespace Coordinator

/-- Two coordinators of one cluster. Their observers may differ. -/
structure Akin (c c' : Coordinator) : Prop where
  id : c'.id = c.id
  settings : c'.settings = c.settings
  cluster : c'.cluster = c.cluster
  log : c.log.Akin c'.log

/-- No event was recorded, and no failure of a hook was counted. -/
structure Quiet (c k : Coordinator) : Prop where
  id : k.id = c.id
  settings : k.settings = c.settings
  observers : k.observers = c.observers
  log : ∃ stats, k.log = { c.log with stats } ∧ stats.callbackErrors = c.log.stats.callbackErrors

/-- Two coordinators have come as far as here, and nothing was recorded on the
way. -/
structure Beside (c c' k k' : Coordinator) : Prop where
  left : c.Quiet k
  right : c'.Quiet k'
  akin : k.Akin k'

/-- The same section, at these two moments, leaves its operation in the same
place: it is over with the same answer, asks the same candidate for the same
time, or announces events that say the same and goes on alike. -/
inductive Abreast (now now' : Moment) (c c' : Coordinator) :
    Coordinator × Progress → Coordinator × Progress → Prop
  | ends {k k' : Coordinator} (answer : Answer) (h : Beside c c' k k') :
      Abreast now now' c c' (k, .ends answer) (k', .ends answer)
  | asks {k k' : Coordinator} (a : Attempt) {deadline deadline' : Moment} (candidate : Candidate)
      (node : Node) (rest : List (Candidate × Node)) (h : Beside c c' k k')
      (hleft : deadline'.since now' = deadline.since now) :
      Abreast now now' c c' (k, .waits (.connecting a deadline candidate node rest))
        (k', .waits (.connecting a deadline' candidate node rest))
  | announces {k k' : Coordinator} {e e' : FailoverEvent} (next : Continuation)
      (h : Beside c c' k k') (he : e'.gist = e.gist) :
      Abreast now now' c c' (announce e next k) (announce e' next k')

end Coordinator

/-! ## Logs -/

theorem FailoverStats.Akin.refl (s : FailoverStats) : s.Akin s := ⟨rfl, rfl, rfl, rfl, rfl⟩

/-- Both count an event of one type. -/
theorem FailoverStats.Akin.counted {s s' t t' : FailoverStats} {type : Option EventType}
    (h : s.Akin s') (ht : s.Counted type t) (ht' : s'.Counted type t') : t.Akin t' := by
  constructor
  · rw [ht' .failoverInitiated _ rfl, ht .failoverInitiated _ rfl, h.initiated]
  · rw [ht' .failoverCompleted _ rfl, ht .failoverCompleted _ rfl, h.completed]
  · rw [ht' .failoverFailed _ rfl, ht .failoverFailed _ rfl, h.failed]
  · rw [ht' .recoveryCompleted _ rfl, ht .recoveryCompleted _ rfl, h.recoveries]
  · rw [ht' .failoverCancelled _ rfl, ht .failoverCancelled _ rfl, h.falseAlarms]

theorem EventLog.Akin.refl (log : EventLog) : log.Akin log := ⟨rfl, rfl, rfl, .refl _⟩

theorem EventLog.Akin.append {log log' : EventLog} (h : log.Akin log') {e e' : FailoverEvent}
    (he : e'.gist = e.gist) : (log.append e).Akin (log'.append e') := by
  refine ⟨h.capacity, congrArg (· + 1) h.appended, ?_, h.stats⟩
  have hlength : log'.events.length = log.events.length := by
    simpa only [List.length_map] using congrArg List.length h.events
  have hstaying : log'.staying.map FailoverEvent.gist = log.staying.map FailoverEvent.gist := by
    unfold EventLog.staying
    rw [hlength, h.capacity]
    split
    · rw [List.map_tail, List.map_tail, h.events]
    · exact h.events
  simp only [EventLog.append, List.map_append, List.map_cons, List.map_nil, hstaying, he]

theorem Moment.since_plus (m : Moment) (s : Span) : (m.plus s).since m = s := by
  show m.nanos + s - m.nanos = s
  omega

theorem Moment.since_later (m n : Moment) (s : Span) : m.since (n.plus s) = m.since n - s := by
  show m.nanos - (n.nanos + s) = m.nanos - n.nanos - s
  omega

namespace Coordinator

/-- The notes on a completed failover differ in its duration only. -/
theorem completionNotes_erase (candidate : Candidate) (ms ms' : Float) (previous : Option String) :
    (completionNotes candidate ms' previous).erase "failover_time_ms" =
      (completionNotes candidate ms previous).erase "failover_time_ms" := by
  refine Table.eq_of_get? fun name => ?_
  by_cases h : name = "failover_time_ms"
  · simp [h]
  · cases previous <;> simp [completionNotes, Table.ofList, h]

variable {now now' : Moment} {c c' k k' l l' : Coordinator}

/-! ## Side by side -/

theorem Quiet.refl (c : Coordinator) : c.Quiet c := ⟨rfl, rfl, rfl, _, rfl, rfl⟩

theorem Quiet.trans (h : c.Quiet k) (h' : k.Quiet l) : c.Quiet l := by
  obtain ⟨stats, hl, he⟩ := h.log
  obtain ⟨stats', hl', he'⟩ := h'.log
  rw [hl] at hl' he'
  exact ⟨h'.id.trans h.id, h'.settings.trans h.settings, h'.observers.trans h.observers, stats', hl',
    he'.trans he⟩

theorem Akin.refl (c : Coordinator) : c.Akin c := ⟨rfl, rfl, rfl, .refl _⟩

theorem Akin.beside (h : c.Akin c') : Beside c c' c c' := ⟨.refl c, .refl c', h⟩

/-- Both go on quietly, to one cluster and to statistics that have counted the
same. -/
theorem Beside.go (h : Beside c c' k k') (hq : k.Quiet l) (hq' : k'.Quiet l')
    (hk : l'.cluster = l.cluster) (hs : l.log.stats.Akin l'.log.stats) : Beside c c' l l' := by
  refine ⟨h.left.trans hq, h.right.trans hq', ?_, ?_, hk, ?_, ?_, ?_, hs⟩
  · rw [hq'.id, hq.id, h.akin.id]
  · rw [hq'.settings, hq.settings, h.akin.settings]
  all_goals
    obtain ⟨stats, hl, -⟩ := hq.log
    obtain ⟨stats', hl', -⟩ := hq'.log
    rw [hl, hl']
  · exact h.akin.log.capacity
  · exact h.akin.log.appended
  · exact h.akin.log.events

/-- Events that happen at two moments have the same number. -/
theorem newEvent_gist (h : c'.log.appended = c.log.appended) (type : EventType)
    (old new : ClusterState) (reason : String) :
    (c'.newEvent now' type old new reason).gist = (c.newEvent now type old new reason).gist := by
  simp only [newEvent, FailoverEvent.gist, h]

theorem close_abreast (h : Beside c c' k k') (renewLevels : Bool) (answer : Answer) :
    Abreast now now' c c' (close renewLevels answer k) (close renewLevels answer k') := by
  unfold close
  split
  · exact .ends answer (h.go ⟨rfl, rfl, rfl, _, rfl, rfl⟩ ⟨rfl, rfl, rfl, _, rfl, rfl⟩
      h.akin.cluster h.akin.log.stats)
  · exact .ends answer h

/-! ## Failovers -/

theorem failAttempt_abreast (h : Beside c c' k k') (a : Attempt) (f : FailoverFailure) :
    Abreast now now' c c' (failAttempt now a f k) (failAttempt now' a f k') := by
  unfold failAttempt
  rw [h.akin.cluster]
  refine .announces _ (h.go ⟨rfl, rfl, rfl, _, rfl, rfl⟩ ⟨rfl, rfl, rfl, _, rfl, rfl⟩ rfl
    (h.akin.log.stats.counted FailoverStats.counted_failed FailoverStats.counted_failed)) ?_
  exact congrArg (fun e => { e with trigger := a.failing }) (newEvent_gist h.akin.log.appended _ _ _ _)

theorem cancelAttempt_abreast (h : Beside c c' k k') (a : Attempt) :
    Abreast now now' c c' (cancelAttempt now a k) (cancelAttempt now' a k') := by
  unfold cancelAttempt
  rw [h.akin.cluster]
  refine .announces _ (h.go ⟨rfl, rfl, rfl, _, rfl, rfl⟩ ⟨rfl, rfl, rfl, _, rfl, rfl⟩ rfl
    (h.akin.log.stats.counted FailoverStats.counted_cancelled FailoverStats.counted_cancelled)) ?_
  exact congrArg (fun e => { e with trigger := a.failing }) (newEvent_gist h.akin.log.appended _ _ _ _)

theorem commitPromotion_abreast (h : Beside c c' k k') (a : Attempt) (candidate : Candidate) :
    Abreast now now' c c' (commitPromotion now a candidate k) (commitPromotion now' a candidate k') := by
  have hcan : k'.canPromote candidate.id = k.canPromote candidate.id := by
    unfold canPromote
    rw [h.akin.cluster]
  unfold commitPromotion
  rw [hcan]
  split
  · rw [h.akin.cluster]
    refine .announces _ (h.go ⟨rfl, rfl, rfl, _, rfl, rfl⟩ ⟨rfl, rfl, rfl, _, rfl, rfl⟩
      (by simp only [updateStats])
      (h.akin.log.stats.counted (FailoverStats.counted_completed _) (FailoverStats.counted_completed _)))
      ?_
    simp only [newEvent, FailoverEvent.gist, updateStats, EventLog.updateStats, h.akin.log.appended]
    rw [completionNotes_erase]
  · exact failAttempt_abreast h a _

/-- The candidates are asked for the same time. -/
theorem tryNext_abreast (h : Beside c c' k k') (a : Attempt) {deadline deadline' : Moment}
    (hleft : deadline'.since now' = deadline.since now) (ranked : List (Candidate × Node)) :
    Abreast now now' c c' (tryNext now a deadline ranked k) (tryNext now' a deadline' ranked k') := by
  cases ranked with
  | nil => exact failAttempt_abreast h a _
  | cons x rest => exact .asks a x.1 x.2 rest h hleft

theorem selectCandidate_abreast (h : Beside c c' k k') (a : Attempt) :
    Abreast now now' c c' (selectCandidate now a k) (selectCandidate now' a k') := by
  unfold selectCandidate
  rw [h.akin.cluster, h.akin.settings]
  split
  · exact cancelAttempt_abreast h a
  · exact failAttempt_abreast h a _
  · exact tryNext_abreast h a (by rw [Moment.since_plus, Moment.since_plus]) _

theorem afterConnect_abreast (h : Beside c c' k k') (a : Attempt) {deadline deadline' : Moment}
    (hleft : deadline'.since now' = deadline.since now) (candidate : Candidate)
    (rest : List (Candidate × Node)) (reply : Option Bool) :
    Abreast now now' c c' (afterConnect now a deadline candidate rest reply k)
      (afterConnect now' a deadline' candidate rest reply k') := by
  unfold afterConnect
  split
  · exact commitPromotion_abreast h a candidate
  · exact tryNext_abreast h a hleft rest
  · rw [h.akin.settings]
    exact failAttempt_abreast h a _

/-- A failover begins before anybody is told of it, at the same time. -/
theorem beginFailover_abreast (h : Beside c c' k k') (trigger : Trigger) (purpose : Purpose) :
    Abreast now now c c' (beginFailover now trigger purpose k) (beginFailover now trigger purpose k') := by
  unfold beginFailover
  rw [h.akin.cluster, h.akin.id]
  split
  · refine .announces _ (h.go ⟨rfl, rfl, rfl, _, rfl, rfl⟩ ⟨h.akin.id.symm, rfl, rfl, _, rfl, rfl⟩ rfl
      (h.akin.log.stats.counted FailoverStats.counted_initiated FailoverStats.counted_initiated)) ?_
    exact congrArg (fun e => { e with
        trigger := trigger.node?.or k.cluster.primary
        metadata := (Table.ofList [("initiator", Data.text k.id)]).erase "failover_time_ms" })
      (newEvent_gist h.akin.log.appended _ _ _ _)
  · exact close_abreast h _ _

theorem evaluate_abreast (h : Beside c c' k k') :
    Abreast now now c c' (evaluate now k) (evaluate now k') := by
  have hcondition : k'.failoverCondition? = k.failoverCondition? := by
    unfold failoverCondition?
    rw [h.akin.cluster, h.akin.settings]
  unfold evaluate
  rw [hcondition]
  split
  · exact beginFailover_abreast h _ _
  · exact close_abreast h _ _

/-! ## Recoveries -/

theorem settle_abreast (h : Beside c c' k k') :
    Abreast now now' c c' (settle now k) (settle now' k') := by
  unfold settle settleAs
  rw [h.akin.cluster]
  dsimp only
  split
  · exact .announces _ (h.go ⟨rfl, rfl, rfl, _, rfl, rfl⟩ ⟨rfl, rfl, rfl, _, rfl, rfl⟩ rfl
      h.akin.log.stats) (newEvent_gist h.akin.log.appended _ _ _ _)
  · exact close_abreast h _ _

theorem reopen_abreast (h : Beside c c' k k') :
    Abreast now now' c c' (reopen now k) (reopen now' k') := by
  unfold reopen
  rw [h.akin.cluster]
  exact .announces _ (h.go ⟨rfl, rfl, rfl, _, rfl, rfl⟩ ⟨rfl, rfl, rfl, _, rfl, rfl⟩ rfl
    h.akin.log.stats) (newEvent_gist h.akin.log.appended _ _ _ _)

theorem rejoin_abreast (h : Beside c c' k k') (id : String) :
    Abreast now now' c c' (rejoin now id k) (rejoin now' id k') := by
  unfold rejoin
  rw [h.akin.cluster]
  refine .announces _ (h.go ⟨rfl, rfl, rfl, _, rfl, rfl⟩ ⟨rfl, rfl, rfl, _, rfl, rfl⟩ rfl
    (h.akin.log.stats.counted FailoverStats.counted_recovered FailoverStats.counted_recovered)) ?_
  exact congrArg (fun e => { e with trigger := some id }) (newEvent_gist h.akin.log.appended _ _ _ _)

theorem beginRecovery_abreast (h : Beside c c' k k') (id : String) :
    Abreast now now' c c' (beginRecovery now id k) (beginRecovery now' id k') := by
  unfold beginRecovery
  rw [h.akin.cluster]
  dsimp only
  split
  · refine .announces _ (h.go ⟨rfl, rfl, rfl, _, rfl, rfl⟩ ⟨rfl, rfl, rfl, _, rfl, rfl⟩ rfl
      h.akin.log.stats) ?_
    exact congrArg (fun e => { e with trigger := some id }) (newEvent_gist h.akin.log.appended _ _ _ _)
  · exact close_abreast h _ _

/-- Whether a recovery is due depends on the time. -/
theorem checkRecovery_abreast (h : Beside c c' k k') :
    Abreast now now c c' (checkRecovery now k) (checkRecovery now k') := by
  unfold checkRecovery
  rw [h.akin.cluster, h.akin.settings]
  repeat' split
  · exact close_abreast h _ _
  · exact close_abreast h _ _
  · exact beginRecovery_abreast h _
  · exact close_abreast h _ _
  · exact settle_abreast h

/-! ## Orders of an operator -/

theorem promoteNode_abreast (h : Beside c c' k k') (id : String) :
    Abreast now now' c c' (promoteNode now id k) (promoteNode now' id k') := by
  have hfault : k'.promotionFault? id = k.promotionFault? id := by
    unfold promotionFault?
    rw [h.akin.cluster]
  unfold promoteNode refuse settleAs
  rw [hfault, h.akin.cluster]
  split
  · exact close_abreast h _ _
  · refine .announces _ (h.go ⟨rfl, rfl, rfl, _, rfl, rfl⟩ ⟨rfl, rfl, rfl, _, rfl, rfl⟩ rfl
      h.akin.log.stats) ?_
    exact congrArg (fun e => { e with trigger := k.cluster.primaryBefore id, target := some id })
      (newEvent_gist h.akin.log.appended _ _ _ _)

theorem acknowledge_abreast (h : Beside c c' k k') :
    Abreast now now' c c' (acknowledge now k) (acknowledge now' k') := by
  unfold acknowledge refuse settleAs
  rw [h.akin.cluster]
  dsimp only
  repeat' split
  · exact close_abreast h _ _
  · exact close_abreast h _ _
  · exact .announces _ (h.go ⟨rfl, rfl, rfl, _, rfl, rfl⟩ ⟨rfl, rfl, rfl, _, rfl, rfl⟩ rfl
      h.akin.log.stats) (newEvent_gist h.akin.log.appended _ _ _ _)

theorem orderFailover_abreast (h : Beside c c' k k') (reason : String) :
    Abreast now now c c' (orderFailover now reason k) (orderFailover now reason k') := by
  unfold orderFailover refuse
  rw [h.akin.cluster]
  split
  · exact close_abreast h _ _
  · exact beginFailover_abreast h _ _

theorem removeNode_abreast (h : Beside c c' k k') (id : String) :
    Abreast now now c c' (removeNode now id k) (removeNode now id k') := by
  unfold removeNode refuse updateLevels
  rw [h.akin.cluster]
  split
  · exact close_abreast h _ _
  · dsimp only
    split
    · refine beginFailover_abreast ?_ _ _
      exact h.go ⟨rfl, rfl, rfl, _, rfl, rfl⟩ ⟨rfl, rfl, rfl, _, rfl, rfl⟩ rfl h.akin.log.stats
    · refine close_abreast ?_ _ _
      exact h.go ⟨rfl, rfl, rfl, _, rfl, rfl⟩ ⟨rfl, rfl, rfl, _, rfl, rfl⟩ rfl h.akin.log.stats

/-! ## Rounds -/

theorem afterPings_abreast (h : Beside c c' k k') (targets : List Node) (answers : List Bool) :
    Abreast now now c c' (afterPings now targets answers k) (afterPings now targets answers k') := by
  unfold afterPings
  rw [h.akin.cluster, h.akin.settings]
  dsimp only
  repeat' split
  · refine beginFailover_abreast ?_ _ _
    exact h.go ⟨rfl, rfl, rfl, _, rfl, rfl⟩ ⟨rfl, h.akin.settings.symm, rfl, _, rfl, rfl⟩ rfl
      h.akin.log.stats
  all_goals
    refine close_abreast ?_ _ _
    exact h.go ⟨rfl, rfl, rfl, _, rfl, rfl⟩ ⟨rfl, h.akin.settings.symm, rfl, _, rfl, rfl⟩ rfl
      h.akin.log.stats

theorem afterProbes_abreast (h : Beside c c' k k') (targets : List Node)
    (results : List (ProbeResult Float)) :
    Abreast now now c c' (afterProbes now targets results k) (afterProbes now targets results k') := by
  unfold afterProbes
  rw [h.akin.cluster, h.akin.settings]
  refine evaluate_abreast ?_
  exact h.go ⟨rfl, rfl, rfl, _, rfl, rfl⟩ ⟨rfl, h.akin.settings.symm, rfl, _, rfl, rfl⟩ rfl
    h.akin.log.stats

theorem watch_abreast (h : Beside c c' k k') :
    Abreast now now c c' (watch now k) (watch now k') := by
  unfold watch
  rw [h.akin.cluster, h.akin.settings]
  repeat' split
  · exact evaluate_abreast h
  · exact checkRecovery_abreast h
  · exact close_abreast h _ _

/-! ## Sections -/

/-- Whoever heard of an event, and however long that took: what follows it is
the same. -/
theorem proceed_abreast (h : Beside c c' k k') (next : Continuation) :
    Abreast now now' c c' (proceed now next k) (proceed now' next k') := by
  cases next with
  | select a => exact selectCandidate_abreast h a
  | rejoin id => exact rejoin_abreast h id
  | reopen => exact reopen_abreast h
  | close renewLevels answer => exact close_abreast h renewLevels answer

/-- The first section of an operation that does not ask the nodes first. -/
theorem firstSection_abreast (h : Beside c c' k k') {op : Operation} (hop : op.polls = false) :
    Abreast now now c c' (firstSection now op k) (firstSection now op k') := by
  cases op with
  | heartbeatRound | healthSweep => cases hop
  | watch => exact watch_abreast h
  | trigger reason => exact orderFailover_abreast h reason
  | promote id => exact promoteNode_abreast h id
  | acknowledge => exact acknowledge_abreast h
  | remove id => exact removeNode_abreast h id

end Coordinator

/-! ## What a section tells the observers -/

/-- The hooks that are not over. -/
def Activity.hooks : Activity → List Hook
  | announcing hook rest _ _ => hook :: rest
  | _ => []

def Progress.hooks : Progress → List Hook
  | waits a => a.hooks
  | ends _ => []

/-- The failures that are still to be counted. -/
def Activity.failures : Activity → Nat
  | announcing _ _ failures _ => failures
  | _ => 0

def Progress.failures : Progress → Nat
  | waits a => a.failures
  | ends _ => 0

/-- The operation waits for the nodes to answer. -/
def Activity.polls : Activity → Bool
  | pinging _ | probing _ => true
  | _ => false

def Progress.polls : Progress → Bool
  | waits a => a.polls
  | ends _ => false

namespace Coordinator

/-! A section is abreast of itself, and so shows where it can stop. -/

theorem proceed_abreast_self (now : Moment) (next : Continuation) (c : Coordinator) :
    Abreast now now c c (proceed now next c) (proceed now next c) :=
  proceed_abreast (Akin.refl c).beside next

theorem nextSection_abreast_self {a : Activity} (ha : a.hooks = []) (now : Moment) (reply : a.Reply)
    (c : Coordinator) :
    Abreast now now c c (nextSection now a reply c) (nextSection now a reply c) := by
  have h := (Akin.refl c).beside
  cases a with
  | pinging targets => exact afterPings_abreast h targets reply
  | probing targets => exact afterProbes_abreast h targets reply
  | connecting a deadline candidate node rest => exact afterConnect_abreast h a rfl candidate rest reply
  | ready next => exact proceed_abreast_self now next c
  | announcing => cases ha

theorem announce_polls (e : FailoverEvent) (next : Continuation) (c : Coordinator) :
    (announce e next c).2.polls = false := by
  unfold announce
  dsimp only
  split <;> rfl

theorem Abreast.polls {now now' : Moment} {c c' : Coordinator} {r r' : Coordinator × Progress}
    (h : Abreast now now' c c' r r') : r.2.polls = false := by
  cases h with
  | ends | asks => rfl
  | announces next => exact announce_polls _ next _

theorem firstSection_polls (now : Moment) {op : Operation} (hop : op.polls = false)
    (c : Coordinator) : (firstSection now op c).2.polls = false :=
  (firstSection_abreast (Akin.refl c).beside hop).polls

/-- Only at its start does an operation ask the nodes. -/
theorem nextSection_polls (now : Moment) (a : Activity) (reply : a.Reply) (c : Coordinator) :
    (nextSection now a reply c).2.polls = false := by
  cases a with
  | announcing hook rest failures next =>
    cases rest with
    | nil => exact (proceed_abreast_self now next _).polls
    | cons => rfl
  | pinging | probing | connecting | ready =>
    exact (nextSection_abreast_self rfl now reply c).polls

end Coordinator

/-- A section has recorded this event, or none, and its hooks are called
next. -/
structure Coordinator.Calls (c : Coordinator) (e : Option FailoverEvent)
    (r : Coordinator × Progress) : Prop where
  settings : r.1.settings = c.settings
  observers : r.1.observers = c.observers
  events : r.1.log.since c.log.appended = e.toList
  errors : r.1.log.stats.callbackErrors = c.log.stats.callbackErrors
  hooks : r.2.hooks = e.toList.flatMap (·.hooks c.observers)
  failures : r.2.failures = 0

namespace Coordinator

variable {now now' : Moment} {c c' k : Coordinator} {r r' : Coordinator × Progress}

theorem Quiet.since (h : c.Quiet k) : k.log.since c.log.appended = [] := by
  obtain ⟨stats, hl, -⟩ := h.log
  rw [hl]
  exact c.log.since_appended

theorem Quiet.since_append (h : c.Quiet k) (e : FailoverEvent) :
    (k.append e).log.since c.log.appended = [e] := by
  obtain ⟨stats, hl, -⟩ := h.log
  simp only [append, hl]
  exact c.log.since_append e

theorem Quiet.errors (h : c.Quiet k) : k.log.stats.callbackErrors = c.log.stats.callbackErrors := by
  obtain ⟨stats, hl, he⟩ := h.log
  rw [hl, he]

theorem Quiet.calls (h : c.Quiet k) {progress : Progress} (hh : progress.hooks = [])
    (hf : progress.failures = 0) : c.Calls none (k, progress) :=
  ⟨h.settings, h.observers, h.since, h.errors, hh, hf⟩

theorem announce_calls (h : c.Quiet k) (e : FailoverEvent) (next : Continuation) :
    c.Calls (some e) (announce e next k) := by
  have hobservers : (k.append e).observers = c.observers := h.observers
  unfold announce
  dsimp only
  split
  · rename_i hnone
    refine ⟨h.settings, hobservers, h.since_append e, h.errors, ?_, rfl⟩
    simpa [Progress.hooks, Activity.hooks, hobservers] using hnone.symm
  · rename_i hook rest hsome
    refine ⟨h.settings, hobservers, h.since_append e, h.errors, ?_, rfl⟩
    simpa [Progress.hooks, Activity.hooks, hobservers] using hsome.symm

theorem Abreast.calls (h : Abreast now now' c c' r r') : ∃ e, c.Calls e r := by
  cases h with
  | ends answer h => exact ⟨none, h.left.calls rfl rfl⟩
  | asks a candidate node rest h => exact ⟨none, h.left.calls rfl rfl⟩
  | announces next h => exact ⟨_, announce_calls h.left _ next⟩

theorem firstSection_calls (now : Moment) (op : Operation) (c : Coordinator) :
    ∃ e, c.Calls e (firstSection now op c) := by
  by_cases hop : op.polls = true
  · cases op with
    | heartbeatRound | healthSweep => exact ⟨none, (Quiet.refl c).calls rfl rfl⟩
    | watch | trigger | promote | acknowledge | remove => cases hop
  · exact (firstSection_abreast (Akin.refl c).beside (by simpa using hop)).calls

theorem proceed_calls (now : Moment) (next : Continuation) (c : Coordinator) :
    ∃ e, c.Calls e (proceed now next c) :=
  (proceed_abreast_self now next c).calls

/-- A section that follows an answer of the nodes, or nothing. -/
theorem nextSection_calls {a : Activity} (ha : a.hooks = []) (now : Moment) (reply : a.Reply)
    (c : Coordinator) : ∃ e, c.Calls e (nextSection now a reply c) :=
  (nextSection_abreast_self ha now reply c).calls

/-! ## Failures of hooks -/

theorem akin_countHookFailures (c : Coordinator) (failures : Nat) :
    c.Akin (c.countHookFailures failures) := by
  unfold countHookFailures
  split
  · exact .refl c
  · exact ⟨rfl, rfl, rfl, rfl, rfl, rfl, rfl, rfl, rfl, rfl, rfl⟩

theorem errors_countHookFailures (c : Coordinator) (failures : Nat) :
    (c.countHookFailures failures).log.stats.callbackErrors =
      c.log.stats.callbackErrors + failures := by
  unfold countHookFailures
  split
  · rename_i hnone
    rw [hnone, Nat.add_zero]
  · rfl

end Coordinator

end Failover
