import Failover.Proofs.Alone
import Failover.Proofs.Rounds
import Failover.Proofs.SinglePrimary
import Failover.Proofs.Transitions

-- Why a failover starts. An operator asks for it, the primary leaves, or one
-- of the three loops finds something wrong with the cluster, and then the mode
-- must allow it.

namespace Failover

open Cluster (OnePrimary)

/-- Something that a coordinator takes for a failure by itself, and the node
that the failover is started against. -/
inductive Alarm (s : FailoverSettings) (k : Cluster) : Option String → Prop
  | silence {id : String} {n : Node} (hm : s.mode = .automatic) (hp : k.primary = some id)
      (hn : k.node? id = some n) (ha : n.active = false) : Alarm s k (some id)
  | failures {id : String} {n : Node} (hm : s.mode = .automatic ∨ s.mode = .healthBased)
      (hp : k.primary = some id) (hn : k.node? id = some n)
      (hf : s.maxConsecutiveFailures ≤ n.failures) : Alarm s k (some id)
  | vacancy {n : Node} (hm : s.mode = .automatic ∨ s.mode = .healthBased) (hp : k.primary = none)
      (hn : n ∈ k.list) (ha : n.active = true) (hh : n.isHealthy = true) (hs : n.primary = false) :
      Alarm s k none

def Operation.isTick : Operation → Bool
  | heartbeatRound | healthSweep | watch => true
  | trigger _ | promote _ | acknowledge | remove _ => false

/-- The loops start operations, and go on when their pings and probes are
answered. -/
def Move.isTick : Move → Bool
  | start _ op => op.isTick
  | resume _ _ (.pinging _) _ | resume _ _ (.probing _) _ => true
  | _ => false

/-- A round of pings is over. -/
def Move.endsRound : Move → Bool
  | resume _ _ (.pinging _) _ => true
  | _ => false

/-- Why a step starts a failover, with this event. The members are as they are
when the state is written. -/
inductive Cause (w w' : System) (e : FailoverEvent) : Move → Prop
  | order (now : Moment) (reason : String) : Cause w w' e (.start now (.trigger reason))
  | removal (now : Moment) {id : String} (hp : w.cluster.primary = some id)
      (ht : e.trigger = some id) : Cause w w' e (.start now (.remove id))
  | alarm {m : Move} (hm : m.isTick = true)
      (h : Alarm w.coordinator.settings w'.cluster e.trigger) : Cause w w' e m

/-! ## What the mode allows -/

theorem FailoverMode.triggersOnSilence_iff {mode : FailoverMode} :
    mode.triggersOnSilence = true ↔ mode = .automatic := by
  cases mode <;> simp [triggersOnSilence]

theorem FailoverMode.triggersOnHealth_iff {mode : FailoverMode} :
    mode.triggersOnHealth = true ↔ mode = .automatic ∨ mode = .healthBased := by
  cases mode <;> simp [triggersOnHealth]

namespace Alarm

variable {s : FailoverSettings} {k : Cluster} {node : Option String}

theorem mode (h : Alarm s k node) : s.mode = .automatic ∨ s.mode = .healthBased := by
  cases h with
  | silence hm => exact Or.inl hm
  | failures hm => exact hm
  | vacancy hm => exact hm

/-- The state and the record of the failure play no part. -/
theorem restate (h : Alarm s k node) (state : ClusterState) (lastFailure : Option FailureRecord) :
    Alarm s { k with state, lastFailure } node := by
  cases h with
  | silence hm hp hn ha => exact .silence hm hp hn ha
  | failures hm hp hn hf => exact .failures hm hp hn hf
  | vacancy hm hp hn ha hh hs => exact .vacancy hm hp hn ha hh hs

end Alarm

/-! ## Sections that start a failover -/

namespace Coordinator

/-- The failover has been started against a node for which there is an
alarm. -/
def Alarmed (s : FailoverSettings) (k : Cluster) : Prop :=
  ∃ failure, k.lastFailure = some failure ∧ Alarm s k failure.node

variable {now : Moment} {c : Coordinator}

theorem beginFailover_enters {trigger : Trigger} {purpose : Purpose}
    (hs : c.cluster.state ≠ .failoverInProgress)
    (h : (beginFailover now trigger purpose c).1.cluster.state = .failoverInProgress) :
    (beginFailover now trigger purpose c).1.cluster = { c.cluster with
      state := .failoverInProgress
      lastFailure := some { node := trigger.node?.or c.cluster.primary, time := now } } := by
  unfold beginFailover at h ⊢
  split
  · dsimp only
    rw [announce_cluster]
    rfl
  · rename_i hn
    rw [if_neg hn, close_cluster] at h
    exact absurd h hs

theorem failoverCondition?_alarm {trigger : Trigger} (hk : OnePrimary c.cluster)
    (h : c.failoverCondition? = some trigger) :
    Alarm c.settings c.cluster (trigger.node?.or c.cluster.primary) := by
  unfold failoverCondition? at h
  dsimp only at h
  split at h
  · split at h
    · rename_i p hp
      obtain ⟨hid, hnode⟩ := hk.primaryNode?_eq_some hp
      split at h
      · rename_i hdead
        simp only [Bool.and_eq_true, Bool.not_eq_true'] at hdead
        cases h
        exact .silence (FailoverMode.triggersOnSilence_iff.mp hdead.2) hid hnode hdead.1
      · split at h
        · rename_i hill
          simp only [Bool.and_eq_true, decide_eq_true_eq] at hill
          cases h
          exact .failures (FailoverMode.triggersOnHealth_iff.mp hill.2) hid hnode hill.1
        · cases h
    · rename_i hp
      have hnone := hk.primaryNode?_eq_none hp
      split at h
      · rename_i hvacant
        simp only [Bool.and_eq_true, Bool.or_eq_true, List.any_eq_true, Node.isStandby,
          Bool.not_eq_true'] at hvacant
        obtain ⟨hmode, n, hmem, ⟨hactive, hother⟩, hhealthy⟩ := hvacant
        cases h
        rw [hnone]
        refine .vacancy ?_ hnone hmem hactive hhealthy hother
        rcases hmode with hm | hm
        · exact FailoverMode.triggersOnHealth_iff.mp hm
        · exact Or.inl (FailoverMode.triggersOnSilence_iff.mp hm)
      · cases h
  · cases h

theorem evaluate_alarmed (hk : OnePrimary c.cluster) (hs : c.cluster.state ≠ .failoverInProgress)
    (h : (evaluate now c).1.cluster.state = .failoverInProgress) :
    Alarmed c.settings (evaluate now c).1.cluster := by
  unfold evaluate at h ⊢
  split at h
  · rename_i trigger hcondition
    rw [beginFailover_enters hs h]
    exact ⟨_, rfl, (failoverCondition?_alarm hk hcondition).restate _ _⟩
  · rw [close_cluster] at h
    exact absurd h hs

theorem afterProbes_alarmed {targets : List Node} {results : List (ProbeResult Float)}
    (hk : OnePrimary c.cluster) (hs : c.cluster.state ≠ .failoverInProgress)
    (h : (afterProbes now targets results c).1.cluster.state = .failoverInProgress) :
    Alarmed c.settings (afterProbes now targets results c).1.cluster := by
  have hsame := c.cluster.sameParts_recordAll
    ((targets.map (·.id)).zip (results.map (HealthReport.ofResult c.settings.thresholds)))
  refine evaluate_alarmed (hsame.onePrimary hk) ?_ h
  exact hsame.state ▸ hs

/-- The end of a round of pings is a failover against a primary that has
fallen silent, or nothing. -/
theorem afterPings_cases (now : Moment) (targets : List Node) (answers : List Bool)
    (c : Coordinator) :
    ∃ c', c.Alike none c' ∧ c'.cluster = (c.cluster.recordPings now
        ((targets.map (·.id)).zip answers)).2.scanTimeouts c.settings.heartbeatTimeout now ∧
      (afterPings now targets answers c = close false .done c' ∨
        ∃ s ∈ (c.cluster.recordPings now ((targets.map (·.id)).zip answers)).2.silences
            c.settings.heartbeatTimeout now,
          s.wasPrimary = true ∧ c.settings.mode = .automatic ∧
            afterPings now targets answers c = beginFailover now (.silence s.node) .heartbeat c') := by
  unfold afterPings
  dsimp only
  split
  · rename_i s hfind
    split
    · rename_i hmode
      have hwas : s.wasPrimary = true := List.find?_some hfind
      refine ⟨_, ?_, ?_, Or.inr ⟨s, List.mem_of_find?_eq_some hfind, hwas,
        FailoverMode.triggersOnSilence_iff.mp hmode, rfl⟩⟩
      · exact alike_of_log rfl rfl rfl
      · rfl
    · refine ⟨_, ?_, ?_, Or.inl rfl⟩
      · exact alike_of_log rfl rfl rfl
      · rfl
  · refine ⟨_, ?_, ?_, Or.inl rfl⟩
    · exact alike_of_log rfl rfl rfl
    · rfl

theorem afterPings_alarmed {targets : List Node} {answers : List Bool} (hk : OnePrimary c.cluster)
    (hs : c.cluster.state ≠ .failoverInProgress)
    (h : (afterPings now targets answers c).1.cluster.state = .failoverInProgress) :
    c.settings.mode = .automatic ∧
      Alarmed c.settings (afterPings now targets answers c).1.cluster := by
  have hpings := c.cluster.sameParts_recordPings now ((targets.map (·.id)).zip answers)
  have hscan := Cluster.sameParts_scanTimeouts
    (c.cluster.recordPings now ((targets.map (·.id)).zip answers)).2 c.settings.heartbeatTimeout now
  obtain ⟨c', halike, hcluster, hend | ⟨s, hmem, hwas, hmode, hend⟩⟩ :=
    afterPings_cases now targets answers c
  all_goals
    have hs' : c'.cluster.state ≠ .failoverInProgress := by
      rw [hcluster, (hpings.trans hscan).state]
      exact hs
    rw [hend] at h ⊢
  · rw [close_cluster] at h
    exact absurd h hs'
  · obtain ⟨hp, n, hn, ha⟩ := Cluster.silences_inactive (hpings.onePrimary hk) hmem
    rw [beginFailover_enters hs' h, hcluster]
    refine ⟨hmode, _, rfl, Alarm.restate ?_ _ _⟩
    exact .silence hmode (hscan.primary.trans (hp hwas)) hn ha

theorem removeNode_enters {id : String} (hs : c.cluster.state ≠ .failoverInProgress)
    (h : (removeNode now id c).1.cluster.state = .failoverInProgress) :
    c.cluster.primary = some id ∧
      (removeNode now id c).1.cluster.lastFailure = some { node := some id, time := now } := by
  unfold removeNode refuse at h ⊢
  split at h
  · rw [close_cluster] at h
    exact absurd h hs
  · rename_i removal cluster hr
    have hstate := Cluster.remove_state hr
    dsimp only at h ⊢
    split at h
    · rename_i hwas
      rw [if_pos hwas, beginFailover_enters (hstate ▸ hs) h]
      refine ⟨?_, rfl⟩
      rw [(Cluster.remove_others hr).1] at hwas
      simpa [Cluster.isPrimary] using hwas
    · rw [close_cluster] at h
      exact absurd (hstate.symm.trans h) hs

theorem promoteNode_still {id : String} (hs : c.cluster.state = .normal) :
    (promoteNode now id c).1.cluster.state = .normal := by
  unfold promoteNode refuse announceLast
  split
  · rw [close_cluster]
    exact hs
  · dsimp only
    rw [announce_cluster]
    rfl

theorem acknowledge_still (hs : c.cluster.state = .normal) :
    (acknowledge now c).1.cluster.state = .normal := by
  unfold acknowledge
  dsimp only
  rw [if_pos hs, close_cluster]
  exact hs

end Coordinator

/-! ## Steps that start a failover -/

/-- Whoever brings a cluster into a failover finds it normal. -/
theorem Turn.enters {now : Moment} {limit : Span} {chosen : Option (Attempt × Candidate)}
    {k k' : Cluster} {p q : Phase} {e : Option FailoverEvent} (h : Turn now limit chosen k p q e k')
    (hs : k.state ≠ .failoverInProgress) (hs' : k'.state = .failoverInProgress) :
    p = .plain ∧ k.state = .normal ∧ ∃ e', e = some e' ∧ e'.type = .failoverInitiated ∧
      k'.lastFailure = some { node := e'.trigger, time := now } := by
  cases h with
  | stay => exact absurd hs' hs
  | tend hu => exact absurd (hu.state.symm.trans hs') hs
  | begin hu hn he => exact ⟨rfl, hu.state.symm.trans hn, _, rfl, he.1, rfl⟩
  | fail =>
    rw [if_neg hs] at hs'
    exact absurd hs' hs
  | cancel =>
    dsimp only at hs'
    rw [if_neg hs] at hs'
    exact absurd hs' hs
  | reopen =>
    dsimp only at hs'
    split at hs'
    · cases hs'
    · exact absurd hs' hs
  | commit | recover | rejoin | release | promote => cases hs'

variable {trace : List (System × Move)} {w w' : System} {m : Move} {e : FailoverEvent}

theorem Cause.of_alarmed {failure : FailureRecord} (hm : m.isTick = true)
    (hf : w'.cluster.lastFailure = some failure) (ht : failure.node = e.trigger)
    (h : Coordinator.Alarmed w.coordinator.settings w'.cluster) : Cause w w' e m := by
  obtain ⟨failure', hf', halarm⟩ := h
  have heq : failure' = failure := Option.some.inj (hf'.symm.trans hf)
  rw [heq, ht] at halarm
  exact .alarm hm halarm

theorem Step.cause {now : Moment} (h : Step w m w') (hk : OnePrimary w.cluster)
    (hplain : m.phase = .plain) (hs : w.state = .normal) (hs' : w'.state = .failoverInProgress)
    (hf : w'.cluster.lastFailure = some { node := e.trigger, time := now }) :
    Cause w w' e m ∧ (m.endsRound = true → w.coordinator.settings.mode = .automatic) := by
  have hnormal : w.coordinator.cluster.state = .normal := hs
  have hnot : w.coordinator.cluster.state ≠ .failoverInProgress := by simp [hnormal]
  cases h with
  | start now' op =>
    refine ⟨?_, fun hround => absurd hround Bool.false_ne_true⟩
    cases op with
    | heartbeatRound | healthSweep => exact absurd hs' hnot
    | watch =>
      refine .of_alarmed rfl hf rfl ?_
      have hwatch : Coordinator.watch now' w.coordinator =
          Coordinator.evaluate now' w.coordinator := if_pos hnormal
      simp only [System.launch, System.turn, System.state, System.cluster,
        Coordinator.firstSection, hwatch] at hs' ⊢
      exact Coordinator.evaluate_alarmed hk hnot hs'
    | trigger reason => exact .order now' reason
    | promote id =>
      have hstill := hs'.symm.trans (Coordinator.promoteNode_still hnormal)
      cases hstill
    | acknowledge =>
      have hstill := hs'.symm.trans (Coordinator.acknowledge_still hnormal)
      cases hstill
    | remove id =>
      obtain ⟨hp, hrecord⟩ := Coordinator.removeNode_enters hnot hs'
      have heq := Option.some.inj (hf.symm.trans hrecord)
      exact .removal now' hp (congrArg FailureRecord.node heq)
  | resume now' before after number a reply htasks =>
    cases a with
    | pinging targets =>
      obtain ⟨hmode, halarmed⟩ := Coordinator.afterPings_alarmed hk hnot hs'
      exact ⟨.of_alarmed rfl hf rfl halarmed, fun _ => hmode⟩
    | probing targets =>
      have halarmed := Coordinator.afterProbes_alarmed hk hnot hs'
      exact ⟨.of_alarmed rfl hf rfl halarmed, fun hround => absurd hround Bool.false_ne_true⟩
    | connecting => cases hplain
    | announcing hook rest failures next | ready next =>
      -- nothing but the end of the operation is left
      cases next with
      | select | rejoin | reopen => cases hplain
      | close renewLevels answer =>
        have hsame := (Coordinator.nextSection_closing rfl now' reply w.coordinator).2.1
        exact absurd (hsame ▸ hs') hnot
  | drop => exact absurd hs' hnot
  | order now' o => exact absurd ((order_obeyed now' w.coordinator o).cluster.state.symm.trans hs') hnot

/-- However operations overlap and whatever the answers are: a step that
brings the cluster into a failover finds it normal, and either an operator has
asked for it, or the primary is leaving, or a loop finds an alarm at that very
step. So no loop starts one unless the mode is automatic or goes by the
health, and the answers to a round of pings never start one unless it is
automatic. -/
theorem every_failover_has_a_cause (h : History trace w) (hstep : Step w m w')
    (hs : w.state ≠ .failoverInProgress) (hs' : w'.state = .failoverInProgress) :
    w.state = .normal ∧
      ∃ e, w'.history = w.history ++ [e] ∧ e.type = .failoverInitiated ∧ Cause w w' e m ∧
        (m.isTick = true → w.coordinator.settings.mode = .automatic ∨
          w.coordinator.settings.mode = .healthBased) ∧
        (m.endsRound = true → w.coordinator.settings.mode = .automatic) := by
  rcases hstep.advanced_or_rested with ha | hrest
  · obtain ⟨now, e?, q, _, hhistory, hturn, _⟩ := ha.turn
    obtain ⟨hplain, hnormal, e, rfl, htype, hf⟩ := hturn.enters hs hs'
    obtain ⟨hcause, hround⟩ := hstep.cause h.onePrimary hplain hnormal hs' hf
    refine ⟨hnormal, e, hhistory, htype, hcause, fun hm => ?_, hround⟩
    cases hcause with
    | order | removal => cases hm
    | alarm _ halarm => exact halarm.mode
  · exact absurd (hrest.cluster.state.symm.trans hs') hs

/-- A round of pings has begun. -/
def listening : List Cue :=
  let now := ⟨0, false⟩
  [ .order now (.register (Node.well "a" .primary))
  , .order now (.register (Node.well "b" .secondary))
  , .start now .heartbeatRound ]

/-- The primary does not answer. -/
theorem every_failover_has_a_cause_when_the_primary_is_silent :
    ∃ trace w m w', History trace w ∧ Step w m w' ∧ m.endsRound = true ∧
      w.state ≠ .failoverInProgress ∧ w'.state = .failoverInProgress ∧
      w.state = .normal ∧
        ∃ e, w'.history = w.history ++ [e] ∧ e.type = .failoverInitiated ∧ Cause w w' e m ∧
          (m.isTick = true → w.coordinator.settings.mode = .automatic ∨
            w.coordinator.settings.mode = .healthBased) ∧
          (m.endsRound = true → w.coordinator.settings.mode = .automatic) := by
  obtain ⟨trace, h, _⟩ := System.play_history Coordinator.fresh_standard calm listening
  have hstep := Step.resume (System.play calm (.initial .standard) listening)
    (Moment.ofMillis 100000) [] [] 0 (.pinging _) [false, true] rfl
  exact ⟨trace, _, _, _, h, hstep, rfl, by decide, by decide,
    every_failover_has_a_cause h hstep (by decide) (by decide)⟩

end Failover
