import Failover.Proofs.FailureCounts
import Failover.Proofs.Recoveries
import Failover.Proofs.Verdicts
import Failover.Proofs.WorkingPrimary

-- What the loops come to when nobody comes in between. A tick doubts nothing that
-- it has just found, so it calls no failover off: a primary that is silent is not
-- active, and one that has failed its checks is not healthy.

namespace Failover

open Cluster (OnePrimary)

/-! ## Failures and verdicts go together -/

/-- Whoever has failed checks in a row has a failing status. -/
def Cluster.Fitting (k : Cluster) : Prop :=
  ∀ id n, k.node? id = some n → 0 < n.failures → n.status.isFailure = true

theorem History.fitting {trace : List (System × Move)} {w : System} (h : History trace w)
    (hspec : BySpec trace) : w.cluster.Fitting :=
  fun _ n hn => (h.tallied hspec n hn).failing

theorem judged_fitting {n : Node} (h : 0 < n.failures → n.status.isFailure = true)
    (reports : List (HealthReport Float)) :
    0 < (reports.foldl Node.judged n).failures →
      (reports.foldl Node.judged n).status.isFailure = true := by
  induction reports generalizing n with
  | nil => exact h
  | cons r rest ih => exact ih (Node.judged_failing h r)

theorem Cluster.Fitting.recordAll {k : Cluster} (h : k.Fitting)
    (reports : List (String × HealthReport Float)) : (k.recordAll reports).2.Fitting := by
  intro id n' hn'
  rw [node?_recordAll] at hn'
  obtain ⟨n, hn, rfl⟩ := Option.map_eq_some_iff.mp hn'
  exact judged_fitting (h id n hn) _

/-! ## No alarm of a tick is false -/

/-- The node that is replaced is not there, not active or not healthy. -/
theorem Selection.not_falseAlarm {k : Cluster} {a : Attempt} (hk : OnePrimary k)
    (h : ∀ id n, a.failing = some id → k.node? id = some n → n.active = true →
      n.status ≠ .healthy) : isFalseAlarm k.list a = false := by
  rw [Bool.eq_false_iff]
  intro halarm
  obtain ⟨_, n, hn, hid, hactive, hhealthy⟩ := (isFalseAlarm_iff hk.named).mp halarm
  exact h n.id n hid (hk.node?_id hn) hactive hhealthy

theorem Alarm.not_false {s : FailoverSettings} {k : Cluster} {a : Attempt}
    (h : Alarm s k a.failing) (hk : OnePrimary k) (hfit : k.Fitting)
    (hmax : 0 < s.maxConsecutiveFailures) : Selection.isFalseAlarm k.list a = false := by
  refine Selection.not_falseAlarm hk fun id n hid hn hactive hhealthy => ?_
  rw [hid] at h
  cases h with
  | silence _ _ hn' ha =>
    rw [hn] at hn'
    rw [← Option.some.inj hn', hactive] at ha
    cases ha
  | failures _ _ hn' hf =>
    rw [hn] at hn'
    have hfailing := hfit id n hn (Nat.lt_of_lt_of_le hmax (Option.some.inj hn' ▸ hf))
    rw [hhealthy] at hfailing
    cases hfailing

/-- In the normal state every alarm is noticed, and nothing else is. -/
theorem Coordinator.failoverCondition?_eq_none_iff {c : Coordinator} (hk : OnePrimary c.cluster)
    (hs : c.cluster.state = .normal) :
    c.failoverCondition? = none ↔ ¬ ∃ node, Alarm c.settings c.cluster node := by
  constructor
  · rintro hnone ⟨node, halarm⟩
    unfold failoverCondition? at hnone
    cases halarm with
    | silence hm hp hn ha =>
      have hmode := FailoverMode.triggersOnSilence_iff.mpr hm
      simp [hs, Cluster.primaryNode?, hp, hn, ha, hmode] at hnone
    | failures hm hp hn hf =>
      have hmode := FailoverMode.triggersOnHealth_iff.mpr hm
      simp only [hs, Cluster.primaryNode?, hp, Option.bind_some, hn, hf, hmode, decide_true,
        Bool.and_self, if_true] at hnone
      split at hnone <;> cases hnone
    | vacancy hm hp hn ha hh hother =>
      have hstandby : ∃ n ∈ c.cluster.list, n.isStandby = true :=
        ⟨_, hn, by simp [Node.isStandby, ha, hh, hother]⟩
      have hmode := FailoverMode.triggersOnHealth_iff.mpr hm
      simp [hs, Cluster.primaryNode?, hp, hmode, hstandby] at hnone
  · intro hnone
    by_contra hsome
    obtain ⟨trigger, htrigger⟩ := Option.ne_none_iff_exists'.mp hsome
    exact hnone ⟨_, failoverCondition?_alarm hk htrigger⟩

/-! ## Attempts that nobody disturbs -/

namespace Coordinator

/-- No failover has been called off. -/
structure Uncancelled (c c' : Coordinator) : Prop where
  log : ∃ es, c.log.TookAll es c'.log ∧ ∀ e ∈ es, e.type ≠ .failoverCancelled
  falseAlarms : c'.log.stats.falseAlarms = c.log.stats.falseAlarms

/-- A failover has been tried, and the state says how it ended. -/
structure Tried (c c' : Coordinator) : Prop where
  ended : c'.cluster.state = .failoverComplete ∨ c'.cluster.state = .degraded
  uncancelled : c.Uncancelled c'

variable {ok : (a : Activity) → a.Reply → Prop} {post : Coordinator → Answer → Prop}
  {now : Moment} {c c' c'' : Coordinator} {es : List FailoverEvent}

theorem uncancelled_of_log (h : c.log.TookAll es c'.log)
    (hes : ∀ e ∈ es, e.type ≠ .failoverCancelled) : c.Uncancelled c' := by
  refine ⟨⟨es, h, hes⟩, ?_⟩
  have hcounted := h.counted (t := .failoverCancelled) rfl
  rw [List.count_eq_zero.mpr (by simpa using hes)] at hcounted
  exact hcounted

theorem Alike.uncancelled (h : c.Alike none c') : c.Uncancelled c' :=
  uncancelled_of_log (.nil h.log) (by simp)

theorem Uncancelled.after (h : c.Alike none c') (h' : c'.Uncancelled c'') : c.Uncancelled c'' := by
  obtain ⟨es, hlog, hes⟩ := h'.log
  exact uncancelled_of_log (.after h.log hlog) hes

/-- A failover that is no false alarm is not called off. -/
theorem returns_failover (hk : OnePrimary c.cluster) (hs : c.cluster.state = .normal) (now : Moment)
    (trigger : Trigger) (purpose : Purpose)
    (hsure : Selection.isFalseAlarm c.cluster.list
      { trigger, failing := trigger.node?.or c.cluster.primary, started := now, purpose } = false)
    (h : ∀ c' answer, c.Tried c' → post c' answer) :
    Returns ok post (beginFailover now trigger purpose c) := by
  obtain ⟨e, htype, _, _, hbegins⟩ := beginFailover_announces hs now trigger purpose
  refine hbegins.returns fun now c₁ h₁ => ?_
  have hnodes : c₁.cluster.nodes = c.cluster.nodes := by rw [h₁.cluster]
  have htold : ∀ e' c', e'.type ≠ .failoverCancelled → c₁.log.Took (some e') c'.log →
      c.Uncancelled c' := by
    intro e' c' htype' hlog
    refine uncancelled_of_log (h₁.log.all.snoc hlog) ?_
    simp [htype, htype']
  refine returns_attempt ?_ (by rw [h₁.cluster]) ?_ ?_ ?_
  · intro id n hn
    rw [Cluster.node?, hnodes] at hn
    exact hk.named id n hn
  · rw [Cluster.list, hnodes]
    exact hsure
  · intro f e' c' htype' hlogged
    exact h c' _ ⟨Or.inr (by rw [hlogged.cluster]), htold e' c' (by simp [htype']) hlogged.log⟩
  · intro n _ _ e' c' htype' _ hlogged
    exact h c' _ ⟨Or.inl (by rw [hlogged.cluster]), htold e' c' (by simp [htype']) hlogged.log⟩

/-- A look at the conditions ends in a failover if there is an alarm, and at
once if there is none. -/
theorem returns_evaluate (hk : OnePrimary c.cluster) (hfit : c.cluster.Fitting)
    (hmax : 0 < c.settings.maxConsecutiveFailures) (now : Moment)
    (hrests : c.failoverCondition? = none → post c.updateLevels .done)
    (htried : ∀ c' answer, c.Tried c' → post c' answer) : Returns ok post (evaluate now c) := by
  unfold evaluate
  cases hcondition : c.failoverCondition? with
  | none => exact .ends (hrests hcondition)
  | some trigger =>
    have halarm := failoverCondition?_alarm hk hcondition
    have hs : c.cluster.state = .normal := by
      by_contra hs
      simp [failoverCondition?, hs] at hcondition
    exact returns_failover hk hs now trigger .watch (halarm.not_false hk hfit hmax) htried

theorem Leaves.uncancelled {types : List EventType} {k : Cluster} (h : c.Leaves types k c')
    (htypes : .failoverCancelled ∉ types) : c.Uncancelled c' := by
  obtain ⟨es, rfl, hlog⟩ := h.log
  exact uncancelled_of_log hlog fun e he htype => htypes (htype ▸ List.mem_map_of_mem he)

/-! ## The ticks -/

theorem returns_afterPings (hk : OnePrimary c.cluster) (now : Moment) (targets : List Node)
    (answers : List Bool) :
    Returns ok (fun c' _ => c.Uncancelled c') (afterPings now targets answers c) := by
  obtain ⟨c₁, halike, hcluster, hend | ⟨s, hs, _, _, hend⟩⟩ := afterPings_cases now targets answers c
  · rw [hend]
    exact returns_close fun c' hrest _ => (halike.trans hrest).uncancelled
  rw [hend]
  have hpings := c.cluster.sameParts_recordPings now ((targets.map (·.id)).zip answers)
  have hscan := Cluster.sameParts_scanTimeouts
    (c.cluster.recordPings now ((targets.map (·.id)).zip answers)).2 c.settings.heartbeatTimeout now
  have hk₁ : OnePrimary c₁.cluster := hcluster ▸ (hpings.trans hscan).onePrimary hk
  by_cases hnormal : c₁.cluster.state = .normal
  · refine returns_failover hk₁ hnormal now (.silence s.node) .heartbeat ?_
      fun c' _ h => h.uncancelled.after halike
    refine Selection.not_falseAlarm hk₁ fun id n hid hn hactive => ?_
    obtain ⟨_, m, hm, hinactive⟩ := Cluster.silences_inactive (hpings.onePrimary hk) hs
    rw [hcluster, ← Option.some.inj hid, hm] at hn
    rw [← Option.some.inj hn, hinactive] at hactive
    cases hactive
  · rw [beginFailover_skipped hnormal]
    exact returns_close fun c' hrest _ => (halike.trans hrest).uncancelled

theorem returns_afterProbes (hk : OnePrimary c.cluster) (hfit : c.cluster.Fitting)
    (hmax : 0 < c.settings.maxConsecutiveFailures) (now : Moment) (targets : List Node)
    (results : List (ProbeResult Float)) :
    Returns ok (fun c' _ => c.Uncancelled c') (afterProbes now targets results c) := by
  let reports :=
    (targets.map (·.id)).zip (results.map (HealthReport.ofResult c.settings.thresholds))
  let c₁ := { c with cluster := (c.cluster.recordAll reports).2 }.noteChanges
    (c.cluster.recordAll reports).1
  have halike : c.Alike none c₁ := alike_of_log rfl rfl rfl
  have hk₁ : OnePrimary c₁.cluster := (c.cluster.sameParts_recordAll reports).onePrimary hk
  have hfit₁ : c₁.cluster.Fitting := hfit.recordAll reports
  show Returns ok _ (evaluate now c₁)
  refine returns_evaluate hk₁ hfit₁ hmax now (fun _ => ?_) fun c' _ h => h.uncancelled.after halike
  exact Uncancelled.after halike (Alike.uncancelled (alike_of_log rfl rfl rfl))

theorem returns_checkRecovery (hs : c.cluster.state.isSettled = true) (now : Moment) :
    Returns ok (fun c' _ => c.Uncancelled c') (checkRecovery now c) := by
  have hrests : Returns ok (fun c' _ => c.Uncancelled c') (close true .done c) :=
    returns_close fun c' hrest _ => hrest.uncancelled
  unfold checkRecovery
  repeat' split
  · exact hrests
  · exact hrests
  · exact returns_recovery hs now _ fun c' hc' => hc'.uncancelled (by simp)
  · exact hrests
  · exact returns_settle hs now fun c' hc' => hc'.uncancelled (by simp)

theorem returns_watch (hk : OnePrimary c.cluster) (hfit : c.cluster.Fitting)
    (hmax : 0 < c.settings.maxConsecutiveFailures) (now : Moment) :
    Returns ok (fun c' _ => c.Uncancelled c') (watch now c) := by
  unfold watch
  split
  · refine returns_evaluate hk hfit hmax now (fun _ => ?_) fun c' _ h => h.uncancelled
    exact Alike.uncancelled (alike_of_log rfl rfl rfl)
  · split
    · rename_i hsettled
      rw [Bool.and_eq_true] at hsettled
      exact returns_checkRecovery hsettled.1 now
    · exact returns_close fun c' hrest _ => hrest.uncancelled

theorem returns_tick (hk : OnePrimary c.cluster) (hfit : c.cluster.Fitting)
    (hmax : 0 < c.settings.maxConsecutiveFailures) {op : Operation} (hop : op.isTick = true)
    (now : Moment) : Returns ok (fun c' _ => c.Uncancelled c') (firstSection now op c) := by
  cases op with
  | trigger | promote | acknowledge | remove => cases hop
  | heartbeatRound =>
    exact .waits fun now (answers : List Bool) _ => returns_afterPings hk now c.cluster.list answers
  | healthSweep =>
    exact .waits fun now (results : List (ProbeResult Float)) _ =>
      returns_afterProbes hk hfit hmax now c.cluster.probeTargets results
  | watch => exact returns_watch hk hfit hmax now

end Coordinator

open Coordinator (Returns)

variable {trace : List (System × Move)} {w : System}

/-- Without an alarm there is nothing to do in the normal state. -/
theorem System.rests_of_quiet (hs : w.state = .normal)
    (hnone : w.coordinator.failoverCondition? = none) (now : Moment) :
    w.coordinator.Rests (Coordinator.firstSection now .watch w.coordinator) := by
  refine (watch_of_normal hs now).trans ?_
  unfold Coordinator.evaluate
  rw [hnone]
  rfl

/-- As long as everybody joins by asking to, no tick that nobody disturbs calls
a failover off, whatever the answers are. A watch in the normal state finds no
alarm and changes nothing, or ends with the failover complete or failed; so
there is no alarm in the normal state when it is over. -/
theorem a_watch_settles_what_it_finds (h : History trace w) (hspec : BySpec trace) :
    (∀ op, op.isTick = true → ∀ now,
      Returns (fun _ _ => True) (fun c' _ => w.coordinator.Uncancelled c')
        (Coordinator.firstSection now op w.coordinator)) ∧
    (w.state = .normal → ∀ now,
      ((¬ ∃ node, Alarm w.coordinator.settings w.cluster node) →
        w.coordinator.Rests (Coordinator.firstSection now .watch w.coordinator)) ∧
      ((∃ node, Alarm w.coordinator.settings w.cluster node) →
        Returns (fun _ _ => True)
          (fun c' _ => c'.cluster.state = .failoverComplete ∨ c'.cluster.state = .degraded)
          (Coordinator.firstSection now .watch w.coordinator)) ∧
      Returns (fun _ _ => True)
        (fun c' _ => ¬ (c'.cluster.state = .normal ∧ ∃ node, Alarm c'.settings c'.cluster node))
        (Coordinator.firstSection now .watch w.coordinator)) := by
  have hk := h.onePrimary
  have hfit := h.fitting hspec
  have hmax : 0 < w.coordinator.settings.maxConsecutiveFailures :=
    FailoverSettings.failures_pos h.valid
  refine ⟨fun op hop now => Coordinator.returns_tick hk hfit hmax hop now, fun hs now => ?_⟩
  have hiff := Coordinator.failoverCondition?_eq_none_iff hk hs
  refine ⟨fun hnone => System.rests_of_quiet hs (hiff.mpr hnone) now, ?_⟩
  have hwatch : Coordinator.firstSection now .watch w.coordinator =
      Coordinator.evaluate now w.coordinator := watch_of_normal hs now
  rw [hwatch]
  refine ⟨fun halarm => ?_, ?_⟩
  · refine Coordinator.returns_evaluate hk hfit hmax now (fun hnone => ?_) fun c' _ h => h.ended
    exact absurd halarm (hiff.mp hnone)
  · refine Coordinator.returns_evaluate hk hfit hmax now (fun hnone => ?_) fun c' _ h hboth => ?_
    · rintro ⟨_, halarm⟩
      exact hiff.mp hnone halarm
    · rcases h.ended with hend | hend
      · rw [hend] at hboth
        cases hboth.1
      · rw [hend] at hboth
        cases hboth.1

/-- Two nodes join and are found healthy. Then the primary is taken out. -/
def orphaned : List Cue :=
  let now := ⟨0, false⟩
  [ .order now (.join { NodeSpec.blank with id := "p", role := .primary })
  , .order now (.join { NodeSpec.blank with id := "s" })
  , .start now .healthSweep, .resume now 0
  , .order now (.unregister "p") ]

theorem orphaned_run {c : Coordinator} (hc : c.Fresh) :
    History ((System.initial c).moves calm orphaned) (System.play calm (.initial c) orphaned) :=
  ⟨c, hc, (System.play_run calm (.initial c) orphaned).1⟩

theorem a_watch_settles_what_it_finds_without_a_primary :
    ∃ (trace : List (System × Move)) (w : System), History trace w ∧ BySpec trace ∧ w.tasks = [] ∧
      w.state = .normal ∧ (∃ node, Alarm w.coordinator.settings w.cluster node) ∧
      (∀ now, Returns (fun _ _ => True)
        (fun c' _ => c'.cluster.state = .failoverComplete ∨ c'.cluster.state = .degraded)
        (Coordinator.firstSection now .watch w.coordinator)) ∧
      ∀ op, op.isTick = true → ∀ now,
        Returns (fun _ _ => True) (fun c' _ => w.coordinator.Uncancelled c')
          (Coordinator.firstSection now op w.coordinator) := by
  have h := orphaned_run Coordinator.fresh_standard
  have hspec : BySpec ((System.initial .standard).moves calm orphaned) := by
    unfold BySpec
    decide +kernel
  obtain ⟨hidle, hs, hmode, hp, hany⟩ :
      (System.play calm (.initial .standard) orphaned).tasks.length = 0 ∧
      (System.play calm (.initial .standard) orphaned).state = .normal ∧
      (System.play calm (.initial .standard) orphaned).coordinator.settings.mode = .automatic ∧
      (System.play calm (.initial .standard) orphaned).cluster.primary = none ∧
      (System.play calm (.initial .standard) orphaned).cluster.list.any (·.isStandby) = true := by
    decide +kernel
  obtain ⟨n, hn, hstandby⟩ := List.any_eq_true.mp hany
  simp only [Node.isStandby, Bool.and_eq_true, Bool.not_eq_true'] at hstandby
  have halarm : ∃ node, Alarm (System.play calm (.initial .standard) orphaned).coordinator.settings
      (System.play calm (.initial .standard) orphaned).cluster node :=
    ⟨none, .vacancy (Or.inl hmode) hp hn hstandby.1.1 hstandby.2 hstandby.1.2⟩
  obtain ⟨hticks, hwatch⟩ := a_watch_settles_what_it_finds h hspec
  exact ⟨_, _, h, hspec, List.length_eq_zero_iff.mp hidle, hs, halarm,
    fun now => (hwatch hs now).2.1 halarm, hticks⟩

/-- A coordinator that starts no failover by itself. -/
def Coordinator.manual : Coordinator :=
  { standard with settings := { FailoverSettings.standard with mode := .manual } }

theorem Coordinator.fresh_manual : manual.Fresh :=
  ⟨⟨[], []⟩, "sentinel", { FailoverSettings.standard with mode := .manual }, by rfl⟩

/-- Where the mode leaves failovers to the operator, a watch ends in the normal
state although there is no primary and a node could take over. -/
theorem a_watch_leaves_a_vacancy_to_the_operator :
    ∃ (trace : List (System × Move)) (w : System), History trace w ∧ BySpec trace ∧ w.tasks = [] ∧
      w.state = .normal ∧ w.cluster.primary = none ∧
      (∃ n ∈ w.cluster.list, n.isEligible none = true) ∧
      ∀ now, w.coordinator.Rests (Coordinator.firstSection now .watch w.coordinator) ∧
        (Coordinator.firstSection now .watch w.coordinator).1.cluster = w.cluster := by
  have h := orphaned_run Coordinator.fresh_manual
  have hspec : BySpec ((System.initial .manual).moves calm orphaned) := by
    unfold BySpec
    decide +kernel
  obtain ⟨hidle, hs, hp, hany, hnone⟩ :
      (System.play calm (.initial .manual) orphaned).tasks.length = 0 ∧
      (System.play calm (.initial .manual) orphaned).state = .normal ∧
      (System.play calm (.initial .manual) orphaned).cluster.primary = none ∧
      (System.play calm (.initial .manual) orphaned).cluster.list.any (·.isEligible none) = true ∧
      (System.play calm (.initial .manual) orphaned).coordinator.failoverCondition? = none := by
    decide +kernel
  refine ⟨_, _, h, hspec, List.length_eq_zero_iff.mp hidle, hs, hp, List.any_eq_true.mp hany,
    fun now => ?_⟩
  have hrests := System.rests_of_quiet hs hnone now
  exact ⟨hrests, hrests.cluster⟩

end Failover
