import Mathlib.Data.List.Induction
import Failover.Proofs.Causes
import Failover.Proofs.Returns

-- A primary that fails its checks. Failed checks in a row are counted, and a
-- good one starts the count anew. The check at which the count reaches the
-- limit starts a failover, and none starts before.

namespace Failover

open Cluster (OnePrimary)
open Coordinator (Alone Returns)

/-! ## Failures in a row -/

/-- The last so many verdicts are all failures. -/
def Struck (limit : Nat) (verdicts : List HealthStatus) : Prop :=
  ∃ before last, verdicts = before ++ last ∧ last.length = limit ∧
    ∀ v ∈ last, v = .unhealthy ∨ v = .unknown

/-- How many failures in a row the verdicts end with. -/
def streak (verdicts : List HealthStatus) : Nat :=
  verdicts.foldl (fun count v => if v.isFailure then count + 1 else 0) 0

theorem HealthStatus.isFailure_iff {v : HealthStatus} :
    v.isFailure = true ↔ v = .unhealthy ∨ v = .unknown := by
  cases v <;> simp [isFailure]

theorem streak_snoc (verdicts : List HealthStatus) (v : HealthStatus) :
    streak (verdicts ++ [v]) = if v.isFailure then streak verdicts + 1 else 0 := by
  simp [streak]

theorem struck_zero (verdicts : List HealthStatus) : Struck 0 verdicts :=
  ⟨verdicts, [], by simp, rfl, by simp⟩

theorem Struck.le_length {limit : Nat} {verdicts : List HealthStatus} (h : Struck limit verdicts) :
    limit ≤ verdicts.length := by
  obtain ⟨before, last, rfl, rfl, _⟩ := h
  simp

theorem struck_snoc {limit : Nat} {verdicts : List HealthStatus} {v : HealthStatus} :
    Struck (limit + 1) (verdicts ++ [v]) ↔ v.isFailure = true ∧ Struck limit verdicts := by
  rw [HealthStatus.isFailure_iff]
  constructor
  · rintro ⟨before, last, heq, hlength, hall⟩
    induction last using List.reverseRecOn with
    | nil => cases hlength
    | append_singleton last w _ =>
      rw [← List.append_assoc] at heq
      obtain ⟨rfl, hv⟩ := List.append_inj' heq rfl
      cases hv
      refine ⟨hall v (by simp), before, last, rfl, by simpa using hlength, ?_⟩
      exact fun w hw => hall w (List.mem_append_left _ hw)
  · rintro ⟨hv, before, last, rfl, hlength, hall⟩
    refine ⟨before, last ++ [v], List.append_assoc .., by simp [hlength], ?_⟩
    intro w hw
    rcases List.mem_append.mp hw with hw | hw
    · exact hall w hw
    · rw [List.mem_singleton.mp hw]
      exact hv

/-- The count reaches the limit just when the last verdicts are all
failures. -/
theorem struck_iff {limit : Nat} {verdicts : List HealthStatus} :
    Struck limit verdicts ↔ limit ≤ streak verdicts := by
  induction verdicts using List.reverseRecOn generalizing limit with
  | nil =>
    constructor
    · rintro ⟨before, last, heq, rfl, _⟩
      rw [(List.append_eq_nil_iff.mp heq.symm).2]
      exact Nat.le_refl 0
    · intro h
      obtain rfl : limit = 0 := Nat.le_zero.mp h
      exact struck_zero []
  | append_singleton verdicts v ih =>
    cases limit with
    | zero => exact ⟨fun _ => Nat.zero_le _, fun _ => struck_zero _⟩
    | succ limit =>
      rw [struck_snoc, streak_snoc, ih]
      by_cases hv : v.isFailure = true
      · simp [hv]
      · simp [hv]

/-! ## Sweeps -/

/-- The section in which a sweep takes in what the nodes answer. -/
def Coordinator.sweep (now : Moment) (results : Node → ProbeResult Float) : Section := fun c =>
  nextSection now (.probing c.cluster.probeTargets) (c.cluster.probeTargets.map results) c

theorem filter_eq_singleton {α : Type} {f : α → String} {l : List α} {a : α}
    (hnodup : (l.map f).Nodup) (ha : a ∈ l) : l.filter (fun x => f x = f a) = [a] := by
  induction l with
  | nil => cases ha
  | cons b l ih =>
    obtain ⟨hb, hnodup⟩ := List.nodup_cons.mp hnodup
    rcases List.mem_cons.mp ha with rfl | ha
    · have hrest : l.filter (fun x => f x = f a) = [] := by
        rw [List.filter_eq_nil_iff]
        intro x hx
        simp only [decide_eq_true_eq]
        intro heq
        exact hb (heq ▸ List.mem_map_of_mem hx)
      rw [List.filter_cons_of_pos (by simp), hrest]
    · have hne : ¬ f b = f a := fun heq => hb (heq ▸ List.mem_map_of_mem ha)
      rw [List.filter_cons_of_neg (by simpa using hne), ih hnodup ha]

/-- A sweep reports once about a node that it has probed, and not about any
other. -/
theorem reportsOn_targets {k : Cluster} (named : ∀ id n, k.node? id = some n → n.id = id)
    {p : String} {n : Node} (hn : k.node? p = some n) (results : Node → ProbeResult Float)
    (t : HealthThresholds Float) :
    reportsOn p ((k.probeTargets.map (·.id)).zip
      ((k.probeTargets.map results).map (HealthReport.ofResult t))) =
      if n.isProbed then [HealthReport.ofResult t (results n)] else [] := by
  have hlist : n ∈ k.list := Cluster.mem_list.mpr ⟨p, hn⟩
  have hnodup : (k.list.map (·.id)).Nodup := by
    rw [Cluster.ids_self named]
    exact k.nodes.names_nodup
  have htargets : k.probeTargets.filter (fun x => x.id = p) = if n.isProbed then [n] else [] := by
    rw [← named p n hn, Cluster.probeTargets, List.filter_comm, filter_eq_singleton hnodup hlist,
      List.filter_singleton, cond_eq_ite]
  rw [List.map_map, List.zip_map', reportsOn, List.filter_map, List.map_map]
  refine (congrArg (List.map fun x => HealthReport.ofResult t (results x)) htargets).trans ?_
  split <;> rfl

/-- Nobody comes into maintenance by a probe. -/
theorem HealthReport.status_ne_maintenance (t : HealthThresholds Float) (r : ProbeResult Float) :
    (ofResult t r).status ≠ .maintenance := by
  cases r with
  | unreachable | broken => simp [ofResult, failed]
  | answered resources services latencyMs =>
    simp only [ofResult]
    split
    · unfold HealthStatus.ofScore
      dsimp only
      split
      · simp
      · split <;> simp
    · simp [failed]

/-! ## Ticks -/

/-- Sweeps and looks at the conditions have run one after the other, each until
it was over, and these are the verdicts on the node since. -/
inductive Ticked (p : String) (c : Coordinator) : List HealthStatus → Coordinator → Prop
  | start : Ticked p c [] c
  | watch {verdicts : List HealthStatus} {k k' : Coordinator} {answer : Answer}
      (h : Ticked p c verdicts k) (now : Moment)
      (hrun : Alone (Coordinator.watch now k) (k', .ends answer)) : Ticked p c verdicts k'
  | sweep {verdicts : List HealthStatus} {k k' : Coordinator} {answer : Answer} {n : Node}
      (h : Ticked p c verdicts k) (now : Moment) (results : Node → ProbeResult Float)
      (hn : k.cluster.node? p = some n)
      (hrun : Alone (Coordinator.sweep now results k) (k', .ends answer)) :
      Ticked p c (verdicts ++ [(HealthReport.ofResult k.settings.thresholds (results n)).status]) k'

/-- The primary is active, and its failures are counted; nothing else has
happened. -/
structure Counting (p : String) (verdicts : List HealthStatus) (c k : Coordinator) : Prop where
  settings : k.settings = c.settings
  log : k.log = c.log
  one : OnePrimary k.cluster
  normal : k.cluster.state = .normal
  primary : k.cluster.primary = some p
  node : ∃ n, k.cluster.node? p = some n ∧ n.active = true ∧ n.status ≠ .maintenance ∧
    n.failures = streak verdicts

/-- The operation has ended at once, and there is nothing to tell. -/
def Coordinator.Uneventful (c : Coordinator) (r : Coordinator × Progress) : Prop :=
  ∃ c', r = (c', .ends .done) ∧ c'.log = c.log ∧ c'.cluster.state = .normal

/-- A failover against this node, for so many failures, has begun and ended
since the log was this one. -/
structure Coordinator.FailedOver (p : String) (count : Nat) (log : EventLog) (c' : Coordinator) :
    Prop where
  told : ∃ (e e' : FailoverEvent) (between : EventLog),
    log.Took (some e) between ∧ between.Took (some e') c'.log ∧
    e.type = .failoverInitiated ∧ e.trigger = some p ∧ e.reason = (Trigger.failures p count).reason ∧
    (e'.type = .failoverCompleted ∧ c'.cluster.state = .failoverComplete ∨
      e'.type = .failoverFailed ∧ c'.cluster.state = .degraded)

namespace Counting

variable {p : String} {verdicts : List HealthStatus} {c k k' : Coordinator}

theorem condition (h : Counting p verdicts c k)
    (hmode : c.settings.mode = .automatic ∨ c.settings.mode = .healthBased) :
    k.failoverCondition? = if c.settings.maxConsecutiveFailures ≤ streak verdicts
      then some (.failures p (streak verdicts)) else none := by
  obtain ⟨n, hn, hactive, _, hfailures⟩ := h.node
  have hprimary : k.cluster.primaryNode? = some n := by
    simp [Cluster.primaryNode?, h.primary, hn]
  have hname := h.one.named p n hn
  have hhealth := FailoverMode.triggersOnHealth_iff.mpr hmode
  simp [Coordinator.failoverCondition?, h.normal, hprimary, hactive, h.settings, hfailures, hhealth,
    hname]

/-- Below the limit a look at the conditions comes to nothing. -/
theorem evaluate_below (h : Counting p verdicts c k)
    (hmode : c.settings.mode = .automatic ∨ c.settings.mode = .healthBased)
    (hbelow : streak verdicts < c.settings.maxConsecutiveFailures) (now : Moment) :
    ∃ k', Coordinator.evaluate now k = (k', .ends .done) ∧ Counting p verdicts c k' := by
  unfold Coordinator.evaluate
  rw [h.condition hmode, if_neg (by omega)]
  exact ⟨k.updateLevels, rfl, h.settings, h.log, h.one, h.normal, h.primary, h.node⟩

/-- The answers of a sweep add one verdict. -/
theorem swept (h : Counting p verdicts c k) (hroom : streak verdicts < Node.maxFailures)
    (now : Moment) (results : Node → ProbeResult Float) {n : Node}
    (hn : k.cluster.node? p = some n) :
    let verdict := (HealthReport.ofResult k.settings.thresholds (results n)).status
    ∃ k', Coordinator.sweep now results k = Coordinator.evaluate now k' ∧
      Counting p (verdicts ++ [verdict]) c k' ∧ (k'.cluster.node? p).map (·.status) = some verdict := by
  intro verdict
  obtain ⟨m, hm, hactive, hprobed, hfailures⟩ := h.node
  rw [hn] at hm
  cases hm
  let reports := (k.cluster.probeTargets.map (·.id)).zip
    ((k.cluster.probeTargets.map results).map (HealthReport.ofResult k.settings.thresholds))
  have hsame := k.cluster.sameParts_recordAll reports
  have hnode : (k.cluster.recordAll reports).2.node? p =
      some (n.withReport (HealthReport.ofResult k.settings.thresholds (results n))) := by
    rw [Cluster.node?_recordAll, hn, Option.map_some,
      reportsOn_targets h.one.named hn, if_pos (by simp [Node.isProbed, hactive, hprobed])]
    simp [Node.judged, hprobed]
  refine ⟨_, rfl, ⟨h.settings, h.log, hsame.onePrimary h.one, hsame.state.trans h.normal,
    hsame.primary.trans h.primary, _, hnode, hactive, ?_, ?_⟩, ?_⟩
  · exact HealthReport.status_ne_maintenance _ _
  · rw [streak_snoc]
    simp only [Node.withReport, hfailures]
    split
    · omega
    · rfl
  · exact congrArg (Option.map (·.status)) hnode

/-- At the limit a failover begins, and it is not called off: the node has just
failed a check. -/
theorem evaluate_strikes (h : Counting p verdicts c k)
    (hmode : c.settings.mode = .automatic ∨ c.settings.mode = .healthBased)
    (hreached : c.settings.maxConsecutiveFailures ≤ streak verdicts) {v : HealthStatus}
    (hill : (k.cluster.node? p).map (·.status) = some v) (hfailure : v.isFailure = true)
    (now : Moment) :
    Returns (fun _ _ => True) (fun k' _ => Coordinator.FailedOver p (streak verdicts) c.log k')
      (Coordinator.evaluate now k) := by
  unfold Coordinator.evaluate
  rw [h.condition hmode, if_pos hreached]
  obtain ⟨e, htype, htrigger, hreason, hannounces⟩ :=
    Coordinator.beginFailover_announces h.normal now (.failures p (streak verdicts)) .watch
  refine hannounces.returns fun now' c' hlogged => ?_
  have hk : OnePrimary c'.cluster := by
    rw [hlogged.cluster]
    exact h.one.restate _ _
  have htook : c.log.Took (some e) c'.log := h.log ▸ hlogged.log
  refine Coordinator.returns_attempt hk.named (by rw [hlogged.cluster]) ?_ ?_ ?_
  · rw [Bool.eq_false_iff]
    intro halarm
    obtain ⟨_, n, hn, hid, _, hhealthy⟩ := (Selection.isFalseAlarm_iff hk.named).mp halarm
    obtain rfl : p = n.id := Option.some.inj hid
    have hnode : k.cluster.node? n.id = some n := by
      rw [← hk.node?_id hn, hlogged.cluster]
      rfl
    rw [hnode, Option.map_some, hhealthy] at hill
    cases hill
    cases hfailure
  · intro f e' c'' htype' hlogged'
    refine ⟨e, e', c'.log, htook, hlogged'.log, htype, htrigger, hreason, Or.inr ⟨htype', ?_⟩⟩
    rw [hlogged'.cluster]
  · intro n _ _ e' c'' htype' _ hlogged'
    refine ⟨e, e', c'.log, htook, hlogged'.log, htype, htrigger, hreason, Or.inl ⟨htype', ?_⟩⟩
    rw [hlogged'.cluster]

end Counting

/-! ## The threshold -/

theorem Coordinator.Alone.of_eq {r r' : Coordinator × Progress} (h : r = r') : Alone r r' :=
  h ▸ .here

theorem Coordinator.Alone.of_ends {c : Coordinator} {answer : Answer} {r : Coordinator × Progress}
    (h : Alone (c, .ends answer) r) : r = (c, .ends answer) := by
  induction h with
  | here => rfl
  | on _ _ _ ih => cases ih

variable {p : String} {verdicts : List HealthStatus} {c k : Coordinator} {n : Node}

theorem watch_of_normal (hs : k.cluster.state = .normal) (now : Moment) :
    Coordinator.watch now k = Coordinator.evaluate now k := by
  unfold Coordinator.watch
  rw [if_pos hs]

/-- As long as the limit has not been reached, the failures are counted and
nothing else happens. -/
theorem Ticked.counting (h : Ticked p c verdicts k) (hstart : Counting p [] c c)
    (hmode : c.settings.mode = .automatic ∨ c.settings.mode = .healthBased)
    (hrange : c.settings.maxConsecutiveFailures ≤ Node.maxFailures)
    (hbefore : ∀ earlier, earlier <+: verdicts → ¬ Struck c.settings.maxConsecutiveFailures earlier) :
    Counting p verdicts c k := by
  have hbelow : ∀ earlier, earlier <+: verdicts →
      streak earlier < c.settings.maxConsecutiveFailures := by
    intro earlier hbegins
    have := hbefore earlier hbegins
    rw [struck_iff] at this
    omega
  clear hbefore
  induction h with
  | start => exact hstart
  | @watch verdicts k k' answer _ now hrun ih =>
    have hk := ih hbelow
    obtain ⟨l, heq, hl⟩ := hk.evaluate_below hmode (hbelow _ List.prefix_rfl) now
    rw [watch_of_normal hk.normal, heq] at hrun
    cases hrun.of_ends
    exact hl
  | @sweep verdicts k k' answer n _ now results hn hrun ih =>
    have hbegins : verdicts <+: verdicts ++
        [(HealthReport.ofResult k.settings.thresholds (results n)).status] := List.prefix_append _ _
    have hk := ih fun earlier hearlier => hbelow earlier (hearlier.trans hbegins)
    obtain ⟨l, hswept, hl, _⟩ :=
      hk.swept (Nat.lt_of_lt_of_le (hbelow _ hbegins) hrange) now results hn
    obtain ⟨l', heq, hl'⟩ := hl.evaluate_below hmode (hbelow _ List.prefix_rfl) now
    rw [hswept, heq] at hrun
    cases hrun.of_ends
    exact hl'

/-- The limit on failed checks is exact. While sweeps and looks at the
conditions run one after the other, nothing happens before the last verdicts on
the primary are as many failures in a row as the limit allows; and the sweep
that brings the last of them starts a failover against the primary, for as many
failures, which takes the cluster to another primary or leaves it degraded. -/
theorem the_limit_on_failed_checks_is_exact (c : Coordinator) (p : String) (n : Node)
    (hmode : c.settings.mode = .automatic ∨ c.settings.mode = .healthBased)
    (hrange : c.settings.maxConsecutiveFailures ≤ Node.maxFailures) (hone : OnePrimary c.cluster)
    (hs : c.cluster.state = .normal) (hp : c.cluster.primary = some p)
    (hn : c.cluster.node? p = some n) (hactive : n.active = true)
    (hprobed : n.status ≠ .maintenance) (hzero : n.failures = 0) (verdicts : List HealthStatus)
    (k : Coordinator) (h : Ticked p c verdicts k)
    (hbefore : ∀ earlier, earlier <+: verdicts → ¬ Struck c.settings.maxConsecutiveFailures earlier) :
    k.log = c.log ∧ k.cluster.state = .normal ∧
    (∀ now, k.Uneventful (Coordinator.watch now k)) ∧
    ∃ m, k.cluster.node? p = some m ∧
      ∀ (now : Moment) (results : Node → ProbeResult Float),
        let verdict := (HealthReport.ofResult k.settings.thresholds (results m)).status
        (¬ Struck c.settings.maxConsecutiveFailures (verdicts ++ [verdict]) →
          k.Uneventful (Coordinator.sweep now results k)) ∧
        (Struck c.settings.maxConsecutiveFailures (verdicts ++ [verdict]) →
          Returns (fun _ _ => True)
            (fun k' _ => Coordinator.FailedOver p c.settings.maxConsecutiveFailures k.log k')
            (Coordinator.sweep now results k)) := by
  have hk := h.counting ⟨rfl, rfl, hone, hs, hp, n, hn, hactive, hprobed, hzero⟩ hmode hrange hbefore
  have hbelow : streak verdicts < c.settings.maxConsecutiveFailures := by
    have := hbefore verdicts List.prefix_rfl
    rw [struck_iff] at this
    omega
  obtain ⟨m, hm, _⟩ := hk.node
  refine ⟨hk.log, hk.normal, fun now => ?_, m, hm, fun now results => ?_⟩
  · obtain ⟨l, heq, hl⟩ := hk.evaluate_below hmode hbelow now
    rw [watch_of_normal hk.normal]
    exact ⟨l, heq, hl.log.trans hk.log.symm, hl.normal⟩
  · intro verdict
    obtain ⟨l, hswept, hl, hverdict⟩ :=
      hk.swept (Nat.lt_of_lt_of_le hbelow hrange) now results hm
    rw [hswept, struck_iff]
    refine ⟨fun hnot => ?_, fun hstruck => ?_⟩
    · obtain ⟨l', heq, hl'⟩ := hl.evaluate_below hmode (Nat.not_le.mp hnot) now
      exact ⟨l', heq, hl'.log.trans hk.log.symm, hl'.normal⟩
    · rw [streak_snoc] at hstruck
      by_cases hfailure : verdict.isFailure = true
      · have hexact : streak (verdicts ++ [verdict]) = c.settings.maxConsecutiveFailures := by
          rw [streak_snoc, if_pos hfailure]
          rw [if_pos hfailure] at hstruck
          omega
        rw [hk.log, ← hexact]
        exact hl.evaluate_strikes hmode (Nat.le_of_eq hexact.symm) hverdict hfailure now
      · rw [if_neg hfailure] at hstruck
        omega

/-- No probe is answered: nothing happens twice, and at the third time a
failover begins. -/
theorem the_limit_on_failed_checks_is_exact_at_the_third :
    ∃ (trace : List (System × Move)) (w : System) (k : Coordinator),
      History trace w ∧ w.cluster.primary = some "a" ∧
      w.coordinator.settings.maxConsecutiveFailures = 3 ∧
      Ticked "a" w.coordinator [.unknown, .unknown] k ∧ k.log = w.coordinator.log ∧
      k.cluster.state = .normal ∧
      ∀ now, Returns (fun _ _ => True) (fun k' _ => Coordinator.FailedOver "a" 3 k.log k')
        (Coordinator.sweep now (fun _ => .broken 0.0) k) := by
  obtain ⟨trace, h, _⟩ := System.play_history Coordinator.fresh_standard calm (listening.take 2)
  let w := System.play calm (.initial .standard) (listening.take 2)
  have hlimit := the_limit_on_failed_checks_is_exact w.coordinator "a"
    (Cluster.crown (Node.well "a" .primary)) (Or.inl rfl) (by decide) h.onePrimary rfl rfl rfl rfl
    (by decide) rfl
  have hbefore : ∀ verdicts : List HealthStatus, verdicts.length < 3 →
      ∀ earlier, earlier <+: verdicts → ¬ Struck 3 earlier := by
    intro verdicts hshort earlier hbegins hstruck
    have := hstruck.le_length
    have := hbegins.length_le
    omega
  let results : Node → ProbeResult Float := fun _ => .broken 0.0
  -- two sweeps go by
  obtain ⟨_, _, _, n, hn, hnext⟩ := hlimit [] w.coordinator .start (hbefore [] (by decide))
  obtain ⟨k₁, heq, _⟩ := (hnext ⟨0, false⟩ results).1
    (hbefore [.unknown] (by decide) _ List.prefix_rfl)
  have h₁ : Ticked "a" w.coordinator [.unknown] k₁ :=
    .sweep .start ⟨0, false⟩ results hn (.of_eq heq)
  obtain ⟨_, _, _, n₁, hn₁, hnext₁⟩ := hlimit _ k₁ h₁ (hbefore _ (by decide))
  obtain ⟨k₂, heq₁, _⟩ := (hnext₁ ⟨0, false⟩ results).1
    (hbefore [.unknown, .unknown] (by decide) _ List.prefix_rfl)
  have h₂ : Ticked "a" w.coordinator [.unknown, .unknown] k₂ :=
    .sweep h₁ ⟨0, false⟩ results hn₁ (.of_eq heq₁)
  -- the third one does not
  obtain ⟨hlog, hnormal, _, n₂, _, hnext₂⟩ := hlimit _ k₂ h₂ (hbefore _ (by decide))
  refine ⟨trace, w, k₂, h, rfl, rfl, h₂, hlog, hnormal, fun now => (hnext₂ now results).2 ?_⟩
  exact ⟨[], _, rfl, rfl, by simp [results, HealthReport.ofResult, HealthReport.failed]⟩

end Failover
