import Failover.Proofs.FailureRecords
import Failover.Proofs.Removals
import Failover.Proofs.Returns
import Failover.Proofs.SinglePrimary

-- What a watch comes to after a failover. Until the delay is over it waits, and
-- then it waits for the failed node to be well. The node joins again with the
-- part that it has by then, and if it is gone the cluster is normal at once.

namespace Failover

namespace Coordinator

variable {ok : (a : Activity) → a.Reply → Prop} {post : Coordinator → Answer → Prop}
  {now : Moment} {c : Coordinator} {id : String}

/-! ## A recovery that nobody disturbs -/

/-- The cluster when the node has joined again. -/
def recovered (k : Cluster) (id : String) : Cluster :=
  { k with
    nodes := k.nodes.modify id (rejoined (k.isPrimary id))
    lastFailure := none
    state := .normal }

/-- The operation is over with these events in the log and this cluster. -/
structure Leaves (c : Coordinator) (types : List EventType) (k : Cluster) (c' : Coordinator) :
    Prop where
  settings : c'.settings = c.settings
  log : ∃ es, es.map (·.type) = types ∧ c.log.TookAll es c'.log
  cluster : c'.cluster = k

/-- A recovery goes through to the end, whatever becomes of the notices. -/
theorem returns_recovery (hs : c.cluster.state.isSettled = true) (now : Moment) (id : String)
    (h : ∀ c', c.Leaves [.recoveryInitiated, .recoveryCompleted, .stateChanged]
      (recovered c.cluster id) c' → post c' .done) :
    Returns ok post (beginRecovery now id c) := by
  obtain ⟨e₁, ht₁, hbegins⟩ := beginRecovery_announces hs now id
  refine hbegins.returns fun now c₁ h₁ => ?_
  obtain ⟨e₂, ht₂, hrejoins⟩ := rejoin_announces now id c₁
  refine hrejoins.returns fun now c₂ h₂ => ?_
  have hstate : c₂.cluster.state = .recoveryComplete := by rw [h₂.cluster]
  obtain ⟨e₃, ht₃, hreopens⟩ := reopen_announces hstate now
  refine hreopens.concludes fun c₃ h₃ => h c₃ ⟨?_, ⟨[e₁, e₂, e₃], ?_, ?_⟩, ?_⟩
  · rw [h₃.settings, h₂.settings, h₁.settings]
  · simp [ht₁, ht₂, ht₃]
  · exact (h₁.log.all.snoc h₂.log).snoc h₃.log
  · rw [h₃.cluster, h₂.cluster, h₁.cluster]
    rfl

theorem returns_settle (hs : c.cluster.state.isSettled = true) (now : Moment)
    (h : ∀ c', c.Leaves [.stateChanged]
      { c.cluster with state := .normal, lastFailure := none } c' → post c' .done) :
    Returns ok post (settle now c) := by
  obtain ⟨e, ht, hannounces⟩ := settle_announces hs now
  exact hannounces.concludes fun c' hc' =>
    h c' ⟨hc'.settings, ⟨[e], by simp [ht], hc'.log.all⟩, hc'.cluster⟩

/-! ## What a watch comes to -/

/-- The operation is over at once, and all it has done is to renew the levels in
the metrics. -/
def Rests (c : Coordinator) (r : Coordinator × Progress) : Prop := r = (c.updateLevels, .ends .done)

theorem Rests.cluster {r : Coordinator × Progress} (h : c.Rests r) : r.1.cluster = c.cluster := by
  rw [h]
  rfl

theorem watch_of_settled (hs : c.cluster.state.isSettled = true)
    (hauto : c.settings.autoRecovery = true) (now : Moment) : watch now c = checkRecovery now c := by
  have hn : c.cluster.state ≠ .normal := by
    intro hn
    rw [hn] at hs
    cases hs
  unfold watch
  rw [if_neg hn, hs, hauto]
  rfl

variable {failure : FailureRecord}

theorem checkRecovery_early (hf : c.cluster.lastFailure = some failure)
    (h : now.since failure.time < c.settings.recoveryDelay) : c.Rests (checkRecovery now c) := by
  unfold checkRecovery Rests
  simp only [hf, if_pos h]
  rfl

theorem checkRecovery_gone (hf : c.cluster.lastFailure = some failure)
    (h : ¬ now.since failure.time < c.settings.recoveryDelay)
    (hgone : ∀ id, failure.node = some id → c.cluster.node? id = none) :
    checkRecovery now c = settle now c := by
  have hnobody : failure.node.bind c.cluster.node? = none :=
    Option.bind_eq_none_iff.mpr hgone
  unfold checkRecovery
  simp only [hf, if_neg h, hnobody]

theorem checkRecovery_found {n : Node} (hf : c.cluster.lastFailure = some failure)
    (h : ¬ now.since failure.time < c.settings.recoveryDelay) (hid : failure.node = some id)
    (hn : c.cluster.node? id = some n) :
    checkRecovery now c =
      if n.active && n.isHealthy then beginRecovery now n.id c else close true .done c := by
  unfold checkRecovery
  simp only [hf, if_neg h, hid, Option.bind_some, hn]

end Coordinator

/-- A member that has joined again under this id: it has a clean record, and the
part of the primary only if it is the primary. -/
structure Cluster.Rejoins (k : Cluster) (id : String) (n : Node) (k' : Cluster) : Prop where
  normal : k'.state = .normal
  forgotten : k'.lastFailure = none
  primary : k'.primary = k.primary
  others : ∀ other, other ≠ id → k'.node? other = k.node? other
  node : k'.node? id = some { n with
    failures := 0
    primary := decide (k.primary = some id)
    role := if k.primary = some id then .primary else .secondary }

theorem Coordinator.recovered_rejoins {k : Cluster} {id : String} {n : Node}
    (hn : k.node? id = some n) : k.Rejoins id n (recovered k id) := by
  have hnode : ∀ other, (recovered k id).node? other =
      (k.node? other).map fun n => if other = id then rejoined (k.isPrimary id) n else n :=
    fun other => Table.get?_modify _ _ _ _
  refine ⟨rfl, rfl, rfl, fun other hne => ?_, ?_⟩
  · simp [hnode, hne]
  · rw [hnode, hn, Option.map_some, if_pos rfl]
    by_cases hp : k.primary = some id
    · simp [rejoined, Cluster.isPrimary, hp]
    · simp [rejoined, Cluster.isPrimary, hp]

open Coordinator (Returns)

variable {trace : List (System × Move)} {w : System}

/-- After a failover, well or badly ended, a watch that nobody disturbs does one
of four things by what is on record. Before the delay is over it changes
nothing. If no member failed, or the one that did is gone, the cluster is
normal and everybody stays as they are. If the member is not active and healthy
nothing changes. Otherwise it joins again. -/
theorem a_watch_recovers_what_has_failed (h : History trace w) (hs : w.state.isSettled = true)
    (hauto : w.coordinator.settings.autoRecovery = true) :
    ∃ failure, w.cluster.lastFailure = some failure ∧ ∀ now,
      (now.since failure.time < w.coordinator.settings.recoveryDelay →
        w.coordinator.Rests (Coordinator.firstSection now .watch w.coordinator)) ∧
      (w.coordinator.settings.recoveryDelay ≤ now.since failure.time →
        ((∀ id, failure.node = some id → w.cluster.node? id = none) →
          Returns (fun _ _ => True)
            (fun c' _ => w.coordinator.Leaves [.stateChanged]
              { w.cluster with state := .normal, lastFailure := none } c')
            (Coordinator.firstSection now .watch w.coordinator)) ∧
        ∀ id n, failure.node = some id → w.cluster.node? id = some n →
          (¬ (n.active = true ∧ n.status = .healthy) →
            w.coordinator.Rests (Coordinator.firstSection now .watch w.coordinator)) ∧
          (n.active = true ∧ n.status = .healthy →
            Returns (fun _ _ => True)
              (fun c' _ => w.cluster.Rejoins id n c'.cluster ∧
                (∃ es, es.map (·.type) = [.recoveryInitiated, .recoveryCompleted, .stateChanged] ∧
                  w.coordinator.log.TookAll es c'.log) ∧
                c'.log.stats.recoveries = w.coordinator.log.stats.recoveries + 1)
              (Coordinator.firstSection now .watch w.coordinator))) := by
  have hrecorded : w.cluster.lastFailure.isSome = true :=
    h.recordsFailure.trans (ClusterState.recordsFailure_of_settled hs)
  obtain ⟨failure, hf⟩ := Option.isSome_iff_exists.mp hrecorded
  refine ⟨failure, hf, fun now => ?_⟩
  have hwatch : Coordinator.firstSection now .watch w.coordinator =
      Coordinator.checkRecovery now w.coordinator := Coordinator.watch_of_settled hs hauto now
  rw [hwatch]
  refine ⟨Coordinator.checkRecovery_early hf, fun hdue => ⟨fun hgone => ?_, fun id n hid hn => ?_⟩⟩
  · rw [Coordinator.checkRecovery_gone hf (Int.not_lt.mpr hdue) hgone]
    exact Coordinator.returns_settle hs now fun c' hc' => hc'
  · rw [Coordinator.checkRecovery_found hf (Int.not_lt.mpr hdue) hid hn,
      h.onePrimary.named id n hn]
    refine ⟨fun hunwell => ?_, fun hwell => ?_⟩
    · rw [if_neg (by simpa [Node.isHealthy] using hunwell)]
      rfl
    · rw [if_pos (by simpa [Node.isHealthy] using hwell)]
      refine Coordinator.returns_recovery hs now id fun c' hc' => ?_
      obtain ⟨es, htypes, hlog⟩ := hc'.log
      refine ⟨hc'.cluster ▸ Coordinator.recovered_rejoins hn, ⟨es, htypes, hlog⟩, ?_⟩
      have hcounted := hlog.counted (t := .recoveryCompleted) rfl
      rw [htypes] at hcounted
      exact hcounted

/-- The part of the primary has been handed over by an operator. The old primary
is well, and the delay is over. -/
theorem a_watch_recovers_what_has_failed_when_the_old_primary_is_well :
    ∃ (trace : List (System × Move)) (w : System) (failure : FailureRecord) (n : Node)
      (now : Moment),
      History trace w ∧ w.tasks = [] ∧ w.state = .failoverComplete ∧
      w.coordinator.settings.autoRecovery = true ∧ w.cluster.lastFailure = some failure ∧
      w.coordinator.settings.recoveryDelay ≤ now.since failure.time ∧ failure.node = some "a" ∧
      w.cluster.node? "a" = some n ∧ n.active = true ∧ n.status = .healthy ∧
      w.cluster.primary = some "b" ∧
      Returns (fun _ _ => True)
        (fun c' _ => w.cluster.Rejoins "a" n c'.cluster ∧
          (∃ es, es.map (·.type) = [.recoveryInitiated, .recoveryCompleted, .stateChanged] ∧
            w.coordinator.log.TookAll es c'.log) ∧
          c'.log.stats.recoveries = w.coordinator.log.stats.recoveries + 1)
        (Coordinator.firstSection now .watch w.coordinator) := by
  obtain ⟨trace, h, _⟩ := System.play_history Coordinator.fresh_standard calm handed
  have hs : (System.play calm (.initial .standard) handed).state = .failoverComplete := by decide
  have hauto : (System.play calm (.initial .standard) handed).coordinator.settings.autoRecovery =
      true := by decide
  obtain ⟨failure, hf, hlook⟩ := a_watch_recovers_what_has_failed h (by rw [hs]; rfl) hauto
  have hrecord : (System.play calm (.initial .standard) handed).cluster.lastFailure =
      some ⟨some "a", ⟨0, false⟩⟩ := by decide
  obtain rfl := Option.some.inj (hf.symm.trans hrecord)
  obtain ⟨n, hn, ha, hh⟩ : ∃ n, (System.play calm (.initial .standard) handed).cluster.node? "a" =
      some n ∧ n.active = true ∧ n.status = .healthy := by
    refine ⟨_, rfl, by decide, by decide⟩
  have hdue : (System.play calm (.initial .standard) handed).coordinator.settings.recoveryDelay ≤
      (Moment.ofMillis 300000).since ⟨0, false⟩ := by decide
  have hrejoins := (((hlook (Moment.ofMillis 300000)).2 hdue).2 "a" n rfl hn).2 ⟨ha, hh⟩
  exact ⟨trace, _, _, n, _, h, by decide, hs, hauto, hf, hdue, rfl, hn, ha, hh, by decide, hrejoins⟩

end Failover
