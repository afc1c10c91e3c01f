import Failover.Proofs.Alone
import Failover.Proofs.Transitions

-- The record of the last failure. It is written and cleared together with the
-- state, so that it is there exactly while something is still to be done about
-- the failure.

namespace Failover

/-- The states in which a failure is not over. -/
def ClusterState.recordsFailure : ClusterState → Bool
  | failoverInProgress | degraded | failoverComplete | recoveryInProgress => true
  | normal | recoveryComplete => false

theorem ClusterState.recordsFailure_of_settled {s : ClusterState} (h : s.isSettled = true) :
    s.recordsFailure = true := by
  cases s <;> simp_all [isSettled, recordsFailure]

/-- A failure is on record when the state says so. -/
def Cluster.Recorded (k : Cluster) : Prop := k.lastFailure.isSome = k.state.recordsFailure

/-! ## One section -/

section

variable {now : Moment} {limit : Span} {chosen : Option (Attempt × Candidate)} {k k' : Cluster}
  {p q : Phase} {e : Option FailoverEvent}

theorem Upkeep.lastFailure (h : Upkeep limit now k k') : k'.lastFailure = k.lastFailure := by
  cases h with
  | nothing => rfl
  | round answers =>
    have hpings := Cluster.sameParts_recordPings k now answers
    exact (Cluster.sameParts_scanTimeouts _ limit now).lastFailure.trans hpings.lastFailure
  | sweep reports => exact (Cluster.sameParts_recordAll k reports).lastFailure
  | leave hr => exact Cluster.remove_lastFailure hr

theorem Ordered.lastFailure (h : Ordered k k') : k'.lastFailure = k.lastFailure := by
  cases h with
  | nothing => rfl
  | join ha => exact Cluster.add_lastFailure ha
  | leave hr => exact Cluster.remove_lastFailure hr
  | maintain hm => exact (Cluster.sameParts_setMaintenance hm).lastFailure

theorem Upkeep.recorded (h : Upkeep limit now k k') (hk : k.Recorded) : k'.Recorded := by
  rw [Cluster.Recorded, h.lastFailure, h.state]
  exact hk

theorem Ordered.recorded (h : Ordered k k') (hk : k.Recorded) : k'.Recorded := by
  rw [Cluster.Recorded, h.lastFailure, h.state]
  exact hk

/-- Who settles a failover or ends a recovery finds the cluster in the state of
its phase, so what it does to the record fits what it does to the state. -/
theorem Turn.keepsRecord (h : Turn now limit chosen k p q e k')
    (hp : ∀ s, p.state? = some s → k.state = s) (hk : k.Recorded) : k'.Recorded := by
  cases h with
  | stay => exact hk
  | tend hu => exact hu.recorded hk
  | begin => rfl
  | fail | cancel =>
    have hs := hp _ rfl
    simp_all [Cluster.Recorded, ClusterState.recordsFailure]
  | commit _ hs =>
    rw [Cluster.Recorded, hs] at hk
    exact hk
  | recover hs =>
    rw [Cluster.Recorded, ClusterState.recordsFailure_of_settled hs] at hk
    exact hk
  | reopen =>
    by_cases hs : k.state = .recoveryComplete
    · simpa [Cluster.Recorded, ClusterState.recordsFailure, hs] using hk
    · simpa [Cluster.Recorded, hs] using hk
  | rejoin | release | promote => rfl

end

/-! ## The way back -/

namespace Coordinator

/-- The failure is old enough for a recovery, and the node that failed is well
or gone. -/
def RecoveryDue (c : Coordinator) (failure : FailureRecord) (now : Moment) : Prop :=
  c.settings.recoveryDelay ≤ now.since failure.time ∧
    ∀ n, failure.node.bind c.cluster.node? = some n → n.active = true ∧ n.isHealthy = true

variable {c : Coordinator} {now : Moment}

theorem beginRecovery_leaves (id : String) (h : c.cluster.state.isSettled = true) :
    (beginRecovery now id c).1.cluster.state = .recoveryInProgress := by
  unfold beginRecovery
  dsimp only
  rw [if_pos h, announce_cluster]

theorem settle_leaves (h : c.cluster.state.isSettled = true) :
    (settle now c).1.cluster.state = .normal := by
  unfold settle announceLast
  dsimp only
  rw [if_pos h, announce_cluster]
  rfl

/-- A look at the recovery takes a settled cluster on its way as soon as the
recovery is due, and not before. -/
theorem checkRecovery_leaves_iff {failure : FailureRecord} (hs : c.cluster.state.isSettled = true)
    (hf : c.cluster.lastFailure = some failure) :
    (checkRecovery now c).1.cluster.state.isSettled = false ↔ c.RecoveryDue failure now := by
  have hclose : (close true .done c).1.cluster.state.isSettled = true := hs
  unfold checkRecovery RecoveryDue
  simp only [hf]
  split
  · rename_i hearly
    rw [hclose]
    simp [Int.not_le.mpr hearly]
  · rename_i hlate
    have hlate' := Int.not_lt.mp hlate
    split
    · rename_i n hn
      split
      · rename_i hwell
        simp only [Bool.and_eq_true] at hwell
        rw [beginRecovery_leaves n.id hs]
        simpa [hn, hwell, ClusterState.isSettled] using hlate'
      · rename_i hill
        rw [hclose]
        simp_all
    · rename_i hgone
      rw [settle_leaves hs]
      simpa [hgone, ClusterState.isSettled] using hlate'

end Coordinator

/-! ## An attempt that is cancelled -/

/-- A failover that nobody disturbs is either still under way or settled by one
section. -/
theorem Turn.settles {now : Moment} {limit : Span} {chosen : Option (Attempt × Candidate)}
    {k k' : Cluster} {p q : Phase} {e : Option FailoverEvent}
    (h : Turn now limit chosen k p q e k') (hp : p = .failover) (hk : k.state = .failoverInProgress) :
    (q = .failover ∧ k' = k) ∨ q = .plain ∧ ∃ e', e = some e' ∧
      (e'.type = .failoverCancelled → k' = { k with state := .normal, lastFailure := none }) := by
  cases h with
  | stay => exact Or.inl ⟨hp, rfl⟩
  | cancel he => exact Or.inr ⟨rfl, _, rfl, fun _ => by simp [hk]⟩
  | fail he => exact Or.inr ⟨rfl, _, rfl, fun hc => by cases he.1.symm.trans hc⟩
  | commit _ _ _ _ _ _ he => exact Or.inr ⟨rfl, _, rfl, fun hc => by cases he.1.symm.trans hc⟩
  | tend | begin | recover | rejoin | reopen | release | promote => cases hp

namespace Coordinator

/-- How far an attempt has come that started from these members: it is under
way, or it is settled, and if it was cancelled all is as it was. -/
def Attempted (k : Cluster) (r : Coordinator × Progress) : Prop :=
  (r.2.phase = .failover ∧ ∃ failure, r.1.cluster =
    { k with state := .failoverInProgress, lastFailure := some failure }) ∨
  r.2.closing = true ∧ (r.1.log.last?.map (·.type) = some .failoverCancelled → r.1.cluster = k)

theorem beginFailover_attempted {c : Coordinator} (now : Moment) (trigger : Trigger)
    (purpose : Purpose) (hs : c.cluster.state = .normal) :
    Attempted c.cluster (beginFailover now trigger purpose c) := by
  unfold beginFailover
  rw [if_pos hs]
  obtain ⟨a, heq, hphase, _⟩ := announce_waits _ _ _
  dsimp only
  rw [heq]
  exact Or.inl ⟨hphase, _, rfl⟩

theorem Attempted.next {k : Cluster} {c : Coordinator} {a : Activity} (hs : k.state = .normal)
    (hf : k.lastFailure = none) (h : Attempted k (c, .waits a)) (now : Moment) (reply : a.Reply) :
    Attempted k (nextSection now a reply c) := by
  rcases h with ⟨hphase, failure, hcluster⟩ | ⟨hclosing, hcancelled⟩
  · obtain ⟨e, htook, hturn⟩ := (nextSection_turned now a reply c).turn
    have hstate : c.cluster.state = .failoverInProgress := congrArg Cluster.state hcluster
    rcases hturn.settles hphase hstate with ⟨hq, hsame⟩ | ⟨hq, e', rfl, hback⟩
    · exact Or.inl ⟨hq, failure, hsame.trans hcluster⟩
    · rcases nextSection_goes hphase now reply c with hgoes | hcloses
      · rw [hq] at hgoes
        cases hgoes
      · refine Or.inr ⟨hcloses, fun hlast => ?_⟩
        rw [htook.last?] at hlast
        rw [hback (Option.some.inj hlast)]
        have hk : c.cluster = { k with state := .failoverInProgress, lastFailure := some failure } :=
          hcluster
        rw [hk, ← hs, ← hf]
  · obtain ⟨hcloses, hsame, halike⟩ := nextSection_closing hclosing now reply c
    obtain ⟨stats, hlog, _⟩ := halike.log
    refine Or.inr ⟨hcloses, fun hlast => hsame.trans (hcancelled ?_)⟩
    rw [hlog] at hlast
    exact hlast

theorem Alone.attempted {c : Coordinator} {now : Moment} {trigger : Trigger} {purpose : Purpose}
    {r : Coordinator × Progress} (h : Alone (beginFailover now trigger purpose c) r)
    (hs : c.cluster.state = .normal) (hf : c.cluster.lastFailure = none) :
    Attempted c.cluster r := by
  induction h with
  | here => exact beginFailover_attempted now trigger purpose hs
  | on _ now reply ih => exact ih.next hs hf now reply

/-- A failover that ends cancelled and that nobody disturbs leaves the cluster
as it was. -/
theorem Alone.unchanged {c c' : Coordinator} {now : Moment} {trigger : Trigger} {purpose : Purpose}
    {answer : Answer} (h : Alone (beginFailover now trigger purpose c) (c', .ends answer))
    (hs : c.cluster.state = .normal) (hf : c.cluster.lastFailure = none)
    (hlast : c'.log.last?.map (·.type) = some .failoverCancelled) : c'.cluster = c.cluster := by
  rcases h.attempted hs hf with ⟨hphase, _⟩ | ⟨_, hcancelled⟩
  · cases hphase
  · exact hcancelled hlast

end Coordinator

/-! ## The record in a run -/

variable {trace : List (System × Move)} {w w' : System} {m : Move}

theorem Step.recordsFailure (h : Step w m w') (howned : Owned w) (hw : w.cluster.Recorded) :
    w'.cluster.Recorded := by
  rcases h.advanced_or_rested with ha | hrest
  · obtain ⟨_, _, _, _, _, hturn, _⟩ := ha.turn
    exact hturn.keepsRecord (ha.state howned) hw
  · exact hrest.cluster.recorded hw

theorem History.recordsFailure (h : History trace w) : w.cluster.Recorded := by
  have hboth : Owned w ∧ w.cluster.Recorded := by
    refine h.holds (P := fun w => Owned w ∧ w.cluster.Recorded) (fun c hc => ?_)
      fun w m w' hw hs => ?_
    · refine ⟨(attended_initial hc).owned, ?_⟩
      simp only [Cluster.Recorded, System.cluster, System.initial, hc.blank.1]
      rfl
    · exact ⟨hs.owned hw.1, hs.recordsFailure hw.1 hw.2⟩
  exact hboth.2

theorem recordsFailure_iff {k : Cluster} (h : k.Recorded) : k.lastFailure.isSome = true ↔
    k.state = .failoverInProgress ∨ k.state = .degraded ∨ k.state = .failoverComplete ∨
      k.state = .recoveryInProgress := by
  rw [h]
  cases k.state <;> simp [ClusterState.recordsFailure]

theorem launch_watch (w : System) (now : Moment) (hs : w.state.isSettled = true)
    (hr : w.coordinator.settings.autoRecovery = true) :
    (w.launch now .watch).state = (Coordinator.checkRecovery now w.coordinator).1.cluster.state := by
  have hn : w.coordinator.cluster.state ≠ .normal := by
    intro hn
    simp only [System.state, System.cluster, hn] at hs
    cases hs
  have hsettled : w.coordinator.cluster.state.isSettled = true := hs
  simp only [System.launch, System.turn, System.state, System.cluster, Coordinator.firstSection,
    Coordinator.watch, if_neg hn, hsettled, hr, Bool.and_self, if_true]

/-- However operations overlap and wherever they are dropped, a failure is on
record exactly while it is not over. So a watch always finds what to recover
from, and goes on as soon as the recovery is due; and a failover that is
cancelled, when nobody comes in between, leaves the members, the primary, the
state and the record as they were. -/
theorem a_failure_is_on_record_until_it_is_over (h : History trace w) :
    (w.cluster.lastFailure.isSome = true ↔
      w.state = .failoverInProgress ∨ w.state = .degraded ∨ w.state = .failoverComplete ∨
        w.state = .recoveryInProgress) ∧
    (w.state.isSettled = true → w.coordinator.settings.autoRecovery = true →
      ∃ failure, w.cluster.lastFailure = some failure ∧ ∀ now,
        ((w.launch now .watch).state.isSettled = false ↔ w.coordinator.RecoveryDue failure now)) ∧
    (w.state = .normal → ∀ limit time c, Upkeep limit time w.cluster c.cluster →
      ∀ now trigger purpose c' answer,
        Coordinator.Alone (Coordinator.beginFailover now trigger purpose c) (c', .ends answer) →
        c'.log.last?.map (·.type) = some .failoverCancelled → c'.cluster = c.cluster) := by
  have hw := h.recordsFailure
  refine ⟨recordsFailure_iff hw, ?_, ?_⟩
  · intro hs hr
    have hsome : w.cluster.lastFailure.isSome = true :=
      hw.trans (ClusterState.recordsFailure_of_settled hs)
    obtain ⟨failure, hf⟩ := Option.isSome_iff_exists.mp hsome
    refine ⟨failure, hf, fun now => ?_⟩
    rw [launch_watch w now hs hr]
    exact Coordinator.checkRecovery_leaves_iff hs hf
  · intro hs limit time c hu now trigger purpose c' answer halone hlast
    have hstate : c.cluster.state = .normal := hu.state.trans hs
    have hnone : c.cluster.lastFailure.isSome = false := by
      rw [hu.recorded hw, hstate]
      rfl
    exact halone.unchanged hstate (by simpa using hnone) hlast

/-- The primary has failed its checks and is well again before anybody has
looked. -/
def blip : List Cue :=
  let now := ⟨0, false⟩
  [ .order now (.register { Node.well "a" .primary with failures := 3 })
  , .order now (.register (Node.well "b" .secondary)) ]

theorem a_failure_is_on_record_until_it_is_over_after_a_blip :
    ∃ trace w, History trace w ∧ w.state = .normal ∧
      (∃ c' answer, Coordinator.Alone
          (Coordinator.beginFailover ⟨0, false⟩ (.failures "a" 3) .watch w.coordinator)
          (c', .ends answer) ∧
        c'.log.last?.map (·.type) = some .failoverCancelled ∧ c'.cluster = w.cluster) ∧
      (w.cluster.lastFailure.isSome = true ↔
        w.state = .failoverInProgress ∨ w.state = .degraded ∨ w.state = .failoverComplete ∨
          w.state = .recoveryInProgress) ∧
      (w.state.isSettled = true → w.coordinator.settings.autoRecovery = true →
        ∃ failure, w.cluster.lastFailure = some failure ∧ ∀ now,
          ((w.launch now .watch).state.isSettled = false ↔ w.coordinator.RecoveryDue failure now)) ∧
      (w.state = .normal → ∀ limit time c, Upkeep limit time w.cluster c.cluster →
        ∀ now trigger purpose c' answer,
          Coordinator.Alone (Coordinator.beginFailover now trigger purpose c) (c', .ends answer) →
          c'.log.last?.map (·.type) = some .failoverCancelled → c'.cluster = c.cluster) := by
  obtain ⟨trace, h, _⟩ := System.play_history Coordinator.fresh_standard calm blip
  have hall := a_failure_is_on_record_until_it_is_over h
  refine ⟨trace, _, h, by decide, ?_, hall⟩
  have hbegun := Coordinator.Alone.here (r := Coordinator.beginFailover ⟨0, false⟩ (.failures "a" 3)
    .watch (System.play calm (.initial .standard) blip).coordinator)
  have hcancelled := hbegun.on (a := .ready (.select _)) ⟨0, false⟩ ()
  have hends := hcancelled.on (a := .ready (.close _ _)) ⟨0, false⟩ ()
  have hback := hall.2.2 (by decide) 0 ⟨0, false⟩ _ .nothing _ _ _ _ _ hends (by decide)
  exact ⟨_, _, hends, by decide, hback⟩

end Failover
