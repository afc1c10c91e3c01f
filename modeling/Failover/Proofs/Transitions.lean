import Failover.Proofs.Members
import Failover.Proofs.Steps

-- Changes of state that take time. While a failover or a recovery is on its
-- way the cluster belongs to one operation, and nobody else moves it.

namespace Failover

/-- The state that a cluster is in while an operation is in this phase. -/
def Phase.state? : Phase → Option ClusterState
  | failover => some .failoverInProgress
  | recovery => some .recoveryInProgress
  | plain | reopening => none

theorem Phase.ne_plain {p : Phase} {s : ClusterState} (h : p.state? = some s) : p ≠ .plain := by
  rintro rfl
  cases h

theorem Phase.eq_of_state {p : Phase} {s : ClusterState} (h : p.state? = some s) :
    (s = .failoverInProgress ∧ p = .failover) ∨ (s = .recoveryInProgress ∧ p = .recovery) := by
  cases p <;> simp_all [Phase.state?]

theorem ClusterState.phase_of_transitional {s : ClusterState} (h : s.isTransitional = true) :
    ∃ p, Phase.state? p = some s := by
  cases s with
  | failoverInProgress => exact ⟨.failover, rfl⟩
  | recoveryInProgress => exact ⟨.recovery, rfl⟩
  | normal | degraded | failoverComplete | recoveryComplete => cases h

theorem ClusterState.still {s : ClusterState} (h : s.isTransitional = false) :
    s ≠ .failoverInProgress ∧ s ≠ .recoveryInProgress := by
  cases s <;> simp_all [isTransitional]

theorem ClusterState.still_of_settled {s : ClusterState} (h : s.isSettled = true) :
    s ≠ .failoverInProgress ∧ s ≠ .recoveryInProgress := by
  cases s <;> simp_all [isSettled]

/-! ## What one section does to the state -/

section

variable {now : Moment} {limit : Span} {chosen : Option (Attempt × Candidate)} {k k' : Cluster}
  {p q : Phase} {e : Option FailoverEvent}

theorem Upkeep.state (h : Upkeep limit now k k') : k'.state = k.state := by
  cases h with
  | nothing => rfl
  | round answers => exact (Cluster.sameParts_recordPings k now answers).state
  | sweep reports => exact (Cluster.sameParts_recordAll k reports).state
  | leave hr => exact Cluster.remove_state hr

theorem Ordered.state (h : Ordered k k') : k'.state = k.state := by
  cases h with
  | nothing => rfl
  | join ha => exact Cluster.add_state ha
  | leave hr => exact Cluster.remove_state hr
  | maintain hm => exact (Cluster.sameParts_setMaintenance hm).state

/-- The state and the phases change together: when the cluster comes into the
state of a phase an operation comes into the phase, and likewise on the way
out. -/
theorem Turn.balance (h : Turn now limit chosen k p q e k')
    (hp : ∀ s, p.state? = some s → k.state = s) {r : Phase} {s : ClusterState}
    (hr : r.state? = some s) :
    (if k'.state = s then 1 else 0) + (if p = r then 1 else 0) =
      (if k.state = s then 1 else 0) + if q = r then 1 else 0 := by
  have hs := Phase.eq_of_state hr
  cases h with
  | stay => rfl
  | tend hu => rw [hu.state]
  | begin hu hnormal =>
    have hk : k.state = .normal := hu.state.symm.trans hnormal
    rcases hs with ⟨rfl, rfl⟩ | ⟨rfl, rfl⟩ <;> simp [hk]
  | fail | cancel | rejoin =>
    have hk := hp _ rfl
    rcases hs with ⟨rfl, rfl⟩ | ⟨rfl, rfl⟩ <;> simp [hk]
  | commit _ hk => rcases hs with ⟨rfl, rfl⟩ | ⟨rfl, rfl⟩ <;> simp [hk]
  | recover hsettled =>
    have hk := ClusterState.still_of_settled hsettled
    rcases hs with ⟨rfl, rfl⟩ | ⟨rfl, rfl⟩ <;> simp [hk.1, hk.2]
  | reopen =>
    by_cases hk : k.state = .recoveryComplete
    · rcases hs with ⟨rfl, rfl⟩ | ⟨rfl, rfl⟩ <;> simp [hk]
    · rcases hs with ⟨rfl, rfl⟩ | ⟨rfl, rfl⟩ <;> simp [hk]
  | release _ hstill | promote hstill =>
    have hk := ClusterState.still hstill
    rcases hs with ⟨rfl, rfl⟩ | ⟨rfl, rfl⟩ <;> simp [hk.1, hk.2]

/-- The event tells what has happened to the state, and there is one whenever
something has. -/
def Recorded (before after : ClusterState) : Option FailoverEvent → Prop
  | none => after = before
  | some e => e.oldState = before ∧ e.newState = after

/-- What ends a recovery is told even if somebody else has ended it before. -/
theorem Turn.recorded (h : Turn now limit chosen k p q e k')
    (hp : ∀ s, p.state? = some s → k.state = s) :
    Recorded k.state k'.state e ∨
      p = .reopening ∧ k.state ≠ .recoveryComplete ∧ k'.state = k.state ∧
        ∃ e', e = some e' ∧ e'.Tells .stateChanged .recoveryComplete .normal := by
  cases h with
  | stay => exact Or.inl rfl
  | tend hu => exact Or.inl hu.state
  | begin hu hnormal he =>
    have hk : k.state = .normal := hu.state.symm.trans hnormal
    exact Or.inl ⟨he.2.1.trans hk.symm, he.2.2⟩
  | fail he | cancel he =>
    have hk := hp _ rfl
    exact Or.inl ⟨he.2.1.trans hk.symm, by simp [hk, he.2.2]⟩
  | commit _ hk _ _ _ _ he => exact Or.inl ⟨he.2.1.trans hk.symm, he.2.2⟩
  | rejoin _ he =>
    have hk := hp _ rfl
    exact Or.inl ⟨he.2.1.trans hk.symm, he.2.2⟩
  | reopen he =>
    by_cases hk : k.state = .recoveryComplete
    · exact Or.inl ⟨he.2.1.trans hk.symm, by simp [hk, he.2.2]⟩
    · exact Or.inr ⟨rfl, hk, by simp [hk], _, rfl, he⟩
  | recover _ he | release _ _ he | promote _ _ _ _ _ he => exact Or.inl he.2

/-- Only a recovery leaves a cluster in the state of its end, and it is still
to make the cluster normal then. -/
theorem Turn.reopening (h : Turn now limit chosen k p q e k')
    (hk' : k'.state = .recoveryComplete) :
    q = .reopening ∨ (p ≠ .reopening ∧ k.state = .recoveryComplete) := by
  cases h with
  | stay =>
    by_cases hp : p = .reopening
    · exact Or.inl hp
    · exact Or.inr ⟨hp, hk'⟩
  | tend hu => exact Or.inr ⟨by simp, hu.state ▸ hk'⟩
  | fail =>
    split at hk'
    · cases hk'
    · exact Or.inr ⟨by simp, hk'⟩
  | cancel =>
    dsimp only at hk'
    split at hk'
    · cases hk'
    · exact Or.inr ⟨by simp, hk'⟩
  | reopen =>
    dsimp only at hk'
    split at hk'
    · cases hk'
    · rename_i hne
      exact absurd hk' hne
  | rejoin => exact Or.inl rfl
  | begin | commit | recover | release | promote => cases hk'

end

/-! ## Owners -/

/-- An operation in a phase has the cluster in the state of the phase, and is
the only one. -/
def Owned (w : System) : Prop :=
  ∀ r s, Phase.state? r = some s → w.count r ≤ if w.state = s then 1 else 0

/-- A cluster in the state of a phase has an operation in the phase, and one
that has just recovered has one that is to make it normal. -/
structure Attended (w : System) : Prop where
  owner : ∀ r s, Phase.state? r = some s → w.count r = if w.state = s then 1 else 0
  reopening : w.state = .recoveryComplete → 0 < w.count .reopening

theorem Attended.owned {w : System} (h : Attended w) : Owned w :=
  fun r s hr => Nat.le_of_eq (h.owner r s hr)

theorem Owned.state {w : System} (h : Owned w) {r : Phase} {s : ClusterState}
    (hr : r.state? = some s) (hpos : 0 < w.count r) : w.state = s := by
  have hle := h r s hr
  by_contra hne
  rw [if_neg hne] at hle
  omega

theorem System.count_pos {w : System} {t : Task} (h : t ∈ w.tasks) :
    0 < w.count t.activity.phase :=
  List.countP_pos_iff.mpr ⟨t, h, by simp⟩

section

variable {w w' : System} {m : Move}

theorem Advanced.state (h : Advanced m w w') (hw : Owned w) :
    ∀ s, m.phase.state? = some s → w.state = s :=
  fun _ hs => hw.state hs (h.here (Phase.ne_plain hs))

theorem Advanced.balance (h : Advanced m w w') (hw : Owned w) {r : Phase} {s : ClusterState}
    (hr : r.state? = some s) :
    w'.count r + (if w.state = s then 1 else 0) = w.count r + if w'.state = s then 1 else 0 := by
  obtain ⟨_, e, q, _, _, hturn, hcount⟩ := h.turn
  have hstates : (if w'.state = s then 1 else 0) + (if m.phase = r then 1 else 0) =
      (if w.state = s then 1 else 0) + if q = r then 1 else 0 := hturn.balance (h.state hw) hr
  have hcounts := hcount r (Phase.ne_plain hr)
  omega

theorem Advanced.attended (h : Advanced m w w') (hw : Attended w) : Attended w' := by
  refine ⟨fun r s hr => ?_, fun hs => ?_⟩
  · have hbalance := h.balance hw.owned hr
    have hold := hw.owner r s hr
    omega
  · obtain ⟨_, e, q, _, _, hturn, hcount⟩ := h.turn
    have hcounts := hcount .reopening (by simp)
    rcases hturn.reopening hs with rfl | ⟨hp, hold⟩
    · -- it comes into the phase, or stays in it while hooks are left
      rw [if_pos rfl] at hcounts
      by_cases hp : m.phase = .reopening
      · have hpos := h.here (by simp [hp])
        rw [hp] at hpos
        rw [if_pos hp] at hcounts
        omega
      · rw [if_neg hp] at hcounts
        omega
    · have := hw.reopening hold
      rw [if_neg hp] at hcounts
      omega

theorem Step.owned (h : Step w m w') (hw : Owned w) : Owned w' := by
  intro r s hr
  have hold := hw r s hr
  rcases h.advanced_or_rested with ha | hrest
  · have hbalance := ha.balance hw hr
    omega
  · have hstate : w'.state = w.state := hrest.cluster.state
    have hcount : w'.count r ≤ w.count r := hrest.tasks.countP_le
    rw [hstate]
    omega

theorem Step.attended (h : Step w m w') (hd : m.isDrop = false) (hw : Attended w) :
    Attended w' := by
  rcases h.advanced_or_rested with ha | hrest
  · exact ha.attended hw
  · have hstate : w'.state = w.state := hrest.cluster.state
    have hcount (r : Phase) : w'.count r = w.count r := by
      simp only [System.count, hrest.kept hd]
    refine ⟨fun r s hr => ?_, fun hs => ?_⟩
    · rw [hstate, hcount]
      exact hw.owner r s hr
    · rw [hcount]
      exact hw.reopening (hstate ▸ hs)

end

theorem attended_initial {c : Coordinator} (hc : c.Fresh) : Attended (.initial c) := by
  have hstate : (System.initial c).state = .normal := by
    simp only [System.state, System.cluster, System.initial, hc.blank.1]
    rfl
  refine ⟨fun r s hr => ?_, fun hs => ?_⟩
  · rw [hstate]
    rcases Phase.eq_of_state hr with ⟨rfl, rfl⟩ | ⟨rfl, rfl⟩ <;> rfl
  · rw [hstate] at hs
    cases hs

variable {trace : List (System × Move)} {w : System}

/-- Operations that are dropped leave the cluster to nobody. -/
theorem History.owned (h : History trace w) : Owned w :=
  h.holds (fun _ hc => (attended_initial hc).owned) fun _ _ _ hw hs => hs.owned hw

theorem History.attended (h : History trace w) (hd : Undropped trace) : Attended w :=
  h.holds_undropped (fun _ hc => attended_initial hc) (fun _ _ _ hw hm hs => hs.attended hm hw) hd

/-! ## The laws of a cluster on its way -/

/-- A step records what it does to the state, but for the end of a recovery
that somebody else has ended. -/
theorem Step.recorded {w' : System} {m : Move} (h : Step w m w') (hw : Owned w) :
    ∃ e, w'.history = w.history ++ e.toList ∧ (Recorded w.state w'.state e ∨
      m.phase = .reopening ∧ w.state ≠ .recoveryComplete ∧ w'.state = w.state ∧
        ∃ e', e = some e' ∧ e'.Tells .stateChanged .recoveryComplete .normal) := by
  rcases h.advanced_or_rested with ha | hrest
  · obtain ⟨_, e, q, _, hhistory, hturn, _⟩ := ha.turn
    rcases hturn.recorded (ha.state hw) with hr | ⟨hp, hne, htells⟩
    · exact ⟨e, hhistory, Or.inl hr⟩
    · exact ⟨e, hhistory, Or.inr ⟨hp, hne, htells⟩⟩
  · exact ⟨none, by simp [hrest.history], Or.inl hrest.cluster.state⟩

/-- Whoever moves a cluster that is on its way is its owner. -/
theorem Step.moved_by_owner {w' : System} {m : Move} (h : Step w m w') (hw : Owned w)
    (hs : w.state.isTransitional = true) (hne : w'.state ≠ w.state) :
    ∃ now number a reply, m = .resume now number a reply ∧ ⟨number, a⟩ ∈ w.tasks ∧
      a.phase.state? = some w.state := by
  obtain ⟨r, hr⟩ := ClusterState.phase_of_transitional hs
  rcases h.advanced_or_rested with ha | hrest
  · obtain ⟨_, e, q, _, _, hturn, _⟩ := ha.turn
    have hstates : (if w'.state = w.state then 1 else 0) + (if m.phase = r then 1 else 0) =
        (if w.state = w.state then 1 else 0) + if q = r then 1 else 0 :=
      hturn.balance (ha.state hw) hr
    have hp : m.phase = r := by
      rw [if_neg hne, if_pos rfl] at hstates
      by_contra hp
      rw [if_neg hp] at hstates
      omega
    obtain ⟨now, number, a, reply, rfl, hphase⟩ := Move.resumes hp (Phase.ne_plain hr)
    exact ⟨now, number, a, reply, rfl, h.resumed, hphase ▸ hr⟩
  · exact absurd hrest.cluster.state hne

/-- Whoever takes a cluster out of a state finds it there. -/
theorem Step.settled {w' : System} {m : Move} {e : FailoverEvent} (h : Step w m w') (hw : Owned w)
    (hhistory : w'.history = w.history ++ [e]) (ht : e.oldState.isTransitional = true) :
    w.state = e.oldState ∧ w'.state = e.newState := by
  obtain ⟨e', hhistory', hr⟩ := h.recorded hw
  have heq : e'.toList = [e] := List.append_cancel_left (hhistory'.symm.trans hhistory)
  rw [Option.toList_eq_singleton_iff.mp heq] at hr
  rcases hr with hr | ⟨_, _, _, e'', hsome, htells⟩
  · exact ⟨hr.1.symm, hr.2.symm⟩
  · -- the end of a recovery starts from a state in which nobody is at work
    rw [Option.some.inj hsome, htells.2.1] at ht
    cases ht

theorem Owned.found (hw : Owned w) {t : Task} (ht : t ∈ w.tasks) :
    (t.activity.phase = .failover → w.state = .failoverInProgress) ∧
      (t.activity.phase = .recovery → w.state = .recoveryInProgress) := by
  have hpos := System.count_pos ht
  refine ⟨fun hp => ?_, fun hp => ?_⟩
  · exact hw.state (r := .failover) rfl (hp ▸ hpos)
  · exact hw.state (r := .recovery) rfl (hp ▸ hpos)

theorem Attended.idle (hw : Attended w) (hidle : w.tasks = []) :
    w.state = .normal ∨ w.state = .degraded ∨ w.state = .failoverComplete := by
  have hnone : ∀ r, w.count r = 0 := fun r => by simp [System.count, hidle]
  have hfailover := hw.owner .failover _ rfl
  have hrecovery := hw.owner .recovery _ rfl
  have hreopening := hw.reopening
  rw [hnone] at hfailover hrecovery hreopening
  revert hfailover hrecovery hreopening
  cases w.state <;> simp

/-- What holds of a cluster and the operations in flight. -/
structure Exclusive (w : System) : Prop where
  failover : w.state = .failoverInProgress ↔ w.count .failover = 1
  recovery : w.state = .recoveryInProgress ↔ w.count .recovery = 1
  alone : w.count .failover + w.count .recovery ≤ 1
  /-- An operation finds the cluster in the state that it has left it in. -/
  found : ∀ t ∈ w.tasks, (t.activity.phase = .failover → w.state = .failoverInProgress) ∧
    (t.activity.phase = .recovery → w.state = .recoveryInProgress)
  /-- Nobody else moves the cluster. -/
  moved : ∀ m w', Step w m w' → w.state.isTransitional = true → w'.state ≠ w.state →
    ∃ now number a reply, m = .resume now number a reply ∧ ⟨number, a⟩ ∈ w.tasks ∧
      a.phase.state? = some w.state
  /-- The section that settles a failover and the one that ends a recovery
  come from the state that they tell, and reach the state that they tell. -/
  settled : ∀ m w' e, Step w m w' → w'.history = w.history ++ [e] →
    e.oldState.isTransitional = true → w.state = e.oldState ∧ w'.state = e.newState
  idle : w.tasks = [] → w.state = .normal ∨ w.state = .degraded ∨ w.state = .failoverComplete

/-- However operations overlap, as long as none is dropped, a failover and a
recovery have the cluster to themselves from their first section to their
last. -/
theorem a_cluster_on_its_way_has_one_owner (h : History trace w) (hd : Undropped trace) :
    Exclusive w := by
  have hw := h.attended hd
  have hfailover := hw.owner .failover _ rfl
  have hrecovery := hw.owner .recovery _ rfl
  refine ⟨?_, ?_, ?_, fun t ht => hw.owned.found ht, fun m w' hs => hs.moved_by_owner hw.owned,
    fun m w' e hs => hs.settled hw.owned, hw.idle⟩
  · rw [hfailover]
    split <;> simp_all
  · rw [hrecovery]
    split <;> simp_all
  · rw [hfailover, hrecovery]
    cases w.state <;> decide

/-- A failover asks its candidate while a round of pings is out. -/
def underway : List Cue :=
  let now := ⟨0, false⟩
  [ .order now (.register (Node.well "a" .primary))
  , .order now (.register (Node.well "b" .secondary))
  , .start now .heartbeatRound
  , .start now (.trigger "drill"), .resume now 1 ]

theorem a_cluster_on_its_way_has_one_owner_underway :
    ∃ trace w, History trace w ∧ Undropped trace ∧ w.tasks.length = 2 ∧
      w.state = .failoverInProgress ∧ Exclusive w := by
  obtain ⟨trace, h, hd⟩ := System.play_history Coordinator.fresh_standard calm underway
  exact ⟨trace, _, h, hd, by decide, by decide, a_cluster_on_its_way_has_one_owner h hd⟩

end Failover
