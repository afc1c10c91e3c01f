import Failover.Proofs.Transitions

-- The statistics as the accounts of a run. The sections count what they do,
-- the log takes the events, and the state tells whether a failover is under
-- way: the three agree at every moment at which an operation may wait.

namespace Failover

namespace System

def stats (w : System) : FailoverStats := w.coordinator.log.stats

/-- How many events of a type there were. -/
def occurred (w : System) (t : EventType) : Nat := w.history.countP fun e => e.type = t

end System

/-- Whether this is an event of the type, as a number. -/
def EventType.tally (t : EventType) (e : Option FailoverEvent) : Nat :=
  if e.map (·.type) = some t then 1 else 0

@[simp] theorem EventType.tally_none (t : EventType) : t.tally none = 0 := rfl

/-! ## One section -/

section

variable {now : Moment} {limit : Span} {chosen : Option (Attempt × Candidate)} {k k' : Cluster}
  {p q : Phase} {e : Option FailoverEvent} {w w' : System} {m : Move}

theorem FailoverEvent.Tells.tally {e : FailoverEvent} {type : EventType} {old new : ClusterState}
    (h : e.Tells type old new) (t : EventType) : t.tally (some e) = if type = t then 1 else 0 := by
  simp [EventType.tally, h.1]

/-- A failover is under way from the event that tells its start to the one
that tells its end. -/
theorem Turn.tally (h : Turn now limit chosen k p q e k')
    (hp : ∀ s, p.state? = some s → k.state = s) :
    (if k.state = .failoverInProgress then 1 else 0) + EventType.tally .failoverInitiated e =
      EventType.tally .failoverCompleted e + EventType.tally .failoverFailed e +
        EventType.tally .failoverCancelled e +
          if k'.state = .failoverInProgress then 1 else 0 := by
  cases h with
  | stay => simp
  | tend hu => simp [hu.state]
  | begin hu hnormal he =>
    have hk : k.state = .normal := hu.state.symm.trans hnormal
    simp [he.tally, hk]
  | fail he | cancel he =>
    have hk := hp _ rfl
    simp [he.tally, hk]
  | commit _ hk _ _ _ _ he => simp [he.tally, hk]
  | rejoin _ he =>
    have hk := hp _ rfl
    simp [he.tally, hk]
  | recover hsettled he =>
    have hk := ClusterState.still_of_settled hsettled
    simp [he.tally, hk.1]
  | reopen he => by_cases hk : k.state = .recoveryComplete <;> simp [he.tally, hk]
  | release _ hstill he | promote hstill _ _ _ _ he =>
    have hk := ClusterState.still hstill
    simp [he.tally, hk.1]

/-! ## The accounts of a run -/

/-- What the statistics say, the events and the state say as well. -/
structure Balanced (w : System) : Prop where
  /-- A failover that was started is settled, or the cluster is in it. -/
  underway : w.stats.initiated = w.stats.completed + w.stats.failed + w.stats.falseAlarms +
    if w.state = .failoverInProgress then 1 else 0
  counted : ∀ t counter, EventType.counter? t = some counter → w.occurred t = counter w.stats

theorem Balanced.advance (hw : Balanced w) (howned : Owned w) (ha : Advanced m w w') :
    Balanced w' := by
  obtain ⟨_, e, q, ⟨stats, hlog, hcounted⟩, hhistory, hturn, _⟩ := ha.turn
  have hstats : w'.stats = stats := by simp only [System.stats, hlog]
  have hnew : ∀ t counter, EventType.counter? t = some counter →
      counter w'.stats = counter w.stats + t.tally e := by
    intro t counter ht
    rw [hstats]
    exact hcounted t counter ht
  refine ⟨?_, ?_⟩
  · have hinitiated := hnew .failoverInitiated _ rfl
    have hcompleted := hnew .failoverCompleted _ rfl
    have hfailed := hnew .failoverFailed _ rfl
    have halarms := hnew .failoverCancelled _ rfl
    have htally : (if w.state = .failoverInProgress then 1 else 0) +
        EventType.tally .failoverInitiated e =
      EventType.tally .failoverCompleted e + EventType.tally .failoverFailed e +
        EventType.tally .failoverCancelled e +
          if w'.state = .failoverInProgress then 1 else 0 := hturn.tally (ha.state howned)
    have hold := hw.underway
    omega
  · intro t counter ht
    rw [hnew t counter ht, ← hw.counted t counter ht]
    simp only [System.occurred, hhistory, List.countP_append]
    cases e <;> simp [EventType.tally, List.countP_cons]

theorem Step.balanced (h : Step w m w') (howned : Owned w) (hw : Balanced w) : Balanced w' := by
  rcases h.advanced_or_rested with ha | hrest
  · exact hw.advance howned ha
  · have hstats : w'.stats = w.stats := congrArg EventLog.stats hrest.log
    have hstate : w'.state = w.state := hrest.cluster.state
    refine ⟨by rw [hstats, hstate]; exact hw.underway, fun t counter ht => ?_⟩
    rw [hstats, ← hw.counted t counter ht, System.occurred, System.occurred, hrest.history]

end

theorem balanced_initial {c : Coordinator} (hc : c.Fresh) : Balanced (.initial c) := by
  obtain ⟨hcluster, _, _, _, hstats⟩ := hc.blank
  have hstate : (System.initial c).state = .normal := by
    simp only [System.state, System.cluster, System.initial, hcluster]
    rfl
  have hzero : (System.initial c).stats = .zero := hstats
  refine ⟨by rw [hzero, hstate]; rfl, fun t counter ht => ?_⟩
  rw [hzero]
  cases t <;> cases ht <;> rfl

variable {trace : List (System × Move)} {w : System}

theorem History.balanced (h : History trace w) : Balanced w := by
  have hboth : Owned w ∧ Balanced w := by
    refine h.holds (P := fun w => Owned w ∧ Balanced w) (fun c hc => ?_) fun w m w' hw hs => ?_
    · exact ⟨(attended_initial hc).owned, balanced_initial hc⟩
    · exact ⟨hs.owned hw.1, hs.balanced hw.1 hw.2⟩
  exact hboth.2

/-- However operations overlap and wherever they are dropped, every failover
that was started was completed, failed or was cancelled, but for the one that
the cluster is in; and there were as many events of each kind as the
statistics count. -/
theorem every_failover_is_accounted_for (h : History trace w) :
    (w.stats.initiated = w.stats.completed + w.stats.failed + w.stats.falseAlarms +
      if w.state = .failoverInProgress then 1 else 0) ∧
    w.occurred .failoverInitiated = w.stats.initiated ∧
    w.occurred .failoverCompleted = w.stats.completed ∧
    w.occurred .failoverFailed = w.stats.failed ∧
    w.occurred .failoverCancelled = w.stats.falseAlarms ∧
    w.occurred .recoveryCompleted = w.stats.recoveries := by
  have hw := h.balanced
  exact ⟨hw.underway, hw.counted _ _ rfl, hw.counted _ _ rfl, hw.counted _ _ rfl,
    hw.counted _ _ rfl, hw.counted _ _ rfl⟩

/-- A failover is completed, one fails for want of a candidate, and a third is
under way. -/
def threeFailovers : List Cue :=
  let now := ⟨0, false⟩
  [ .order now (.register (Node.well "a" .primary))
  , .order now (.register (Node.well "b" .secondary))
  , .start now (.trigger "drill"), .resume now 0, .resume now 0, .resume now 0
  , .start now .acknowledge, .resume now 0
  , .order now (.maintenance "a" true)
  , .start now (.trigger "drill"), .resume now 0, .resume now 0
  , .start now .acknowledge, .resume now 0
  , .start now (.trigger "drill") ]

theorem every_failover_is_accounted_for_at_the_third :
    ∃ trace w, History trace w ∧ w.stats.initiated = 3 ∧ w.state = .failoverInProgress ∧
      (w.stats.initiated = w.stats.completed + w.stats.failed + w.stats.falseAlarms +
        if w.state = .failoverInProgress then 1 else 0) ∧
      w.occurred .failoverInitiated = w.stats.initiated ∧
      w.occurred .failoverCompleted = w.stats.completed ∧
      w.occurred .failoverFailed = w.stats.failed ∧
      w.occurred .failoverCancelled = w.stats.falseAlarms ∧
      w.occurred .recoveryCompleted = w.stats.recoveries := by
  obtain ⟨trace, h, _⟩ := System.play_history Coordinator.fresh_standard calm threeFailovers
  exact ⟨trace, _, h, by decide, by decide, every_failover_is_accounted_for h⟩

end Failover
