import Failover.Proofs.Transitions

-- Refusals. An operation is refused in its first section or not at all, and
-- what is refused changes nothing.

namespace Failover

theorem ClusterState.isTransitional_iff {s : ClusterState} :
    s.isTransitional = true ↔ s = .failoverInProgress ∨ s = .recoveryInProgress := by
  cases s <;> decide

/-- What stands in the way of an operation. -/
def Operation.Barred (k : Cluster) : Operation → Prop
  | promote id => (k.state = .failoverInProgress ∨ k.state = .recoveryInProgress) ∨
      k.node? id = none ∨
      (∃ n, k.node? id = some n ∧ ¬ (n.active = true ∧ n.isHealthy = true)) ∨ k.primary = some id
  | acknowledge => k.state = .failoverInProgress ∨ k.state = .recoveryInProgress
  | trigger _ => k.list = [] ∨ k.state ≠ .normal
  | remove id => k.contains id = false
  | heartbeatRound | healthSweep | watch => False

/-- What stands in the way of an order. -/
def Order.Barred (k : Cluster) : Order → Prop
  | join spec => k.contains spec.id = true
  | register n => k.contains n.id = true
  | unregister id | maintenance id _ => k.contains id = false
  | observe => False

/-! ## Answers that are no refusals -/

def Answer.granted : Answer → Bool
  | refused _ => false
  | done | outcome _ | acknowledged _ | removed _ => true

/-- No refusal is to come. -/
def Continuation.granted : Continuation → Bool
  | close _ answer => answer.granted
  | select _ | rejoin _ | reopen => true

def Activity.granted : Activity → Bool
  | announcing _ _ _ next | ready next => next.granted
  | pinging _ | probing _ | connecting .. => true

def Progress.granted : Progress → Bool
  | waits a => a.granted
  | ends answer => answer.granted

/-- Only what is skipped is refused. -/
theorem Purpose.answer_granted (purpose : Purpose) {o : Outcome} (h : ∀ s, o ≠ .skipped s) :
    (purpose.answer o).granted = true := by
  cases purpose <;> cases o
  case order.skipped s => exact absurd rfl (h s)
  all_goals rfl

theorem Progress.not_refused {progress : Progress} (h : progress.granted = true) :
    ¬ ∃ e, progress = .ends (.refused e) := by
  rintro ⟨e, rfl⟩
  cases h

/-! ## Orders that are refused -/

namespace Cluster

variable {k : Cluster} {id : String}

theorem add_refused_iff {n : Node} : (∃ e, k.add n = .error e) ↔ k.contains n.id = true := by
  unfold add
  cases h : k.contains n.id with
  | true => simp
  | false =>
    simp only [Bool.false_eq_true, if_false, iff_false]
    repeat' split
    all_goals simp

theorem add_error {n : Node} {e : FailoverError} (h : k.add n = .error e) :
    e = .nodeAlreadyExists n.id := by
  unfold add at h
  dsimp only at h
  repeat' split at h
  all_goals cases h
  rfl

theorem remove_error {e : FailoverError} (h : k.remove id = .error e) : e = .nodeNotFound id := by
  unfold remove at h
  split at h <;> cases h
  rfl

theorem setMaintenance_error {enabled : Bool} {e : FailoverError}
    (h : k.setMaintenance id enabled = .error e) : e = .nodeNotFound id := by
  unfold setMaintenance at h
  split at h <;> cases h
  rfl

theorem remove_refused_iff : (∃ e, k.remove id = .error e) ↔ k.contains id = false := by
  unfold remove contains Table.contains
  cases h : k.node? id with
  | none => simp [show k.nodes.get? id = none from h]
  | some n => simp [show k.nodes.get? id = some n from h]

theorem setMaintenance_refused_iff (enabled : Bool) :
    (∃ e, k.setMaintenance id enabled = .error e) ↔ k.contains id = false := by
  unfold setMaintenance
  cases h : k.contains id <;> simp

end Cluster

/-- The order is refused. -/
def Order.Refused (now : Moment) (c : Coordinator) : Order → Prop
  | join spec => ∃ e, c.addNode spec now = .error e
  | register n => ∃ e, c.cluster.add n = .error e
  | unregister id => ∃ e, c.cluster.remove id = .error e
  | maintenance id enabled => ∃ e, c.setMaintenance id enabled = .error e
  | observe => False

theorem Coordinator.addNode_refused_iff {c : Coordinator} {spec : NodeSpec} {now : Moment} :
    (∃ e, c.addNode spec now = .error e) ↔ ∃ e, c.cluster.add (spec.toNode now) = .error e := by
  unfold addNode
  split <;> simp_all

theorem Coordinator.setMaintenance_refused_iff {c : Coordinator} {id : String} {enabled : Bool} :
    (∃ e, c.setMaintenance id enabled = .error e) ↔
      ∃ e, c.cluster.setMaintenance id enabled = .error e := by
  unfold setMaintenance
  split <;> simp_all

theorem Order.refused_iff {now : Moment} {c : Coordinator} {o : Order} :
    o.Refused now c ↔ o.Barred c.cluster := by
  cases o with
  | join spec => exact Coordinator.addNode_refused_iff.trans Cluster.add_refused_iff
  | register n => exact Cluster.add_refused_iff
  | unregister id => exact Cluster.remove_refused_iff
  | maintenance id enabled =>
    exact Coordinator.setMaintenance_refused_iff.trans (Cluster.setMaintenance_refused_iff enabled)
  | observe => exact Iff.rfl

theorem Order.apply_refused {now : Moment} {c : Coordinator} {o : Order} (h : o.Refused now c) :
    o.apply now c = c := by
  cases o with
  | join | register | unregister | maintenance =>
    obtain ⟨e, he⟩ := h
    simp [apply, he, Except.toOption]
  | observe => exact h.elim

namespace Coordinator

variable {now : Moment} {c : Coordinator} {a : Attempt}

/-! ## No refusal on the way -/

@[simp] theorem close_granted (renewLevels : Bool) (answer : Answer) (c : Coordinator) :
    (close renewLevels answer c).2.granted = answer.granted := rfl

@[simp] theorem announce_granted (e : FailoverEvent) (next : Continuation) (c : Coordinator) :
    (announce e next c).2.granted = next.granted := by
  unfold announce
  dsimp only
  split <;> rfl

theorem conclude_granted {e : FailoverEvent} {o : Outcome} (h : ∀ s, o ≠ .skipped s) :
    (conclude e a o c).2.granted = true := by
  unfold conclude announceLast
  rw [announce_granted]
  exact a.purpose.answer_granted h

theorem failAttempt_granted {f : FailoverFailure} : (failAttempt now a f c).2.granted = true :=
  conclude_granted nofun

theorem cancelAttempt_granted : (cancelAttempt now a c).2.granted = true :=
  conclude_granted nofun

theorem commitPromotion_granted {candidate : Candidate} :
    (commitPromotion now a candidate c).2.granted = true := by
  unfold commitPromotion
  split
  · exact conclude_granted nofun
  · exact failAttempt_granted

theorem tryNext_granted {deadline : Moment} {ranked : List (Candidate × Node)} :
    (tryNext now a deadline ranked c).2.granted = true := by
  cases ranked with
  | nil => exact failAttempt_granted
  | cons x rest => rfl

theorem selectCandidate_granted : (selectCandidate now a c).2.granted = true := by
  unfold selectCandidate
  split
  · exact cancelAttempt_granted
  · exact failAttempt_granted
  · exact tryNext_granted

/-- A failover that nobody has ordered is not refused, and one that begins is
not refused either. -/
theorem beginFailover_granted {trigger : Trigger} {purpose : Purpose}
    (h : purpose ≠ .order ∨ c.cluster.state = .normal) :
    (beginFailover now trigger purpose c).2.granted = true := by
  unfold beginFailover
  split
  · exact announce_granted _ _ _
  · rename_i hs
    rw [close_granted]
    cases purpose with
    | order => exact absurd (h.resolve_left (· rfl)) hs
    | heartbeat | watch | removal => rfl

theorem evaluate_granted : (evaluate now c).2.granted = true := by
  unfold evaluate
  split
  · exact beginFailover_granted (Or.inl nofun)
  · rfl

theorem afterPings_granted {targets : List Node} {answers : List Bool} :
    (afterPings now targets answers c).2.granted = true := by
  unfold afterPings
  dsimp only
  repeat' split
  · exact beginFailover_granted (Or.inl nofun)
  · rfl
  · rfl

theorem checkRecovery_granted : (checkRecovery now c).2.granted = true := by
  unfold checkRecovery beginRecovery settle announceLast
  dsimp only
  repeat' split
  all_goals simp [Continuation.granted, Answer.granted]

theorem watch_granted : (watch now c).2.granted = true := by
  unfold watch
  repeat' split
  · exact evaluate_granted
  · exact checkRecovery_granted
  · rfl

theorem proceed_granted {next : Continuation} (h : next.granted = true) :
    (proceed now next c).2.granted = true := by
  cases next with
  | select a => exact selectCandidate_granted
  | rejoin id => exact announce_granted _ _ _
  | reopen => exact announce_granted _ _ _
  | close renewLevels answer => exact h

/-- What goes on is not refused any more. -/
theorem nextSection_granted (now : Moment) (a : Activity) (reply : a.Reply) (c : Coordinator)
    (h : a.granted = true) : (nextSection now a reply c).2.granted = true := by
  cases a with
  | pinging => exact afterPings_granted
  | probing => exact evaluate_granted
  | connecting a deadline candidate node rest =>
    simp only [nextSection]
    unfold afterConnect
    split
    · exact commitPromotion_granted
    · exact tryNext_granted
    · exact failAttempt_granted
  | announcing hook rest failures next =>
    simp only [nextSection]
    unfold afterHook
    dsimp only
    split
    · exact h
    · exact proceed_granted h
  | ready next => exact proceed_granted h

/-! ## Refusals at the start -/

/-- An operation that starts now is refused. -/
def Refuses (c : Coordinator) (now : Moment) (op : Operation) : Prop :=
  ∃ e, (firstSection now op c).2 = .ends (.refused e)

/-- A first section refuses its operation, and changes nothing, when something
bars it; otherwise no refusal is to come. -/
inductive Judged (c : Coordinator) (barred : Prop) : Coordinator × Progress → Prop
  | refused (h : barred) (e : FailoverError) : Judged c barred (c, .ends (.refused e))
  | granted (h : ¬ barred) {r : Coordinator × Progress} (hr : r.2.granted = true) : Judged c barred r

theorem Judged.refuses_iff {barred : Prop} {r : Coordinator × Progress} (h : Judged c barred r) :
    (∃ e, r.2 = .ends (.refused e)) ↔ barred := by
  cases h with
  | refused h e => exact iff_of_true ⟨e, rfl⟩ h
  | granted h hr => exact iff_of_false (Progress.not_refused hr) h

variable {id : String}

theorem promotionFault?_ne_none_iff :
    c.promotionFault? id ≠ none ↔ (Operation.promote id).Barred c.cluster := by
  have hprimary : c.cluster.isPrimary id = true ↔ c.cluster.primary = some id := by
    simp [Cluster.isPrimary]
  dsimp only [Operation.Barred]
  rw [← hprimary, ← ClusterState.isTransitional_iff]
  constructor
  · intro hfault
    by_contra hfit
    simp only [not_or, Bool.not_eq_true] at hfit
    obtain ⟨hs, hmember, hwell, hp⟩ := hfit
    obtain ⟨n, hn⟩ := Option.ne_none_iff_exists'.mp hmember
    obtain ⟨ha, hh⟩ : n.active = true ∧ n.isHealthy = true :=
      by_contra fun hunwell => hwell ⟨n, hn, hunwell⟩
    exact hfault (promotionFault?_of_fit hs hn ha hh hp)
  · intro hunfit hnone
    obtain ⟨hs, n, hn, ha, hh, hp⟩ := promotionFault?_eq_none hnone
    rcases hunfit with hunfit | hunfit | ⟨n', hn', hunwell⟩ | hunfit
    · simp [hs] at hunfit
    · simp [hn] at hunfit
    · rw [hn] at hn'
      cases hn'
      exact hunwell ⟨ha, hh⟩
    · simp [hp] at hunfit

theorem promoteNode_judged :
    Judged c ((Operation.promote id).Barred c.cluster) (promoteNode now id c) := by
  rw [← promotionFault?_ne_none_iff]
  unfold promoteNode
  cases h : c.promotionFault? id with
  | some e => exact .refused (by simp) e
  | none => exact .granted (by simp) (announce_granted _ _ _)

theorem acknowledge_judged : Judged c (Operation.acknowledge.Barred c.cluster) (acknowledge now c) := by
  unfold acknowledge
  dsimp only [Operation.Barred]
  rw [← ClusterState.isTransitional_iff]
  split
  · rename_i hs
    exact .granted (by simp [hs, ClusterState.isTransitional]) rfl
  · split
    · rename_i hs
      exact .refused hs _
    · rename_i hs
      exact .granted hs (announce_granted _ _ _)

theorem orderFailover_judged {reason : String} :
    Judged c ((Operation.trigger reason).Barred c.cluster) (orderFailover now reason c) := by
  have hempty : c.cluster.nodes.isEmpty = true ↔ c.cluster.list = [] := by
    simp [Table.isEmpty, Cluster.list, Table.values]
  unfold orderFailover
  dsimp only [Operation.Barred]
  rw [← hempty]
  split
  · rename_i hnobody
    exact .refused (Or.inl hnobody) _
  · rename_i hsome
    by_cases hs : c.cluster.state = .normal
    · exact .granted (by simp [hsome, hs]) (beginFailover_granted (Or.inr hs))
    · rw [beginFailover_skipped hs]
      exact .refused (Or.inr hs) _

theorem removeNode_judged :
    Judged c ((Operation.remove id).Barred c.cluster) (removeNode now id c) := by
  unfold removeNode
  dsimp only [Operation.Barred]
  rw [← Cluster.remove_refused_iff]
  split
  · rename_i e hr
    exact .refused ⟨e, hr⟩ e
  · rename_i removal k' hr
    refine .granted (by simp [hr]) ?_
    split
    · exact beginFailover_granted (Or.inl nofun)
    · rfl

theorem firstSection_judged (now : Moment) (op : Operation) (c : Coordinator) :
    Judged c (op.Barred c.cluster) (firstSection now op c) := by
  cases op with
  | heartbeatRound | healthSweep => exact .granted not_false rfl
  | watch => exact .granted not_false watch_granted
  | trigger reason => exact orderFailover_judged
  | promote id => exact promoteNode_judged
  | acknowledge => exact acknowledge_judged
  | remove id => exact removeNode_judged

end Coordinator

/-! ## Runs -/

variable {trace : List (System × Move)} {w : System}

/-- Whatever is in flight is not refused any more. -/
theorem History.granted (h : History trace w) : ∀ t ∈ w.tasks, t.activity.granted = true := by
  refine h.holds (P := fun w => ∀ t ∈ w.tasks, t.activity.granted = true)
    (fun _ _ _ ht => nomatch ht) ?_
  intro w m w' hw hs
  refine hs.each_task (P := fun a => a.granted = true) ?_ ?_ hw
  · intro now op a hwaits
    have hjudged := Coordinator.firstSection_judged now op w.coordinator
    generalize Coordinator.firstSection now op w.coordinator = r at hjudged hwaits
    cases hjudged with
    | refused => cases hwaits
    | granted _ hgranted =>
      rw [hwaits] at hgranted
      exact hgranted
  · intro now a reply a' ha hwaits
    have hgranted := Coordinator.nextSection_granted now a reply w.coordinator ha
    rw [hwaits] at hgranted
    exact hgranted

/-- An operation that is refused has been started, and that is all. -/
theorem launch_refused {now : Moment} {op : Operation} (h : w.coordinator.Refuses now op) :
    w.launch now op = { w with started := w.started + 1 } := by
  have hjudged := Coordinator.firstSection_judged now op w.coordinator
  unfold Coordinator.Refuses at h
  unfold System.launch System.turn
  generalize Coordinator.firstSection now op w.coordinator = r at hjudged h ⊢
  cases hjudged with
  | refused => simp [Progress.tasks, EventLog.since, EventLog.lastOf]
  | granted _ hgranted => exact absurd h (Progress.not_refused hgranted)

/-- However operations overlap: an operation or an order is refused exactly
when something stands in its way as it begins, an operation in flight is never
refused, and what is refused has changed nothing. -/
theorem what_is_refused_changes_nothing (h : History trace w) :
    (∀ now op, w.coordinator.Refuses now op ↔ op.Barred w.cluster) ∧
    (∀ now (o : Order), o.Refused now w.coordinator ↔ o.Barred w.cluster) ∧
    (∀ t ∈ w.tasks, ∀ now reply c e,
      (Coordinator.nextSection now t.activity reply c).2 ≠ .ends (.refused e)) ∧
    (∀ now op, w.coordinator.Refuses now op →
      w.launch now op = { w with started := w.started + 1 }) ∧
    (∀ now (o : Order), o.Refused now w.coordinator → w.obey now o = w) := by
  refine ⟨?_, ?_, ?_, ?_, ?_⟩
  · intro now op
    exact (Coordinator.firstSection_judged now op w.coordinator).refuses_iff
  · intro now o
    exact Order.refused_iff
  · intro t ht now reply c e hrefused
    have hgranted := Coordinator.nextSection_granted now t.activity reply c (h.granted t ht)
    exact Progress.not_refused hgranted ⟨e, hrefused⟩
  · intro now op hrefused
    exact launch_refused hrefused
  · intro now o hrefused
    unfold System.obey
    rw [Order.apply_refused hrefused]

/-- A failover asks its candidate, and a round of pings is out. -/
theorem what_is_refused_changes_nothing_underway :
    ∃ trace w, History trace w ∧ w.state = .failoverInProgress ∧ w.tasks.length = 2 ∧
      (∀ now op, w.coordinator.Refuses now op ↔ op.Barred w.cluster) ∧
      (∀ now (o : Order), o.Refused now w.coordinator ↔ o.Barred w.cluster) ∧
      (∀ t ∈ w.tasks, ∀ now reply c e,
        (Coordinator.nextSection now t.activity reply c).2 ≠ .ends (.refused e)) ∧
      (∀ now op, w.coordinator.Refuses now op →
        w.launch now op = { w with started := w.started + 1 }) ∧
      (∀ now (o : Order), o.Refused now w.coordinator → w.obey now o = w) := by
  obtain ⟨trace, h, _⟩ := System.play_history Coordinator.fresh_standard calm underway
  exact ⟨trace, _, h, by decide, by decide, what_is_refused_changes_nothing h⟩

end Failover
