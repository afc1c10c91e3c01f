import Failover.Proofs.Alone
import Failover.Proofs.Members

-- Operations that run alone and come to an end. An operation has only so many
-- hooks to call and only so many candidates to ask, so it ends however its
-- waits are answered; and what it leaves behind is read off the sections that
-- record an event.

namespace Failover

/-- What is counted without an event does not touch what an event has moved. -/
theorem FailoverStats.Counted.rest {s s' s'' : FailoverStats} {type : Option EventType}
    (h : s.Counted type s') (h' : s'.Counted none s'') : s.Counted type s'' := by
  intro t counter ht
  have hfirst := h t counter ht
  have hsecond := h' t counter ht
  simp only [reduceCtorEq, if_false] at hsecond
  omega

/-- The log has taken these events, one after the other, and the statistics
have counted each of them. -/
inductive EventLog.TookAll (log : EventLog) : List FailoverEvent → EventLog → Prop
  | nil {log' : EventLog} (h : log.Took none log') : TookAll log [] log'
  | snoc {es : List FailoverEvent} {e : FailoverEvent} {log' log'' : EventLog}
      (h : TookAll log es log') (he : log'.Took (some e) log'') : TookAll log (es ++ [e]) log''

/-- Each number in the statistics goes up with the events of its type. -/
theorem EventLog.TookAll.counted {log log' : EventLog} {es : List FailoverEvent}
    (h : log.TookAll es log') {t : EventType} {counter : FailoverStats → Nat}
    (ht : t.counter? = some counter) :
    counter log'.stats = counter log.stats + (es.map (·.type)).count t := by
  induction h with
  | nil h =>
    obtain ⟨stats, rfl, hcounted⟩ := h
    simpa using hcounted t counter ht
  | @snoc es e _ _ _ he ih =>
    obtain ⟨stats, rfl, hcounted⟩ := he
    have hlast := hcounted t counter ht
    simp only [Option.map_some, Option.some.injEq] at hlast
    rw [hlast, ih, List.map_append, List.count_append, List.map_singleton, List.count_singleton]
    simp only [beq_iff_eq, Nat.add_assoc]

theorem EventLog.TookAll.after {log log' log'' : EventLog} {es : List FailoverEvent}
    (h : log.Took none log') (h' : log'.TookAll es log'') : log.TookAll es log'' := by
  induction h' with
  | nil h' =>
    obtain ⟨stats, rfl, hcounted⟩ := h
    obtain ⟨stats', rfl, hcounted'⟩ := h'
    exact .nil ⟨stats', rfl, hcounted.trans hcounted'⟩
  | snoc _ he ih => exact ih.snoc he

theorem EventLog.Took.all {log log' : EventLog} {e : FailoverEvent} (h : log.Took (some e) log') :
    log.TookAll [e] log' :=
  .snoc (.nil ⟨log.stats, rfl, .refl _⟩) h

namespace Coordinator

/-- However the waits of the operation are answered from here on, with answers
of this kind, it ends, and this holds then. -/
inductive Returns (ok : (a : Activity) → a.Reply → Prop) (post : Coordinator → Answer → Prop) :
    Coordinator × Progress → Prop
  | ends {c : Coordinator} {answer : Answer} (h : post c answer) :
      Returns ok post (c, .ends answer)
  | waits {c : Coordinator} {a : Activity}
      (h : ∀ now reply, ok a reply → Returns ok post (nextSection now a reply c)) :
      Returns ok post (c, .waits a)

variable {ok : (a : Activity) → a.Reply → Prop} {post : Coordinator → Answer → Prop}
  {now : Moment} {c c' c'' : Coordinator} {a : Attempt} {e : FailoverEvent} {k : Cluster}
  {r : Coordinator × Progress}

/-! ## What an operation has recorded -/

/-- The log has taken this event, the cluster is this now, and nothing else has
changed that the operations go by. -/
structure Logged (c : Coordinator) (e : FailoverEvent) (k : Cluster) (c' : Coordinator) : Prop where
  settings : c'.settings = c.settings
  log : c.log.Took (some e) c'.log
  cluster : c'.cluster = k

theorem Alike.logged (h : c.Alike (some e.type) c') : c.Logged e c'.cluster (c'.append e) := by
  obtain ⟨stats, hl, hcounted⟩ := h.log
  exact ⟨h.settings, ⟨stats, by simp only [append]; rw [hl]; rfl, hcounted⟩, rfl⟩

theorem Logged.rest (h : c.Logged e k c') (h' : c'.Alike none c'') (hsame : c''.cluster = c'.cluster) :
    c.Logged e k c'' := by
  obtain ⟨stats, hl, hcounted⟩ := h.log
  obtain ⟨stats', hl', hcounted'⟩ := h'.log
  refine ⟨h'.settings.trans h.settings, ⟨stats', by rw [hl', hl], ?_⟩, hsame.trans h.cluster⟩
  rw [hl] at hcounted'
  exact hcounted.rest hcounted'

/-- The section ends with this event, in this cluster, and when the observers
have heard the operation goes on like this. -/
def Announces (c : Coordinator) (e : FailoverEvent) (k : Cluster) (next : Continuation)
    (r : Coordinator × Progress) : Prop :=
  ∃ c', r = announce e next c' ∧ c.Alike (some e.type) c' ∧ c'.cluster = k

/-! ## Notices -/

/-- One hook after the other is called, and then the operation goes on. -/
theorem returns_hooks (hook : Hook) (rest : List Hook) (failures : Nat) {next : Continuation}
    (h : ∀ now c', c.Alike none c' → c'.cluster = c.cluster → Returns ok post (proceed now next c')) :
    Returns ok post (c, .waits (.announcing hook rest failures next)) := by
  induction rest generalizing hook failures with
  | nil =>
    refine .waits fun now (succeeded : Bool) _ => ?_
    obtain ⟨halike, hsame⟩ := alike_countHookFailures c (if succeeded then failures else failures + 1)
    exact h now _ halike hsame
  | cons hook' rest ih => exact .waits fun now succeeded _ => ih hook' _

theorem returns_announce {next : Continuation}
    (h : ∀ now c', (c.append e).Alike none c' → c'.cluster = c.cluster →
      Returns ok post (proceed now next c')) : Returns ok post (announce e next c) := by
  unfold announce
  dsimp only
  split
  · exact .waits fun now _ _ => h now _ (.refl _) rfl
  · rename_i hook rest _
    exact returns_hooks hook rest 0 h

theorem Announces.returns {next : Continuation} (hr : c.Announces e k next r)
    (h : ∀ now c', c.Logged e k c' → Returns ok post (proceed now next c')) : Returns ok post r := by
  obtain ⟨c', rfl, halike, rfl⟩ := hr
  exact returns_announce fun now c'' hrest hsame => h now c'' (halike.logged.rest hrest hsame)

theorem Announces.cluster {next : Continuation} (hr : c.Announces e k next r) : r.1.cluster = k := by
  obtain ⟨c', rfl, _, rfl⟩ := hr
  exact announce_cluster e next c'

theorem returns_close {renewLevels : Bool} {answer : Answer}
    (h : ∀ c', c.Alike none c' → c'.cluster = c.cluster → post c' answer) :
    Returns ok post (close renewLevels answer c) := by
  obtain ⟨_, hsame, halike⟩ := close_closing renewLevels answer c
  exact .ends (h _ halike hsame)

/-- The last event of an operation. -/
theorem Announces.concludes {renewLevels : Bool} {answer : Answer}
    (hr : c.Announces e k (.close renewLevels answer) r)
    (h : ∀ c', c.Logged e k c' → post c' answer) : Returns ok post r :=
  hr.returns fun _ _ hlogged => returns_close fun c'' hrest hsame => h c'' (hlogged.rest hrest hsame)

theorem returns_announceLast {renewLevels : Bool} {answer : Answer}
    (h : ∀ c', c'.cluster = c.cluster → post c' answer) :
    Returns ok post (announceLast e renewLevels answer c) := by
  refine returns_announce fun now c' _ hsame => ?_
  exact returns_close fun c'' _ hsame' => h c'' (hsame'.trans hsame)

/-! ## The sections of an attempt -/

/-- In the normal state an attempt begins. -/
theorem beginFailover_announces (hs : c.cluster.state = .normal) (now : Moment) (trigger : Trigger)
    (purpose : Purpose) :
    let a : Attempt := { trigger, failing := trigger.node?.or c.cluster.primary, started := now, purpose }
    ∃ e : FailoverEvent, e.type = .failoverInitiated ∧ e.trigger = a.failing ∧
      e.reason = trigger.reason ∧
      c.Announces e { c.cluster with
        state := .failoverInProgress
        lastFailure := some { node := a.failing, time := now } }
        (.select a) (beginFailover now trigger purpose c) := by
  unfold beginFailover
  rw [if_pos hs]
  exact ⟨_, rfl, rfl, rfl, _, rfl, ⟨rfl, rfl, _, rfl, FailoverStats.counted_initiated⟩, rfl⟩

/-- An attempt that fails leaves the cluster degraded. -/
theorem failAttempt_announces (hs : c.cluster.state = .failoverInProgress) (now : Moment)
    (a : Attempt) (f : FailoverFailure) :
    ∃ e : FailoverEvent, e.type = .failoverFailed ∧
      c.Announces e { c.cluster with state := .degraded }
        (.close a.purpose.renewsLevels (a.purpose.answer (.failed f))) (failAttempt now a f c) := by
  unfold failAttempt conclude announceLast
  rw [if_pos hs]
  exact ⟨_, rfl, _, rfl, ⟨rfl, rfl, _, rfl, FailoverStats.counted_failed⟩, rfl⟩

/-- A candidate that can be promoted is the primary then. -/
theorem commitPromotion_announces {candidate : Candidate} (hcan : c.canPromote candidate.id = true)
    (now : Moment) (a : Attempt) :
    ∃ e : FailoverEvent, e.type = .failoverCompleted ∧ e.target = some candidate.id ∧
      c.Announces e { c.cluster.promote candidate.id with state := .failoverComplete }
        (.close a.purpose.renewsLevels
          (a.purpose.answer (.promoted candidate.id (c.cluster.primaryBefore candidate.id))))
        (commitPromotion now a candidate c) := by
  unfold commitPromotion conclude announceLast
  rw [if_pos hcan]
  exact ⟨_, rfl, rfl, _, rfl, ⟨rfl, rfl, _, rfl, FailoverStats.counted_completed _⟩, rfl⟩

/-! ## The sections of a recovery -/

/-- A failure whose node is gone is over. -/
theorem settle_announces (hs : c.cluster.state.isSettled = true) (now : Moment) :
    ∃ e : FailoverEvent, e.type = .stateChanged ∧
      c.Announces e { c.cluster with state := .normal, lastFailure := none } (.close true .done)
        (settle now c) := by
  unfold settle announceLast
  dsimp only
  rw [if_pos hs]
  exact ⟨_, rfl, _, rfl, ⟨rfl, rfl, _, rfl, FailoverStats.counted_uncounted rfl⟩, rfl⟩

theorem beginRecovery_announces (hs : c.cluster.state.isSettled = true) (now : Moment)
    (id : String) :
    ∃ e : FailoverEvent, e.type = .recoveryInitiated ∧
      c.Announces e { c.cluster with state := .recoveryInProgress } (.rejoin id)
        (beginRecovery now id c) := by
  unfold beginRecovery
  dsimp only
  rw [if_pos hs]
  exact ⟨_, rfl, _, rfl, ⟨rfl, rfl, _, rfl, FailoverStats.counted_uncounted rfl⟩, rfl⟩

theorem rejoin_announces (now : Moment) (id : String) (c : Coordinator) :
    ∃ e : FailoverEvent, e.type = .recoveryCompleted ∧
      c.Announces e { c.cluster with
        nodes := c.cluster.nodes.modify id (rejoined (c.cluster.isPrimary id))
        lastFailure := none
        state := .recoveryComplete } .reopen (rejoin now id c) := by
  unfold rejoin
  exact ⟨_, rfl, _, rfl, ⟨rfl, rfl, _, rfl, FailoverStats.counted_recovered⟩, rfl⟩

theorem reopen_announces (hs : c.cluster.state = .recoveryComplete) (now : Moment) :
    ∃ e : FailoverEvent, e.type = .stateChanged ∧
      c.Announces e { c.cluster with state := .normal } (.close true .done) (reopen now c) := by
  unfold reopen announceLast
  dsimp only
  rw [if_pos hs]
  exact ⟨_, rfl, _, rfl, ⟨rfl, rfl, _, rfl, FailoverStats.counted_uncounted rfl⟩, rfl⟩

/-! ## Attempts -/

theorem returns_failAttempt {f : FailoverFailure}
    (h : ∀ c', post c' (a.purpose.answer (.failed f))) :
    Returns ok post (failAttempt now a f c) :=
  returns_announceLast fun c' _ => h c'

theorem returns_cancelAttempt (h : ∀ c', post c' (a.purpose.answer .cancelled)) :
    Returns ok post (cancelAttempt now a c) :=
  returns_announceLast fun c' _ => h c'

/-- The candidates are asked one after the other until one is reached, the
deadline comes first, or nobody is left. -/
theorem returns_tryNext {deadline : Moment} {ranked : List (Candidate × Node)}
    (hreached : ∀ x ∈ ranked, ∀ now, Returns ok post (commitPromotion now a x.1 c))
    (hlate : ∀ x ∈ ranked, ∀ rest, ok (.connecting a deadline x.1 x.2 rest) none →
      ∀ now f, Returns ok post (failAttempt now a f c))
    (hnobody : (∀ x ∈ ranked, ∃ rest, ok (.connecting a deadline x.1 x.2 rest) (some false)) →
      ∀ now f, Returns ok post (failAttempt now a f c)) :
    Returns ok post (tryNext now a deadline ranked c) := by
  induction ranked generalizing now with
  | nil => exact hnobody (by simp) now _
  | cons x rest ih =>
    obtain ⟨candidate, node⟩ := x
    refine .waits fun now reply hok => ?_
    match reply with
    | some true => exact hreached (candidate, node) List.mem_cons_self now
    | none => exact hlate (candidate, node) List.mem_cons_self rest hok now _
    | some false =>
      refine ih ?_ ?_ ?_
      · exact fun x hx => hreached x (List.mem_cons_of_mem _ hx)
      · exact fun x hx => hlate x (List.mem_cons_of_mem _ hx)
      · intro hrest
        refine hnobody fun x hx => ?_
        rcases List.mem_cons.mp hx with rfl | hx
        · exact ⟨rest, hok⟩
        · exact hrest x hx

/-- An attempt comes to an end whatever the answers are. -/
theorem returns_selectCandidate (h : ∀ c' o, post c' (a.purpose.answer o)) :
    Returns ok post (selectCandidate now a c) := by
  have hfail : ∀ now f, Returns ok post (failAttempt now a f c) :=
    fun now f => returns_failAttempt fun c' => h c' _
  unfold selectCandidate
  split
  · exact returns_cancelAttempt fun c' => h c' _
  · exact hfail now _
  · refine returns_tryNext (fun x _ now => ?_) (fun _ _ _ _ => hfail) fun _ => hfail
    by_cases hcan : c.canPromote x.1.id = true
    · obtain ⟨e, _, _, hannounces⟩ := commitPromotion_announces hcan now a
      exact hannounces.concludes fun c' _ => h c' _
    · unfold commitPromotion
      rw [if_neg hcan]
      exact hfail now _

/-- Whoever is eligible can be promoted while the failover goes on. -/
theorem canPromote_of_eligible (named : ∀ id n, c.cluster.node? id = some n → n.id = id)
    (hs : c.cluster.state = .failoverInProgress) {n : Node} (hn : n ∈ c.cluster.list)
    {failing : Option String} (he : n.isEligible failing = true) : c.canPromote n.id = true := by
  simp only [Node.isEligible, Node.isStandby, Bool.and_eq_true] at he
  exact canPromote_iff.mpr ⟨hs, n, Cluster.node?_self named hn, he.1.1.1⟩

/-- An attempt that goes on undisturbed is called off for a false alarm only;
it fails, or one of the eligible nodes is promoted. -/
theorem returns_attempt (named : ∀ id n, c.cluster.node? id = some n → n.id = id)
    (hs : c.cluster.state = .failoverInProgress)
    (hsure : Selection.isFalseAlarm c.cluster.list a = false)
    (hfailed : ∀ f e c', e.type = .failoverFailed →
      c.Logged e { c.cluster with state := .degraded } c' → post c' (a.purpose.answer (.failed f)))
    (hpromoted : ∀ n ∈ c.cluster.list, n.isEligible a.failing = true → ∀ e c',
      e.type = .failoverCompleted → e.target = some n.id →
      c.Logged e { c.cluster.promote n.id with state := .failoverComplete } c' →
      post c' (a.purpose.answer (.promoted n.id (c.cluster.primaryBefore n.id)))) :
    Returns ok post (selectCandidate now a c) := by
  have hfail : ∀ now f, Returns ok post (failAttempt now a f c) := by
    intro now f
    obtain ⟨e, htype, hannounces⟩ := failAttempt_announces hs now a f
    exact hannounces.concludes fun c' => hfailed f e c' htype
  unfold selectCandidate
  rcases Selection.of_cases c.settings c.cluster.list a with
    ⟨halarm, _⟩ | ⟨_, _, hof⟩ | ⟨_, _, ranked, hof⟩
  · rw [hsure] at halarm
    cases halarm
  · rw [hof]
    exact hfail now _
  · rw [hof]
    refine returns_tryNext (fun x hx now => ?_) (fun _ _ _ _ => hfail) fun _ => hfail
    obtain ⟨n, hn, he, hid⟩ := Selection.eligible hof x hx
    have hcan := canPromote_of_eligible named hs hn he
    rw [hid] at hcan
    obtain ⟨e, htype, htarget, hannounces⟩ := commitPromotion_announces hcan now a
    refine hannounces.concludes fun c' hlogged => ?_
    rw [← hid] at htarget hlogged ⊢
    exact hpromoted n hn he e c' htype htarget hlogged

end Coordinator

end Failover
