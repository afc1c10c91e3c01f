import Failover.Proofs.Transitions

-- Who is promoted by a failover. Candidates are judged when they are chosen
-- and asked afterwards one by one, and much can happen until one answers.

namespace Failover

/-- Nobody is asked to replace itself. -/
def Vetted (w : System) : Prop :=
  ∀ t ∈ w.tasks, ∀ x ∈ t.activity.shortlist, x.1.failing ≠ some x.2.id

variable {trace : List (System × Move)} {w w' : System} {m : Move}

theorem Step.vetted (h : Step w m w') (hw : Vetted w) : Vetted w' := by
  intro t ht x hx
  rcases h.advanced_or_rested with ha | hrest
  · rcases ha.tasks t ht with hold | hnew
    · exact hw t hold x hx
    · rcases hnew x hx with hlisted | hother
      · obtain ⟨t', ht', hx'⟩ := ha.asked x hlisted
        exact hw t' ht' x hx'
      · exact hother
  · exact hw t (hrest.tasks.subset ht) x hx

theorem History.vetted (h : History trace w) : Vetted w :=
  h.holds (fun _ _ _ ht => nomatch ht) fun _ _ _ hw hs => hs.vetted hw

/-- The step completes a failover. -/
def Completes (w w' : System) (e : FailoverEvent) : Prop :=
  w'.history = w.history ++ [e] ∧ e.type = .failoverCompleted

/-- The candidate of an attempt has answered. -/
def Answers (m : Move) (a : Attempt) (candidate : Candidate) : Prop :=
  ∃ now number deadline node rest,
    m = .resume now number (.connecting a deadline candidate node rest) (some true)

/-- A candidate answers that is an active member and not healthy any more. -/
def Lapse (w : System) (m : Move) : Prop :=
  ∃ a candidate n, Answers m a candidate ∧ w.cluster.node? candidate.id = some n ∧
    n.active = true ∧ n.isHealthy = false

/-- Who is reached has been asked. -/
theorem answers_of_chosen {a : Attempt} {candidate : Candidate}
    (h : m.chosen? = some (a, candidate)) : Answers m a candidate ∧ (a, candidate) ∈ m.asked := by
  cases m with
  | start | drop | order => cases h
  | resume now number activity reply =>
    simp only [Move.chosen?, Activity.chosen?] at h
    split at h
    · cases h
      exact ⟨⟨now, number, _, _, _, rfl⟩, List.mem_cons_self⟩
    · cases h

section

variable {now : Moment} {limit : Span} {chosen : Option (Attempt × Candidate)} {k k' : Cluster}
  {p q : Phase} {e : FailoverEvent}

theorem Turn.completed (h : Turn now limit chosen k p q (some e) k')
    (ht : e.type = .failoverCompleted) :
    ∃ a candidate n, chosen = some (a, candidate) ∧ e.trigger = a.failing ∧
      e.target = some candidate.id ∧ k'.primary = some candidate.id ∧
      k.node? candidate.id = some n ∧ n.active = true := by
  cases h with
  | commit hc _ hn ha hf htarget => exact ⟨_, _, _, hc, hf, htarget, rfl, hn, ha⟩
  | begin _ _ he | fail he | cancel he | recover _ he | rejoin _ he | reopen he | release _ _ he
  | promote _ _ _ _ _ he => cases he.1.symm.trans ht

/-- A failover is complete when the event says so. -/
theorem Turn.type_iff (h : Turn now limit chosen k p q (some e) k') :
    e.type = .failoverCompleted ↔
      e.oldState = .failoverInProgress ∧ e.newState = .failoverComplete := by
  cases h with
  | commit _ _ _ _ _ _ he => exact ⟨fun _ => he.2, fun _ => he.1⟩
  | begin _ _ he | fail he | cancel he | recover _ he | rejoin _ he | reopen he | release _ _ he
  | promote _ _ _ _ _ he => simp [he.1, he.2.2]

end

theorem Step.type_iff {e : FailoverEvent} (h : Step w m w')
    (hhistory : w'.history = w.history ++ [e]) :
    e.type = .failoverCompleted ↔
      e.oldState = .failoverInProgress ∧ e.newState = .failoverComplete := by
  obtain ⟨_, _, _, hturn⟩ := h.turn hhistory
  exact hturn.type_iff

/-- A step completes a failover when it takes the cluster from the one state
to the other. -/
theorem Step.completes_iff (h : Step w m w') (hw : Owned w) :
    (∃ e, Completes w w' e) ↔ w.state = .failoverInProgress ∧ w'.state = .failoverComplete := by
  constructor
  · rintro ⟨e, hhistory, htype⟩
    obtain ⟨hold, hnew⟩ := (h.type_iff hhistory).mp htype
    obtain ⟨hfrom, hto⟩ := h.settled hw hhistory (by rw [hold]; rfl)
    exact ⟨hfrom.trans hold, hto.trans hnew⟩
  · rintro ⟨hold, hnew⟩
    have hmoved : w'.state ≠ w.state := by simp [hold, hnew]
    obtain ⟨e, hhistory, hr | ⟨_, _, hsame, _⟩⟩ := h.recorded hw
    · cases e with
      | none => exact absurd hr hmoved
      | some e =>
        exact ⟨e, hhistory, (h.type_iff hhistory).mpr ⟨hr.1.trans hold, hr.2.trans hnew⟩⟩
    · exact absurd hsame hmoved

/-- Only the answer of a candidate completes a failover, and the candidate is
an active member other than the node that is replaced. -/
theorem Step.completed {e : FailoverEvent} (h : Step w m w') (hw : Vetted w)
    (hc : Completes w w' e) :
    ∃ a candidate n, Answers m a candidate ∧ e.trigger = a.failing ∧
      e.target = some candidate.id ∧ a.failing ≠ some candidate.id ∧
      w'.cluster.primary = some candidate.id ∧ w.cluster.node? candidate.id = some n ∧
      n.active = true := by
  obtain ⟨hhistory, htype⟩ := hc
  obtain ⟨hadvanced, _, _, hturn⟩ := h.turn hhistory
  obtain ⟨a, candidate, n, hchosen, hf, ht, hprimary, hn, ha⟩ := hturn.completed htype
  obtain ⟨hanswers, hlisted⟩ := answers_of_chosen hchosen
  obtain ⟨t, hmem, hx⟩ := hadvanced.asked _ hlisted
  exact ⟨a, candidate, n, hanswers, hf, ht, hw t hmem _ hx, hprimary, hn, ha⟩

theorem commitPromotion_took {candidate : Candidate} {c : Coordinator} (now : Moment) (a : Attempt)
    (h : c.canPromote candidate.id = true) :
    ∃ e, c.log.Took (some e) (Coordinator.commitPromotion now a candidate c).1.log ∧
      e.type = .failoverCompleted ∧ e.target = some candidate.id := by
  unfold Coordinator.commitPromotion Coordinator.conclude Coordinator.announceLast
  rw [if_pos h]
  refine ⟨_, Coordinator.announce_took ?_ _, rfl, rfl⟩
  exact ⟨rfl, rfl, _, rfl, FailoverStats.counted_completed _⟩

/-- A candidate that answers while it is an active member is promoted. -/
theorem Answers.completes {a : Attempt} {candidate : Candidate} {n : Node}
    (hm : Answers m a candidate) (h : Step w m w') (hw : Owned w)
    (hn : w.cluster.node? candidate.id = some n) (ha : n.active = true) :
    ∃ e, Completes w w' e ∧ e.target = some candidate.id := by
  obtain ⟨now, number, deadline, node, rest, rfl⟩ := hm
  have hpos : 0 < w.count .failover := System.count_pos h.resumed
  cases h with
  | resume _ before after _ _ _ h =>
    have hstate : w.coordinator.cluster.state = .failoverInProgress :=
      hw.state (r := .failover) rfl hpos
    have hcan : w.coordinator.canPromote candidate.id = true :=
      Coordinator.canPromote_iff.mpr ⟨hstate, n, hn, ha⟩
    obtain ⟨e, htook, htype, htarget⟩ := commitPromotion_took now a hcan
    exact ⟨e, ⟨congrArg (w.history ++ ·) htook.since, htype⟩, htarget⟩

/-- The node that the event makes the primary is fit for it. -/
def Fit (k : Cluster) (e : FailoverEvent) : Prop :=
  ∃ id n, e.target = some id ∧ k.node? id = some n ∧ n.active = true ∧ n.isHealthy = true ∧
    e.trigger ≠ some id

theorem not_fit {k : Cluster} {e : FailoverEvent} {id : String} {n : Node}
    (ht : e.target = some id) (hn : k.node? id = some n) (hill : n.isHealthy = false) :
    ¬ Fit k e := by
  rintro ⟨id', n', ht', hn', _, hwell, _⟩
  cases Option.some.inj (ht.symm.trans ht')
  cases Option.some.inj (hn.symm.trans hn')
  rw [hwell] at hill
  cases hill

theorem Lapse.unfit (hm : Lapse w m) (h : Step w m w') (hw : Owned w) :
    ∃ e, Completes w w' e ∧ ¬ Fit w.cluster e := by
  obtain ⟨a, candidate, n, hanswers, hn, ha, hill⟩ := hm
  obtain ⟨e, hc, htarget⟩ := hanswers.completes h hw hn ha
  exact ⟨e, hc, not_fit htarget hn hill⟩

/-- Whoever a failover promotes is an active member at that moment, and not
the node that the failover was started against. It is healthy too, but for one
thing: a candidate that lapses while it is asked is promoted all the same. -/
theorem a_promotion_is_fit_unless_the_candidate_lapses (h : History trace w) (hs : Step w m w') :
    ((∃ e, Completes w w' e) ↔
      w.state = .failoverInProgress ∧ w'.state = .failoverComplete) ∧
    (∀ e, Completes w w' e → ∃ id n, e.target = some id ∧ w'.cluster.primary = some id ∧
      w.cluster.node? id = some n ∧ n.active = true ∧ e.trigger ≠ some id) ∧
    ((∀ e, Completes w w' e → Fit w.cluster e) ↔ ¬ Lapse w m) := by
  have hvetted := h.vetted
  refine ⟨hs.completes_iff h.owned, ?_, ?_, ?_⟩
  · intro e hc
    obtain ⟨a, candidate, n, _, hf, ht, hother, hprimary, hn, ha⟩ := hs.completed hvetted hc
    exact ⟨candidate.id, n, ht, hprimary, hn, ha, hf ▸ hother⟩
  · intro hfit hlapse
    obtain ⟨e, hc, hunfit⟩ := hlapse.unfit hs h.owned
    exact hunfit (hfit e hc)
  · intro hm e hc
    obtain ⟨a, candidate, n, hanswers, hf, ht, hother, _, hn, ha⟩ := hs.completed hvetted hc
    refine ⟨candidate.id, n, ht, hn, ha, ?_, hf ▸ hother⟩
    by_contra hill
    exact hm ⟨a, candidate, n, hanswers, hn, ha, by simpa using hill⟩

/-- A failover that has a candidate to ask. -/
def asking : List Cue :=
  let now := ⟨0, false⟩
  [ .order now (.register (Node.well "a" .primary))
  , .order now (.register (Node.well "b" .secondary))
  , .start now (.trigger "drill"), .resume now 0 ]

/-- A primary and two nodes that could follow it. -/
def trio : List Cue :=
  [ .order ⟨0, false⟩ (.register (Node.well "a" .primary))
  , .order ⟨0, false⟩ (.register (Node.well "b" .secondary))
  , .order ⟨0, false⟩ (.register (Node.well "c" .standby)) ]

/-- Whoever is asked can answer at once. -/
theorem answer_step {number : Nat} {a : Attempt} {deadline : Moment} {candidate : Candidate}
    {node : Node} {rest : List (Candidate × Node)}
    (h : w.tasks = [⟨number, .connecting a deadline candidate node rest⟩]) :
    ∃ m w', Step w m w' ∧ Answers m a candidate :=
  ⟨_, _, .resume w ⟨0, false⟩ [] [] number (.connecting a deadline candidate node rest)
    (show Option Bool from some true) h, ⟨_, _, _, _, _, rfl⟩⟩

theorem a_promotion_is_fit_unless_the_candidate_lapses_asking :
    ∃ trace w m w', History trace w ∧ Step w m w' ∧ w'.cluster.primary = some "b" ∧
      ((∃ e, Completes w w' e) ↔
        w.state = .failoverInProgress ∧ w'.state = .failoverComplete) ∧
      (∀ e, Completes w w' e → ∃ id n, e.target = some id ∧ w'.cluster.primary = some id ∧
        w.cluster.node? id = some n ∧ n.active = true ∧ e.trigger ≠ some id) ∧
      ((∀ e, Completes w w' e → Fit w.cluster e) ↔ ¬ Lapse w m) := by
  obtain ⟨trace, h, _⟩ := System.play_history Coordinator.fresh_standard calm asking
  rcases System.follow_step calm (System.play calm (.initial .standard) asking)
    (.resume ⟨0, false⟩ 0) with heq | ⟨m, _, hs⟩
  · exact absurd (congrArg (·.history.length) heq) (by decide)
  · exact ⟨trace, _, m, _, h, hs, by decide, a_promotion_is_fit_unless_the_candidate_lapses h hs⟩

/-- The candidate goes into maintenance while it is asked, and is promoted. -/
theorem a_candidate_in_maintenance_is_promoted :
    ∃ trace w m w' e, History trace w ∧ Undropped trace ∧ Step w m w' ∧ Completes w w' e ∧
      (w.cluster.node? "b").map (·.status) = some .maintenance ∧
      w'.cluster.primary = some "b" ∧ ¬ Fit w.cluster e := by
  obtain ⟨trace, h, hd⟩ := System.play_history Coordinator.fresh_standard calm
    (asking ++ [.order ⟨0, false⟩ (.maintenance "b" true)])
  generalize hw : System.play calm (.initial .standard)
    (asking ++ [.order ⟨0, false⟩ (.maintenance "b" true)]) = w at h
  have htasks : ∃ number a deadline candidate node rest,
      w.tasks = [⟨number, .connecting a deadline candidate node rest⟩] ∧ candidate.id = "b" := by
    rw [← hw]
    exact ⟨_, _, _, _, _, _, rfl, rfl⟩
  have hnode : ∃ n, w.cluster.node? "b" = some n ∧ n.status = .maintenance ∧ n.active = true := by
    rw [← hw]
    exact ⟨_, rfl, rfl, rfl⟩
  obtain ⟨_, a, _, candidate, _, _, htasks, hid⟩ := htasks
  obtain ⟨n, hn, hstatus, hactive⟩ := hnode
  obtain ⟨m, w', hs, hanswers⟩ := answer_step htasks
  obtain ⟨e, hc, htarget⟩ := hanswers.completes hs h.owned (hid ▸ hn) hactive
  rw [hid] at htarget
  obtain ⟨_, _, _, _, _, htarget', _, hprimary, _⟩ := hs.completed h.vetted hc
  refine ⟨trace, w, m, w', e, h, hd, hs, hc, by simp [hn, hstatus], ?_, ?_⟩
  · exact hprimary.trans (htarget'.symm.trans htarget)
  · exact not_fit htarget hn (by simp [Node.isHealthy, hstatus])

end Failover
