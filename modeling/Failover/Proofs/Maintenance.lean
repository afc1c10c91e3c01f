import Failover.Proofs.Effects

-- How long a node stays in maintenance. Probes and promotions leave its status
-- alone, and only an operator is to end it; but a node that is active and falls
-- silent is given another status by the round of pings that finds it so.

namespace Failover

open Cluster (OnePrimary SameMembers)

def Cluster.InMaintenance (k : Cluster) (id : String) : Prop :=
  ∃ n, k.node? id = some n ∧ n.status = .maintenance

/-- An operator ends the maintenance of the node, or takes the node out. -/
def Move.EndsMaintenance (id : String) (m : Move) : Prop :=
  m.leaver? = some id ∨ ∃ now, m = .order now (.maintenance id false)

/-- A round of pings ends without an answer from the node, which is still
active and was heard of too long ago. -/
def FallsSilent (id : String) (w : System) (m : Move) : Prop :=
  ∃ now number targets answers n, m = .resume now number (.pinging targets) answers ∧
    (id, true) ∉ (targets.map (·.id)).zip answers ∧ w.cluster.node? id = some n ∧
    n.active = true ∧ w.coordinator.settings.heartbeatTimeout < now.since n.lastHeartbeat

/-- No verdict is recorded for the node, and it is not fit to be promoted. -/
structure Cluster.Withheld (k : Cluster) (id : String) : Prop where
  unjudged : ∀ reports, (k.recordAll reports).2.node? id = k.node? id ∧
    ∀ change ∈ (k.recordAll reports).1, change.node ≠ id
  unfit : ∀ n failing, k.node? id = some n → n.isEligible failing = false

/-! ## One member -/

namespace Cluster

variable {k k' : Cluster} {id : String}

theorem inMaintenance_iff :
    k.InMaintenance id ↔ (k.node? id).map (·.status) = some .maintenance := by
  rw [Option.map_eq_some_iff]
  rfl

/-- A change of the members that leaves the standing of this one alone. -/
theorem InMaintenance.of_standing (h : k.InMaintenance id)
    (hs : (k'.node? id).map Node.standing = (k.node? id).map Node.standing) : k'.InMaintenance id := by
  have hstatus := congrArg (Option.map fun x => x.2.2.1) hs
  rw [Option.map_map, Option.map_map] at hstatus
  rw [inMaintenance_iff] at h ⊢
  exact hstatus.trans h

theorem judged_in_maintenance (reports : List (HealthReport Float)) {n : Node}
    (h : n.status = .maintenance) : reports.foldl Node.judged n = n := by
  induction reports with
  | nil => rfl
  | cons r rest ih =>
    have hr : n.judged r = n := by simp [Node.judged, h]
    rw [List.foldl_cons, hr]
    exact ih

theorem InMaintenance.unjudged (h : k.InMaintenance id)
    (reports : List (String × HealthReport Float)) :
    (k.recordAll reports).2.node? id = k.node? id := by
  obtain ⟨n, hn, hs⟩ := h
  rw [node?_recordAll, hn, Option.map_some, judged_in_maintenance _ hs]

theorem record_changes (h : k.InMaintenance id) (other : String) (r : HealthReport Float) :
    ∀ change ∈ (k.record other r).1.toList, change.node ≠ id := by
  obtain ⟨n, hn, hs⟩ := h
  intro change hmem
  unfold record at hmem
  split at hmem
  · cases hmem
  · rename_i n' hn'
    split at hmem
    · cases hmem
    · rename_i hnot
      by_cases hother : other = id
      · rw [hother, hn] at hn'
        cases hn'
        simp [hs] at hnot
      · dsimp only at hmem
        split at hmem
        · cases hmem
        · rw [Option.toList_some, List.mem_singleton] at hmem
          rw [hmem]
          exact hother

theorem recordAll_changes (h : k.InMaintenance id)
    (reports : List (String × HealthReport Float)) :
    ∀ change ∈ (k.recordAll reports).1, change.node ≠ id := by
  induction reports generalizing k with
  | nil => simp [recordAll]
  | cons x rest ih =>
    obtain ⟨other, r⟩ := x
    have hnext : (k.record other r).2.InMaintenance id :=
      h.of_standing (congrArg _ (h.unjudged [(other, r)]))
    intro change hmem
    rcases List.mem_append.mp hmem with hmem | hmem
    · exact record_changes h other r change hmem
    · exact ih hnext change hmem

theorem InMaintenance.withheld (h : k.InMaintenance id) : k.Withheld id := by
  refine ⟨fun reports => ⟨h.unjudged reports, recordAll_changes h reports⟩, ?_⟩
  intro n failing hn
  obtain ⟨n', hn', hs⟩ := h
  rw [hn] at hn'
  cases hn'
  simp [Node.isEligible, Node.isStandby, Node.isHealthy, hs]

/-! ## What other operations leave alone -/

theorem status_setMaintenance {other : String} {enabled : Bool}
    (h : k.setMaintenance other enabled = .ok k') (hk : k.InMaintenance id)
    (hkept : other = id → enabled = true) : k'.InMaintenance id := by
  by_cases heq : id = other
  · obtain ⟨n, hn, _⟩ := hk
    unfold setMaintenance at h
    split at h
    · cases h
      have hget : k.nodes.get? other = some n := heq ▸ hn
      simp [InMaintenance, node?, Table.get?_modify, heq, hget, hkept heq.symm]
    · cases h
  · exact hk.of_standing (by rw [node?_setMaintenance h heq])

theorem InMaintenance.add {n : Node} (hk : k.InMaintenance id) (h : k.add n = .ok k') :
    k'.InMaintenance id := by
  have hnew := add_new h
  refine hk.of_standing ((standing_add h id).trans (if_neg ?_))
  rintro rfl
  obtain ⟨m, hm, _⟩ := hk
  rw [contains_iff.mpr ⟨m, hm⟩] at hnew
  cases hnew

/-- A round of pings takes the node out of maintenance if it has fallen
silent. -/
theorem InMaintenance.round_iff {n : Node} (hn : k.node? id = some n)
    (hs : n.status = .maintenance) (limit : Span) (hlimit : 0 ≤ limit) (now : Moment)
    (answers : List (String × Bool)) :
    ((k.recordPings now answers).2.scanTimeouts limit now).InMaintenance id ↔
      ¬ ((id, true) ∉ answers ∧ n.active = true ∧ limit < now.since n.lastHeartbeat) := by
  rw [inMaintenance_iff, node?_scanTimeouts, node?_recordPings, hn]
  by_cases hmem : (id, true) ∈ answers
  · have hstatus : (n.heardAt now).status = .maintenance := hs
    simp [hmem, isSilent_heardAt hlimit, hstatus]
  · by_cases hsilent : isSilent limit now n = true
    · have hboth := hsilent
      simp only [isSilent, Bool.and_eq_true, decide_eq_true_eq] at hboth
      simp [hmem, hsilent, Node.timedOut, hboth]
    · have hnot := hsilent
      simp only [isSilent, Bool.and_eq_true, decide_eq_true_eq] at hnot
      simp [hmem, hsilent, hs, hnot]

end Cluster

/-! ## One step -/

variable {trace : List (System × Move)} {w w' : System} {m : Move} {id : String}

/-- Nothing but the end of a round of pings can find a node silent. -/
theorem FallsSilent.reports (h : FallsSilent id w m) : m.endsRound = true := by
  obtain ⟨_, _, _, _, _, rfl, _⟩ := h
  rfl

/-- While no operator ends it, the maintenance of a node ends with the step
that finds the node silent, and with no other. -/
theorem Step.maintenance_iff (h : Step w m w') (hw : w.cluster.InMaintenance id)
    (hm : ¬ m.EndsMaintenance id) : w'.cluster.InMaintenance id ↔ ¬ FallsSilent id w m := by
  obtain ⟨k, haffects, hsame⟩ := h.affects
  have hk : w'.cluster.InMaintenance id ↔ k.InMaintenance id := by
    simp only [Cluster.InMaintenance, hsame.node?]
  have hquiet : m.endsRound = false → k.InMaintenance id →
      (w'.cluster.InMaintenance id ↔ ¬ FallsSilent id w m) := by
    intro hround hkept
    refine ⟨fun _ hsilent => ?_, fun _ => hk.mpr hkept⟩
    rw [hsilent.reports] at hround
    cases hround
  cases haffects with
  | nothing hreports =>
    refine hquiet ?_ hw
    cases m with
    | resume now number a reply =>
      cases a with
      | pinging => cases hreports
      | probing | connecting | announcing | ready => rfl
    | start | drop | order => rfl
  | round now number targets answers =>
    obtain ⟨n, hn, hs⟩ := hw
    rw [hk, Cluster.InMaintenance.round_iff hn hs _ (FailoverSettings.heartbeatTimeout_nonneg _)]
    constructor
    · rintro hnot ⟨_, _, _, _, n', heq, hmem, hn', ha, hlimit⟩
      cases heq
      rw [hn] at hn'
      cases hn'
      exact hnot ⟨hmem, ha, hlimit⟩
    · rintro hnot ⟨hmem, ha, hlimit⟩
      exact hnot ⟨now, number, targets, answers, n, rfl, hmem, hn, ha, hlimit⟩
  | sweep now number targets results =>
    exact hquiet rfl (hw.of_standing (congrArg _ (hw.unjudged _)))
  | commit hanswers =>
    obtain ⟨_, _, _, _, _, rfl⟩ := hanswers
    exact hquiet rfl (hw.of_standing (Cluster.standing_promote _ _ _))
  | rejoin hp id' =>
    obtain ⟨now, number, a, reply, rfl, hphase⟩ := Move.resumes hp (by simp)
    refine hquiet ?_ (hw.of_standing (Cluster.standing_rejoin _ _ _ _))
    cases a with
    | pinging => cases hphase
    | probing | connecting | announcing | ready => rfl
  | promote => exact hquiet rfl (hw.of_standing (Cluster.standing_promote _ _ _))
  | leave hleaver hr =>
    have hne : id ≠ _ := fun heq => hm (Or.inl (heq ▸ hleaver))
    have hothers := (Cluster.remove_others hr).2.2 id hne
    refine hquiet ?_ (hw.of_standing (by rw [hothers]))
    cases m with
    | resume => cases hleaver
    | start | drop | order => rfl
  | join now ho hadd => exact hquiet rfl (hw.add hadd)
  | @maintain now other enabled _ hset =>
    refine hquiet rfl (Cluster.status_setMaintenance hset hw ?_)
    rintro rfl
    cases enabled with
    | true => rfl
    | false => exact absurd (Or.inr ⟨now, rfl⟩) hm

/-! ## Runs -/

theorem Run.maintenance_iff {start : System} (hrun : Run start trace w)
    (hstart : start.cluster.InMaintenance id) (hkept : ∀ s ∈ trace, ¬ s.2.EndsMaintenance id) :
    (∀ s ∈ trace, s.1.cluster.InMaintenance id) ∧ w.cluster.InMaintenance id ↔
      ∀ s ∈ trace, ¬ FallsSilent id s.1 s.2 := by
  induction hrun with
  | nil => simp [hstart]
  | @snoc trace w₁ w₂ m _ hs ih =>
    have hearlier := ih fun s hmem => hkept s (List.mem_append_left _ hmem)
    have hlast : ¬ m.EndsMaintenance id := hkept (w₁, m) (by simp)
    constructor
    · rintro ⟨hall, hw₂⟩ s hmem
      have hw₁ := hall (w₁, m) (by simp)
      have hbefore := hearlier.mp ⟨fun s hmem => hall s (List.mem_append_left _ hmem), hw₁⟩
      rcases List.mem_append.mp hmem with hmem | hmem
      · exact hbefore s hmem
      · rw [List.mem_singleton.mp hmem]
        exact (hs.maintenance_iff hw₁ hlast).mp hw₂
    · intro hall
      obtain ⟨hbefore, hw₁⟩ := hearlier.mpr fun s hmem => hall s (List.mem_append_left _ hmem)
      refine ⟨?_, (hs.maintenance_iff hw₁ hlast).mpr (hall (w₁, m) (by simp))⟩
      intro s hmem
      rcases List.mem_append.mp hmem with hmem | hmem
      · exact hbefore s hmem
      · rw [List.mem_singleton.mp hmem]
        exact hw₁

theorem obey_maintenance (w : System) (now : Moment) (h : w.cluster.contains id = true) :
    (w.obey now (.maintenance id true)).cluster.InMaintenance id := by
  obtain ⟨n, hn⟩ := Cluster.contains_iff.mp h
  have hget : w.coordinator.cluster.nodes.get? id = some n := hn
  have hcontains : w.coordinator.cluster.contains id = true := h
  simp [System.obey, System.cluster, Order.apply, Coordinator.setMaintenance,
    Cluster.setMaintenance, hcontains, Cluster.InMaintenance, Cluster.node?, Table.get?_modify, hget,
    Except.toOption]

/-- From the moment at which a member is put into maintenance, and until an
operator ends that or takes the member out: the member stays in maintenance in
every state of a run, however operations overlap, exactly when no round of
pings finds it silent on the way. So long no verdict is recorded for it and
it is not fit to be promoted. -/
theorem maintenance_lasts_until_the_node_falls_silent {now : Moment}
    (hn : w.cluster.contains id = true)
    (hrun : Run (w.obey now (.maintenance id true)) trace w')
    (hkept : ∀ s ∈ trace, ¬ s.2.EndsMaintenance id) :
    ((∀ s ∈ trace, s.1.cluster.InMaintenance id) ∧ w'.cluster.InMaintenance id ↔
      ∀ s ∈ trace, ¬ FallsSilent id s.1 s.2) ∧
    ((∀ s ∈ trace, ¬ FallsSilent id s.1 s.2) →
      (∀ s ∈ trace, s.1.cluster.Withheld id) ∧ w'.cluster.Withheld id) := by
  have hiff := hrun.maintenance_iff (obey_maintenance w now hn) hkept
  refine ⟨hiff, fun hheard => ?_⟩
  obtain ⟨hall, hw'⟩ := hiff.mpr hheard
  exact ⟨fun s hmem => (hall s hmem).withheld, hw'.withheld⟩

/-- A round of pings that nobody disturbs. -/
def System.round (w : System) (now : Moment) (answers : List Bool) : System :=
  (w.launch now .heartbeatRound).turn w.started [] []
    (Coordinator.nextSection now (.pinging w.cluster.list) answers w.coordinator)

theorem System.round_run {w : System} (hidle : w.tasks = []) (now : Moment) (answers : List Bool) :
    ∃ trace, Run w trace (w.round now answers) ∧ trace.length = 2 ∧
      ∀ id, ∀ s ∈ trace, ¬ s.2.EndsMaintenance id := by
  have hwaits : (w.launch now .heartbeatRound).tasks =
      [] ++ ⟨w.started, .pinging w.cluster.list⟩ :: [] := by
    simp [System.launch, System.turn, hidle, Coordinator.firstSection, Progress.tasks, System.cluster]
  have hbegun := Run.nil.snoc (Step.start w now .heartbeatRound)
  refine ⟨_, hbegun.snoc (Step.resume _ now [] [] w.started (.pinging w.cluster.list) answers
    hwaits), rfl, ?_⟩
  intro id s hs
  rcases List.mem_append.mp hs with hs | hs
  all_goals
    rw [List.mem_singleton.mp hs]
    rintro (hleaver | ⟨_, heq⟩)
    · cases hleaver
    · cases heq

/-- Two members. -/
def pair : List Cue :=
  [ .order ⟨0, false⟩ (.register (Node.well "a" .primary))
  , .order ⟨0, false⟩ (.register (Node.well "b" .secondary)) ]

/-- The node in maintenance still answers after a long time. -/
theorem maintenance_lasts_until_the_node_falls_silent_while_it_answers :
    ∃ (w : System) (trace : List (System × Move)) (w' : System),
      w.cluster.contains "b" = true ∧
      Run (w.obey ⟨0, false⟩ (.maintenance "b" true)) trace w' ∧
      (∀ s ∈ trace, ¬ s.2.EndsMaintenance "b") ∧ trace.length = 2 ∧
      (w'.cluster.node? "b").map (·.status) = some .maintenance ∧
      ((∀ s ∈ trace, s.1.cluster.InMaintenance "b") ∧ w'.cluster.InMaintenance "b" ↔
        ∀ s ∈ trace, ¬ FallsSilent "b" s.1 s.2) ∧
      ((∀ s ∈ trace, ¬ FallsSilent "b" s.1 s.2) →
        (∀ s ∈ trace, s.1.cluster.Withheld "b") ∧ w'.cluster.Withheld "b") := by
  have hn : (System.play calm (.initial .standard) pair).cluster.contains "b" = true := by decide
  obtain ⟨trace, hrun, hlength, hkept⟩ := System.round_run
    (w := (System.play calm (.initial .standard) pair).obey ⟨0, false⟩ (.maintenance "b" true))
    rfl (Moment.ofMillis 100000) [true, true]
  exact ⟨_, trace, _, hn, hrun, hkept "b", hlength, by decide,
    maintenance_lasts_until_the_node_falls_silent hn hrun (hkept "b")⟩

/-- A node is put into maintenance and shut down, and comes back later: it is
to be probed again, and nobody has ended its maintenance. -/
theorem a_node_in_maintenance_is_probed_after_a_silence :
    ∃ (before : List (System × Move)) (w : System) (trace : List (System × Move)) (w' : System),
      History before w ∧ w.cluster.contains "b" = true ∧
      Run (w.obey ⟨0, false⟩ (.maintenance "b" true)) trace w' ∧
      (∀ s ∈ trace, ¬ s.2.EndsMaintenance "b") ∧
      (w'.cluster.node? "b").map (·.status) = some .unhealthy ∧
      "b" ∈ w'.cluster.probeTargets.map (·.id) := by
  obtain ⟨before, h, _⟩ := System.play_history Coordinator.fresh_standard calm pair
  obtain ⟨silence, hsilent, _, hkept⟩ := System.round_run
    (w := (System.play calm (.initial .standard) pair).obey ⟨0, false⟩ (.maintenance "b" true))
    rfl (Moment.ofMillis 100000) [true, false]
  obtain ⟨answer, hback, _, hkept'⟩ := System.round_run
    (w := ((System.play calm (.initial .standard) pair).obey ⟨0, false⟩
      (.maintenance "b" true)).round (Moment.ofMillis 100000) [true, false])
    rfl (Moment.ofMillis 105000) [true, true]
  refine ⟨before, _, _, _, h, by decide, hsilent.trans hback, ?_, by decide, by decide⟩
  intro s hs
  rcases List.mem_append.mp hs with hs | hs
  · exact hkept "b" s hs
  · exact hkept' "b" s hs

end Failover
