import Failover.Proofs.Abreast
import Failover.Proofs.Effects
import Failover.Proofs.Rounds

-- Probes, and the verdicts that come of them. A sweep takes its targets as they
-- are when it starts; what it reports goes on the record of whoever is a member
-- under the same id when it is over. Nothing but such a verdict makes a member
-- healthy, and nothing but an answered ping makes it active.

namespace Failover

/-- The nodes that are being probed. -/
def Activity.probed : Activity → List Node
  | probing targets => targets
  | _ => []

def Progress.probed : Progress → List Node
  | waits a => a.probed
  | ends _ => []

/-- The sweep of this number is still probing the node. -/
def Probing (w : System) (number : Nat) (target : Node) : Prop :=
  ∃ t ∈ w.tasks, t.number = number ∧ target ∈ t.activity.probed

/-- A sweep starts, and gets this number. -/
structure Sends (s : System × Move) (number : Nat) (target : Node) : Prop where
  starts : ∃ now, s.2 = .start now .healthSweep
  number : s.1.started = number
  target : target ∈ s.1.cluster.probeTargets

/-- A sweep that probes the node has started. -/
def Begun (trace : List (System × Move)) (number : Nat) (target : Node) : Prop :=
  ∃ s ∈ trace, Sends s number target

/-- A sweep is over, and what it says of a node goes on the record of the
member that has the id of that node now. -/
inductive Verdict (w : System) : Move → Nat → Node → HealthStatus → Prop
  | given (now : Moment) (number : Nat) {targets : List Node} {results : List (ProbeResult Float)}
      {target n : Node} {r : ProbeResult Float} (hr : (target, r) ∈ targets.zip results)
      (hn : w.cluster.node? target.id = some n) (hm : n.status ≠ .maintenance) :
      Verdict w (.resume now number (.probing targets) results) number target
        (HealthReport.ofResult w.coordinator.settings.thresholds r).status

/-- Behind this part of the trace, a verdict on a node of this id is
recorded. -/
def Noted (id : String) (trace before : List (System × Move)) (number : Nat) (target : Node)
    (status : HealthStatus) : Prop :=
  target.id = id ∧ ∃ s after, trace = before ++ s :: after ∧ Verdict s.1 s.2 number target status

/-- A round of pings ends, and the node has answered. -/
def Hears (id : String) (m : Move) : Prop :=
  ∃ now number targets answers, m = .resume now number (.pinging targets) answers ∧
    (id, true) ∈ (targets.map (·.id)).zip answers

/-- What a step makes of a member that stays. -/
structure Fares (id : String) (w : System) (m : Move) (n n' : Node) : Prop where
  address : n'.address = n.address
  port : n'.port = n.port
  healthy : n'.isHealthy = true → n.isHealthy = true ∨
    ∃ number target, target.id = id ∧ Verdict w m number target .healthy
  active : n'.active = true → n.active = true ∨ Hears id m

/-! ## Who is being probed -/

theorem Progress.probed_of_polls {progress : Progress} (h : progress.polls = false) :
    progress.probed = [] := by
  cases progress with
  | ends => rfl
  | waits a =>
    cases a with
    | pinging | probing => cases h
    | connecting | announcing | ready => rfl

/-- Nobody is probed but by a sweep. -/
theorem Coordinator.firstSection_probed (now : Moment) {op : Operation} (hop : op ≠ .healthSweep)
    (c : Coordinator) : (firstSection now op c).2.probed = [] := by
  cases op with
  | heartbeatRound => rfl
  | healthSweep => exact absurd rfl hop
  | watch | trigger | promote | acknowledge | remove =>
    exact Progress.probed_of_polls (firstSection_polls now rfl c)

variable {trace before : List (System × Move)} {start w w' : System} {m : Move} {number : Nat}
  {target n n' : Node} {status : HealthStatus} {id : String}

theorem Step.probing (h : Step w m w') (hp : Probing w' number target) :
    Probing w number target ∨ Sends (w, m) number target := by
  obtain ⟨t, ht, hnumber, htarget⟩ := hp
  cases h with
  | start now op =>
    simp only [System.launch, System.turn, List.append_nil, List.mem_append] at ht
    rcases ht with hold | hnew
    · exact Or.inl ⟨t, hold, hnumber, htarget⟩
    · obtain ⟨hstarted, hwaits⟩ := Progress.mem_tasks_iff.mp hnew
      by_cases hop : op = .healthSweep
      · subst hop
        rw [← Progress.waits.inj hwaits] at htarget
        exact Or.inr ⟨⟨now, rfl⟩, hstarted.symm.trans hnumber, htarget⟩
      · have hnobody := Coordinator.firstSection_probed now hop w.coordinator
        rw [hwaits] at hnobody
        rw [show t.activity.probed = [] from hnobody] at htarget
        cases htarget
  | resume now front back number' a reply htasks =>
    simp only [System.turn, List.mem_append] at ht
    have hothers : t ∈ front ++ back → Probing w number target := by
      intro hmem
      refine ⟨t, ?_, hnumber, htarget⟩
      rw [htasks]
      exact Task.sublist_others.subset hmem
    rcases ht with (hfront | hnew) | hback
    · exact Or.inl (hothers (List.mem_append_left _ hfront))
    · have hnobody := Progress.probed_of_polls
        (Coordinator.nextSection_polls now a reply w.coordinator)
      rw [Progress.mem_tasks hnew] at hnobody
      rw [show t.activity.probed = [] from hnobody] at htarget
      cases htarget
    · exact Or.inl (hothers (List.mem_append_right _ hback))
  | drop front back t' htasks =>
    refine Or.inl ⟨t, ?_, hnumber, htarget⟩
    rw [htasks]
    exact Task.sublist_others.subset ht
  | order => exact Or.inl ⟨t, ht, hnumber, htarget⟩

/-- Whoever is being probed was a target of a sweep that has started in the
run, or was being probed before. -/
theorem Run.probing (hrun : Run start trace w) (h : Probing w number target) :
    Begun trace number target ∨ Probing start number target := by
  induction hrun with
  | nil => exact Or.inr h
  | @snoc trace w w' m _ hs ih =>
    rcases hs.probing h with hold | hsends
    · rcases ih hold with ⟨s, hmem, hsent⟩ | hearlier
      · exact Or.inl ⟨s, List.mem_append_left _ hmem, hsent⟩
      · exact Or.inr hearlier
    · exact Or.inl ⟨(w, m), by simp, hsends⟩

theorem History.probing (h : History trace w) (hp : Probing w number target) :
    Begun trace number target := by
  obtain ⟨c, _, hrun⟩ := h
  rcases hrun.probing hp with hbegun | ⟨_, hmem, _⟩
  · exact hbegun
  · cases hmem

/-- A verdict comes of a probe that was out. -/
theorem Verdict.probing (hv : Verdict w m number target status) (h : Step w m w') :
    Probing w number target := by
  cases hv with
  | given now number hr =>
    exact ⟨_, h.resumed, rfl, (List.of_mem_zip hr).1⟩

theorem Noted.probing (hr : Noted id trace before number target status)
    (hrun : Run start trace w) : Begun before number target ∨ Probing start number target := by
  obtain ⟨_, s, after, rfl, hv⟩ := hr
  obtain ⟨hbefore, _, hs, _⟩ := hrun.split
  exact hbefore.probing (hv.probing hs)

theorem Noted.extend (h : Noted id trace before number target status)
    (more : List (System × Move)) : Noted id (trace ++ more) before number target status := by
  obtain ⟨hid, s, after, rfl, hv⟩ := h
  exact ⟨hid, s, after ++ more, by simp, hv⟩

theorem Noted.behind (h : Noted id trace before number target status)
    (earlier : List (System × Move)) :
    Noted id (earlier ++ trace) (earlier ++ before) number target status := by
  obtain ⟨hid, s, after, rfl, hv⟩ := h
  exact ⟨hid, s, after, by simp, hv⟩

/-- What started before the verdict started in the trace. -/
theorem Noted.begun (h : Noted id trace before number target status)
    (hbegun : Begun before number target) : Begun trace number target := by
  obtain ⟨_, _, _, rfl, _⟩ := h
  obtain ⟨s, hmem, hsends⟩ := hbegun
  exact ⟨s, List.mem_append_left _ hmem, hsends⟩

/-- A target is a member when its sweep starts. -/
theorem Sends.member {s : System × Move} (h : Sends s number target)
    (hk : Cluster.OnePrimary s.1.cluster) :
    s.1.cluster.node? target.id = some target ∧ target.isProbed = true := by
  obtain ⟨hmem, hprobed⟩ := List.mem_filter.mp h.target
  exact ⟨hk.node?_id hmem, hprobed⟩

/-! ## One member -/

theorem judged_kept (reports : List (HealthReport Float)) (n : Node) :
    (reports.foldl Node.judged n).address = n.address ∧
      (reports.foldl Node.judged n).port = n.port ∧
      (reports.foldl Node.judged n).active = n.active := by
  induction reports generalizing n with
  | nil => exact ⟨rfl, rfl, rfl⟩
  | cons r rest ih =>
    rw [List.foldl_cons]
    obtain ⟨haddress, hport, hactive⟩ := ih (n.judged r)
    rw [haddress, hport, hactive]
    unfold Node.judged
    split <;> exact ⟨rfl, rfl, rfl⟩

theorem judged_healthy {reports : List (HealthReport Float)}
    (h : (reports.foldl Node.judged n).isHealthy = true) :
    n.isHealthy = true ∨ n.status ≠ .maintenance ∧ ∃ r ∈ reports, r.status = .healthy := by
  induction reports generalizing n with
  | nil => exact Or.inl h
  | cons r rest ih =>
    rw [List.foldl_cons] at h
    by_cases hm : n.status = .maintenance
    · have hr : n.judged r = n := if_pos hm
      rw [hr] at h
      rcases ih h with hbefore | ⟨hnot, _⟩
      · exact Or.inl hbefore
      · exact absurd hm hnot
    · have hr : n.judged r = n.withReport r := if_neg hm
      rw [hr] at h
      rcases ih h with hnow | ⟨_, r', hmem, hstatus⟩
      · have hstatus : r.status = .healthy := by simpa [Node.isHealthy, Node.withReport] using hnow
        exact Or.inr ⟨hm, r, List.mem_cons_self, hstatus⟩
      · exact Or.inr ⟨hm, r', List.mem_cons_of_mem _ hmem, hstatus⟩

theorem mem_reportsOn {t : HealthThresholds Float} {targets : List Node}
    {results : List (ProbeResult Float)} {r : HealthReport Float}
    (h : r ∈ reportsOn id ((targets.map (·.id)).zip (results.map (HealthReport.ofResult t)))) :
    ∃ target result, (target, result) ∈ targets.zip results ∧ target.id = id ∧
      r = HealthReport.ofResult t result := by
  simp only [reportsOn, List.zip_map, List.mem_map, List.mem_filter, decide_eq_true_eq] at h
  obtain ⟨_, ⟨⟨⟨target, result⟩, hmem, rfl⟩, hid⟩, rfl⟩ := h
  exact ⟨target, result, hmem, hid, rfl⟩

theorem Fares.of_standing (h : n'.standing = n.standing) : Fares id w m n n' := by
  simp only [Node.standing, Prod.mk.injEq] at h
  obtain ⟨haddress, hport, hstatus, hactive⟩ := h
  refine ⟨haddress, hport, fun hh => Or.inl ?_, fun ha => Or.inl (hactive ▸ ha)⟩
  unfold Node.isHealthy at hh ⊢
  rw [← hstatus]
  exact hh

/-- The members may differ in other things. -/
theorem Fares.member {k : Cluster} (hn : w.cluster.node? id = some n)
    (h : (k.node? id).map Node.standing = (w.cluster.node? id).map Node.standing) :
    ∃ n', k.node? id = some n' ∧ Fares id w m n n' := by
  rw [hn, Option.map_some] at h
  obtain ⟨n', hn', hstanding⟩ := Option.map_eq_some_iff.mp h
  exact ⟨n', hn', .of_standing hstanding⟩

theorem fares_round (hn : w.cluster.node? id = some n) (now : Moment) (number : Nat)
    (targets : List Node) (answers : List Bool) (limit : Span) :
    ∃ n', ((w.cluster.recordPings now ((targets.map (·.id)).zip answers)).2.scanTimeouts limit
        now).node? id = some n' ∧
      Fares id w (.resume now number (.pinging targets) answers) n n' := by
  rw [Cluster.node?_scanTimeouts, Cluster.node?_recordPings, hn, Option.map_some, Option.map_some]
  refine ⟨_, rfl, ?_⟩
  by_cases hmem : (id, true) ∈ (targets.map (·.id)).zip answers
  · rw [if_pos hmem]
    have hheard : Hears id (.resume now number (.pinging targets) answers) :=
      ⟨now, number, targets, answers, rfl, hmem⟩
    split
    · exact ⟨rfl, rfl, nofun, nofun⟩
    · exact ⟨rfl, rfl, Or.inl, fun _ => Or.inr hheard⟩
  · rw [if_neg hmem]
    split
    · exact ⟨rfl, rfl, nofun, nofun⟩
    · exact .of_standing rfl

theorem fares_sweep (hn : w.cluster.node? id = some n) (now : Moment) (number : Nat)
    (targets : List Node) (results : List (ProbeResult Float)) :
    ∃ n', (w.cluster.recordAll ((targets.map (·.id)).zip
        (results.map (HealthReport.ofResult w.coordinator.settings.thresholds)))).2.node? id =
        some n' ∧
      Fares id w (.resume now number (.probing targets) results) n n' := by
  rw [Cluster.node?_recordAll, hn, Option.map_some]
  refine ⟨_, rfl, ?_⟩
  obtain ⟨haddress, hport, hactive⟩ := judged_kept (reportsOn id ((targets.map (·.id)).zip
    (results.map (HealthReport.ofResult w.coordinator.settings.thresholds)))) n
  refine ⟨haddress, hport, fun hh => ?_, fun ha => Or.inl (hactive.symm.trans ha)⟩
  rcases judged_healthy hh with hbefore | ⟨hm, r, hr, hstatus⟩
  · exact Or.inl hbefore
  · obtain ⟨target, result, hmem, rfl, rfl⟩ := mem_reportsOn hr
    refine Or.inr ⟨number, target, rfl, ?_⟩
    rw [← hstatus]
    exact .given now number hmem hn hm

theorem fares_maintain {other : String} {enabled : Bool} {k : Cluster}
    (hn : w.cluster.node? id = some n) (h : w.cluster.setMaintenance other enabled = .ok k) :
    ∃ n', k.node? id = some n' ∧ Fares id w m n n' := by
  by_cases heq : id = other
  · unfold Cluster.setMaintenance at h
    split at h
    · cases h
      have hget : w.cluster.nodes.get? other = some n := heq ▸ hn
      simp only [Cluster.node?, Table.get?_modify, heq, hget, Option.map_some, if_true]
      refine ⟨_, rfl, rfl, rfl, fun hh => Or.inl ?_, Or.inl⟩
      cases enabled with
      | true => cases hh
      | false =>
        by_cases hm : n.status = .maintenance
        · simp [Node.isHealthy, hm] at hh
        · simpa [Node.isHealthy, hm] using hh
    · cases h
  · exact Fares.member hn (by rw [Cluster.node?_setMaintenance h heq])

theorem Step.fares (h : Step w m w') (hm : m.leaver? ≠ some id) (hn : w.cluster.node? id = some n) :
    ∃ n', w'.cluster.node? id = some n' ∧ Fares id w m n n' := by
  obtain ⟨k, haffects, hsame⟩ := h.affects
  rw [hsame.node?]
  cases haffects with
  | nothing => exact Fares.member hn rfl
  | round now number targets answers => exact fares_round hn now number targets answers _
  | sweep now number targets results => exact fares_sweep hn now number targets results
  | commit | promote => exact Fares.member hn (Cluster.standing_promote _ _ _)
  | rejoin => exact Fares.member hn (Cluster.standing_rejoin _ _ _ _)
  | leave hleaver hr =>
    have hne : id ≠ _ := fun heq => hm (heq ▸ hleaver)
    exact Fares.member hn (by rw [(Cluster.remove_others hr).2.2 id hne])
  | join now ho hadd =>
    have hnew := Cluster.add_new hadd
    refine Fares.member hn ((Cluster.standing_add hadd id).trans (if_neg ?_))
    rintro rfl
    rw [Cluster.contains_iff.mpr ⟨n, hn⟩] at hnew
    cases hnew
  | maintain now hset => exact fares_maintain hn hset

/-! ## A member in a run -/

/-- A member that stays is where it was, and is healthy only if it was healthy
before or a verdict has said so. -/
theorem Run.member (hrun : Run start trace w) (hkept : ∀ s ∈ trace, s.2.leaver? ≠ some id)
    (hn : start.cluster.node? id = some n) :
    ∃ n', w.cluster.node? id = some n' ∧ n'.address = n.address ∧ n'.port = n.port ∧
      (n'.isHealthy = true → n.isHealthy = true ∨
        ∃ before number target, Noted id trace before number target .healthy) := by
  induction hrun with
  | nil => exact ⟨n, hn, rfl, rfl, Or.inl⟩
  | @snoc trace w w' m _ hs ih =>
    obtain ⟨n₁, hn₁, haddress, hport, hearlier⟩ :=
      ih fun s hmem => hkept s (List.mem_append_left _ hmem)
    obtain ⟨n₂, hn₂, hfares⟩ := hs.fares (hkept (w, m) (by simp)) hn₁
    refine ⟨n₂, hn₂, hfares.address.trans haddress, hfares.port.trans hport, fun hh => ?_⟩
    rcases hfares.healthy hh with hh₁ | ⟨number, target, hid, hv⟩
    · rcases hearlier hh₁ with hh₀ | ⟨before, number, target, hid, s, after, rfl, hv⟩
      · exact Or.inl hh₀
      · exact Or.inr ⟨before, number, target, hid, s, after ++ [(w, m)], by simp, hv⟩
    · exact Or.inr ⟨trace, number, target, hid, (w, m), [], rfl, hv⟩

end Failover
