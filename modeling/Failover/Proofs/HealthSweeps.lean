import Failover.Proofs.Drills
import Failover.Proofs.Strikes

-- A sweep of the members' health that runs alone. The members that are asked are
-- taken down before the probes begin, and the reports are recorded one by one when
-- all of them have ended. Each report must still reach the member it is about, and
-- no other one.

namespace Failover

/-! ## One member -/

/-- The verdict on a member is in. What was known of its machine stays. -/
def Node.found (status : HealthStatus) (score latencyMs : Float) (n : Node) : Node :=
  { n with
    status
    score
    latencyMs
    failures := if status.isFailure then min (n.failures + 1) maxFailures else 0 }

theorem Node.isProbed_iff {n : Node} :
    n.isProbed = true ↔ (n.active = true ∨ n.primary = true) ∧ n.status ≠ .maintenance := by
  simp [isProbed]

theorem Node.judged_probed {n : Node} (h : n.isProbed = true) (r : HealthReport Float) :
    n.judged r = n.withReport r :=
  if_neg (isProbed_iff.mp h).2

section Results

variable (t : HealthThresholds Float) (n : Node) (latencyMs : Float)

theorem Node.withReport_unreachable :
    n.withReport (.ofResult t (.unreachable latencyMs)) = n.found .unhealthy 0.0 latencyMs :=
  rfl

theorem Node.withReport_broken :
    n.withReport (.ofResult t (.broken latencyMs)) = n.found .unknown 0.0 latencyMs :=
  rfl

variable {t n latencyMs} {m : ResourceMetrics Float} {s : ServiceHealth Float}

theorem Node.withReport_of_number (h : (Health.totalScore t m s latencyMs).isFinite = true) :
    n.withReport (.ofResult t (.answered m s latencyMs)) =
      { n.found (.ofScore (Health.totalScore t m s latencyMs)) (Health.totalScore t m s latencyMs)
          latencyMs with usage := m.usage } := by
  have hscalar : Scalar.isFinite (Health.totalScore t m s latencyMs) = true := h
  simp only [HealthReport.ofResult, if_pos hscalar]
  rfl

theorem Node.withReport_of_no_number (h : (Health.totalScore t m s latencyMs).isFinite = false) :
    n.withReport (.ofResult t (.answered m s latencyMs)) = n.found .unknown 0.0 latencyMs := by
  have hscalar : ¬ Scalar.isFinite (Health.totalScore t m s latencyMs) = true :=
    Bool.eq_false_iff.mp h
  simp only [HealthReport.ofResult, if_neg hscalar]
  rfl

end Results

/-- What is told of a member that was in one state and is in another now. -/
def Node.change? (before after : Node) : Option HealthChange :=
  if before.status = after.status then none
  else some { node := before.id, previous := before.status, current := after.status,
              score := after.score }

theorem Node.change?_eq_some {n m : Node} {change : HealthChange} :
    n.change? m = some change ↔
      n.status ≠ m.status ∧ change = ⟨n.id, n.status, m.status, m.score⟩ := by
  unfold Node.change?
  by_cases hsame : n.status = m.status
  · simp [hsame]
  · rw [if_neg hsame, Option.some.injEq, eq_comm]
    exact (and_iff_right hsame).symm

/-! ## All members -/

theorem Coordinator.changes_noteChanges (c : Coordinator) (changes : List HealthChange) :
    (c.noteChanges changes).changes = EventLog.lastOf changeCapacity (c.changes ++ changes) := by
  unfold noteChanges
  simp only

/-- What a sweep tells and leaves behind. -/
structure Sweep where
  changes : List HealthChange
  cluster : Cluster

namespace Cluster

/-- A sweep, from how the probe of each member ends. -/
def sweep (k : Cluster) (t : HealthThresholds Float) (results : Node → ProbeResult Float) : Sweep :=
  let reports := (k.probeTargets.map results).map (HealthReport.ofResult t)
  let recorded := k.recordAll ((k.probeTargets.map (·.id)).zip reports)
  ⟨recorded.1, recorded.2⟩

/-- The member after the sweep. -/
def afterSweep (t : HealthThresholds Float) (results : Node → ProbeResult Float) (n : Node) : Node :=
  if n.isProbed then n.withReport (.ofResult t (results n)) else n

variable {k : Cluster} {id : String} {n : Node}

theorem mem_probeTargets : n ∈ k.probeTargets ↔ n ∈ k.list ∧ n.isProbed = true :=
  List.mem_filter

theorem ids_ascend (named : ∀ id n, k.node? id = some n → n.id = id) :
    (k.list.map (·.id)).Pairwise (· < ·) := by
  rw [ids_self named, Table.names, List.pairwise_map]
  exact k.nodes.sorted

theorem targets_ascend (named : ∀ id n, k.node? id = some n → n.id = id) :
    (k.probeTargets.map (·.id)).Pairwise (· < ·) :=
  (ids_ascend named).sublist (List.filter_sublist.map _)

theorem node?_sweep (named : ∀ id n, k.node? id = some n → n.id = id) (t : HealthThresholds Float)
    (results : Node → ProbeResult Float) (id : String) :
    (k.sweep t results).cluster.node? id = (k.node? id).map (afterSweep t results) := by
  show (k.recordAll _).2.node? id = _
  rw [node?_recordAll]
  cases hn : k.node? id with
  | none => rfl
  | some n =>
    rw [Option.map_some, Option.map_some, reportsOn_targets named hn]
    unfold afterSweep
    by_cases hprobed : n.isProbed = true
    · rw [if_pos hprobed, if_pos hprobed, List.foldl_cons, List.foldl_nil, Node.judged_probed hprobed]
    · rw [if_neg hprobed, if_neg hprobed, List.foldl_nil]

theorem names_sweep (named : ∀ id n, k.node? id = some n → n.id = id) (t : HealthThresholds Float)
    (results : Node → ProbeResult Float) :
    (k.sweep t results).cluster.nodes.names = k.nodes.names := by
  have hnodes : (k.sweep t results).cluster.nodes = k.nodes.map fun _ n => afterSweep t results n := by
    refine Table.eq_of_get? fun id => ?_
    rw [Table.get?_map]
    exact node?_sweep named t results id
  rw [hnodes, Table.names_map]

/-- The first report changes its own member, and the others are recorded on what
they were made of. -/
theorem changes_recordAll (report : Node → HealthReport Float) {targets : List Node}
    (hnodup : (targets.map (·.id)).Nodup)
    (hmembers : ∀ n ∈ targets, k.node? n.id = some n ∧ n.isProbed = true) :
    (k.recordAll (targets.map fun n => (n.id, report n))).1 =
      targets.filterMap fun n => n.change? (n.withReport (report n)) := by
  induction targets generalizing k with
  | nil => rfl
  | cons n rest ih =>
    obtain ⟨hnew, hnodup⟩ := List.nodup_cons.mp hnodup
    obtain ⟨hn, hprobed⟩ := hmembers n (List.mem_cons_self ..)
    have hrest : ∀ m ∈ rest, (k.record n.id (report n)).2.node? m.id = some m ∧ m.isProbed = true := by
      intro m hm
      obtain ⟨hmember, hprobed⟩ := hmembers m (List.mem_cons_of_mem _ hm)
      have hother : m.id ≠ n.id := fun heq => hnew (List.mem_map.mpr ⟨m, hm, heq⟩)
      rw [node?_record, hmember, Option.map_some, if_neg hother]
      exact ⟨rfl, hprobed⟩
    have hfirst : (k.record n.id (report n)).1 = n.change? (n.withReport (report n)) := by
      have hopen : ¬ n.status = .maintenance := (Node.isProbed_iff.mp hprobed).2
      unfold record Node.change?
      rw [hn]
      simp only [beq_iff_eq, if_neg hopen]
      rfl
    have hstep : (k.recordAll ((n :: rest).map fun n => (n.id, report n))).1 =
        (k.record n.id (report n)).1.toList ++
          ((k.record n.id (report n)).2.recordAll (rest.map fun n => (n.id, report n))).1 := rfl
    rw [hstep, ih hnodup hrest, hfirst]
    cases hchange : n.change? (n.withReport (report n)) <;> simp [hchange]

theorem changes_sweep (named : ∀ id n, k.node? id = some n → n.id = id) (t : HealthThresholds Float)
    (results : Node → ProbeResult Float) :
    (k.sweep t results).changes =
      k.list.filterMap fun n => n.change? (afterSweep t results n) := by
  have hmembers : ∀ n ∈ k.probeTargets, k.node? n.id = some n ∧ n.isProbed = true := by
    intro n hn
    obtain ⟨hlist, hprobed⟩ := mem_probeTargets.mp hn
    exact ⟨node?_self named hlist, hprobed⟩
  have hnodup : (k.probeTargets.map (·.id)).Nodup := by
    refine (targets_ascend named).imp ?_
    rintro a _ hlt rfl
    exact String.lt_irrefl a hlt
  show (k.recordAll _).1 = _
  rw [List.map_map, List.zip_map']
  refine (changes_recordAll (fun n => .ofResult t (results n)) hnodup hmembers).trans ?_
  unfold probeTargets
  rw [List.filterMap_filter]
  refine List.filterMap_congr fun n _ => ?_
  unfold afterSweep
  by_cases hprobed : n.isProbed = true
  · rw [if_pos hprobed, if_pos hprobed]
  · rw [if_neg hprobed, if_neg hprobed]
    exact (if_pos rfl).symm

/-- The changes are the members that stand differently. -/
theorem mem_changes (named : ∀ id n, k.node? id = some n → n.id = id) (t : HealthThresholds Float)
    (results : Node → ProbeResult Float) (change : HealthChange) :
    change ∈ (k.sweep t results).changes ↔
      ∃ n m, k.node? change.node = some n ∧
        (k.sweep t results).cluster.node? change.node = some m ∧ n.status ≠ m.status ∧
        change.previous = n.status ∧ change.current = m.status ∧ change.score = m.score := by
  rw [changes_sweep named, List.mem_filterMap]
  constructor
  · rintro ⟨n, hn, hchange⟩
    obtain ⟨hdiffers, rfl⟩ := Node.change?_eq_some.mp hchange
    have hmember := node?_self named hn
    refine ⟨n, _, hmember, ?_, hdiffers, rfl, rfl, rfl⟩
    rw [node?_sweep named, hmember, Option.map_some]
  · rintro ⟨n, m, hn, hm, hdiffers, hprevious, hcurrent, hscore⟩
    rw [node?_sweep named, hn, Option.map_some, Option.some.injEq] at hm
    refine ⟨n, mem_list.mpr ⟨_, hn⟩, Node.change?_eq_some.mpr ?_⟩
    rw [hm, named _ n hn, ← hprevious, ← hcurrent, ← hscore]
    exact ⟨by rw [hprevious, hcurrent]; exact hdiffers, rfl⟩

theorem changes_ascend (named : ∀ id n, k.node? id = some n → n.id = id) (t : HealthThresholds Float)
    (results : Node → ProbeResult Float) :
    ((k.sweep t results).changes.map (·.node)).Pairwise (· < ·) := by
  rw [changes_sweep named, List.pairwise_map]
  refine (List.pairwise_map.mp (ids_ascend named)).filterMap _ fun n m hlt c hc d hd => ?_
  rw [(Node.change?_eq_some.mp hc).2, (Node.change?_eq_some.mp hd).2]
  exact hlt

end Cluster

/-! ## A sweep in a drill -/

namespace Drill

open Process (Comes)

/-- The probes of a sweep, with those who were asked. -/
def probes (run : Runner) : Play (List Node × List (ProbeResult Float)) := do
  let targets ← .view fun _ w => w.coordinator.cluster.probeTargets
  let timeout ← connectTimeout
  let results ← Process.all (targets.map (probe run timeout))
  return (targets, results)

/-- The reports of a sweep are recorded. -/
def World.swept (targets : List Node) (results : List (ProbeResult Float)) (w : World) :
    Result × World :=
  let reports := results.map (HealthReport.ofResult w.coordinator.settings.thresholds)
  let (changes, cluster) := w.coordinator.cluster.recordAll ((targets.map (·.id)).zip reports)
  (.changes changes, (w.setCluster cluster).noteOwn changes)

theorem sweep_eq (run : Runner) :
    sweep run = (probes run).andThen fun asked => atOnce fun _ w => w.swept asked.1 asked.2 := by
  have hall (targets : List Node) (timeout : Nat) := Process.andThen_assoc
    (Process.all (targets.map (probe run timeout))) (fun results => .done (targets, results))
    fun asked => atOnce fun _ w => w.swept asked.1 asked.2
  simp only [probes, Bind.bind, Process.andThen, Process.view, connectTimeout, Pure.pure, hall]
  rfl

/-- While the members of a sweep are probed, the world stays as it is, and all that is
logged is who was called. -/
def Calling (w : World) (asked : List Node) (w' : World) : Prop :=
  ∃ entries, w' = { w with entries } ∧
    ∀ e ∈ entries, e ∈ w.entries ∨ ∃ n ∈ asked, e = .line ("connect " ++ n.endpoint)

theorem Calling.refl (w : World) (asked : List Node) : Calling w asked w :=
  ⟨w.entries, rfl, fun _ he => .inl he⟩

theorem Calling.note {w w' : World} {asked : List Node} {n : Node} (h : Calling w asked w')
    (hn : n ∈ asked) : Calling w asked (w'.note (.line ("connect " ++ n.endpoint))) := by
  obtain ⟨entries, rfl, hentries⟩ := h
  refine ⟨_, rfl, fun e he => ?_⟩
  rcases List.mem_cons.mp he with rfl | he
  · exact .inr ⟨n, hn, rfl⟩
  · exact hentries e he

/-- The hosts of the members that a sweep asks answer, fail and take their time as they
like, but nothing else begins there, and this is how the probes end. -/
def Answering (w : World) (results : Node → ProbeResult Float) : Prop :=
  ∀ n ∈ w.coordinator.cluster.probeTargets, (w.host n.address).onConnect = [] ∧
    (w.host n.address).probed w.coordinator.settings.connectTimeoutMs = results n

/-- The time at which the last probe of a sweep ends. -/
def World.sweepEnd (w : World) (now : Nat) : Nat :=
  Process.latest now (w.coordinator.cluster.probeTargets.map fun n =>
    now + (w.host n.address).probeSpan w.coordinator.settings.connectTimeoutMs)

variable {w : World} {results : Node → ProbeResult Float}

theorem comes_probes (run : Runner) (hrun : run [] = .done ()) (now : Nat)
    (hhosts : Answering w results) :
    let targets := w.coordinator.cluster.probeTargets
    Comes (Calling w targets) now (probes run) (w.sweepEnd now) (targets, targets.map results) := by
  intro targets
  let timeout := w.coordinator.settings.connectTimeoutMs
  have hall : Comes (Calling w targets) now (Process.all (targets.map (probe run timeout)))
      (w.sweepEnd now) (targets.map results) := by
    refine .all fun n hn => ?_
    obtain ⟨hquiet, hprobed⟩ := hhosts n hn
    rw [← hprobed]
    refine takes_probe ?_ ?_ timeout fun w' hw' => hw'.note hn
    · rintro _ ⟨entries, rfl, _⟩
      rfl
    · rw [hquiet, hrun]
      exact .done now ()
  have hasked : ∀ w', Calling w targets w' →
      w'.coordinator.cluster.probeTargets = targets ∧ Calling w targets w' := by
    rintro _ ⟨entries, rfl, hentries⟩
    exact ⟨rfl, entries, rfl, hentries⟩
  have htimeout : ∀ w', Calling w targets w' →
      w'.coordinator.settings.connectTimeoutMs = timeout ∧ Calling w targets w' := by
    rintro _ ⟨entries, rfl, hentries⟩
    exact ⟨rfl, entries, rfl, hentries⟩
  exact .act hasked (.act htimeout (hall.andThen (.done _ _)))

theorem Run.finish_sweep (now number : Nat) (hoff : w.loops = .off)
    (hhosts : Answering w results) :
    let k := w.coordinator.cluster
    let r := k.sweep w.coordinator.settings.thresholds results
    ∃ steps w', Calling w k.probeTargets w' ∧ ∀ fuel ≥ steps,
      (finish fuel (alone now number w (playAll [.sweep]))).world =
        ((w'.setCluster r.cluster).noteOwn r.changes).closeFrame (w.sweepEnd now)
          (.changes r.changes) := by
  intro k r
  have hloops (w') (hw' : Calling w k.probeTargets w') : w'.loops = .off := by
    obtain ⟨_, rfl, _⟩ := hw'
    exact hoff
  have hstep : runStep scriptDepth .sweep = _ := sweep_eq (inPlace (runStep (scriptDepth - 1)))
  have hcomes := comes_probes (inPlace (runStep (scriptDepth - 1))) rfl now hhosts
  obtain ⟨steps, w', hw', hrun⟩ := finish_step number hloops hstep hloops rfl hcomes
    (Calling.refl w _)
  refine ⟨steps, w', hw', fun fuel hfuel => (hrun fuel hfuel).trans ?_⟩
  obtain ⟨entries, rfl, _⟩ := hw'
  rfl

end Drill

/-- A sweep that runs alone, from how the probe of each member ends. It asks the
members that are active or the primary, but none in maintenance, each once and in
the order of their ids. A member that is not asked stays as it is, and of one that
is asked nothing changes but its status, its score, its latency, its count of
failures and, if it has answered, what is known of its machine. This depends on its
own probe alone: one that cannot be reached is unhealthy, nothing is known of one
that breaks off or whose answers make no number, and every other one has the score
of its answers. The changes that are told are the members whose status is another
than before, in the order of their ids, and those who listen are told the same.
Among hosts that answer, fail and take their time as they like, the sweep ends with
the last probe and leaves nothing else changed. No one is called but those it asks, and
each probe ends as it would end by itself. -/
theorem a_sweep_judges_each_member_by_its_own_probe (k : Cluster)
    (named : ∀ id n, k.node? id = some n → n.id = id) (t : HealthThresholds Float)
    (results : Node → ProbeResult Float) :
    let r := k.sweep t results
    ((∀ id n, k.node? id = some n →
        (n ∈ k.probeTargets ↔ (n.active = true ∨ n.primary = true) ∧ n.status ≠ .maintenance)) ∧
      (k.probeTargets.map (·.id)).Pairwise (· < ·)) ∧
    (r.cluster.nodes.names = k.nodes.names ∧ k.SameParts r.cluster) ∧
    (∀ id n, k.node? id = some n →
      (n ∉ k.probeTargets → r.cluster.node? id = some n) ∧
      (n ∈ k.probeTargets →
        (∀ latency, results n = .unreachable latency →
          r.cluster.node? id = some (n.found .unhealthy 0.0 latency)) ∧
        (∀ latency, results n = .broken latency →
          r.cluster.node? id = some (n.found .unknown 0.0 latency)) ∧
        ∀ m s latency, results n = .answered m s latency →
          let score := Health.totalScore t m s latency
          (score.isFinite = false → r.cluster.node? id = some (n.found .unknown 0.0 latency)) ∧
          (score.isFinite = true → r.cluster.node? id =
            some { n.found (.ofScore score) score latency with usage := m.usage })) ∧
      ∀ results' : Node → ProbeResult Float, results' n = results n →
        (k.sweep t results').cluster.node? id = r.cluster.node? id) ∧
    ((∀ change, change ∈ r.changes ↔
        ∃ n m, k.node? change.node = some n ∧ r.cluster.node? change.node = some m ∧
          n.status ≠ m.status ∧ change.previous = n.status ∧ change.current = m.status ∧
          change.score = m.score) ∧
      (r.changes.map (·.node)).Pairwise (· < ·)) ∧
    (∀ (c : Coordinator) (now : Moment), c.cluster = k → c.settings.thresholds = t →
      let swept := { c with cluster := r.cluster }.noteChanges r.changes
      Coordinator.firstSection now .healthSweep c = (c, .waits (.probing k.probeTargets)) ∧
      Coordinator.nextSection now (.probing k.probeTargets) (k.probeTargets.map results) c =
        Coordinator.evaluate now swept ∧
      swept.changes = EventLog.lastOf Coordinator.changeCapacity (c.changes ++ r.changes)) ∧
    ∀ (w : Drill.World) (now number : Nat), w.coordinator.cluster = k →
      w.coordinator.settings.thresholds = t → w.loops = .off → Drill.Answering w results →
      ∃ steps w', Drill.Calling w k.probeTargets w' ∧ ∀ fuel ≥ steps,
        (Drill.Run.finish fuel (.alone now number w (Drill.playAll [.sweep]))).world =
          ((w'.setCluster r.cluster).noteOwn r.changes).closeFrame (w.sweepEnd now)
            (.changes r.changes) := by
  intro r
  refine ⟨⟨fun id n hn => ?_, Cluster.targets_ascend named⟩,
    ⟨Cluster.names_sweep named t results, k.sameParts_recordAll _⟩, fun id n hn => ?_,
    ⟨Cluster.mem_changes named t results, Cluster.changes_ascend named t results⟩, ?_, ?_⟩
  · rw [Cluster.mem_probeTargets, Node.isProbed_iff]
    exact and_iff_right (Cluster.mem_list.mpr ⟨id, hn⟩)
  · have hafter := Cluster.node?_sweep named t results id
    rw [hn, Option.map_some] at hafter
    refine ⟨fun hspared => ?_, fun hasked => ?_, fun results' hsame => ?_⟩
    · have hnot : ¬ n.isProbed = true := fun hprobed =>
        hspared (Cluster.mem_probeTargets.mpr ⟨Cluster.mem_list.mpr ⟨id, hn⟩, hprobed⟩)
      rw [hafter, Cluster.afterSweep, if_neg hnot]
    · rw [Cluster.afterSweep, if_pos (Cluster.mem_probeTargets.mp hasked).2] at hafter
      refine ⟨fun latency hend => ?_, fun latency hend => ?_, fun m s latency hend => ?_⟩
      · rw [hafter, hend, Node.withReport_unreachable]
      · rw [hafter, hend, Node.withReport_broken]
      · rw [hend] at hafter
        refine ⟨fun hnumber => ?_, fun hnumber => ?_⟩
        · rw [hafter, Node.withReport_of_no_number hnumber]
        · rw [hafter, Node.withReport_of_number hnumber]
    · rw [Cluster.node?_sweep named t results' id, hn, Option.map_some, hafter, Cluster.afterSweep,
        Cluster.afterSweep, hsame]
  · rintro c now rfl rfl
    refine ⟨rfl, ?_, ?_⟩
    · unfold Coordinator.nextSection Coordinator.afterProbes
      rfl
    · exact Coordinator.changes_noteChanges _ _
  · rintro w now number rfl rfl hoff hhosts
    exact Drill.Run.finish_sweep now number hoff hhosts

/-- Two nodes that have joined, each on a host of its own. -/
def scattered : List Cue :=
  let now := ⟨0, false⟩
  [ .order now (.register { Node.well "a" .primary with address := "far" })
  , .order now (.register { Node.well "b" .secondary with address := "near" }) ]

/-- One host takes too long to be reached, and the other one does not say how it is. -/
def Drill.World.troubled (c : Coordinator) : World where
  epoch := ⟨0, false⟩
  coordinator := c
  hosts := Table.ofList
    [ ("far", { Host.standard with connectDelay := 6000 })
    , ("near", { Host.standard with metricsDelay := 20, metrics := .error "closed" }) ]
  observers := []
  ownChanges := []
  loops := .off
  entries := []
  seen := 0
  frames := []

/-- The sweep ends when the primary has not been reached in time, and the other node
has broken off long before. -/
theorem a_sweep_judges_each_member_by_its_own_probe_when_none_answers :
    ∃ (trace : List (System × Move)) (v : System) (w : Drill.World)
      (results : Node → ProbeResult Float), History trace v ∧ w.coordinator = v.coordinator ∧
      Drill.Answering w results ∧ w.sweepEnd 0 = 5000 ∧
      let r := v.cluster.sweep v.coordinator.settings.thresholds results
      (v.cluster.probeTargets.map (·.id)).Pairwise (· < ·) ∧
      (r.cluster.node? "a").map (·.status) = some .unhealthy ∧
      (r.cluster.node? "b").map (·.status) = some .unknown ∧
      ∃ steps w', Drill.Calling w v.cluster.probeTargets w' ∧ ∀ fuel ≥ steps,
        (Drill.Run.finish fuel (.alone 0 0 w (Drill.playAll [.sweep]))).world =
          ((w'.setCluster r.cluster).noteOwn r.changes).closeFrame (w.sweepEnd 0)
            (.changes r.changes) := by
  obtain ⟨trace, h, _⟩ := System.play_history Coordinator.fresh_standard calm scattered
  let v := System.play calm (.initial .standard) scattered
  let w := Drill.World.troubled v.coordinator
  let results : Node → ProbeResult Float := fun n => (w.host n.address).probed 5000
  obtain ⟨⟨hasked, hascend⟩, _, hmembers, _, _, hdrill⟩ :=
    a_sweep_judges_each_member_by_its_own_probe v.cluster h.onePrimary.named
      v.coordinator.settings.thresholds results
  have hhosts : Drill.Answering w results := by
    intro n hn
    have haddress : n.address ∈ w.coordinator.cluster.probeTargets.map (·.address) :=
      List.mem_map_of_mem hn
    have hboth : w.coordinator.cluster.probeTargets.map (·.address) = ["far", "near"] := rfl
    rw [hboth, List.mem_pair] at haddress
    refine ⟨?_, rfl⟩
    rcases haddress with h | h <;> rw [h] <;> rfl
  obtain ⟨_, ha, _⟩ := hmembers "a" _ rfl
  obtain ⟨_, hb, _⟩ := hmembers "b" _ rfl
  have ha := (ha ((hasked "a" _ rfl).mpr (by decide))).1 _ rfl
  have hb := (hb ((hasked "b" _ rfl).mpr (by decide))).2.1 _ rfl
  refine ⟨trace, v, w, results, h, rfl, hhosts, rfl, hascend, ?_, ?_, hdrill w 0 0 rfl rfl rfl hhosts⟩
  · rw [ha]
    rfl
  · rw [hb]
    rfl

end Failover
