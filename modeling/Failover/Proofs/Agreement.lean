import Failover.Proofs.FailureCounts
import Failover.Proofs.Floats
import Failover.Proofs.Verdicts

-- The status of a member and its score are two fields, written in three places: a
-- report brings both, a silence resets both, and maintenance touches the status
-- alone, but only to set one that goes with every score. A node that is registered
-- as it is may come with two that contradict each other, so this is a law of the
-- nodes that join by asking to.

namespace Failover

/-! ## Scores and what they stand for -/

/-- The score is a number of the unit interval, and the status, where it is a
verdict, is the one that this number stands for. -/
structure HealthStatus.Agrees (status : HealthStatus) (score : Float) : Prop where
  finite : score.isFinite = true
  nonneg : 0.0 ≤ score
  le_one : score ≤ 1.0
  healthy : status = .healthy → 0.8 ≤ score
  degraded : status = .degraded → 0.6 ≤ score ∧ score < 0.8
  unhealthy : status = .unhealthy → score < 0.6

namespace HealthStatus

variable {status status' : HealthStatus} {score : Float}

/-- Zero goes with every status but the two better ones. -/
theorem agrees_zero (hhealthy : status ≠ .healthy) (hdegraded : status ≠ .degraded) :
    status.Agrees 0.0 where
  finite := by decide
  nonneg := by decide
  le_one := by decide
  healthy h := absurd h hhealthy
  degraded h := absurd h hdegraded
  unhealthy _ := by decide

/-- A status that is no verdict goes with every score that another went with. -/
theorem Agrees.withdrawn (h : status.Agrees score)
    (hnone : status' = .unknown ∨ status' = .maintenance) : status'.Agrees score where
  finite := h.finite
  nonneg := h.nonneg
  le_one := h.le_one
  healthy hs := by rcases hnone with rfl | rfl <;> cases hs
  degraded hs := by rcases hnone with rfl | rfl <;> cases hs
  unhealthy hs := by rcases hnone with rfl | rfl <;> cases hs

theorem ofScore_float (score : Float) :
    ofScore score =
      if 0.8 ≤ score then healthy else if 0.6 ≤ score then degraded else unhealthy :=
  rfl

/-- A bound that is not reached is missed from below, as the score is a number. -/
theorem agrees_ofScore (hfinite : score.isFinite = true) (hnonneg : 0.0 ≤ score)
    (hle : score ≤ 1.0) : (ofScore score).Agrees score := by
  have hnumber := isNaN_of_isFinite hfinite
  rw [ofScore_float]
  split
  · rename_i hgood
    exact ⟨hfinite, hnonneg, hle, fun _ => hgood, nofun, nofun⟩
  · rename_i hnotgood
    have hless : score < 0.8 := (float_not_le_iff rfl hnumber).mp hnotgood
    split
    · rename_i hfair
      exact ⟨hfinite, hnonneg, hle, nofun, fun _ => ⟨hfair, hless⟩, nofun⟩
    · rename_i hnotfair
      have hpoor : score < 0.6 := (float_not_le_iff rfl hnumber).mp hnotfair
      exact ⟨hfinite, hnonneg, hle, nofun, nofun, fun _ => hpoor⟩

end HealthStatus

/-- What is cut to the unit interval lies in it, unless it is no number. -/
theorem Scalar.clampUnit_float {x : Float} (h : (clampUnit x).isFinite = true) :
    0.0 ≤ clampUnit x ∧ clampUnit x ≤ 1.0 := by
  revert h
  unfold clampUnit
  split
  · exact fun _ => by decide
  · rename_i hnonneg
    split
    · exact fun _ => by decide
    · rename_i hle
      intro hfinite
      have hnumber := isNaN_of_isFinite hfinite
      refine ⟨(float_not_lt_zero_iff hfinite).mp hnonneg, ?_⟩
      by_contra hgreater
      exact hle ((float_not_le_iff hnumber rfl).mp hgreater)

/-- Whatever a probe comes to, its report does not contradict itself. -/
theorem HealthReport.agrees (t : HealthThresholds Float) (r : ProbeResult Float) :
    (ofResult t r).status.Agrees (ofResult t r).score := by
  cases r with
  | unreachable | broken => exact HealthStatus.agrees_zero nofun nofun
  | answered m s latencyMs =>
    unfold ofResult
    dsimp only
    split
    · rename_i hfinite
      obtain ⟨hnonneg, hle⟩ := Scalar.clampUnit_float hfinite
      exact HealthStatus.agrees_ofScore hfinite hnonneg hle
    · exact HealthStatus.agrees_zero nofun nofun

/-! ## One member -/

/-- The two fields in question. -/
def Node.health (n : Node) : HealthStatus × Float := (n.status, n.score)

theorem Node.partless_health : Node.Partless Node.health := fun _ _ _ _ => rfl

/-- The status of a member and its score agree. -/
def Node.Consistent (n : Node) : Prop := n.status.Agrees n.score

namespace Node

variable {n n' : Node}

theorem Consistent.of_health (h : n.Consistent) (heq : n'.health = n.health) : n'.Consistent := by
  obtain ⟨hstatus, hscore⟩ := Prod.mk.inj heq
  unfold Consistent
  rw [hstatus, hscore]
  exact h

theorem consistent_timedOut (n : Node) : n.timedOut.Consistent :=
  HealthStatus.agrees_zero nofun nofun

theorem consistent_toNode (spec : NodeSpec) (now : Moment) : (spec.toNode now).Consistent :=
  HealthStatus.agrees_zero nofun nofun

theorem Consistent.judged (h : n.Consistent) {reports : List (HealthReport Float)}
    (hreports : ∀ r ∈ reports, r.status.Agrees r.score) :
    (reports.foldl Node.judged n).Consistent := by
  induction reports generalizing n with
  | nil => exact h
  | cons r rest ih =>
    refine ih ?_ fun x hx => hreports x (List.mem_cons_of_mem _ hx)
    unfold Node.judged
    split
    · exact h
    · exact hreports r List.mem_cons_self

end Node

namespace Cluster

variable {k k' k'' : Cluster} {id : String}

/-- The member under this id, if there is one, was there before, and is
consistent if it was. -/
def Upholds (id : String) (k k' : Cluster) : Prop :=
  ∀ n', k'.node? id = some n' → ∃ n, k.node? id = some n ∧ (n.Consistent → n'.Consistent)

theorem Upholds.trans (h : Upholds id k k') (h' : Upholds id k' k'') : Upholds id k k'' := by
  intro n'' hn''
  obtain ⟨n', hn', hkept'⟩ := h' n'' hn''
  obtain ⟨n, hn, hkept⟩ := h n' hn'
  exact ⟨n, hn, fun hc => hkept' (hkept hc)⟩

theorem upholds_of_map {f : Node → Node} (h : k'.node? id = (k.node? id).map f)
    (hf : ∀ n, n.Consistent → (f n).Consistent) : Upholds id k k' := by
  intro n' hn'
  rw [h] at hn'
  obtain ⟨n, hn, rfl⟩ := Option.map_eq_some_iff.mp hn'
  exact ⟨n, hn, hf n⟩

theorem upholds_of_health (h : (k'.node? id).map Node.health = (k.node? id).map Node.health) :
    Upholds id k k' := by
  intro n' hn'
  rw [hn', Option.map_some] at h
  obtain ⟨n, hn, heq⟩ := Option.map_eq_some_iff.mp h.symm
  exact ⟨n, hn, fun hc => hc.of_health heq.symm⟩

theorem upholds_of_eq (h : k'.node? id = k.node? id) : Upholds id k k' :=
  upholds_of_health (congrArg _ h)

/-- Who is found silent loses status and score together. -/
theorem upholds_round (k : Cluster) (now : Moment) (answers : List (String × Bool)) (limit : Span)
    (id : String) : Upholds id k ((k.recordPings now answers).2.scanTimeouts limit now) := by
  have hpings : Upholds id k (k.recordPings now answers).2 := by
    refine upholds_of_map (node?_recordPings k now answers id) fun n hc => ?_
    split
    · exact hc
    · exact hc
  refine hpings.trans (upholds_of_map (node?_scanTimeouts _ limit now id) fun n hc => ?_)
  split
  · exact n.consistent_timedOut
  · exact hc

theorem upholds_sweep (k : Cluster) (t : HealthThresholds Float) (targets : List Node)
    (results : List (ProbeResult Float)) (id : String) :
    Upholds id k (k.recordAll ((targets.map (·.id)).zip
      (results.map (HealthReport.ofResult t)))).2 := by
  refine upholds_of_map (node?_recordAll k _ id) fun n hc => hc.judged fun r hr => ?_
  obtain ⟨_, result, _, _, rfl⟩ := mem_reportsOn hr
  exact HealthReport.agrees t result

theorem upholds_setMaintenance {other : String} {enabled : Bool}
    (h : k.setMaintenance other enabled = .ok k') : Upholds id k k' := by
  by_cases heq : id = other
  · unfold setMaintenance at h
    split at h
    · cases h
      refine upholds_of_map (Table.get?_modify _ _ _ _) fun n hc => ?_
      rw [if_pos heq]
      unfold Node.Consistent
      dsimp only
      split
      · exact hc.withdrawn (Or.inr rfl)
      · split
        · exact hc.withdrawn (Or.inl rfl)
        · exact hc
    · cases h
  · exact upholds_of_eq (node?_setMaintenance h heq)

theorem upholds_remove {other : String} {r : Removal} (h : k.remove other = .ok (r, k')) :
    Upholds id k k' := by
  by_cases heq : id = other
  · intro n' hn'
    rw [heq, remove_gone h] at hn'
    cases hn'
  · exact upholds_of_eq ((remove_others h).2.2 id heq)

end Cluster

/-! ## One step -/

variable {trace : List (System × Move)} {start w w' : System} {m : Move} {id : String}

/-- The move lets this node join under an id that nobody has. -/
structure Joins (w : System) (m : Move) (n : Node) : Prop where
  order : ∃ now o, m = .order now o ∧ o.newcomer? now = some n
  new : w.cluster.contains n.id = false

/-- Whoever is a member after a step was one before, and has become no less
consistent, or has joined with it. -/
theorem Step.upholds_or_joins (h : Step w m w') {n' : Node} (hn' : w'.cluster.node? id = some n') :
    (∃ n, w.cluster.node? id = some n ∧ (n.Consistent → n'.Consistent)) ∨
      ∃ n, Joins w m n ∧ n.id = id ∧ n'.health = n.health := by
  obtain ⟨k, haffects, hsame⟩ := h.affects
  rw [hsame.node?] at hn'
  cases haffects with
  | nothing => exact Or.inl ⟨n', hn', fun hc => hc⟩
  | round now number targets answers =>
    exact Or.inl (Cluster.upholds_round _ now _ _ id n' hn')
  -- a target may have left and joined anew since: whoever it is, a report brings both
  | sweep now number targets results =>
    exact Or.inl (Cluster.upholds_sweep _ _ targets results id n' hn')
  | commit | promote =>
    refine Or.inl (Cluster.upholds_of_health ?_ n' hn')
    exact Cluster.view_promote Node.partless_health _ _ _
  | rejoin =>
    refine Or.inl (Cluster.upholds_of_health ?_ n' hn')
    exact Cluster.view_rejoin Node.partless_health _ _ _ _
  | leave _ hr => exact Or.inl (Cluster.upholds_remove hr n' hn')
  | @join now o n k' ho hadd =>
    have hhealth := Cluster.view_add Node.partless_health hadd id
    by_cases heq : id = n.id
    · rw [if_pos heq, hn', Option.map_some, Option.some.injEq] at hhealth
      exact Or.inr ⟨n, ⟨⟨now, o, rfl, ho⟩, Cluster.add_new hadd⟩, heq.symm, hhealth⟩
    · rw [if_neg heq] at hhealth
      exact Or.inl (Cluster.upholds_of_health hhealth n' hn')
  | maintain now hset => exact Or.inl (Cluster.upholds_setMaintenance hset n' hn')

/-- There is a member of this id, and its status and score agree. -/
def Cluster.Consistent (k : Cluster) (id : String) : Prop :=
  ∃ n, k.node? id = some n ∧ n.Consistent

/-- A consistent member that does not leave stays consistent, whatever the step is
and whatever is in flight. -/
theorem Step.consistent (h : Step w m w') (hm : m.leaver? ≠ some id)
    (hw : w.cluster.Consistent id) : w'.cluster.Consistent id := by
  obtain ⟨n, hn, hc⟩ := hw
  obtain ⟨n', hn', _⟩ := h.fares hm hn
  refine ⟨n', hn', ?_⟩
  rcases h.upholds_or_joins hn' with ⟨n₁, hn₁, hkept⟩ | ⟨n₁, hjoins, hid, _⟩
  · rw [hn] at hn₁
    cases hn₁
    exact hkept hc
  · have hnew := hjoins.new
    rw [hid, Cluster.contains_iff.mpr ⟨n, hn⟩] at hnew
    cases hnew

/-- A request to join that is granted brings a consistent member. -/
theorem Step.consistent_join {now : Moment} {spec : NodeSpec}
    (h : Step w (.order now (.join spec)) w') (hnew : w.cluster.contains spec.id = false) :
    w'.cluster.Consistent spec.id := by
  obtain rfl : w' = w.obey now (.join spec) := by
    cases h
    rfl
  obtain ⟨n', hn', _⟩ := w.obey_join now hnew
  refine ⟨n', hn', ?_⟩
  rcases h.upholds_or_joins hn' with ⟨n, hn, _⟩ | ⟨n, hjoins, _, hhealth⟩
  · rw [Cluster.contains_iff.mpr ⟨n, hn⟩] at hnew
    cases hnew
  · obtain ⟨_, _, heq, ho⟩ := hjoins.order
    cases heq
    cases ho
    exact (Node.consistent_toNode spec now).of_health hhealth

/-- Unless a node is registered as it is, no member becomes inconsistent. -/
theorem Step.consistent_members (h : Step w m w') (hspec : m.registers = false)
    (hw : ∀ id n, w.cluster.node? id = some n → n.Consistent) :
    ∀ id n, w'.cluster.node? id = some n → n.Consistent := by
  intro id n' hn'
  rcases h.upholds_or_joins hn' with ⟨n, hn, hkept⟩ | ⟨n, hjoins, _, hhealth⟩
  · exact hkept (hw id n hn)
  · obtain ⟨now, o, rfl, ho⟩ := hjoins.order
    cases o with
    | join spec =>
      cases ho
      exact (Node.consistent_toNode spec now).of_health hhealth
    | register => cases hspec
    | unregister | maintenance | observe => cases ho

/-! ## Runs -/

theorem Run.consistent (hrun : Run start trace w) (hkept : ∀ s ∈ trace, s.2.leaver? ≠ some id)
    (hstart : start.cluster.Consistent id) : w.cluster.Consistent id := by
  induction hrun with
  | nil => exact hstart
  | @snoc trace w w' m _ hs ih =>
    have hearlier := ih fun s hmem => hkept s (List.mem_append_left _ hmem)
    exact hs.consistent (hkept (w, m) (by simp)) hearlier

/-- The node has joined by asking to, and has not left since. -/
def JoinedByRequest (id : String) (trace : List (System × Move)) : Prop :=
  ∃ before w now spec after, trace = before ++ (w, .order now (.join spec)) :: after ∧
    spec.id = id ∧ w.cluster.contains id = false ∧ ∀ s ∈ after, s.2.leaver? ≠ some id

theorem History.consistent (h : History trace w) (hjoined : JoinedByRequest id trace) :
    w.cluster.Consistent id := by
  obtain ⟨c, _, hrun⟩ := h
  obtain ⟨before, w₀, now, spec, after, rfl, rfl, hnew, hkept⟩ := hjoined
  obtain ⟨_, w₁, hjoin, hafter⟩ := hrun.split
  exact hafter.consistent hkept (hjoin.consistent_join hnew)

theorem History.consistent_members (h : History trace w) (hspec : BySpec trace) :
    ∀ id n, w.cluster.node? id = some n → n.Consistent := by
  obtain ⟨c, hc, hrun⟩ := h
  induction hrun with
  | nil =>
    intro id n hn
    simp [System.initial, System.cluster, hc.blank.1, Cluster.node?, Cluster.empty] at hn
  | @snoc trace w w' m _ hs ih =>
    have hlast : m.registers = false := hspec (w, m) (by simp)
    exact hs.consistent_members hlast (ih fun s hmem => hspec s (List.mem_append_left _ hmem))

/-- However operations overlap: as long as a node that has joined by asking to does
not leave, it is a member whose score is a number from zero to one, and which is
healthy, degraded or unhealthy only where its score says so. If everybody joins that
way, this holds of every member. -/
theorem a_verdict_never_contradicts_the_score (h : History trace w) :
    (∀ id, JoinedByRequest id trace →
      ∃ n, w.cluster.node? id = some n ∧ n.status.Agrees n.score) ∧
    (BySpec trace → ∀ n ∈ w.cluster.list, n.status.Agrees n.score) := by
  refine ⟨fun id hjoined => h.consistent hjoined, fun hspec n hn => ?_⟩
  obtain ⟨id, hid⟩ := Cluster.mem_list.mp hn
  exact h.consistent_members hspec id n hid

/-- A node that shows poor figures is put into maintenance. Then the primary falls
silent, and a failover gives its part to the third node. -/
def struggling : List Cue :=
  let now := ⟨0, false⟩
  let late := Moment.ofMillis 100000
  [ .order now (.join { NodeSpec.blank with id := "q" })
  , .order now (.join { NodeSpec.blank with id := "p", role := .primary })
  , .order now (.join { NodeSpec.blank with id := "s" })
  , .start now .healthSweep, .resume now 0
  , .order now (.maintenance "q" true)
  , .start late .heartbeatRound, .resume late 0, .resume late 0, .resume late 0 ]

/-- The primary hears no ping, and the node `q` is under load and runs half of its
services. -/
def unevenly : (a : Activity) → a.Reply
  | .pinging targets => targets.map (·.id != "p")
  | .probing targets => targets.map fun n =>
    if n.id = "q" then .answered ⟨95.0, 95.0, 95.0, 0.0⟩ ⟨1, 2, 0.0, 0.0⟩ 0.0
    else .answered ⟨20.0, 30.0, 40.0, 0.0⟩ ⟨4, 4, 0.0, 0.0⟩ 0.0
  | .connecting .. => some true
  | .announcing .. => true
  | .ready _ => ()

/-- The node in maintenance keeps the score that it was found degraded with. -/
theorem a_verdict_never_contradicts_the_score_after_a_silence :
    ∃ (trace : List (System × Move)) (w : System), History trace w ∧
      JoinedByRequest "q" trace ∧ BySpec trace ∧ w.cluster.primary = some "s" ∧
      w.cluster.list.map (fun n => (n.id, n.status)) =
        [("p", .unhealthy), ("q", .maintenance), ("s", .healthy)] ∧
      (∃ n, w.cluster.node? "q" = some n ∧ 0.6 ≤ n.score ∧ n.status.Agrees n.score) ∧
      ∀ n ∈ w.cluster.list, n.status.Agrees n.score := by
  have h : History ((System.initial .standard).moves unevenly struggling)
      (System.play unevenly (.initial .standard) struggling) :=
    ⟨.standard, Coordinator.fresh_standard,
      (System.play_run unevenly (.initial .standard) struggling).1⟩
  have hjoined : JoinedByRequest "q" ((System.initial .standard).moves unevenly struggling) :=
    ⟨[], _, _, _, _, rfl, rfl, by decide +kernel, by decide +kernel⟩
  have hspec : BySpec ((System.initial .standard).moves unevenly struggling) := by
    unfold BySpec
    decide +kernel
  have hfair : ((System.play unevenly (.initial .standard) struggling).cluster.node? "q").all
      (fun n => 0.6 ≤ n.score) = true := by decide +kernel
  obtain ⟨hone, hall⟩ := a_verdict_never_contradicts_the_score h
  obtain ⟨n, hn, hagrees⟩ := hone "q" hjoined
  rw [hn, Option.all_some, decide_eq_true_eq] at hfair
  exact ⟨_, _, h, hjoined, hspec, by decide +kernel, by decide +kernel,
    ⟨n, hn, hfair, hagrees⟩, hall hspec⟩

end Failover
