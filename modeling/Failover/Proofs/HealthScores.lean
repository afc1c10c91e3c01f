import Mathlib.Tactic.Linarith
import Mathlib.Tactic.NormNum
import Failover.Health.Report
import Failover.Proofs.ExactNumbers

-- The scores of a probe in exact numbers. Each part of a score goes down as its
-- measurements get worse, so the verdict never gets better with them. Each part is
-- floored at zero. Two of them cannot pass one; the part of the services can, when
-- a node tells of more running services than it has.

namespace Failover

/-- Limits that can be used have a latency to divide by. -/
theorem HealthThresholds.usable_iff {t : HealthThresholds Rat} :
    t.usable = true ↔ 0 < t.networkLatency := by
  rw [usable, Bool.not_eq_true', decide_eq_false_iff_not, Scalar.zero_rat]
  exact not_le

/-- Nowhere less use of the machine than in the first measurements. -/
structure ResourceMetrics.Worse (m m' : ResourceMetrics Rat) : Prop where
  cpu : m.cpu ≤ m'.cpu
  memory : m.memory ≤ m'.memory
  disk : m.disk ≤ m'.disk

/-- Of as many services no more that run, and no fewer failed requests. -/
structure ServiceHealth.Worse (h h' : ServiceHealth Rat) : Prop where
  running : h'.running ≤ h.running
  total : h'.total = h.total
  errorRate : h.errorRate ≤ h'.errorRate

namespace Health

variable {t : HealthThresholds Rat} {m m' : ResourceMetrics Rat} {h h' : ServiceHealth Rat}
  {latencyMs latencyMs' : Rat}

/-! ## The machine -/

theorem breaches_eq (t : HealthThresholds Rat) (m : ResourceMetrics Rat) :
    breaches t m = (decide (t.cpuUsage < m.cpu)).toNat + (decide (t.memoryUsage < m.memory)).toNat +
      (decide (t.diskUsage < m.disk)).toNat := by
  show [decide (t.cpuUsage < m.cpu), decide (t.memoryUsage < m.memory),
    decide (t.diskUsage < m.disk)].count true = _
  cases decide (t.cpuUsage < m.cpu) <;> cases decide (t.memoryUsage < m.memory) <;>
    cases decide (t.diskUsage < m.disk) <;> rfl

theorem toNat_passed_mono {limit x y : Rat} (hxy : x ≤ y) :
    (decide (limit < x)).toNat ≤ (decide (limit < y)).toNat := by
  by_cases hx : limit < x
  · rw [decide_eq_true hx, decide_eq_true (hx.trans_le hxy)]
  · rw [decide_eq_false hx]
    exact Nat.zero_le _

theorem breaches_mono (worse : m.Worse m') : breaches t m ≤ breaches t m' := by
  rw [breaches_eq, breaches_eq]
  exact Nat.add_le_add (Nat.add_le_add (toNat_passed_mono worse.cpu)
    (toNat_passed_mono worse.memory)) (toNat_passed_mono worse.disk)

theorem breachPenalty_nonneg : (0 : Rat) ≤ breachPenalty := by decide +kernel

theorem breachPenalty_le_one : (breachPenalty : Rat) ≤ 1 := by decide +kernel

/-- The floor of this score is never needed. -/
theorem resourceScore_eq (t : HealthThresholds Rat) (m : ResourceMetrics Rat) :
    resourceScore t m = Scalar.power breachPenalty (breaches t m) := by
  rw [resourceScore, Scalar.positivePart_rat]
  exact max_eq_right (Scalar.power_nonneg breachPenalty_nonneg _)

theorem resourceScore_anti (worse : m.Worse m') : resourceScore t m' ≤ resourceScore t m := by
  rw [resourceScore_eq, resourceScore_eq]
  exact Scalar.power_anti breachPenalty_nonneg breachPenalty_le_one (breaches_mono worse)

theorem resourceScore_nonneg (t : HealthThresholds Rat) (m : ResourceMetrics Rat) :
    0 ≤ resourceScore t m :=
  Scalar.positivePart_nonneg _

theorem resourceScore_le_one (t : HealthThresholds Rat) (m : ResourceMetrics Rat) :
    resourceScore t m ≤ 1 := by
  rw [resourceScore_eq]
  exact Scalar.power_anti breachPenalty_nonneg breachPenalty_le_one (Nat.zero_le _)

/-! ## The services -/

theorem runningShare_rat (h : ServiceHealth Rat) :
    runningShare h = if h.total = 0 then 0 else (h.running : Rat) / h.total := by
  unfold runningShare
  split <;> rfl

theorem runningShare_nonneg (h : ServiceHealth Rat) : 0 ≤ runningShare h := by
  rw [runningShare_rat]
  split
  · exact le_rfl
  · exact div_nonneg (Nat.cast_nonneg _) (Nat.cast_nonneg _)

theorem runningShare_anti (worse : h.Worse h') : runningShare h' ≤ runningShare h := by
  rw [runningShare_rat, runningShare_rat, worse.total]
  split
  · exact le_rfl
  · exact div_le_div_of_nonneg_right (Nat.cast_le.mpr worse.running) (Nat.cast_nonneg _)

/-- No more of the services run than there are. -/
theorem runningShare_le_one (hrun : h.total = 0 ∨ h.running ≤ h.total) : runningShare h ≤ 1 := by
  rw [runningShare_rat]
  split
  · exact zero_le_one
  · rename_i hsome
    exact div_le_one_of_le₀ (Nat.cast_le.mpr (hrun.resolve_left hsome)) (Nat.cast_nonneg _)

theorem successShare_rat (h : ServiceHealth Rat) : successShare h = max 0 (1 - h.errorRate / 100) :=
  Scalar.positivePart_rat _

theorem successShare_nonneg (h : ServiceHealth Rat) : 0 ≤ successShare h :=
  Scalar.positivePart_nonneg _

theorem successShare_anti (worse : h.Worse h') : successShare h' ≤ successShare h := by
  refine Scalar.positivePart_mono ?_
  show (1 : Rat) - h'.errorRate / 100 ≤ 1 - h.errorRate / 100
  linarith [worse.errorRate]

theorem serviceScore_rat (h : ServiceHealth Rat) :
    serviceScore h = (runningShare h + successShare h) / 2 :=
  rfl

theorem serviceScore_nonneg (h : ServiceHealth Rat) : 0 ≤ serviceScore h := by
  rw [serviceScore_rat]
  linarith [runningShare_nonneg h, successShare_nonneg h]

theorem serviceScore_anti (worse : h.Worse h') : serviceScore h' ≤ serviceScore h := by
  rw [serviceScore_rat, serviceScore_rat]
  linarith [runningShare_anti worse, successShare_anti worse]

/-- The mean of the two shares passes one when more services run than there are,
by more than the failed requests take away. -/
theorem serviceScore_le_one_iff (h : ServiceHealth Rat) :
    serviceScore h ≤ 1 ↔ runningShare h ≤ 1 + min 1 (h.errorRate / 100) := by
  have hmean : serviceScore h ≤ 1 ↔ successShare h ≤ 2 - runningShare h := by
    rw [serviceScore_rat]
    constructor <;> intro hle <;> linarith
  rw [hmean, successShare_rat, max_le_iff, ← sub_le_iff_le_add', le_min_iff]
  constructor
  · rintro ⟨hfloor, hrate⟩
    constructor <;> linarith
  · rintro ⟨hfloor, hrate⟩
    constructor <;> linarith

theorem serviceScore_le_one (hrun : h.total = 0 ∨ h.running ≤ h.total) (hrate : 0 ≤ h.errorRate) :
    serviceScore h ≤ 1 := by
  refine (serviceScore_le_one_iff h).mpr ((runningShare_le_one hrun).trans ?_)
  exact le_add_of_nonneg_right (le_min zero_le_one (div_nonneg hrate (by norm_num)))

/-! ## The latency -/

theorem latencyScore_rat (t : HealthThresholds Rat) (latencyMs : Rat) :
    latencyScore t latencyMs = max 0 (1 - latencyMs / t.networkLatency) :=
  Scalar.positivePart_rat _

theorem latencyScore_nonneg (t : HealthThresholds Rat) (latencyMs : Rat) :
    0 ≤ latencyScore t latencyMs :=
  Scalar.positivePart_nonneg _

theorem latencyScore_anti (ht : t.usable = true) (later : latencyMs ≤ latencyMs') :
    latencyScore t latencyMs' ≤ latencyScore t latencyMs := by
  have hlimit := HealthThresholds.usable_iff.mp ht
  rw [latencyScore_rat, latencyScore_rat]
  exact max_le_max_left 0 (sub_le_sub_left (div_le_div_of_nonneg_right later hlimit.le) 1)

theorem latencyScore_le_one (ht : t.usable = true) (hlatency : 0 ≤ latencyMs) :
    latencyScore t latencyMs ≤ 1 := by
  have hlimit := HealthThresholds.usable_iff.mp ht
  rw [latencyScore_rat]
  exact max_le zero_le_one (sub_le_self 1 (div_nonneg hlatency hlimit.le))

/-! ## The weighted sum -/

theorem weightedScore_rat (t : HealthThresholds Rat) (m : ResourceMetrics Rat)
    (h : ServiceHealth Rat) (latencyMs : Rat) :
    weightedScore t m h latencyMs =
      0.4 * resourceScore t m + 0.4 * serviceScore h + 0.2 * latencyScore t latencyMs :=
  rfl

theorem weightedScore_nonneg (t : HealthThresholds Rat) (m : ResourceMetrics Rat)
    (h : ServiceHealth Rat) (latencyMs : Rat) : 0 ≤ weightedScore t m h latencyMs := by
  rw [weightedScore_rat]
  linarith [resourceScore_nonneg t m, serviceScore_nonneg h, latencyScore_nonneg t latencyMs]

theorem weightedScore_anti (ht : t.usable = true) (machine : m.Worse m') (services : h.Worse h')
    (later : latencyMs ≤ latencyMs') :
    weightedScore t m' h' latencyMs' ≤ weightedScore t m h latencyMs := by
  have hresource : resourceScore t m' ≤ resourceScore t m := resourceScore_anti machine
  have hlatency := latencyScore_anti ht later
  rw [weightedScore_rat, weightedScore_rat]
  linarith [serviceScore_anti services]

theorem weightedScore_le_one (ht : t.usable = true) (hlatency : 0 ≤ latencyMs)
    (hservice : serviceScore h ≤ 1) : weightedScore t m h latencyMs ≤ 1 := by
  rw [weightedScore_rat]
  linarith [resourceScore_le_one t m, latencyScore_le_one ht hlatency]

end Health

/-! ## Verdicts -/

namespace HealthStatus

/-- What a score can say, the best verdict first. -/
def verdicts : List HealthStatus := [healthy, degraded, unhealthy]

/-- A verdict that is the other one or comes after it. -/
def NoBetter (s best : HealthStatus) : Prop :=
  s ∈ verdicts ∧ best ∈ verdicts ∧ verdicts.idxOf best ≤ verdicts.idxOf s

instance (s best : HealthStatus) : Decidable (s.NoBetter best) :=
  inferInstanceAs (Decidable (_ ∧ _ ∧ _))

theorem ofScore_rat (score : Rat) :
    ofScore score = if (0.8 : Rat) ≤ score then healthy
      else if (0.6 : Rat) ≤ score then degraded else unhealthy :=
  rfl

theorem ofScore_mem (score : Rat) : ofScore score ∈ verdicts := by
  rw [ofScore_rat]
  split
  · decide
  · split <;> decide

theorem ofScore_eq_healthy_iff (score : Rat) : ofScore score = healthy ↔ 0.8 ≤ score := by
  rw [ofScore_rat]
  split
  · rename_i hgood
    exact ⟨fun _ => hgood, fun _ => rfl⟩
  · rename_i hless
    refine ⟨fun h => ?_, fun hgood => absurd hgood hless⟩
    split at h <;> cases h

theorem unhealthy_noBetter : ∀ s ∈ verdicts, unhealthy.NoBetter s := by decide

/-- Of two scores the smaller one has no better verdict. -/
theorem ofScore_noBetter {x y : Rat} (h : x ≤ y) : (ofScore x).NoBetter (ofScore y) := by
  by_cases hgood : (0.8 : Rat) ≤ x
  · rw [ofScore_rat x, ofScore_rat y, if_pos hgood, if_pos (hgood.trans h)]
    decide
  · by_cases hfair : (0.6 : Rat) ≤ x
    · rw [ofScore_rat x, ofScore_rat y, if_neg hgood, if_pos hfair, if_pos (hfair.trans h)]
      split <;> decide
    · rw [ofScore_rat x, if_neg hgood, if_neg hfair]
      exact unhealthy_noBetter _ (ofScore_mem y)

end HealthStatus

namespace HealthReport

variable (t : HealthThresholds Rat) (m : ResourceMetrics Rat) (h : ServiceHealth Rat)
  (latencyMs : Rat)

theorem score_failed (status : HealthStatus) (elapsedMs : Rat) :
    (failed status elapsedMs).score = 0 := by
  show (0.0 : Rat) = 0
  norm_num

/-- Exact measurements always make a number. -/
theorem ofResult_answered :
    ofResult t (.answered m h latencyMs) =
      { status := .ofScore (Health.totalScore t m h latencyMs)
        score := Health.totalScore t m h latencyMs, resources := some m, latencyMs } :=
  rfl

/-- The cut of the sum changes no verdict. -/
theorem status_eq_healthy_iff :
    (ofResult t (.answered m h latencyMs)).status = .healthy ↔
      0.8 ≤ Health.weightedScore t m h latencyMs := by
  rw [ofResult_answered, HealthStatus.ofScore_eq_healthy_iff]
  exact Scalar.le_clampUnit_iff (by norm_num) (by norm_num)

/-- A machine past all its limits, at no credit for its latency, is healthy by its
services alone. -/
theorem status_eq_healthy_iff_of_breaches (hbreaches : Health.breaches t m = 3)
    (hlatency : Health.latencyScore t latencyMs = 0) :
    (ofResult t (.answered m h latencyMs)).status = .healthy ↔ 1.488 ≤ Health.serviceScore h := by
  have hresource : Health.resourceScore t m = 0.512 := by
    rw [Health.resourceScore_eq, hbreaches]
    decide +kernel
  rw [status_eq_healthy_iff, Health.weightedScore_rat, hresource, hlatency]
  constructor
  · intro hgood
    linarith
  · intro hservice
    linarith

end HealthReport

/-- Of two probes that are answered, one that measures nothing better has no
greater score and no better verdict. A probe that is not answered scores zero,
and no answered one scores less. -/
theorem worse_measurements_never_improve_a_verdict (t : HealthThresholds Rat)
    (ht : t.usable = true) :
    (∀ (m m' : ResourceMetrics Rat) (h h' : ServiceHealth Rat) (latencyMs latencyMs' : Rat),
      m.Worse m' → h.Worse h' → latencyMs ≤ latencyMs' →
      let first := HealthReport.ofResult t (.answered m h latencyMs)
      let second := HealthReport.ofResult t (.answered m' h' latencyMs')
      second.score ≤ first.score ∧ second.status.NoBetter first.status) ∧
    (∀ elapsedMs : Rat,
      (HealthReport.ofResult t (.unreachable elapsedMs)).score = 0 ∧
      (HealthReport.ofResult t (.broken elapsedMs)).score = 0) ∧
    (∀ (m : ResourceMetrics Rat) (h : ServiceHealth Rat) (latencyMs : Rat),
      0 ≤ (HealthReport.ofResult t (.answered m h latencyMs)).score) := by
  refine ⟨fun m m' h h' latencyMs latencyMs' machine services later => ?_,
    fun elapsedMs => ⟨?_, ?_⟩, fun m h latencyMs => ?_⟩
  · have hscore := Scalar.clampUnit_mono (Health.weightedScore_anti ht machine services later)
    exact ⟨hscore, HealthStatus.ofScore_noBetter hscore⟩
  · exact HealthReport.score_failed .unhealthy elapsedMs
  · exact HealthReport.score_failed .unknown elapsedMs
  · exact Scalar.clampUnit_nonneg _

/-- A node that has grown busier, and has lost a service, falls from healthy to
degraded. -/
theorem worse_measurements_never_improve_a_verdict_of_a_busy_node :
    let t : HealthThresholds Rat := .standard
    let first := HealthReport.ofResult t (.answered ⟨20, 30, 40, 0⟩ ⟨4, 4, 0, 0⟩ 10)
    let second := HealthReport.ofResult t (.answered ⟨95, 30, 40, 0⟩ ⟨3, 4, 0, 5⟩ 60)
    first.status = .healthy ∧ second.status = .degraded ∧ t.usable = true ∧
      second.score ≤ first.score ∧ second.status.NoBetter first.status := by
  have ht : (HealthThresholds.standard : HealthThresholds Rat).usable = true := by decide +kernel
  refine ⟨by decide +kernel, by decide +kernel, ht, ?_⟩
  refine (worse_measurements_never_improve_a_verdict .standard ht).1 _ _ _ _ _ _ ?_ ?_ ?_
  · exact { cpu := by decide +kernel, memory := le_rfl, disk := le_rfl }
  · exact { running := by decide, total := rfl, errorRate := by decide +kernel }
  · decide +kernel

/-- What a partial score can be. The score of the machine and that of the latency
lie between zero and one. The score of the services is not negative, and it is at
most one just when the running share passes one by no more than the share of failed
requests; so it is, when no more services run than there are. Where it is at most
one, so is the weighted sum, and a machine past all its limits, at no credit for its
latency, is not healthy. -/
theorem partial_scores_keep_their_bounds (t : HealthThresholds Rat) (ht : t.usable = true)
    (m : ResourceMetrics Rat) (h : ServiceHealth Rat) (latencyMs : Rat) (hlatency : 0 ≤ latencyMs) :
    (0 ≤ Health.resourceScore t m ∧ Health.resourceScore t m ≤ 1) ∧
    (0 ≤ Health.latencyScore t latencyMs ∧ Health.latencyScore t latencyMs ≤ 1) ∧
    0 ≤ Health.serviceScore h ∧
    (Health.serviceScore h ≤ 1 ↔ Health.runningShare h ≤ 1 + min 1 (h.errorRate / 100)) ∧
    (h.total = 0 ∨ h.running ≤ h.total → 0 ≤ h.errorRate → Health.serviceScore h ≤ 1) ∧
    0 ≤ Health.weightedScore t m h latencyMs ∧
    (Health.serviceScore h ≤ 1 → Health.weightedScore t m h latencyMs ≤ 1) ∧
    (Health.breaches t m = 3 → Health.latencyScore t latencyMs = 0 →
      let status := (HealthReport.ofResult t (.answered m h latencyMs)).status
      (status = .healthy ↔ 1.488 ≤ Health.serviceScore h) ∧
        (Health.serviceScore h ≤ 1 → status ≠ .healthy)) := by
  refine ⟨⟨Health.resourceScore_nonneg t m, Health.resourceScore_le_one t m⟩,
    ⟨Health.latencyScore_nonneg t latencyMs, Health.latencyScore_le_one ht hlatency⟩,
    Health.serviceScore_nonneg h, Health.serviceScore_le_one_iff h,
    fun hrun hrate => Health.serviceScore_le_one hrun hrate,
    Health.weightedScore_nonneg t m h latencyMs,
    fun hservice => Health.weightedScore_le_one ht hlatency hservice,
    fun hbreaches hnone => ⟨?_, fun hservice hhealthy => ?_⟩⟩
  · exact HealthReport.status_eq_healthy_iff_of_breaches t m h latencyMs hbreaches hnone
  · rw [HealthReport.status_eq_healthy_iff_of_breaches t m h latencyMs hbreaches hnone] at hhealthy
    linarith

/-- A busy machine whose latency is at its limit, and whose services all run, is
not healthy. -/
theorem partial_scores_keep_their_bounds_on_a_busy_machine :
    let t : HealthThresholds Rat := .standard
    let m : ResourceMetrics Rat := ⟨95, 95, 95, 0⟩
    let h : ServiceHealth Rat := ⟨4, 4, 0, 0⟩
    t.usable = true ∧ Health.breaches t m = 3 ∧ Health.latencyScore t 100 = 0 ∧
      Health.serviceScore h ≤ 1 ∧ Health.weightedScore t m h 100 ≤ 1 ∧
      (HealthReport.ofResult t (.answered m h 100)).status ≠ .healthy := by
  have ht : (HealthThresholds.standard : HealthThresholds Rat).usable = true := by decide +kernel
  obtain ⟨_, _, _, _, hservice, _, hweighted, hbusy⟩ :=
    partial_scores_keep_their_bounds .standard ht ⟨95, 95, 95, 0⟩ ⟨4, 4, 0, 0⟩ 100 (by decide +kernel)
  have hone := hservice (Or.inr (by decide)) le_rfl
  have hbreaches : Health.breaches .standard (⟨95, 95, 95, 0⟩ : ResourceMetrics Rat) = 3 := by
    decide +kernel
  have hnone : Health.latencyScore .standard (100 : Rat) = 0 := by decide +kernel
  exact ⟨ht, hbreaches, hnone, hone, hweighted hone, (hbusy hbreaches hnone).2 hone⟩

/-- The same machine is healthy as soon as it tells of three times as many running
services as it has: their score is two, and the weighted sum passes one. -/
theorem a_service_score_can_pass_one :
    let t : HealthThresholds Rat := .standard
    let m : ResourceMetrics Rat := ⟨95, 95, 95, 0⟩
    let h : ServiceHealth Rat := ⟨12, 4, 0, 0⟩
    t.usable = true ∧ Health.breaches t m = 3 ∧ Health.latencyScore t 100 = 0 ∧
      Health.serviceScore h = 2 ∧ ¬ Health.serviceScore h ≤ 1 ∧
      ¬ Health.weightedScore t m h 100 ≤ 1 ∧
      (HealthReport.ofResult t (.answered m h 100)).status = .healthy := by
  decide +kernel

end Failover
