import Failover.Health.Report
import Failover.Proofs.Floats

-- Which settings are accepted. Each setting is held against its bound, and
-- what is told is the first that breaks it. Floats are held against a bound
-- by what they must not be, which a value that is no number never is.

namespace Failover

/-- Settings that can be used, whatever the limit of the latency is. -/
structure FailoverSettings.Sound (s : FailoverSettings) : Prop where
  heartbeatInterval : 0 < s.heartbeatIntervalMs
  heartbeatTimeout : 0 < s.heartbeatTimeoutMs
  healthCheckInterval : 0 < s.healthCheckIntervalMs
  monitorInterval : 0 < s.monitorIntervalMs
  failoverTimeout : 0 < s.failoverTimeoutMs
  connectTimeout : 0 < s.connectTimeoutMs
  observerTimeout : 0 < s.observerTimeoutMs
  /-- A node has the time of a round to answer before it counts as silent. -/
  timeoutBeyondInterval : s.heartbeatIntervalMs < s.heartbeatTimeoutMs
  failures : 1 ≤ s.maxConsecutiveFailures
  history : 1 ≤ s.eventHistorySize
  quorum : s.enforceQuorum = true → 1 ≤ s.quorumSize
  weights : ∀ x ∈ [s.weights.healthScore, s.weights.resourceUsage, s.weights.networkLatency,
    s.weights.nodeRole], x.isFinite = true ∧ 0.0 ≤ x

/-! ## One bound after another -/

theorem PriorityWeights.usable_float_iff (w : PriorityWeights Float) :
    w.usable = true ↔ ∀ x ∈ [w.healthScore, w.resourceUsage, w.networkLatency, w.nodeRole],
      x.isFinite = true ∧ 0.0 ≤ x := by
  have hone : ∀ x : Float, (Scalar.isFinite x && !decide (x < Scalar.zero)) = true ↔
      x.isFinite = true ∧ 0.0 ≤ x := by
    intro x
    rw [Bool.and_eq_true, Bool.not_eq_true', decide_eq_false_iff_not]
    exact and_congr_right float_not_lt_zero_iff
  unfold usable toList
  simp only [List.all_eq_true, hone]

theorem HealthThresholds.usable_float_iff (t : HealthThresholds Float) :
    t.usable = true ↔ 0.0 < t.networkLatency ∨ t.networkLatency.isNaN = true := by
  unfold usable
  rw [Bool.not_eq_true', decide_eq_false_iff_not]
  exact float_not_le_zero_iff

namespace FailoverSettings

variable {s : FailoverSettings}

theorem intervals_pos_iff : (∀ i ∈ s.intervals, 0 < i.2) ↔
    0 < s.heartbeatIntervalMs ∧ 0 < s.heartbeatTimeoutMs ∧ 0 < s.healthCheckIntervalMs ∧
      0 < s.monitorIntervalMs ∧ 0 < s.failoverTimeoutMs ∧ 0 < s.connectTimeoutMs ∧
      0 < s.observerTimeoutMs := by
  simp [intervals]

/-- Nothing is complained of when no bound is broken. -/
theorem complaints_eq_nil_iff : s.complaints = [] ↔ s.Sound ∧ s.thresholds.usable = true := by
  simp only [complaints, List.append_eq_nil_iff, List.map_eq_nil_iff, List.filter_eq_nil_iff,
    ite_eq_right_iff, ite_eq_left_iff, List.cons_ne_nil, imp_false, beq_iff_eq, Bool.and_eq_true,
    Nat.not_le, not_and, Bool.not_eq_true, Bool.not_eq_false, ← Nat.pos_iff_ne_zero, ← ne_eq,
    and_assoc]
  constructor
  · rintro ⟨hi, ht, hf, hh, hq, hw, hl⟩
    obtain ⟨h1, h2, h3, h4, h5, h6, h7⟩ := intervals_pos_iff.mp hi
    exact ⟨⟨h1, h2, h3, h4, h5, h6, h7, ht, hf, hh, hq, s.weights.usable_float_iff.mp hw⟩, hl⟩
  · rintro ⟨⟨h1, h2, h3, h4, h5, h6, h7, ht, hf, hh, hq, hw⟩, hl⟩
    exact ⟨intervals_pos_iff.mpr ⟨h1, h2, h3, h4, h5, h6, h7⟩, ht, hf, hh, hq,
      s.weights.usable_float_iff.mpr hw, hl⟩

theorem validate_eq_ok_iff : s.validate = .ok () ↔ s.Sound ∧
    (0.0 < s.thresholds.networkLatency ∨ s.thresholds.networkLatency.isNaN = true) := by
  rw [← s.thresholds.usable_float_iff, ← complaints_eq_nil_iff]
  unfold validate
  split <;> simp_all

end FailoverSettings

/-! ## No latency -/

/-- Without latency the score is full, however small or large the limit. -/
theorem latencyScore_zero {t : HealthThresholds Float} (h : 0.0 < t.networkLatency) :
    Health.latencyScore t 0.0 = 1.0 := by
  unfold Health.latencyScore
  rw [zero_div_of_pos h]
  rfl

/-- A limit that is no number leaves nothing of the score. -/
theorem latencyScore_zero_of_isNaN {t : HealthThresholds Float} (h : t.networkLatency.isNaN = true) :
    Health.latencyScore t 0.0 = 0.0 := by
  unfold Health.latencyScore
  rw [zero_div_of_isNaN h]
  decide

theorem latencyScore_zero_iff {t : HealthThresholds Float}
    (h : 0.0 < t.networkLatency ∨ t.networkLatency.isNaN = true) :
    Health.latencyScore t 0.0 = 1.0 ↔ t.networkLatency.isNaN = false := by
  rcases h with hpos | hnan
  · exact iff_of_true (latencyScore_zero hpos) (isNaN_of_pos hpos)
  · rw [latencyScore_zero_of_isNaN hnan, hnan]
    decide

/-- Settings are accepted exactly when every bound is kept, where the limit of
the latency may also be no number. Unless it is, a probe without latency has
the full score. -/
theorem accepted_settings_are_usable_unless_the_limit_is_no_number (s : FailoverSettings) :
    (s.validate = .ok () ↔ s.Sound ∧
      (0.0 < s.thresholds.networkLatency ∨ s.thresholds.networkLatency.isNaN = true)) ∧
    (s.validate = .ok () → (Health.latencyScore s.thresholds 0.0 = 1.0 ↔
      s.thresholds.networkLatency.isNaN = false)) :=
  ⟨s.validate_eq_ok_iff, fun hvalid =>
    latencyScore_zero_iff (FailoverSettings.validate_eq_ok_iff.mp hvalid).2⟩

/-- The standard settings with another limit of the latency. -/
def FailoverSettings.limited (limit : Float) : FailoverSettings :=
  { FailoverSettings.standard with
    thresholds := { HealthThresholds.standard with networkLatency := limit } }

/-- Without a limit, every latency is as good as none. -/
theorem accepted_settings_are_usable_unless_the_limit_is_no_number_when_it_is_infinite :
    (FailoverSettings.limited (1.0 / 0.0)).validate = .ok () ∧
      Health.latencyScore (FailoverSettings.limited (1.0 / 0.0)).thresholds 0.0 = 1.0 := by
  have h := accepted_settings_are_usable_unless_the_limit_is_no_number (.limited (1.0 / 0.0))
  have hvalid : (FailoverSettings.limited (1.0 / 0.0)).validate = .ok () := by rfl
  exact ⟨hvalid, (h.2 hvalid).mpr (by decide)⟩

/-- Such a limit is not positive, and a probe without latency has no score. -/
theorem a_limit_that_is_no_number_is_accepted :
    (FailoverSettings.limited (0.0 / 0.0)).validate = .ok () ∧
      ¬ (0.0 : Float) < (FailoverSettings.limited (0.0 / 0.0)).thresholds.networkLatency ∧
      Health.latencyScore (FailoverSettings.limited (0.0 / 0.0)).thresholds 0.0 ≠ 1.0 := by
  refine ⟨by rfl, by decide, by decide⟩

end Failover
