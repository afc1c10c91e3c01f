import Failover.Proofs.Maintenance
import Failover.Proofs.Probes

-- How a node that was silent comes back. A round of pings has to hear of it, and
-- a new probe has to find it healthy before it can be promoted; or it was found
-- healthy while it was away, as a primary is probed even if it is silent.

namespace Failover

open Cluster (OnePrimary)

/-- The node is an active member. -/
def System.isActive (w : System) (id : String) : Bool := (w.cluster.node? id).any (·.active)

variable {past trace : List (System × Move)} {start w₀ w₁ w : System} {m₀ : Move}
  {id : String} {number : Nat} {target : Node}

/-- The round of pings leaves the silent node inactive and unhealthy. -/
theorem FallsSilent.down (h : FallsSilent id w₀ m₀) (hs : Step w₀ m₀ w₁) :
    ∃ n, w₁.cluster.node? id = some n ∧ n.active = false ∧ n.status = .unhealthy := by
  obtain ⟨now, number, targets, answers, n, rfl, hmem, hn, ha, hlimit⟩ := h
  obtain ⟨k, haffects, hsame⟩ := hs.affects
  rw [hsame.node?]
  cases haffects with
  | nothing hreports => cases hreports
  | round =>
    have hsilent : Cluster.isSilent w₀.coordinator.settings.heartbeatTimeout now n = true := by
      simp [Cluster.isSilent, ha, hlimit]
    refine ⟨n.timedOut, ?_, rfl, rfl⟩
    rw [Cluster.node?_scanTimeouts, Cluster.node?_recordPings, hn, Option.map_some, if_neg hmem,
      Option.map_some, if_pos hsilent]
  | commit hanswers =>
    obtain ⟨_, _, _, _, _, heq⟩ := hanswers
    cases heq
  | rejoin hp => cases hp
  | leave hleaver => cases hleaver

/-- Who is probed while it is not active is the primary. -/
theorem Sends.of_inactive {s : System × Move} (h : Sends s number target)
    (hk : OnePrimary s.1.cluster) (hoff : s.1.isActive target.id = false) :
    s.1.cluster.primary = some target.id := by
  obtain ⟨hn, hprobed⟩ := h.member hk
  have hinactive : target.active = false := by simpa [System.isActive, hn] using hoff
  simp only [Node.isProbed, hinactive, Bool.false_or, Bool.and_eq_true] at hprobed
  exact (hk.marked _ _ hn).mp hprobed.1

/-- A sweep that has started since the node fell silent, and before it was heard
of again, has probed it as the primary. -/
theorem Begun.of_inactive {silence : List (System × Move)} {back : System × Move}
    (hbegun : Begun (silence ++ [back]) number target) (h : History past start)
    (hrun : Run start silence w)
    (hoff : ∀ s ∈ silence ++ [back], s.1.isActive target.id = false) (hback : Hears id back.2) :
    ∃ s ∈ silence, Sends s number target ∧ s.1.cluster.primary = some target.id := by
  obtain ⟨s, hmem, hsends⟩ := hbegun
  have hinactive := hoff s hmem
  rcases List.mem_append.mp hmem with hsilence | hlast
  · obtain ⟨front, rest, rfl⟩ := List.append_of_mem hsilence
    obtain ⟨hfront, _⟩ := hrun.split
    exact ⟨s, hsilence, hsends, hsends.of_inactive (h.extend hfront).onePrimary hinactive⟩
  · -- the round that hears of the node starts no sweep
    obtain ⟨now, hstart⟩ := hsends.starts
    obtain ⟨_, _, _, _, hround, _⟩ := hback
    rw [List.mem_singleton.mp hlast, hround] at hstart
    cases hstart

/-- An inactive member that is active later has been heard of by a round of
pings. -/
theorem Run.wakes {n₁ n : Node} (hrun : Run w₁ trace w)
    (hkept : ∀ s ∈ trace, s.2.leaver? ≠ some id) (hn₁ : w₁.cluster.node? id = some n₁)
    (hoff₁ : n₁.active = false) (hn : w.cluster.node? id = some n) (hactive : n.active = true) :
    ∃ silence back after w₂, trace = silence ++ [back] ++ after ∧ Run w₁ silence back.1 ∧
      Step back.1 back.2 w₂ ∧ Run w₂ after w ∧ Hears id back.2 ∧
      ∀ s ∈ silence ++ [back], s.1.isActive id = false := by
  have hstart : ¬ w₁.isActive id = true := by simp [System.isActive, hn₁, hoff₁]
  have hend : w.isActive id = true := by simp [System.isActive, hn, hactive]
  obtain ⟨silence, back, after, w₂, htrace, hsilence, hback, hafter, hnot, hon⟩ :=
    hrun.first (P := fun w => w.isActive id = true) hstart hend
  have hoff : ∀ s ∈ silence ++ [back], s.1.isActive id = false := by simpa using hnot
  rw [List.append_cons] at htrace
  refine ⟨silence, back, after, w₂, htrace, hsilence, hback, hafter, ?_, hoff⟩
  subst htrace
  obtain ⟨n', hn', _⟩ := hsilence.member (fun s hmem => hkept s (by simp [hmem])) hn₁
  obtain ⟨n₂, hn₂, hfares⟩ := hback.fares (hkept back (by simp)) hn'
  have hactive₂ : n₂.active = true := by simpa [System.isActive, hn₂] using hon
  rcases hfares.active hactive₂ with hactive' | hheard
  · have hinactive := hoff back (by simp)
    simp [System.isActive, hn', hactive'] at hinactive
  · exact hheard

/-- However operations overlap: a round of pings that finds a node silent leaves
it inactive and unhealthy, and if the node is a standby at any later time, without
having left, then a round has heard of it since, and a probe has found it
healthy. That probe was sent after the node was heard of, unless it was sent
while the node was the primary and still inactive, or was on its way when the
node fell silent. -/
theorem a_silent_node_is_probed_again_before_it_stands_by (h : History past w₀)
    (hs : Step w₀ m₀ w₁) (hsilent : FallsSilent id w₀ m₀) (hrun : Run w₁ trace w)
    (hkept : ∀ s ∈ trace, s.2.leaver? ≠ some id) :
    (∃ n, w₁.cluster.node? id = some n ∧ n.active = false ∧ n.status = .unhealthy) ∧
    ∀ n, w.cluster.node? id = some n → n.isStandby = true →
      ∃ silence back after, trace = silence ++ [back] ++ after ∧
        (∀ s ∈ silence ++ [back], s.1.isActive id = false) ∧ Hears id back.2 ∧
        ((∃ before number target, Noted id after before number target .healthy ∧
            Begun before number target) ∨
          ∃ before number target, Noted id trace before number target .healthy ∧
            (Probing w₁ number target ∨
              ∃ s ∈ silence, Sends s number target ∧ s.1.cluster.primary = some id)) := by
  obtain ⟨n₁, hn₁, hoff₁, hstatus₁⟩ := hsilent.down hs
  refine ⟨⟨n₁, hn₁, hoff₁, hstatus₁⟩, fun n hn hstandby => ?_⟩
  simp only [Node.isStandby, Bool.and_eq_true] at hstandby
  obtain ⟨⟨hactive, _⟩, hhealthy⟩ := hstandby
  obtain ⟨silence, back, after, w₂, rfl, hsilence, hback, hafter, hheard, hoff⟩ :=
    hrun.wakes hkept hn₁ hoff₁ hn hactive
  refine ⟨silence, back, after, rfl, hoff, hheard, ?_⟩
  have hfront : Run w₁ (silence ++ [back]) w₂ := hsilence.snoc hback
  have hpast : History (past ++ [(w₀, m₀)]) w₁ := h.extend (Run.nil.snoc hs)
  have haway : ∀ number target, target.id = id →
      Begun (silence ++ [back]) number target ∨ Probing w₁ number target →
      Probing w₁ number target ∨
        ∃ s ∈ silence, Sends s number target ∧ s.1.cluster.primary = some id := by
    rintro number target rfl (hbegun | hout)
    · exact Or.inr (hbegun.of_inactive hpast hsilence hoff hheard)
    · exact Or.inl hout
  obtain ⟨n₂, hn₂, _, _, hwell₂⟩ :=
    hfront.member (fun s hmem => hkept s (List.mem_append_left _ hmem)) hn₁
  obtain ⟨n', hn', _, _, hwell⟩ :=
    hafter.member (fun s hmem => hkept s (List.mem_append_right _ hmem)) hn₂
  rw [hn] at hn'
  cases hn'
  -- the verdict that counts came after the round that has heard of the node, or before
  rcases hwell hhealthy with hwell | ⟨before, number, target, hnoted⟩
  · rcases hwell₂ hwell with hwell | ⟨before, number, target, hnoted⟩
    · simp [Node.isHealthy, hstatus₁] at hwell
    · refine Or.inr ⟨before, number, target, hnoted.extend after, haway _ _ hnoted.1 ?_⟩
      exact Or.imp_left hnoted.begun (hnoted.probing hfront)
  · rcases hnoted.probing hafter with hbegun | hout
    · exact Or.inl ⟨before, number, target, hnoted, hbegun⟩
    · exact Or.inr ⟨_, number, target, hnoted.behind (silence ++ [back]),
        haway _ _ hnoted.1 (hfront.probing hout)⟩

/-- The first operation of a script is a round of pings, and ends late with these
answers. -/
def lateRound (script : List Cue) (c : Coordinator) (answers : List Bool) : Move :=
  .resume (Moment.ofMillis 100000) 0
    (.pinging (System.play calm (.initial c) script).cluster.list) answers

def heardLate (script : List Cue) (c : Coordinator) (answers : List Bool) : System :=
  let w := System.play calm (.initial c) script
  w.turn 0 [] (w.tasks.drop 1) (Coordinator.nextSection (Moment.ofMillis 100000)
    (.pinging w.cluster.list) answers w.coordinator)

/-- The node answers again, and is probed. -/
def comeback : List Cue :=
  let now := Moment.ofMillis 105000
  [ .start now .heartbeatRound, .resume now 0, .start now .healthSweep, .resume now 0 ]

theorem a_silent_node_is_probed_again_before_it_stands_by_in_a_comeback :
    ∃ (past : List (System × Move)) (w₀ : System) (m₀ : Move) (w₁ : System)
      (trace : List (System × Move)) (w : System) (n : Node),
      History past w₀ ∧ Step w₀ m₀ w₁ ∧ FallsSilent "b" w₀ m₀ ∧ Run w₁ trace w ∧
      (∀ s ∈ trace, s.2.leaver? ≠ some "b") ∧
      w.cluster.node? "b" = some n ∧ n.isStandby = true ∧
      ∃ silence back after, trace = silence ++ [back] ++ after ∧
        (∀ s ∈ silence ++ [back], s.1.isActive "b" = false) ∧ Hears "b" back.2 ∧
        ((∃ before number target, Noted "b" after before number target .healthy ∧
            Begun before number target) ∨
          ∃ before number target, Noted "b" trace before number target .healthy ∧
            (Probing w₁ number target ∨
              ∃ s ∈ silence, Sends s number target ∧ s.1.cluster.primary = some "b")) := by
  obtain ⟨past, h, _⟩ := System.play_history Coordinator.fresh_standard calm listening
  have hs : Step (System.play calm (.initial .standard) listening)
      (lateRound listening .standard [true, false]) (heardLate listening .standard [true, false]) := .resume _ _ [] [] 0 _ _ rfl
  have hsilent : FallsSilent "b" (System.play calm (.initial .standard) listening)
      (lateRound listening .standard [true, false]) := ⟨_, _, _, _, _, rfl, by decide, rfl, rfl, by decide⟩
  have hrun := (System.play_run calm (heardLate listening .standard [true, false]) comeback).1
  have hkept : ∀ s ∈ System.moves calm (heardLate listening .standard [true, false]) comeback,
      s.2.leaver? ≠ some "b" := by decide +kernel
  have hstandby : ((System.play calm (heardLate listening .standard [true, false]) comeback).cluster.node?
      "b").any (·.isStandby) = true := by decide +kernel
  obtain ⟨n, hn, hn'⟩ := (Option.any_eq_true _ _).mp hstandby
  exact ⟨past, _, _, _, _, _, n, h, hs, hsilent, hrun, hkept, hn, hn',
    (a_silent_node_is_probed_again_before_it_stands_by h hs hsilent hrun hkept).2 n hn hn'⟩

/-- A sweep starts. -/
def Move.sweeps : Move → Bool
  | .start _ .healthSweep => true
  | _ => false

/-- A sweep starts while the round is out. -/
def crossing : List Cue := listening ++ [.start ⟨0, false⟩ .healthSweep]

/-- The sweep is over, and the node answers again. -/
def overdue : List Cue :=
  let now := Moment.ofMillis 105000
  [.resume now 0, .start now .heartbeatRound, .resume now 0]

/-- A probe that was on its way when the node fell silent is enough: no sweep
starts afterwards, and the node is never the primary. -/
theorem a_silent_secondary_stands_by_after_an_older_probe :
    ∃ (past : List (System × Move)) (w₀ : System) (m₀ : Move) (w₁ : System)
      (trace : List (System × Move)) (w : System) (n : Node),
      History past w₀ ∧ Step w₀ m₀ w₁ ∧ FallsSilent "b" w₀ m₀ ∧ Run w₁ trace w ∧
      (∀ s ∈ trace, s.2.leaver? ≠ some "b") ∧ (∀ s ∈ trace, s.1.cluster.primary = some "a") ∧
      (∀ number target, ¬ Begun trace number target) ∧
      w.cluster.node? "b" = some n ∧ n.isEligible none = true := by
  obtain ⟨past, h, _⟩ := System.play_history Coordinator.fresh_standard calm crossing
  have hs : Step (System.play calm (.initial .standard) crossing)
      (lateRound crossing .standard [true, false]) (heardLate crossing .standard [true, false]) :=
    .resume _ _ [] _ 0 _ _ rfl
  have hsilent : FallsSilent "b" (System.play calm (.initial .standard) crossing)
      (lateRound crossing .standard [true, false]) := ⟨_, _, _, _, _, rfl, by decide, rfl, rfl, by decide⟩
  have hrun := (System.play_run calm (heardLate crossing .standard [true, false]) overdue).1
  have heligible : ((System.play calm (heardLate crossing .standard [true, false])
      overdue).cluster.node? "b").any (·.isEligible none) = true := by decide +kernel
  obtain ⟨n, hn, hfit⟩ := (Option.any_eq_true _ _).mp heligible
  have hquiet : ∀ s ∈ System.moves calm (heardLate crossing .standard [true, false]) overdue,
      s.2.sweeps = false := by decide +kernel
  refine ⟨past, _, _, _, _, _, n, h, hs, hsilent, hrun, by decide +kernel, by decide +kernel, ?_, hn,
    hfit⟩
  rintro number target ⟨s, hmem, ⟨now, hstart⟩, _⟩
  have hnone := hquiet s hmem
  rw [hstart] at hnone
  cases hnone

/-- A coordinator that goes by the health of the primary. -/
def Coordinator.attentive : Coordinator :=
  { standard with settings := { FailoverSettings.standard with mode := .healthBased } }

theorem Coordinator.fresh_attentive : attentive.Fresh :=
  ⟨⟨[], []⟩, "sentinel", { FailoverSettings.standard with mode := .healthBased }, by rfl⟩

/-- The silent primary is found healthy and is replaced by an operator; then it
answers again. -/
def returning : List Cue :=
  let now := Moment.ofMillis 105000
  [ .start now .healthSweep, .resume now 0
  , .start now (.trigger "drill"), .resume now 0, .resume now 0, .resume now 0
  , .start now .heartbeatRound, .resume now 0 ]

/-- The last step of the run is the one that hears of the node, and the node is
eligible then. -/
theorem a_silent_primary_stands_by_without_a_new_probe :
    ∃ (past : List (System × Move)) (w₀ : System) (m₀ : Move) (w₁ : System)
      (trace : List (System × Move)) (w : System) (n : Node),
      History past w₀ ∧ Step w₀ m₀ w₁ ∧ FallsSilent "a" w₀ m₀ ∧ w₁.tasks = [] ∧
      Run w₁ trace w ∧ (∀ s ∈ trace, s.2.leaver? ≠ some "a") ∧
      (∀ s ∈ trace, s.1.isActive "a" = false) ∧
      w.cluster.node? "a" = some n ∧ n.isEligible none = true := by
  obtain ⟨past, h, _⟩ := System.play_history Coordinator.fresh_attentive calm listening
  have hs : Step (System.play calm (.initial .attentive) listening)
      (lateRound listening .attentive [false, true]) (heardLate listening .attentive [false, true]) := .resume _ _ [] [] 0 _ _ rfl
  have hsilent : FallsSilent "a" (System.play calm (.initial .attentive) listening)
      (lateRound listening .attentive [false, true]) := ⟨_, _, _, _, _, rfl, by decide, rfl, rfl, by decide⟩
  have hrun := (System.play_run calm (heardLate listening .attentive [false, true]) returning).1
  have heligible : ((System.play calm (heardLate listening .attentive [false, true]) returning).cluster.node?
      "a").any (·.isEligible none) = true := by decide +kernel
  obtain ⟨n, hn, hfit⟩ := (Option.any_eq_true _ _).mp heligible
  exact ⟨past, _, _, _, _, _, n, h, hs, hsilent, rfl, hrun, by decide +kernel, by decide +kernel,
    hn, hfit⟩

end Failover
