import Failover.Proofs.Probes
import Failover.Proofs.SinglePrimary

-- Whose health a verdict is about. A new member is judged by probes that went
-- out to it, with one exception: while a node of the same id is still being
-- probed, it can leave and the new one can join, and the verdict on the one
-- that has left is taken for a verdict on the other.

namespace Failover

variable {past trace : List (System × Move)} {w w' : System} {now : Moment} {spec : NodeSpec}

theorem System.obey_join (w : System) (now : Moment) (hnew : w.cluster.contains spec.id = false) :
    ∃ n, (w.obey now (.join spec)).cluster.node? spec.id = some n ∧
      n.standing = (spec.toNode now).standing := by
  obtain ⟨k, hk⟩ : ∃ k, w.coordinator.cluster.add (spec.toNode now) = .ok k := by
    have hid : w.coordinator.cluster.contains (spec.toNode now).id = false := hnew
    unfold Cluster.add
    rw [if_neg (by simp [hid])]
    dsimp only
    repeat' split
    all_goals exact ⟨_, rfl⟩
  have hjoined : (w.obey now (.join spec)).cluster = k := by
    simp [System.obey, System.cluster, Order.apply, Coordinator.addNode, hk, Except.toOption,
      Coordinator.updateLevels]
  have hstanding := (Cluster.standing_add hk spec.id).trans (if_pos rfl)
  rw [hjoined]
  exact Option.map_eq_some_iff.mp hstanding

/-- A target that a sweep of the run has taken is the new member as it was
then. -/
theorem Begun.own (h : History past w) (hnew : w.cluster.contains spec.id = false)
    (hrun : Run (w.obey now (.join spec)) trace w')
    (hkept : ∀ s ∈ trace, s.2.leaver? ≠ some spec.id) {number : Nat} {target : Node}
    (hbegun : Begun trace number target) (hid : target.id = spec.id) :
    target.address = spec.host ∧ target.port = spec.port := by
  obtain ⟨s, hs, hsends⟩ := hbegun
  obtain ⟨before, after, rfl⟩ := List.append_of_mem hs
  obtain ⟨hbefore, _⟩ := hrun.split
  obtain ⟨n, hn, hstanding⟩ := w.obey_join now hnew
  obtain ⟨n', hn', haddress, hport, _⟩ :=
    hbefore.member (fun s hmem => hkept s (List.mem_append_left _ hmem)) hn
  have hone : Cluster.OnePrimary s.1.cluster :=
    ((h.extend (Run.nil.snoc (.order w now (.join spec)))).extend hbefore).onePrimary
  obtain ⟨htarget, _⟩ := hsends.member hone
  rw [hid, hn'] at htarget
  cases htarget
  simp only [Node.standing, Prod.mk.injEq] at hstanding
  exact ⟨haddress.trans hstanding.1, hport.trans hstanding.2.1⟩

/-- From the moment at which a node joins, and for as long as it does not leave:
it stays where its request has said that it is, and it is not healthy before a
verdict says so. Every verdict that is recorded for it comes of a probe that was
sent to that place by a sweep started since, unless its id belonged to another
node and that one was being probed when it joined. -/
theorem a_newcomer_is_judged_by_its_own_probes_unless_one_was_out (h : History past w)
    (hnew : w.cluster.contains spec.id = false) (hrun : Run (w.obey now (.join spec)) trace w')
    (hkept : ∀ s ∈ trace, s.2.leaver? ≠ some spec.id) :
    (∃ n, w'.cluster.node? spec.id = some n ∧ n.address = spec.host ∧ n.port = spec.port ∧
      (n.isHealthy = true →
        ∃ before number target, Noted spec.id trace before number target .healthy)) ∧
    ∀ before number target status, Noted spec.id trace before number target status →
      (Begun before number target ∧ target.address = spec.host ∧ target.port = spec.port) ∨
        (Begun past number target ∧ Probing w number target) := by
  constructor
  · obtain ⟨n, hn, hstanding⟩ := w.obey_join now hnew
    simp only [Node.standing, Prod.mk.injEq] at hstanding
    obtain ⟨haddress, hport, hunknown, _⟩ := hstanding
    obtain ⟨n', hn', haddress', hport', hhealthy⟩ := hrun.member hkept hn
    refine ⟨n', hn', haddress'.trans haddress, hport'.trans hport, fun hh => ?_⟩
    rcases hhealthy hh with hfirst | hnoted
    · simp [Node.isHealthy, hunknown, NodeSpec.toNode] at hfirst
    · exact hnoted
  · intro before number target status hnoted
    rcases hnoted.probing hrun with hbegun | hout
    · obtain ⟨hid, s, after, rfl, _⟩ := hnoted
      obtain ⟨hbefore, _⟩ := hrun.split
      exact Or.inl ⟨hbegun, hbegun.own h hnew hbefore
        (fun s hmem => hkept s (List.mem_append_left _ hmem)) hid⟩
    · have hearlier : Probing w number target := hout
      exact Or.inr ⟨h.probing hearlier, hearlier⟩

/-- A node of this id on this host. -/
def NodeSpec.on (host : String) : NodeSpec := { NodeSpec.blank with id := "a", host, port := 7000 }

/-- A sweep after a node has joined. -/
def swept : List Cue := [.start ⟨0, false⟩ .healthSweep, .resume ⟨0, false⟩ 0]

theorem a_newcomer_is_judged_by_its_own_probes_unless_one_was_out_in_a_sweep :
    ∃ (spec : NodeSpec) (past : List (System × Move)) (w : System) (trace : List (System × Move))
      (w' : System),
      History past w ∧ w.cluster.contains spec.id = false ∧
      Run (w.obey ⟨0, false⟩ (.join spec)) trace w' ∧
      (∀ s ∈ trace, s.2.leaver? ≠ some spec.id) ∧
      (w'.cluster.node? spec.id).any (·.isHealthy) = true ∧
      (∃ n, w'.cluster.node? spec.id = some n ∧ n.address = spec.host ∧ n.port = spec.port ∧
        (n.isHealthy = true →
          ∃ before number target, Noted spec.id trace before number target .healthy)) ∧
      ∀ before number target status, Noted spec.id trace before number target status →
        (Begun before number target ∧ target.address = spec.host ∧ target.port = spec.port) ∨
          (Begun past number target ∧ Probing w number target) := by
  obtain ⟨past, h, _⟩ := System.play_history Coordinator.fresh_standard calm []
  have hnew : (System.play calm (.initial .standard) []).cluster.contains
      (NodeSpec.on "here").id = false := by decide
  have hrun := (System.play_run calm ((System.play calm (.initial .standard) []).obey ⟨0, false⟩
    (.join (.on "here"))) swept).1
  have hkept : ∀ s ∈ System.moves calm ((System.play calm (.initial .standard) []).obey ⟨0, false⟩
      (.join (.on "here"))) swept, s.2.leaver? ≠ some (NodeSpec.on "here").id := by decide
  exact ⟨_, past, _, _, _, h, hnew, hrun, hkept, by decide +kernel,
    a_newcomer_is_judged_by_its_own_probes_unless_one_was_out h hnew hrun hkept⟩

/-- A node leaves while it is being probed. -/
def leaving : List Cue :=
  let now := ⟨0, false⟩
  [.order now (.join (.on "there")), .start now .healthSweep, .start now (.remove "a")]

/-- It joins again on another host, and is healthy and eligible there although
no sweep has probed that host. -/
theorem a_newcomer_is_healthy_before_it_is_probed :
    ∃ (past : List (System × Move)) (w : System) (trace : List (System × Move)) (w' : System)
      (n : Node),
      History past w ∧ w.cluster.contains "a" = false ∧
      Run (w.obey ⟨0, false⟩ (.join (.on "here"))) trace w' ∧
      (∀ s ∈ trace, s.2.leaver? ≠ some "a") ∧
      w'.cluster.node? "a" = some n ∧ n.address = "here" ∧ n.isEligible none = true ∧
      (∀ number target, ¬ Begun trace number target) ∧
      ∃ target, target.address = "there" ∧ Noted "a" trace [] 0 target .healthy := by
  obtain ⟨past, h, _⟩ := System.play_history Coordinator.fresh_standard calm leaving
  have hrun := (System.play_run calm ((System.play calm (.initial .standard) leaving).obey
    ⟨0, false⟩ (.join (.on "here"))) [.resume ⟨0, false⟩ 0]).1
  have heligible : ((System.play calm ((System.play calm (.initial .standard) leaving).obey
      ⟨0, false⟩ (.join (.on "here"))) [.resume ⟨0, false⟩ 0]).cluster.node? "a").any
        (fun n => n.address = "here" ∧ n.isEligible none = true) = true := by
    decide +kernel
  obtain ⟨n, hn, hboth⟩ := (Option.any_eq_true _ _).mp heligible
  obtain ⟨haddress, hfit⟩ := of_decide_eq_true hboth
  refine ⟨past, _, _, _, n, h, by decide, hrun, by decide, hn, haddress, hfit, ?_, ?_⟩
  · rintro number target ⟨s, hs, ⟨now, hstart⟩, _⟩
    rw [List.mem_singleton.mp hs] at hstart
    cases hstart
  · have hhealthy : (HealthReport.ofResult FailoverSettings.standard.thresholds
        (.answered ⟨20.0, 30.0, 40.0, 0.0⟩ ⟨4, 4, 0.0, 0.0⟩ 0.0)).status = .healthy := by
      decide +kernel
    refine ⟨(NodeSpec.on "there").toNode ⟨0, false⟩, rfl, rfl, _, [], rfl, ?_⟩
    rw [← hhealthy]
    exact .given ⟨0, false⟩ 0 (List.mem_singleton_self _) rfl (by decide)

end Failover
