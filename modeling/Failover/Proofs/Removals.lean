import Failover.Proofs.Ownership
import Failover.Proofs.Returns

-- When the primary leaves. In the normal state a failover begins, and if an
-- eligible node can be reached there is a primary again when the operation is
-- over. In any other state the failover is skipped, and nobody takes the
-- part.

namespace Failover

open Cluster (OnePrimary)
open Coordinator (Returns)

/-- No deadline comes first, and a connection to this node is made. -/
def Reaches (n : Node) : (a : Activity) → a.Reply → Prop
  | .connecting _ _ _ _ _, none => False
  | .connecting _ _ _ node _, some reached => node = n → reached = true
  | _, _ => True

namespace Coordinator

variable {now : Moment} {c : Coordinator} {post : Coordinator → Answer → Prop}

/-- While nothing else happens, one of the eligible nodes is promoted if one of
them can be reached. -/
theorem returns_promoted {a : Attempt} {n : Node} (hk : OnePrimary c.cluster)
    (hs : c.cluster.state = .failoverInProgress) (hsure : a.trigger.mayBeFalseAlarm = false)
    (hquorum : c.settings.enforceQuorum = true →
      c.settings.quorumSize ≤ Selection.reachableMembers c.cluster.list a.failing)
    (hn : n ∈ c.cluster.list) (he : n.isEligible a.failing = true)
    (h : ∀ c' answer p, p ∈ c.cluster.list → p.isEligible a.failing = true →
      c'.cluster.primary = some p.id → post c' answer) :
    Returns (Reaches n) post (selectCandidate now a c) := by
  obtain ⟨ranked, hranked⟩ := Selection.exists_candidates hsure hquorum
  unfold selectCandidate
  rw [hranked]
  refine returns_tryNext ?_ (fun _ _ _ hlate => hlate.elim) ?_
  · intro x hx now
    obtain ⟨p, hp, hpe, hid⟩ := Selection.eligible hranked x hx
    have hcan := canPromote_of_eligible hk.named hs hp hpe
    rw [hid] at hcan
    obtain ⟨e, _, _, hannounces⟩ := commitPromotion_announces hcan now a
    refine hannounces.concludes fun c' hlogged => h c' _ p hp hpe ?_
    rw [hlogged.cluster, hid]
    rfl
  · -- the node is in the ranking, and would have answered
    intro hall
    obtain ⟨rest, hrefused⟩ := hall _ (Selection.mem_candidates hranked hn he (hk.find?_id hn))
    exact absurd (hrefused rfl) (by decide)

theorem beginFailover_took (hs : c.cluster.state = .normal) (now : Moment) (trigger : Trigger)
    (purpose : Purpose) :
    ∃ e, c.log.Took (some e) (beginFailover now trigger purpose c).1.log ∧
      e.type = .failoverInitiated ∧ e.trigger = trigger.node?.or c.cluster.primary := by
  obtain ⟨e, htype, htrigger, _, c', heq, halike, _⟩ := beginFailover_announces hs now trigger purpose
  rw [heq]
  exact ⟨e, announce_took halike _, htype, htrigger⟩

/-- The operation gives the node back in the end, however it goes. -/
theorem returns_removal {n : Node} {trigger : Trigger} (hs : c.cluster.state = .normal) :
    Returns (fun _ _ => True) (fun _ answer => answer = .removed n)
      (beginFailover now trigger (.removal n) c) := by
  obtain ⟨e, _, _, _, hannounces⟩ := beginFailover_announces hs now trigger (.removal n)
  exact hannounces.returns fun _ _ _ => returns_selectCandidate fun _ _ => rfl

theorem returns_replaced {gone n : Node} {id : String} (hk : OnePrimary c.cluster)
    (hs : c.cluster.state = .normal)
    (hquorum : c.settings.enforceQuorum = true →
      c.settings.quorumSize ≤ Selection.reachableMembers c.cluster.list (some id))
    (hn : n ∈ c.cluster.list) (he : n.isEligible (some id) = true) :
    Returns (Reaches n)
      (fun c' _ => ∃ p ∈ c.cluster.list, p.isEligible (some id) = true ∧ c'.cluster.primary = some p.id)
      (beginFailover now (.removal id) (.removal gone) c) := by
  obtain ⟨e, _, _, _, hannounces⟩ := beginFailover_announces hs now (.removal id) (.removal gone)
  refine hannounces.returns fun now' c' hlogged => ?_
  have hlist : c'.cluster.list = c.cluster.list := by
    rw [hlogged.cluster]
    rfl
  rw [← hlogged.settings, ← hlist] at hquorum
  rw [← hlist] at hn ⊢
  have hk' : OnePrimary c'.cluster := by
    rw [hlogged.cluster]
    exact hk.restate _ _
  exact returns_promoted hk' (by rw [hlogged.cluster]) rfl hquorum hn he fun _ _ p hp hpe hprimary =>
    ⟨p, hp, hpe, hprimary⟩

end Coordinator

open Coordinator (firstSection beginFailover)

variable {trace : List (System × Move)} {w : System} {now : Moment} {id : String}

theorem launch_history {op : Operation} {e : Option FailoverEvent}
    (h : w.coordinator.log.Took e (firstSection now op w.coordinator).1.log) :
    (w.launch now op).history = w.history ++ e.toList := by
  simp only [System.launch, System.turn, h.since]

/-- In another state the node leaves, and that is all. -/
theorem launch_remove_skipped (h : History trace w) (hp : w.cluster.primary = some id) (now : Moment)
    (hs : w.state ≠ .normal) :
    (∃ gone, w.cluster.node? id = some gone ∧
        (firstSection now (.remove id) w.coordinator).2 = .ends (.removed gone)) ∧
      (w.launch now (.remove id)).cluster.node? id = none ∧
      (w.launch now (.remove id)).history = w.history ∧
      (w.launch now (.remove id)).tasks = w.tasks ∧
      (w.launch now (.remove id)).state = w.state ∧
      (w.launch now (.remove id)).cluster.primary = none := by
  obtain ⟨gone, c, hgone, _, hlog, _, hstate, hnone, hleft, hbegin⟩ :=
    removeNode_leaves now h.onePrimary hp
  have hfirst : firstSection now (.remove id) w.coordinator =
      Coordinator.close false (.removed gone) c :=
    hbegin.trans (Coordinator.beginFailover_skipped (hstate.trans_ne hs) now _ _)
  have hcluster : (w.launch now (.remove id)).cluster = c.cluster := congrArg (·.1.cluster) hfirst
  have htook : w.coordinator.log.Took none (firstSection now (.remove id) w.coordinator).1.log := by
    rw [hfirst, ← hlog]
    exact (Coordinator.close_closing false (.removed gone) c).2.2.log
  refine ⟨⟨gone, hgone, congrArg Prod.snd hfirst⟩, ?_, ?_, ?_, ?_, ?_⟩
  · rw [hcluster]
    exact hleft
  · simpa using launch_history htook
  · simp [System.launch, System.turn, hfirst, Coordinator.close, Progress.tasks]
  · exact (congrArg Cluster.state hcluster).trans hstate
  · rw [hcluster]
    exact hnone

/-- In the normal state the removal of the primary starts a failover, the
operation gives the node back however it goes, and one of those who stay is the
primary then if an eligible one of them can be reached and they are enough. In
every other state the operation gives the node back at once, nothing is recorded,
the state is kept, and there is no primary. -/
theorem a_primary_that_leaves_is_replaced_in_the_normal_state (h : History trace w)
    (hp : w.cluster.primary = some id) (now : Moment) :
    (w.state = .normal →
      (∃ e, (w.launch now (.remove id)).history = w.history ++ [e] ∧
        e.type = .failoverInitiated ∧ e.trigger = some id) ∧
      (∃ gone, w.cluster.node? id = some gone ∧
        Returns (fun _ _ => True) (fun _ answer => answer = .removed gone)
          (firstSection now (.remove id) w.coordinator)) ∧
      (w.launch now (.remove id)).cluster.node? id = none ∧
      ∀ n ∈ (w.launch now (.remove id)).cluster.list, n.isEligible (some id) = true →
        (w.coordinator.settings.enforceQuorum = true → w.coordinator.settings.quorumSize ≤
          Selection.reachableMembers (w.launch now (.remove id)).cluster.list (some id)) →
        Returns (Reaches n)
          (fun c _ => ∃ p ∈ (w.launch now (.remove id)).cluster.list,
            p.isEligible (some id) = true ∧ c.cluster.primary = some p.id)
          (firstSection now (.remove id) w.coordinator)) ∧
    (w.state ≠ .normal →
      (∃ gone, w.cluster.node? id = some gone ∧
        (firstSection now (.remove id) w.coordinator).2 = .ends (.removed gone)) ∧
      (w.launch now (.remove id)).cluster.node? id = none ∧
      (w.launch now (.remove id)).history = w.history ∧
      (w.launch now (.remove id)).tasks = w.tasks ∧
      (w.launch now (.remove id)).state = w.state ∧
      (w.launch now (.remove id)).cluster.primary = none) := by
  refine ⟨fun hs => ?_, launch_remove_skipped h hp now⟩
  obtain ⟨gone, c, hgone, hsettings, hlog, hk, hstate, _, hleft, hbegin⟩ :=
    removeNode_leaves now h.onePrimary hp
  have hfirst : firstSection now (.remove id) w.coordinator =
      beginFailover now (.removal id) (.removal gone) c := hbegin
  have hsame : c.cluster.SameMembers (w.launch now (.remove id)).cluster := by
    have hbegun : c.cluster.SameMembers (firstSection now (.remove id) w.coordinator).1.cluster := by
      rw [hfirst]
      exact Coordinator.beginFailover_members (.refl _)
    exact hbegun
  have hlist : (w.launch now (.remove id)).cluster.list = c.cluster.list :=
    congrArg Table.values hsame.nodes
  refine ⟨?_, ⟨gone, hgone, ?_⟩, (hsame.node? id).trans hleft, ?_⟩
  · obtain ⟨e, htook, htype, htrigger⟩ := Coordinator.beginFailover_took
      (hstate.trans hs) now (.removal id) (.removal gone)
    rw [← hfirst, hlog] at htook
    exact ⟨e, launch_history htook, htype, htrigger⟩
  · rw [hfirst]
    exact Coordinator.returns_removal (hstate.trans hs)
  · rw [hlist, hfirst, ← hsettings]
    intro n hn he hquorum
    exact Coordinator.returns_replaced hk (hstate.trans hs) hquorum hn he

theorem a_primary_that_leaves_is_replaced_in_the_normal_state_by_one_of_two :
    ∃ trace w n, History trace w ∧ w.cluster.primary = some "a" ∧ w.tasks = [] ∧
      w.state = .normal ∧ (w.launch ⟨0, false⟩ (.remove "a")).cluster.list.length = 2 ∧
      n ∈ (w.launch ⟨0, false⟩ (.remove "a")).cluster.list ∧ n.isEligible (some "a") = true ∧
      (∃ e, (w.launch ⟨0, false⟩ (.remove "a")).history = w.history ++ [e] ∧
        e.type = .failoverInitiated ∧ e.trigger = some "a") ∧
      Returns (Reaches n)
        (fun c _ => ∃ p ∈ (w.launch ⟨0, false⟩ (.remove "a")).cluster.list,
          p.isEligible (some "a") = true ∧ c.cluster.primary = some p.id)
        (firstSection ⟨0, false⟩ (.remove "a") w.coordinator) := by
  obtain ⟨trace, h, _⟩ := System.play_history Coordinator.fresh_standard calm trio
  have hp : (System.play calm (.initial .standard) trio).cluster.primary = some "a" := by decide
  have hs : (System.play calm (.initial .standard) trio).state = .normal := by decide
  obtain ⟨hinitiated, _, _, hreplaced⟩ :=
    (a_primary_that_leaves_is_replaced_in_the_normal_state h hp ⟨0, false⟩).1 hs
  have heligible : ((System.play calm (.initial .standard) trio).launch ⟨0, false⟩
      (.remove "a")).cluster.list.any (·.isEligible (some "a")) = true := by decide
  obtain ⟨n, hn, he⟩ := List.any_eq_true.mp heligible
  exact ⟨trace, _, n, h, hp, rfl, hs, by decide, hn, he, hinitiated,
    hreplaced n hn he fun hquorum => absurd hquorum (by decide)⟩

/-- A failover has gone from one node to the other. -/
def handed : List Cue := asking ++ [.resume ⟨0, false⟩ 0, .resume ⟨0, false⟩ 0]

/-- The new primary leaves before the cluster is normal again: no failover
starts, and nobody is the primary although a standby is there. -/
theorem a_primary_that_leaves_too_soon_is_not_replaced :
    ∃ trace w, History trace w ∧ Undropped trace ∧ w.tasks = [] ∧ w.state = .failoverComplete ∧
      w.cluster.primary = some "b" ∧ w.coordinator.settings.enforceQuorum = false ∧
      (∃ n ∈ (w.launch ⟨0, false⟩ (.remove "b")).cluster.list, n.isEligible (some "b") = true) ∧
      (w.launch ⟨0, false⟩ (.remove "b")).history = w.history ∧
      (w.launch ⟨0, false⟩ (.remove "b")).tasks = [] ∧
      (w.launch ⟨0, false⟩ (.remove "b")).cluster.primary = none := by
  obtain ⟨trace, h, hd⟩ := System.play_history Coordinator.fresh_standard calm handed
  have hp : (System.play calm (.initial .standard) handed).cluster.primary = some "b" := by decide
  obtain ⟨_, _, hhistory, htasks, _, hnone⟩ := launch_remove_skipped h hp ⟨0, false⟩ (by decide)
  exact ⟨trace, _, h, hd, rfl, by decide, hp, by decide, List.any_eq_true.mp (by decide), hhistory,
    htasks, hnone⟩

end Failover
