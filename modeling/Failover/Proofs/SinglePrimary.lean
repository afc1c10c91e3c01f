import Failover.Proofs.Members
import Failover.Proofs.Steps

-- A cluster has one primary at most, whatever happens to it and in whatever
-- order: every section and every order keeps the law of the one primary.

namespace Failover

open Cluster (OnePrimary)

variable {k k' : Cluster}

theorem Upkeep.onePrimary {limit : Span} {now : Moment} (h : Upkeep limit now k k')
    (hk : OnePrimary k) : OnePrimary k' := by
  cases h with
  | nothing => exact hk
  | round answers =>
    have hpings := (Cluster.sameParts_recordPings k now answers).onePrimary hk
    exact (Cluster.sameParts_scanTimeouts _ limit now).onePrimary hpings
  | sweep reports => exact (Cluster.sameParts_recordAll k reports).onePrimary hk
  | leave hr => exact Cluster.onePrimary_remove hk hr

theorem Ordered.onePrimary (h : Ordered k k') (hk : OnePrimary k) : OnePrimary k' := by
  cases h with
  | nothing => exact hk
  | join ha => exact Cluster.onePrimary_add hk ha
  | leave hr => exact Cluster.onePrimary_remove hk hr
  | maintain hm => exact (Cluster.sameParts_setMaintenance hm).onePrimary hk

/-- Between the choice and the promotion the candidate may have left, joined
again or become the primary: what counts is that it is a member now. -/
theorem Turn.onePrimary {now : Moment} {limit : Span} {chosen : Option (Attempt × Candidate)}
    {p q : Phase} {e : Option FailoverEvent} (h : Turn now limit chosen k p q e k')
    (hk : OnePrimary k) : OnePrimary k' := by
  cases h with
  | stay => exact hk
  | tend hu => exact hu.onePrimary hk
  | begin hu => exact (hu.onePrimary hk).restate _ _
  | fail =>
    split
    · exact hk.restate _ _
    · exact hk
  | cancel => exact hk.restate _ _
  | commit _ _ hn =>
    exact (Cluster.onePrimary_promote (Cluster.contains_iff.mpr ⟨_, hn⟩) hk.named).restate _ _
  | recover => exact hk.restate _ _
  | rejoin id => exact (Cluster.onePrimary_rejoin hk id).restate _ _
  | reopen => exact hk.restate _ _
  | release => exact hk.restate _ _
  | promote _ hn =>
    exact (Cluster.onePrimary_promote (Cluster.contains_iff.mpr ⟨_, hn⟩) hk.named).restate _ _

theorem Step.onePrimary {w w' : System} {m : Move} (h : Step w m w')
    (hw : OnePrimary w.cluster) : OnePrimary w'.cluster := by
  rcases h.advanced_or_rested with ha | hr
  · obtain ⟨_, _, _, _, _, hturn, _⟩ := ha.turn
    exact hturn.onePrimary hw
  · exact hr.cluster.onePrimary hw

theorem History.onePrimary {trace : List (System × Move)} {w : System} (h : History trace w) :
    OnePrimary w.cluster := by
  refine h.holds ?_ fun w m w' hw hs => hs.onePrimary hw
  intro c hc
  simp only [System.cluster, System.initial, hc.blank.1]
  exact Cluster.onePrimary_empty

/-- However operations overlap and wherever they are dropped: members stand
under their own ids, the primary is a member, and the three places that say
who is the primary agree on every member. -/
theorem nobody_shares_the_part_of_the_primary {trace : List (System × Move)} {w : System}
    (h : History trace w) :
    (∀ id n, w.cluster.node? id = some n → n.id = id) ∧
      (∀ id, w.cluster.primary = some id → w.cluster.contains id = true) ∧
      (∀ n ∈ w.cluster.list, (n.primary = true ↔ n.role = .primary) ∧
        (n.role = .primary ↔ w.cluster.primary = some n.id)) ∧
      w.cluster.primaryCount ≤ 1 := by
  have hk := h.onePrimary
  refine ⟨hk.named, hk.member, ?_, hk.count_le_one⟩
  intro n hn
  obtain ⟨id, hid⟩ := Cluster.mem_list.mp hn
  have hmarked := hk.marked id n hid
  have htitled := hk.titled id n hid
  rw [hk.named id n hid]
  exact ⟨hmarked.trans htitled.symm, htitled⟩

/-- Two nodes ask for the part of the primary, a failover gives it to a third,
and the first one leaves while an observer still hears of it. -/
def contested : List Cue :=
  let now := ⟨0, false⟩
  [ .order now .observe
  , .order now (.register { Node.well "a" .primary with primary := true })
  , .order now (.join { NodeSpec.blank with id := "b", role := .primary })
  , .order now (.register (Node.well "c" .secondary))
  , .start now (.trigger "drill")
  , .resume now 0, .resume now 0, .resume now 0
  , .order now (.maintenance "b" true)
  , .start now (.remove "a") ]

theorem nobody_shares_the_part_of_the_primary_contested :
    ∃ trace w, History trace w ∧ w.tasks.length = 1 ∧ w.cluster.primary = some "c" ∧
      (∀ id n, w.cluster.node? id = some n → n.id = id) ∧
      (∀ id, w.cluster.primary = some id → w.cluster.contains id = true) ∧
      (∀ n ∈ w.cluster.list, (n.primary = true ↔ n.role = .primary) ∧
        (n.role = .primary ↔ w.cluster.primary = some n.id)) ∧
      w.cluster.primaryCount ≤ 1 := by
  obtain ⟨trace, h, _⟩ := System.play_history Coordinator.fresh_standard calm contested
  exact ⟨trace, _, h, by decide, by decide, nobody_shares_the_part_of_the_primary h⟩

end Failover
