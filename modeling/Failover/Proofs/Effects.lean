import Failover.Proofs.Causes
import Failover.Proofs.Promotions

-- What a step does to the members of a cluster and to their primary. Each
-- operation touches them in one way of its own, and most sections do not touch
-- them at all: they change the state or the record of the failure at most.

namespace Failover

/-- The node that an order lets join. -/
def Order.newcomer? (now : Moment) : Order → Option Node
  | join spec => some (spec.toNode now)
  | register n => some n
  | unregister _ | maintenance _ _ | observe => none

/-- The node that a move takes out of the cluster. -/
def Move.leaver? : Move → Option String
  | start _ (.remove id) | order _ (.unregister id) => some id
  | _ => none

/-- The answers to pings or probes come in. -/
def Move.reports : Move → Bool
  | resume _ _ (.pinging _) _ | resume _ _ (.probing _) _ => true
  | _ => false

/-- What a move does to the members and their primary, under these settings.
The state and the record of the failure are left out. -/
inductive Affects (s : FailoverSettings) (k : Cluster) : Move → Cluster → Prop
  | nothing {m : Move} (hm : m.reports = false) : Affects s k m k
  | round (now : Moment) (number : Nat) (targets : List Node) (answers : List Bool) :
      Affects s k (.resume now number (.pinging targets) answers)
        ((k.recordPings now ((targets.map (·.id)).zip answers)).2.scanTimeouts s.heartbeatTimeout now)
  | sweep (now : Moment) (number : Nat) (targets : List Node) (results : List (ProbeResult Float)) :
      Affects s k (.resume now number (.probing targets) results)
        (k.recordAll ((targets.map (·.id)).zip
          (results.map (HealthReport.ofResult s.thresholds)))).2
  | commit {m : Move} {a : Attempt} {candidate : Candidate} {n : Node} (hm : Answers m a candidate)
      (hs : k.state = .failoverInProgress) (hn : k.node? candidate.id = some n)
      (ha : n.active = true) : Affects s k m (k.promote candidate.id)
  | rejoin {m : Move} (hm : m.phase = .recovery) (id : String) :
      Affects s k m { k with
        nodes := k.nodes.modify id (Coordinator.rejoined (k.isPrimary id)) }
  | promote (now : Moment) {id : String} {n : Node} (hs : k.state.isTransitional = false)
      (hn : k.node? id = some n) (ha : n.active = true) (hh : n.isHealthy = true)
      (hp : k.isPrimary id = false) : Affects s k (.start now (.promote id)) (k.promote id)
  | leave {m : Move} {id : String} {r : Removal} {k' : Cluster} (hm : m.leaver? = some id)
      (h : k.remove id = .ok (r, k')) : Affects s k m k'
  | join (now : Moment) {o : Order} {n : Node} {k' : Cluster} (ho : o.newcomer? now = some n)
      (h : k.add n = .ok k') : Affects s k (.order now o) k'
  | maintain (now : Moment) {id : String} {enabled : Bool} {k' : Cluster}
      (h : k.setMaintenance id enabled = .ok k') :
      Affects s k (.order now (.maintenance id enabled)) k'

/-! ## The same members -/

/-- The same members under the same primary. The state and the record of the
failure may differ. -/
structure Cluster.SameMembers (k k' : Cluster) : Prop where
  nodes : k'.nodes = k.nodes
  primary : k'.primary = k.primary

namespace Cluster.SameMembers

variable {k k' k'' : Cluster}

theorem refl (k : Cluster) : k.SameMembers k := ⟨rfl, rfl⟩

theorem trans (h : k.SameMembers k') (h' : k'.SameMembers k'') : k.SameMembers k'' :=
  ⟨h'.nodes.trans h.nodes, h'.primary.trans h.primary⟩

theorem of_eq (h : k' = k) : k.SameMembers k' := h ▸ refl k

theorem node? (h : k.SameMembers k') (id : String) : k'.node? id = k.node? id := by
  unfold Cluster.node?
  rw [h.nodes]

end Cluster.SameMembers

open Cluster (SameMembers)

/-! ## Sections that leave the members alone -/

namespace Coordinator

variable {now : Moment} {c : Coordinator} {k : Cluster}

theorem close_members {renewLevels : Bool} {answer : Answer} (h : k.SameMembers c.cluster) :
    k.SameMembers (close renewLevels answer c).1.cluster :=
  h.trans (.of_eq (close_cluster renewLevels answer c))

theorem announce_members {e : FailoverEvent} {next : Continuation}
    (h : k.SameMembers c.cluster) : k.SameMembers (announce e next c).1.cluster :=
  h.trans (.of_eq (announce_cluster e next c))

theorem beginFailover_members {trigger : Trigger} {purpose : Purpose}
    (h : k.SameMembers c.cluster) :
    k.SameMembers (beginFailover now trigger purpose c).1.cluster := by
  unfold beginFailover
  split
  · exact announce_members ⟨h.nodes, h.primary⟩
  · exact close_members h

theorem evaluate_members (h : k.SameMembers c.cluster) :
    k.SameMembers (evaluate now c).1.cluster := by
  unfold evaluate
  split
  · exact beginFailover_members h
  · exact close_members h

theorem beginRecovery_members (now : Moment) (id : String) (c : Coordinator) :
    c.cluster.SameMembers (beginRecovery now id c).1.cluster := by
  unfold beginRecovery
  dsimp only
  split
  · exact announce_members ⟨rfl, rfl⟩
  · exact close_members (.refl _)

theorem settle_members (now : Moment) (c : Coordinator) :
    c.cluster.SameMembers (settle now c).1.cluster := by
  unfold settle announceLast
  dsimp only
  split
  · exact announce_members ⟨rfl, rfl⟩
  · exact close_members (.refl _)

theorem checkRecovery_members (now : Moment) (c : Coordinator) :
    c.cluster.SameMembers (checkRecovery now c).1.cluster := by
  unfold checkRecovery
  repeat' split
  · exact close_members (.refl _)
  · exact close_members (.refl _)
  · exact beginRecovery_members now _ c
  · exact close_members (.refl _)
  · exact settle_members now c

theorem watch_members (now : Moment) (c : Coordinator) :
    c.cluster.SameMembers (watch now c).1.cluster := by
  unfold watch
  repeat' split
  · exact evaluate_members (.refl _)
  · exact checkRecovery_members now c
  · exact close_members (.refl _)

theorem orderFailover_members (now : Moment) (reason : String) (c : Coordinator) :
    c.cluster.SameMembers (orderFailover now reason c).1.cluster := by
  unfold orderFailover refuse
  split
  · exact close_members (.refl _)
  · exact beginFailover_members (.refl _)

theorem acknowledge_members (now : Moment) (c : Coordinator) :
    c.cluster.SameMembers (acknowledge now c).1.cluster := by
  unfold acknowledge refuse announceLast
  dsimp only
  repeat' split
  · exact close_members (.refl _)
  · exact close_members (.refl _)
  · exact announce_members ⟨rfl, rfl⟩

/-! ## Sections that change them -/

theorem promoteNode_affects (s : FailoverSettings) (now : Moment) (id : String) (c : Coordinator) :
    ∃ k, Affects s c.cluster (.start now (.promote id)) k ∧
      k.SameMembers (promoteNode now id c).1.cluster := by
  unfold promoteNode refuse announceLast
  split
  · exact ⟨_, .nothing rfl, close_members (.refl _)⟩
  · rename_i hfault
    obtain ⟨hs, n, hn, ha, hh, hp⟩ := promotionFault?_eq_none hfault
    refine ⟨_, .promote now hs hn ha hh hp, ?_⟩
    dsimp only
    rw [announce_cluster]
    exact ⟨rfl, rfl⟩

theorem removeNode_affects (s : FailoverSettings) (now : Moment) (id : String) (c : Coordinator) :
    ∃ k, Affects s c.cluster (.start now (.remove id)) k ∧
      k.SameMembers (removeNode now id c).1.cluster := by
  unfold removeNode refuse
  split
  · exact ⟨_, .nothing rfl, close_members (.refl _)⟩
  · rename_i removal cluster hr
    refine ⟨cluster, .leave rfl hr, ?_⟩
    dsimp only
    split
    · exact beginFailover_members (.refl _)
    · exact close_members (.refl _)

theorem firstSection_affects (s : FailoverSettings) (now : Moment) (op : Operation)
    (c : Coordinator) :
    ∃ k, Affects s c.cluster (.start now op) k ∧
      k.SameMembers (firstSection now op c).1.cluster := by
  cases op with
  | heartbeatRound | healthSweep => exact ⟨_, .nothing rfl, .refl _⟩
  | watch => exact ⟨_, .nothing rfl, watch_members now c⟩
  | trigger reason => exact ⟨_, .nothing rfl, orderFailover_members now reason c⟩
  | acknowledge => exact ⟨_, .nothing rfl, acknowledge_members now c⟩
  | promote id => exact promoteNode_affects s now id c
  | remove id => exact removeNode_affects s now id c

theorem afterPings_affects (now : Moment) (number : Nat) (targets : List Node)
    (answers : List Bool) (c : Coordinator) :
    ∃ k, Affects c.settings c.cluster (.resume now number (.pinging targets) answers) k ∧
      k.SameMembers (afterPings now targets answers c).1.cluster := by
  refine ⟨_, .round now number targets answers, ?_⟩
  obtain ⟨c', _, hcluster, hend | ⟨s, _, _, _, hend⟩⟩ := afterPings_cases now targets answers c
  · rw [hend, ← hcluster]
    exact close_members (.refl _)
  · rw [hend, ← hcluster]
    exact beginFailover_members (.refl _)

theorem afterProbes_affects (now : Moment) (number : Nat) (targets : List Node)
    (results : List (ProbeResult Float)) (c : Coordinator) :
    ∃ k, Affects c.settings c.cluster (.resume now number (.probing targets) results) k ∧
      k.SameMembers (afterProbes now targets results c).1.cluster :=
  ⟨_, .sweep now number targets results, evaluate_members (.refl _)⟩

end Coordinator

/-- An operation in the middle of a change of state promotes the candidate that
it has reached, lets the node that failed join again, or leaves the members
alone. -/
theorem Turn.members {now : Moment} {limit : Span} {chosen : Option (Attempt × Candidate)}
    {k k' : Cluster} {p q : Phase} {e : Option FailoverEvent} (h : Turn now limit chosen k p q e k')
    (hp : p ≠ .plain) :
    k.SameMembers k' ∨
      (∃ a candidate n, chosen = some (a, candidate) ∧ k.state = .failoverInProgress ∧
        k.node? candidate.id = some n ∧ n.active = true ∧
        (k.promote candidate.id).SameMembers k') ∨
      p = .recovery ∧ ∃ id, Cluster.SameMembers
        { k with nodes := k.nodes.modify id (Coordinator.rejoined (k.isPrimary id)) } k' := by
  cases h with
  | stay => exact Or.inl (.refl k)
  | fail =>
    split
    · exact Or.inl ⟨rfl, rfl⟩
    · exact Or.inl (.refl k)
  | cancel | reopen => exact Or.inl ⟨rfl, rfl⟩
  | commit hc hs hn ha => exact Or.inr (Or.inl ⟨_, _, _, hc, hs, hn, ha, rfl, rfl⟩)
  | rejoin id => exact Or.inr (Or.inr ⟨rfl, id, rfl, rfl⟩)
  | tend | begin | recover | release | promote => exact absurd rfl hp

namespace Coordinator

theorem nextSection_affects (now : Moment) (number : Nat) (a : Activity) (reply : a.Reply)
    (c : Coordinator) :
    ∃ k, Affects c.settings c.cluster (.resume now number a reply) k ∧
      k.SameMembers (nextSection now a reply c).1.cluster := by
  by_cases hp : a.phase = .plain
  · cases a with
    | pinging targets => exact afterPings_affects now number targets reply c
    | probing targets => exact afterProbes_affects now number targets reply c
    | connecting => cases hp
    | announcing hook rest failures next | ready next =>
      cases next with
      | select | rejoin | reopen => cases hp
      | close renewLevels answer =>
        exact ⟨_, .nothing rfl, .of_eq (nextSection_closing rfl now reply c).2.1⟩
  · have hreports : Move.reports (.resume now number a reply) = false := by
      cases a with
      | pinging | probing => exact absurd rfl hp
      | connecting | announcing | ready => rfl
    obtain ⟨e, _, hturn⟩ := (nextSection_turned now a reply c).turn
    rcases hturn.members hp with hsame | ⟨a', candidate, n, hc, hs, hn, ha, hsame⟩ | ⟨hr, id, hsame⟩
    · exact ⟨_, .nothing hreports, hsame⟩
    · have hm : Move.chosen? (.resume now number a reply) = some (a', candidate) := hc
      exact ⟨_, .commit (answers_of_chosen hm).1 hs hn ha, hsame⟩
    · exact ⟨_, .rejoin (m := .resume now number a reply) hr id, hsame⟩

end Coordinator

/-! ## Every step -/

theorem order_affects (s : FailoverSettings) (now : Moment) (c : Coordinator) (o : Order) :
    ∃ k, Affects s c.cluster (.order now o) k ∧ k.SameMembers (o.apply now c).cluster := by
  cases o with
  | join spec =>
    simp only [Order.apply, Coordinator.addNode]
    split
    · rename_i k' h
      exact ⟨k', .join now rfl h, .refl _⟩
    · exact ⟨_, .nothing rfl, .refl _⟩
  | register n =>
    simp only [Order.apply]
    cases h : c.cluster.add n with
    | ok k' => exact ⟨k', .join now rfl h, .refl _⟩
    | error _ => exact ⟨_, .nothing rfl, .refl _⟩
  | unregister id =>
    simp only [Order.apply]
    cases h : c.cluster.remove id with
    | ok r => exact ⟨r.2, .leave rfl h, .refl _⟩
    | error _ => exact ⟨_, .nothing rfl, .refl _⟩
  | maintenance id enabled =>
    simp only [Order.apply, Coordinator.setMaintenance]
    split
    · rename_i k' h
      exact ⟨k', .maintain now h, .refl _⟩
    · exact ⟨_, .nothing rfl, .refl _⟩
  | observe => exact ⟨_, .nothing rfl, .refl _⟩

theorem Step.affects {w w' : System} {m : Move} (h : Step w m w') :
    ∃ k, Affects w.coordinator.settings w.cluster m k ∧ k.SameMembers w'.cluster := by
  cases h with
  | start now op => exact Coordinator.firstSection_affects _ now op w.coordinator
  | resume now before after number a reply =>
    exact Coordinator.nextSection_affects now number a reply w.coordinator
  | drop => exact ⟨_, .nothing rfl, .refl _⟩
  | order now o => exact order_affects _ now w.coordinator o

end Failover
