import Failover.Proofs.Effects

-- The part of the primary changes hands openly: a node asks for it while
-- nobody has it, the primary leaves, a failover is completed, or an operator
-- promotes a node. No other step moves it, and a node that joins again after
-- a failure gets the part that it has.

namespace Failover

open Cluster (OnePrimary SameMembers)

/-- The primary is the same, and the members of before and after are marked as
before. -/
structure SameOwner (k k' : Cluster) : Prop where
  primary : k'.primary = k.primary
  marks : ∀ id n n', k.node? id = some n → k'.node? id = some n' → n'.primary = n.primary

/-- A new member is to be the primary. -/
def Node.asks (n : Node) : Bool := n.role == .primary || n.primary

/-- The move gives the part of the primary to this node, or to nobody. -/
inductive Handover (w : System) : Move → Option String → Prop
  | claim (now : Moment) {o : Order} {n : Node} (ho : o.newcomer? now = some n)
      (hasks : n.asks = true) (hnew : w.cluster.contains n.id = false)
      (hnone : w.cluster.primary = none) : Handover w (.order now o) (some n.id)
  | leave {m : Move} {id : String} (hm : m.leaver? = some id) (hp : w.cluster.primary = some id) :
      Handover w m none
  | commit {m : Move} {a : Attempt} {candidate : Candidate} {n : Node}
      (hm : Answers m a candidate) (hs : w.state = .failoverInProgress)
      (hn : w.cluster.node? candidate.id = some n) (ha : n.active = true) :
      Handover w m (some candidate.id)
  | promote (now : Moment) {id : String} (h : w.coordinator.promotionFault? id = none) :
      Handover w (.start now (.promote id)) (some id)

/-! ## Two clusters with one law -/

/-- The marks go by the primary. -/
theorem sameOwner_of_primary {k k' : Cluster} (hk : OnePrimary k) (hk' : OnePrimary k')
    (h : k'.primary = k.primary) : SameOwner k k' := by
  refine ⟨h, ?_⟩
  intro id n n' hn hn'
  have hold := hk.marked id n hn
  have hnew := hk'.marked id n' hn'
  rw [h] at hnew
  exact Bool.eq_iff_iff.mpr (hnew.trans hold.symm)

/-! ## No other move -/

theorem add_primary {k k' : Cluster} {n : Node} (h : k.add n = .ok k') :
    k'.primary = k.primary ∨
      n.asks = true ∧ k.contains n.id = false ∧ k.primary = none := by
  unfold Cluster.add at h
  split at h
  · cases h
  · rename_i hnew
    dsimp only at h
    split at h
    · rename_i hwants
      split at h
      · cases h
        exact Or.inl rfl
      · rename_i hnone
        exact Or.inr ⟨hwants, by simpa using hnew, hnone⟩
    · cases h
      exact Or.inl rfl

theorem remove_primary {k k' : Cluster} {id : String} {r : Removal}
    (h : k.remove id = .ok (r, k')) : k'.primary = k.primary ∨ k.primary = some id := by
  obtain ⟨_, hp, _⟩ := Cluster.remove_others h
  by_cases hwas : k.isPrimary id = true
  · exact Or.inr (by simpa [Cluster.isPrimary] using hwas)
  · rw [if_neg hwas] at hp
    exact Or.inl hp

variable {trace : List (System × Move)} {w w' : System} {m : Move}

theorem Step.same_primary_or_handover (h : Step w m w') :
    w'.cluster.primary = w.cluster.primary ∨ ∃ p, Handover w m p := by
  obtain ⟨k, haffects, hsame⟩ := h.affects
  rw [hsame.primary]
  cases haffects with
  | nothing => exact Or.inl rfl
  | round now number targets answers =>
    have hpings := w.cluster.sameParts_recordPings now ((targets.map (·.id)).zip answers)
    exact Or.inl ((Cluster.sameParts_scanTimeouts _ _ now).primary.trans hpings.primary)
  | sweep now number targets results => exact Or.inl (w.cluster.sameParts_recordAll _).primary
  | commit hm hs hn ha => exact Or.inr ⟨_, .commit hm hs hn ha⟩
  | rejoin => exact Or.inl rfl
  | promote now hs hn ha hh hp =>
    have hfit := Coordinator.promotionFault?_of_fit hs hn ha hh hp
    exact Or.inr ⟨_, .promote now hfit⟩
  | leave hm hr =>
    rcases remove_primary hr with hkept | hp
    · exact Or.inl hkept
    · exact Or.inr ⟨_, .leave hm hp⟩
  | join now ho hadd =>
    rcases add_primary hadd with hkept | ⟨hasks, hnew, hnone⟩
    · exact Or.inl hkept
    · exact Or.inr ⟨_, .claim now ho hasks hnew hnone⟩
  | maintain now hm => exact Or.inl (Cluster.sameParts_setMaintenance hm).primary

/-! ## What these moves do -/

theorem add_claims {k : Cluster} {n : Node} (hasks : n.asks = true)
    (hnew : k.contains n.id = false) (hnone : k.primary = none) :
    ∃ k', k.add n = .ok k' ∧ k'.primary = some n.id := by
  unfold Cluster.add
  unfold Node.asks at hasks
  simp only [hnew, hasks, hnone, if_true, Bool.false_eq_true, if_false]
  exact ⟨_, rfl, rfl⟩

theorem Order.newcomer_claims {c : Coordinator} {now : Moment} {o : Order} {n : Node}
    (ho : o.newcomer? now = some n) (hasks : n.asks = true)
    (hnew : c.cluster.contains n.id = false) (hnone : c.cluster.primary = none) :
    (o.apply now c).cluster.primary = some n.id := by
  obtain ⟨k', hadd, hp⟩ := add_claims hasks hnew hnone
  cases o with
  | join spec =>
    cases ho
    simp only [Order.apply, Coordinator.addNode, hadd]
    exact hp
  | register n =>
    cases ho
    simp only [Order.apply, hadd]
    exact hp
  | unregister | maintenance | observe => cases ho

theorem remove_leaves {k : Cluster} {id : String} (hk : OnePrimary k) (hp : k.primary = some id) :
    ∃ n k', k.node? id = some n ∧ k.remove id = .ok (⟨n, true⟩, k') ∧ k'.primary = none := by
  obtain ⟨n, hn⟩ := Cluster.contains_iff.mp (hk.member id hp)
  have hwas : k.isPrimary id = true := by simp [Cluster.isPrimary, hp]
  unfold Cluster.remove
  simp only [hn, hwas, if_true]
  exact ⟨n, _, rfl, rfl, rfl⟩

/-- The primary leaves, and a failover is to begin among those who stay. -/
theorem removeNode_leaves {c : Coordinator} {id : String} (now : Moment) (hk : OnePrimary c.cluster)
    (hp : c.cluster.primary = some id) :
    ∃ gone c', c.cluster.node? id = some gone ∧ c'.settings = c.settings ∧ c'.log = c.log ∧
      OnePrimary c'.cluster ∧ c'.cluster.state = c.cluster.state ∧ c'.cluster.primary = none ∧
      c'.cluster.node? id = none ∧ Coordinator.removeNode now id c =
        Coordinator.beginFailover now (.removal id) (.removal gone) c' := by
  obtain ⟨gone, k', hgone, hr, hnone⟩ := remove_leaves hk hp
  refine ⟨gone, { c with cluster := k' }.updateLevels, hgone, rfl, rfl,
    Cluster.onePrimary_remove hk hr, Cluster.remove_state hr, hnone, Cluster.remove_gone hr, ?_⟩
  unfold Coordinator.removeNode
  simp only [hr, if_true]

theorem removeNode_primary {c : Coordinator} {id : String} (now : Moment) (hk : OnePrimary c.cluster)
    (hp : c.cluster.primary = some id) :
    (Coordinator.removeNode now id c).1.cluster.primary = none := by
  obtain ⟨_, c', _, _, _, _, _, hnone, _, hbegin⟩ := removeNode_leaves now hk hp
  have hsame : c'.cluster.SameMembers (Coordinator.removeNode now id c).1.cluster := by
    rw [hbegin]
    exact Coordinator.beginFailover_members (.refl _)
  exact hsame.primary.trans hnone

theorem unregister_primary {c : Coordinator} {id : String} (now : Moment) (hk : OnePrimary c.cluster)
    (hp : c.cluster.primary = some id) :
    (Order.apply now c (.unregister id)).cluster.primary = none := by
  obtain ⟨_, k', _, hr, hnone⟩ := remove_leaves hk hp
  simp only [Order.apply, hr]
  exact hnone

theorem Step.leave_primary {id : String} (h : Step w m w') (hk : OnePrimary w.cluster)
    (hm : m.leaver? = some id) (hp : w.cluster.primary = some id) : w'.cluster.primary = none := by
  cases h with
  | start now op =>
    cases op with
    | remove =>
      cases hm
      exact removeNode_primary now hk hp
    | heartbeatRound | healthSweep | watch | trigger | promote | acknowledge => cases hm
  | order now o =>
    cases o with
    | unregister =>
      cases hm
      exact unregister_primary now hk hp
    | join | register | maintenance | observe => cases hm
  | resume | drop => cases hm

theorem promoteNode_primary {c : Coordinator} {id : String} (now : Moment)
    (h : c.promotionFault? id = none) :
    (Coordinator.promoteNode now id c).1.cluster.primary = some id := by
  unfold Coordinator.promoteNode Coordinator.announceLast
  rw [h]
  dsimp only
  rw [Coordinator.announce_cluster]
  rfl

/-- Whoever gets the part is the primary afterwards. -/
theorem Step.handed_over {p : Option String} (h : Step w m w') (hk : OnePrimary w.cluster)
    (howned : Owned w) (hvetted : Vetted w) (hm : Handover w m p) : w'.cluster.primary = p := by
  cases hm with
  | claim now ho hasks hnew hnone =>
    cases h with
    | order _ o => exact Order.newcomer_claims (c := w.coordinator) ho hasks hnew hnone
  | leave hm hp => exact h.leave_primary hk hm hp
  | commit hm hs hn ha =>
    obtain ⟨e, hc, htarget⟩ := hm.completes h howned hn ha
    obtain ⟨_, _, _, _, _, htarget', _, hp, _⟩ := h.completed hvetted hc
    rw [hp, ← htarget', htarget]
  | promote now hfault =>
    cases h with
    | start _ op => exact promoteNode_primary now hfault

/-! ## Runs -/

theorem Run.same_primary (hrun : Run w trace w')
    (hkept : ∀ s ∈ trace, ∀ p, ¬ Handover s.1 s.2 p) : w'.cluster.primary = w.cluster.primary := by
  induction hrun with
  | nil => rfl
  | @snoc trace w₁ w₂ m _ hs ih =>
    have hearlier := ih fun s hmem => hkept s (List.mem_append_left _ hmem)
    rcases hs.same_primary_or_handover with hsame | ⟨p, hm⟩
    · exact hsame.trans hearlier
    · exact absurd hm (hkept (w₁, m) (by simp) p)

/-- A recovery has no move that hands the part over. -/
theorem not_handover_of_recovery {p : Option String}
    (hm : m.phase = .recovery ∨ m.phase = .reopening) : ¬ Handover w m p := by
  intro h
  cases h with
  | claim | promote => simp [Move.phase] at hm
  | leave hleaver =>
    cases m with
    | resume => cases hleaver
    | start | drop | order => simp [Move.phase] at hm
  | commit hanswers =>
    obtain ⟨_, _, _, _, _, rfl⟩ := hanswers
    simp [Move.phase, Activity.phase] at hm

/-- However operations overlap and wherever they are dropped: a step changes
the primary and the marks of the members that stay only when it hands the part
over, and then to the node that it names. No section of a recovery does,
whatever has happened to the members since the recovery began. So a primary
keeps its part through every run that does not hand it over. -/
theorem the_part_of_the_primary_changes_hands_openly (h : History trace w) :
    (∀ m w', Step w m w' → (∀ p, ¬ Handover w m p) → SameOwner w.cluster w'.cluster) ∧
    (∀ m w' p, Step w m w' → Handover w m p → w'.cluster.primary = p) ∧
    (∀ m p, m.phase = .recovery ∨ m.phase = .reopening → ¬ Handover w m p) ∧
    (∀ rest w', Run w rest w' → (∀ s ∈ rest, ∀ p, ¬ Handover s.1 s.2 p) →
      SameOwner w.cluster w'.cluster) := by
  have hk := h.onePrimary
  refine ⟨?_, ?_, ?_, ?_⟩
  · intro m w' hs hnot
    rcases hs.same_primary_or_handover with hsame | ⟨p, hm⟩
    · exact sameOwner_of_primary hk (hs.onePrimary hk) hsame
    · exact absurd hm (hnot p)
  · intro m w' p hs hm
    exact hs.handed_over hk h.owned h.vetted hm
  · intro m p hm
    exact not_handover_of_recovery hm
  · intro rest w' hrun hkept
    exact sameOwner_of_primary hk (h.extend hrun).onePrimary (hrun.same_primary hkept)

/-- A failover has gone from one node to another, and the first one is about to
join again. An observer still hears of it when the second one is taken out and
a third one asks for the part. -/
def succession : List Cue :=
  let now := ⟨0, false⟩
  let later := Moment.ofMillis 300000
  [ .order now (.register (Node.well "a" .primary))
  , .order now (.register (Node.well "b" .secondary))
  , .start now (.trigger "drill"), .resume now 0, .resume now 0, .resume now 0
  , .order later .observe
  , .start later .watch
  , .order later (.unregister "b")
  , .order later (.register (Node.well "c" .primary)) ]

theorem the_part_of_the_primary_changes_hands_openly_in_a_succession :
    ∃ trace w, History trace w ∧ w.count .recovery = 1 ∧ w.cluster.primary = some "c" ∧
      (∀ m w', Step w m w' → (∀ p, ¬ Handover w m p) → SameOwner w.cluster w'.cluster) ∧
      (∀ m w' p, Step w m w' → Handover w m p → w'.cluster.primary = p) ∧
      (∀ m p, m.phase = .recovery ∨ m.phase = .reopening → ¬ Handover w m p) ∧
      (∀ rest w', Run w rest w' → (∀ s ∈ rest, ∀ p, ¬ Handover s.1 s.2 p) →
        SameOwner w.cluster w'.cluster) := by
  obtain ⟨trace, h, _⟩ := System.play_history Coordinator.fresh_standard calm succession
  exact ⟨trace, _, h, by decide, by decide, the_part_of_the_primary_changes_hands_openly h⟩

end Failover
