import Mathlib.Data.List.DropRight
import Failover.Proofs.Maintenance
import Failover.Proofs.Refusals
import Failover.Proofs.Strikes

-- What the failure count of a node means. Beside a run stands a record for every
-- node, of its verdicts and of the moments at which it was given a clean slate.
-- The count is the number of failures that the record ends with.

namespace Failover

open Cluster (OnePrimary SameMembers)

/-! ## The record of a node -/

/-- An entry in the record of a node. -/
inductive Mark where
  /-- The node joins, is put into maintenance or taken out of it, becomes the
  primary, or joins again at the end of a recovery. -/
  | clean
  | verdict (status : HealthStatus)
  deriving DecidableEq

def Mark.isFailure : Mark → Bool
  | clean => false
  | verdict status => status.isFailure

/-- The node that joins again when the notices are out. -/
def Activity.rejoins? : Activity → Option String
  | announcing _ [] _ (.rejoin id) | ready (.rejoin id) => some id
  | _ => none

namespace System

/-- The node that a move gives a clean record. -/
def cleared? (w : System) : Move → Option String
  | .order _ (.join spec) => if w.cluster.contains spec.id then none else some spec.id
  | .order _ (.maintenance id _) => if w.cluster.contains id then some id else none
  | .start _ (.promote id) => if (w.coordinator.promotionFault? id).isNone then some id else none
  | .resume _ _ (.connecting _ _ candidate _ _) (some true) =>
    if w.coordinator.canPromote candidate.id then some candidate.id else none
  | .resume _ _ a _ => a.rejoins?
  | _ => none

/-- What the probes of a sweep come to for one node. -/
def findings (w : System) (id : String) (targets : List Node)
    (results : List (ProbeResult Float)) : List (HealthReport Float) :=
  reportsOn id ((targets.map (·.id)).zip
    (results.map (HealthReport.ofResult w.coordinator.settings.thresholds)))

/-- The verdicts that a move brings about a node. There are none about a node
that is absent or in maintenance. -/
def verdicts (w : System) (id : String) : Move → List HealthStatus
  | .resume _ _ (.probing targets) results =>
    if (w.cluster.node? id).any (·.status != .maintenance) then
      (w.findings id targets results).map (·.status)
    else []
  | _ => []

def marks (w : System) (id : String) (m : Move) : List Mark :=
  if w.cleared? m = some id then [.clean] else (w.verdicts id m).map .verdict

end System

def recordOf (id : String) (trace : List (System × Move)) : List Mark :=
  trace.flatMap fun s => s.1.marks id s.2

/-- How many failures stand at the end of a record, with nothing else between
them. -/
def strikes (marks : List Mark) : Nat := (marks.rtakeWhile Mark.isFailure).length

theorem recordOf_snoc (id : String) (trace : List (System × Move)) (s : System × Move) :
    recordOf id (trace ++ [s]) = recordOf id trace ++ s.1.marks id s.2 := by
  simp [recordOf]

theorem strikes_snoc (marks : List Mark) (m : Mark) :
    strikes (marks ++ [m]) = if m.isFailure then strikes marks + 1 else 0 := by
  unfold strikes
  split
  · rename_i hm
    rw [List.rtakeWhile_concat_pos _ _ _ hm, List.length_append, List.length_singleton]
  · rename_i hm
    rw [List.rtakeWhile_concat_neg _ _ _ hm, List.length_nil]

/-! ## One node -/

/-- A verdict leaves failures only where it is one. -/
theorem Node.judged_failing {n : Node} (h : 0 < n.failures → n.status.isFailure = true)
    (r : HealthReport Float) :
    0 < (n.judged r).failures → (n.judged r).status.isFailure = true := by
  unfold judged
  split
  · exact h
  · intro hpos
    by_contra hr
    have hnone : (n.withReport r).failures = 0 := if_neg hr
    rw [hnone] at hpos
    cases hpos

/-- The count is what the record ends with, and while there is any, the last
verdict was a failure. -/
structure Tallied (marks : List Mark) (n : Node) : Prop where
  count : n.failures = min Node.maxFailures (strikes marks)
  failing : 0 < n.failures → n.status.isFailure = true

namespace Tallied

variable {marks : List Mark} {n n' : Node}

theorem clean (h : n.failures = 0) : Tallied (marks ++ [.clean]) n where
  count := by
    rw [h, strikes_snoc]
    rfl
  failing hpos := by
    rw [h] at hpos
    cases hpos

theorem judged (h : Tallied marks n) (hn : n.status ≠ .maintenance) (r : HealthReport Float) :
    Tallied (marks ++ [.verdict r.status]) (n.judged r) := by
  refine ⟨?_, Node.judged_failing h.failing r⟩
  have hcount := h.count
  have hmark : Mark.isFailure (.verdict r.status) = r.status.isFailure := rfl
  have hjudged : (n.judged r).failures =
      if r.status.isFailure then min (n.failures + 1) Node.maxFailures else 0 :=
    congrArg Node.failures (if_neg hn)
  rw [hjudged, strikes_snoc, hmark]
  by_cases hr : r.status.isFailure = true
  · rw [if_pos hr, if_pos hr]
    omega
  · rw [if_neg hr, if_neg hr, Nat.min_zero]

theorem judged_all (h : Tallied marks n) (hn : n.status ≠ .maintenance)
    {reports : List (HealthReport Float)} (hreports : ∀ r ∈ reports, r.status ≠ .maintenance) :
    Tallied (marks ++ (reports.map (·.status)).map .verdict) (reports.foldl Node.judged n) := by
  induction reports generalizing marks n with
  | nil => simpa using h
  | cons r rest ih =>
    have hstatus : (n.judged r).status = r.status := by simp [Node.judged, hn, Node.withReport]
    have hrest := ih (h.judged hn r) (hstatus ▸ hreports r List.mem_cons_self)
      fun x hx => hreports x (List.mem_cons_of_mem _ hx)
    simpa [List.append_assoc] using hrest

end Tallied

/-! ## What leaves the count alone -/

/-- The count is the same, and a failing status is followed by a failing
one. -/
structure Node.SameCount (n n' : Node) : Prop where
  failures : n'.failures = n.failures
  failing : n.status.isFailure = true → n'.status.isFailure = true

theorem Node.SameCount.refl (n : Node) : n.SameCount n := ⟨rfl, fun h => h⟩

theorem Node.SameCount.trans {n n' n'' : Node} (h : n.SameCount n') (h' : n'.SameCount n'') :
    n.SameCount n'' :=
  ⟨h'.failures.trans h.failures, fun hn => h'.failing (h.failing hn)⟩

theorem Tallied.of_sameCount {marks : List Mark} {n n' : Node} (h : Tallied marks n)
    (hsame : n.SameCount n') : Tallied marks n' where
  count := hsame.failures.trans h.count
  failing hpos := hsame.failing (h.failing (hsame.failures ▸ hpos))

namespace Cluster

variable {k k' : Cluster} {id : String}

/-- The member under this id, if there is one, was there before with the same
count. -/
def Counts (id : String) (k k' : Cluster) : Prop :=
  ∀ n', k'.node? id = some n' → ∃ n, k.node? id = some n ∧ n.SameCount n'

theorem Counts.of_eq (h : k'.node? id = k.node? id) : Counts id k k' :=
  fun n' hn' => ⟨n', h ▸ hn', .refl n'⟩

theorem Counts.trans {k'' : Cluster} (h : Counts id k k') (h' : Counts id k' k'') :
    Counts id k k'' := by
  intro n'' hn''
  obtain ⟨n', hn', hsame'⟩ := h' n'' hn''
  obtain ⟨n, hn, hsame⟩ := h n' hn'
  exact ⟨n, hn, hsame.trans hsame'⟩

theorem counts_of_map {f : Node → Node} (h : k'.node? id = (k.node? id).map f)
    (hf : ∀ n, Node.SameCount n (f n)) : Counts id k k' := by
  intro n' hn'
  rw [h] at hn'
  obtain ⟨n, hn, rfl⟩ := Option.map_eq_some_iff.mp hn'
  exact ⟨n, hn, hf n⟩

theorem depose_sameCount (n : Node) : n.SameCount (depose n) := by
  unfold depose
  split
  · exact ⟨rfl, fun h => h⟩
  · exact .refl n

theorem counts_round (k : Cluster) (now : Moment) (answers : List (String × Bool)) (limit : Span)
    (id : String) :
    Counts id k ((k.recordPings now answers).2.scanTimeouts limit now) := by
  have hpings : Counts id k (k.recordPings now answers).2 := by
    refine counts_of_map (node?_recordPings k now answers id) fun n => ?_
    split
    · exact ⟨rfl, fun h => h⟩
    · exact .refl n
  refine hpings.trans (counts_of_map (node?_scanTimeouts _ limit now id) fun n => ?_)
  split
  · exact ⟨rfl, fun _ => rfl⟩
  · exact .refl n

theorem counts_promote {other : String} (named : ∀ id n, k.node? id = some n → n.id = id)
    (hne : id ≠ other) : Counts id k (k.promote other) := by
  intro n' hn'
  rw [node?_promote] at hn'
  obtain ⟨n, hn, rfl⟩ := Option.map_eq_some_iff.mp hn'
  have hother : n.id ≠ other := named id n hn ▸ hne
  refine ⟨n, hn, ?_⟩
  rw [if_neg hother]
  exact depose_sameCount n

theorem counts_remove {other : String} {r : Removal} (h : k.remove other = .ok (r, k')) :
    Counts id k k' := by
  by_cases heq : id = other
  · intro n' hn'
    unfold remove at h
    split at h <;> cases h
    simp [node?, heq] at hn'
  · exact .of_eq ((remove_others h).2.2 id heq)

theorem counts_setMaintenance {other : String} {enabled : Bool}
    (h : k.setMaintenance other enabled = .ok k') (hne : id ≠ other) : Counts id k k' :=
  .of_eq (node?_setMaintenance h hne)

/-- A new member may make others step back. -/
theorem counts_add {n : Node} (named : ∀ id n, k.node? id = some n → n.id = id)
    (h : k.add n = .ok k') (hne : id ≠ n.id) : Counts id k k' := by
  have hinsert : ∀ x : Node, ({ k with nodes := k.nodes.insert n.id x } : Cluster).node? id =
      k.node? id := by
    intro x
    simp [node?, hne]
  unfold add at h
  split at h
  · cases h
  · dsimp only at h
    split at h
    · split at h
      · cases h
        exact .of_eq (hinsert _)
      · cases h
        intro n' hn'
        rw [node?_promote, hinsert] at hn'
        obtain ⟨x, hx, rfl⟩ := Option.map_eq_some_iff.mp hn'
        have hother : x.id ≠ n.id := named id x hx ▸ hne
        refine ⟨x, hx, ?_⟩
        rw [if_neg hother]
        exact depose_sameCount x
    · cases h
      exact .of_eq (hinsert _)

/-! ## What gives a clean record -/

/-- The member under this id has no failures. -/
def Spotless (k : Cluster) (id : String) : Prop := ∀ n, k.node? id = some n → n.failures = 0

theorem spotless_promote (named : ∀ id n, k.node? id = some n → n.id = id) :
    (k.promote id).Spotless id := by
  intro n' hn'
  rw [node?_promote] at hn'
  obtain ⟨n, hn, rfl⟩ := Option.map_eq_some_iff.mp hn'
  rw [if_pos (named id n hn)]
  rfl

theorem spotless_add {n : Node} (hn : n.failures = 0) (h : k.add n = .ok k') :
    k'.Spotless n.id := by
  have hinsert : ∀ x : Node, x.failures = 0 →
      ({ k with nodes := k.nodes.insert n.id x } : Cluster).Spotless n.id := by
    intro x hx n' hn'
    simp only [node?, Table.get?_insert, if_true, Option.some.injEq] at hn'
    exact hn' ▸ hx
  unfold add at h
  split at h
  · cases h
  · dsimp only at h
    split at h
    · split at h
      · cases h
        exact hinsert _ hn
      · cases h
        intro n' hn'
        rw [node?_promote] at hn'
        simp only [node?, Table.get?_insert, if_true, Option.map_some, Option.some.injEq] at hn'
        rw [← hn']
        rfl
    · cases h
      exact hinsert _ hn

theorem spotless_setMaintenance {enabled : Bool} (h : k.setMaintenance id enabled = .ok k') :
    k'.Spotless id := by
  intro n' hn'
  unfold setMaintenance at h
  split at h
  · cases h
    simp only [node?, Table.get?_modify, if_true] at hn'
    obtain ⟨n, _, rfl⟩ := Option.map_eq_some_iff.mp hn'
    rfl
  · cases h

end Cluster

/-! ## One step -/

variable {trace : List (System × Move)} {w w' : System} {m : Move} {id : String}

namespace Coordinator

theorem rejoin_node? (now : Moment) (id other : String) (c : Coordinator) :
    (rejoin now id c).1.cluster.node? other = (c.cluster.node? other).map fun n =>
      if other = id then rejoined (c.cluster.isPrimary id) n else n := by
  obtain ⟨_, _, hannounces⟩ := rejoin_announces now id c
  rw [hannounces.cluster]
  exact Table.get?_modify _ _ _ _

/-- The node joins again in the section that follows the last notice. -/
theorem nextSection_rejoins (now : Moment) {a : Activity} (reply : a.Reply) (c : Coordinator)
    {id : String} (h : a.rejoins? = some id) :
    ∃ c' : Coordinator, c'.cluster = c.cluster ∧ nextSection now a reply c = rejoin now id c' := by
  unfold Activity.rejoins? at h
  split at h
  · cases h
    exact ⟨_, (alike_countHookFailures c _).2, rfl⟩
  · cases h
    exact ⟨c, rfl, rfl⟩
  · cases h

/-- A recovery lets one node join again, or leaves the members alone. -/
theorem nextSection_recovers (now : Moment) {a : Activity} (reply : a.Reply) (c : Coordinator)
    (hp : a.phase = .recovery) :
    (∃ id, a.rejoins? = some id) ∨ (nextSection now a reply c).1.cluster = c.cluster := by
  cases a with
  | pinging | probing | connecting => cases hp
  | ready next =>
    cases next with
    | select | reopen | close => cases hp
    | rejoin id => exact Or.inl ⟨id, rfl⟩
  | announcing hook rest failures next =>
    cases next with
    | select | reopen | close => cases hp
    | rejoin id =>
      cases rest with
      | cons hook' rest => exact Or.inr rfl
      | nil => exact Or.inl ⟨id, rfl⟩

end Coordinator

theorem order_spotless {now : Moment} {o : Order} (hc : w.cleared? (.order now o) = some id) :
    (w.obey now o).cluster.Spotless id := by
  cases o with
  | register | unregister | observe => cases hc
  | join spec =>
    simp only [System.cleared?] at hc
    split at hc
    · cases hc
    · rename_i hnew
      cases hc
      simp only [System.obey, System.cluster, Order.apply, Coordinator.addNode]
      split
      · rename_i k' hadd
        exact Cluster.spotless_add (n := spec.toNode now) rfl hadd
      · rename_i e hadd
        exact absurd (Cluster.add_refused_iff.mp ⟨e, hadd⟩) hnew
  | maintenance id' enabled =>
    simp only [System.cleared?] at hc
    split at hc
    · rename_i hmember
      cases hc
      simp only [System.obey, System.cluster, Order.apply, Coordinator.setMaintenance]
      split
      · rename_i k' hset
        exact Cluster.spotless_setMaintenance hset
      · rename_i e hset
        have habsent := (Cluster.setMaintenance_refused_iff enabled).mp ⟨e, hset⟩
        exact absurd (habsent.symm.trans hmember) Bool.false_ne_true
    · cases hc

theorem start_spotless {now : Moment} {op : Operation} (hk : OnePrimary w.cluster)
    (hc : w.cleared? (.start now op) = some id) : (w.launch now op).cluster.Spotless id := by
  cases op with
  | heartbeatRound | healthSweep | watch | trigger | acknowledge | remove => cases hc
  | promote id' =>
    simp only [System.cleared?] at hc
    split at hc
    · rename_i hfit
      cases hc
      have hcluster : (w.launch now (.promote id)).cluster.nodes = (w.cluster.promote id).nodes := by
        simp only [System.launch, System.turn, System.cluster, Coordinator.firstSection,
          Coordinator.promoteNode, Option.isNone_iff_eq_none.mp hfit, Coordinator.announceLast,
          Coordinator.announce_cluster]
        rfl
      intro n hn
      rw [Cluster.node?, hcluster] at hn
      exact Cluster.spotless_promote hk.named n hn
    · cases hc

theorem resume_spotless {now : Moment} {number : Nat} {before after : List Task} {a : Activity}
    {reply : a.Reply} (hk : OnePrimary w.cluster)
    (hc : w.cleared? (.resume now number a reply) = some id) :
    (w.turn number before after
      (Coordinator.nextSection now a reply w.coordinator)).cluster.Spotless id := by
  by_cases hr : a.rejoins? = some id
  · obtain ⟨c', hcluster, hsection⟩ := Coordinator.nextSection_rejoins now reply w.coordinator hr
    intro n hn
    simp only [System.turn, System.cluster, hsection, Coordinator.rejoin_node?] at hn
    obtain ⟨n', _, rfl⟩ := Option.map_eq_some_iff.mp hn
    simp [Coordinator.rejoined]
  · cases a with
    | pinging | probing => cases hc
    | announcing | ready => exact absurd hc hr
    | connecting a deadline candidate node rest =>
      cases reply with
      | none => exact absurd hc hr
      | some reached =>
        cases reached with
        | false => exact absurd hc hr
        | true =>
          simp only [System.cleared?] at hc
          split at hc
          · rename_i hcan
            cases hc
            obtain ⟨_, _, _, hannounces⟩ := Coordinator.commitPromotion_announces hcan now a
            have hcluster : (w.turn number before after (Coordinator.nextSection now
                (.connecting a deadline candidate node rest) (some true) w.coordinator)).cluster =
                  { w.cluster.promote candidate.id with state := .failoverComplete } :=
              hannounces.cluster
            intro n hn
            rw [hcluster] at hn
            exact Cluster.spotless_promote hk.named n hn
          · cases hc

/-- Who gets a clean record has no failures afterwards. -/
theorem Step.spotless (h : Step w m w') (hk : OnePrimary w.cluster) (hc : w.cleared? m = some id) :
    w'.cluster.Spotless id := by
  cases h with
  | drop => cases hc
  | order => exact order_spotless hc
  | start => exact start_spotless hk hc
  | resume => exact resume_spotless hk hc

/-- A node goes into the registry as it is. -/
def Move.registers : Move → Bool
  | order _ (.register _) => true
  | _ => false

/-- The reports of a sweep come in. -/
def Move.endsSweep : Move → Bool
  | resume _ _ (.probing _) _ => true
  | _ => false

/-- A recovery touches no record but that of the node that joins again. -/
theorem Step.counts_recovery (h : Step w m w') (hp : m.phase = .recovery)
    (hc : w.cleared? m ≠ some id) : Cluster.Counts id w.cluster w'.cluster := by
  cases h with
  | start | drop | order => cases hp
  | resume now before after number a reply =>
    rcases Coordinator.nextSection_recovers now reply w.coordinator hp with ⟨other, hother⟩ | hsame
    · obtain ⟨c', hcluster, hsection⟩ :=
        Coordinator.nextSection_rejoins now reply w.coordinator hother
      have hne : id ≠ other := by
        rintro rfl
        refine hc ?_
        cases a with
        | pinging | probing | connecting => cases hother
        | announcing | ready => exact hother
      refine .of_eq ?_
      simp only [System.turn, System.cluster, hsection, Coordinator.rejoin_node?, if_neg hne,
        hcluster, Option.map_id']
    · exact .of_eq (congrArg (·.node? id) hsame)

/-- Who neither gets a clean record nor is reported on by a sweep keeps its
count. -/
theorem Step.counts (h : Step w m w') (hk : OnePrimary w.cluster)
    (hspec : m.registers = false) (hc : w.cleared? m ≠ some id)
    (hsweep : m.endsSweep = false) : Cluster.Counts id w.cluster w'.cluster := by
  by_cases hp : m.phase = .recovery
  · exact h.counts_recovery hp hc
  obtain ⟨k, haffects, hsame⟩ := h.affects
  suffices hcounts : Cluster.Counts id w.cluster k by
    exact hcounts.trans (.of_eq (hsame.node? id))
  cases haffects with
  | nothing => exact .of_eq rfl
  | round now number targets answers => exact Cluster.counts_round _ _ _ _ _
  | sweep => cases hsweep
  | commit hm hs hn ha =>
    obtain ⟨now, number, deadline, node, rest, rfl⟩ := hm
    refine Cluster.counts_promote hk.named fun heq => hc ?_
    have hcan : w.coordinator.canPromote id = true :=
      Coordinator.canPromote_iff.mpr ⟨hs, _, heq ▸ hn, ha⟩
    simp only [System.cleared?]
    rw [← heq, if_pos hcan]
  | rejoin hm id' => exact absurd hm hp
  | @promote now id' n hs hn ha hh hprimary =>
    refine Cluster.counts_promote hk.named fun heq => hc ?_
    simp only [System.cleared?]
    rw [Coordinator.promotionFault?_of_fit hs hn ha hh hprimary, heq]
    rfl
  | leave hm hr => exact Cluster.counts_remove hr
  | @join now o n k' ho hadd =>
    cases o with
    | unregister | maintenance | observe => cases ho
    | register => cases hspec
    | join spec =>
      cases ho
      refine Cluster.counts_add hk.named hadd fun heq => hc ?_
      have hnew : w.cluster.contains spec.id = false := Cluster.add_new hadd
      simp only [System.cleared?, hnew, heq]
      rfl
  | @maintain now id' enabled k' hset =>
    refine Cluster.counts_setMaintenance hset fun heq => hc ?_
    have hmember : w.cluster.contains id' = true := by
      by_contra habsent
      obtain ⟨e, herror⟩ := (Cluster.setMaintenance_refused_iff enabled).mpr (by simpa using habsent)
      rw [hset] at herror
      cases herror
    simp only [System.cleared?]
    rw [heq, if_pos hmember]

/-- Nothing is marked by a move that neither clears the record nor ends a
sweep. -/
theorem System.marks_of_quiet (hc : w.cleared? m ≠ some id) (hsweep : m.endsSweep = false) :
    w.marks id m = [] := by
  unfold System.marks
  rw [if_neg hc]
  cases m with
  | start | drop | order => rfl
  | resume now number a reply =>
    cases a with
    | probing => cases hsweep
    | pinging | connecting | announcing | ready => rfl

/-- A sweep does nothing to the members but record its reports. -/
theorem Step.sweeps {now : Moment} {number : Nat} {targets : List Node}
    {results : List (ProbeResult Float)}
    (h : Step w (.resume now number (.probing targets) results) w') (id : String) :
    w'.cluster.node? id =
      (w.cluster.node? id).map fun n => (w.findings id targets results).foldl Node.judged n := by
  cases h with
  | resume =>
    have hsame : SameMembers (w.cluster.recordAll ((targets.map (·.id)).zip
        (results.map (HealthReport.ofResult w.coordinator.settings.thresholds)))).2
        (Coordinator.afterProbes now targets results w.coordinator).1.cluster :=
      Coordinator.evaluate_members (.refl _)
    exact (hsame.node? id).trans (Cluster.node?_recordAll _ _ _)

/-- No probe finds a node in maintenance. -/
theorem System.findings_status (w : System) (id : String) (targets : List Node)
    (results : List (ProbeResult Float)) :
    ∀ r ∈ w.findings id targets results, r.status ≠ .maintenance := by
  intro r hr
  obtain ⟨x, hx, rfl⟩ := List.mem_map.mp hr
  obtain ⟨result, _, hresult⟩ := List.mem_map.mp (List.of_mem_zip (List.mem_filter.mp hx).1).2
  rw [← hresult]
  exact HealthReport.status_ne_maintenance _ result

theorem Step.tallied_sweep {marks : List Mark} (h : Step w m w') (hc : w.cleared? m ≠ some id)
    (hsweep : m.endsSweep = true) (hw : ∀ n, w.cluster.node? id = some n → Tallied marks n) :
    ∀ n, w'.cluster.node? id = some n → Tallied (marks ++ w.marks id m) n := by
  rw [System.marks, if_neg hc]
  cases m with
  | start | drop | order => cases hsweep
  | resume now number a reply =>
    cases a with
    | pinging | connecting | announcing | ready => cases hsweep
    | probing targets =>
      intro n' hn'
      rw [h.sweeps] at hn'
      obtain ⟨n, hn, rfl⟩ := Option.map_eq_some_iff.mp hn'
      by_cases hm : n.status = .maintenance
      · rw [Cluster.judged_in_maintenance _ hm]
        simpa [System.verdicts, hn, hm] using hw n hn
      · have hverdicts := (hw n hn).judged_all hm (w.findings_status id targets reply)
        simpa [System.verdicts, hn, hm] using hverdicts

theorem Step.tallied {marks : List Mark} (h : Step w m w') (hk : OnePrimary w.cluster)
    (hspec : m.registers = false)
    (hw : ∀ n, w.cluster.node? id = some n → Tallied marks n) :
    ∀ n, w'.cluster.node? id = some n → Tallied (marks ++ w.marks id m) n := by
  by_cases hc : w.cleared? m = some id
  · intro n' hn'
    rw [System.marks, if_pos hc]
    exact .clean (h.spotless hk hc n' hn')
  cases hsweep : m.endsSweep with
  | true => exact h.tallied_sweep hc hsweep hw
  | false =>
    intro n' hn'
    obtain ⟨n, hn, hsame⟩ := h.counts hk hspec hc hsweep n' hn'
    rw [System.marks_of_quiet hc hsweep, List.append_nil]
    exact (hw n hn).of_sameCount hsame

theorem Cluster.failures_round (k : Cluster) (now : Moment) (answers : List (String × Bool))
    (limit : Span) (id : String) :
    (((k.recordPings now answers).2.scanTimeouts limit now).node? id).map (·.failures) =
      (k.node? id).map (·.failures) := by
  rw [node?_scanTimeouts, node?_recordPings, Option.map_map, Option.map_map]
  congr 1
  funext n
  simp only [Function.comp_apply]
  split <;> split <;> rfl

/-- Pings and the look for silent nodes change no count. -/
theorem Step.round_failures {now : Moment} {number : Nat} {targets : List Node}
    {answers : List Bool} (h : Step w (.resume now number (.pinging targets) answers) w')
    (id : String) :
    (w'.cluster.node? id).map (·.failures) = (w.cluster.node? id).map (·.failures) := by
  obtain ⟨k, haffects, hsame⟩ := h.affects
  rw [hsame.node?]
  cases haffects with
  | nothing hm | leave hm | rejoin hm => cases hm
  | commit hm =>
    obtain ⟨_, _, _, _, _, heq⟩ := hm
    cases heq
  | round => exact Cluster.failures_round _ _ _ _ _

/-! ## Runs -/

/-- Everybody joins by asking to. -/
def BySpec (trace : List (System × Move)) : Prop := ∀ s ∈ trace, s.2.registers = false

theorem History.tallied (h : History trace w) (hspec : BySpec trace) :
    ∀ n, w.cluster.node? id = some n → Tallied (recordOf id trace) n := by
  obtain ⟨c, hc, hrun⟩ := h
  induction hrun with
  | nil =>
    intro n hn
    simp [System.initial, System.cluster, hc.blank.1, Cluster.node?, Cluster.empty] at hn
  | @snoc trace w w' m hrun hs ih =>
    have hlast : m.registers = false := hspec (w, m) (by simp)
    have hearlier := ih fun s hmem => hspec s (List.mem_append_left _ hmem)
    rw [recordOf_snoc]
    exact hs.tallied (History.onePrimary ⟨c, hc, hrun⟩) hlast hearlier

/-- The failure count of a member is the number of failing verdicts that have
been recorded for it since it last joined, had a good verdict, was put into
maintenance or taken out of it, became the primary or joined again after a
recovery, up to the largest count there is. While it is positive, the member is
unhealthy or unknown. The reports of a sweep pass by who is absent or in
maintenance, and rounds of pings change no count. -/
theorem a_failure_count_is_the_failures_in_a_row (h : History trace w) (hspec : BySpec trace) :
    (∀ id n, w.cluster.node? id = some n →
      n.failures = min 4294967295 (strikes (recordOf id trace)) ∧
      (0 < n.failures → n.status = .unhealthy ∨ n.status = .unknown)) ∧
    ∀ now number w',
      (∀ targets results, Step w (.resume now number (.probing targets) results) w' → ∀ id,
        w.cluster.node? id = none ∨ w.cluster.InMaintenance id →
          w'.cluster.node? id = w.cluster.node? id) ∧
      (∀ targets answers, Step w (.resume now number (.pinging targets) answers) w' → ∀ id,
        (w'.cluster.node? id).map (·.failures) = (w.cluster.node? id).map (·.failures)) := by
  refine ⟨fun id n hn => ?_, fun now number w' => ⟨?_, ?_⟩⟩
  · have htallied := h.tallied hspec n hn
    exact ⟨htallied.count, fun hpos => HealthStatus.isFailure_iff.mp (htallied.failing hpos)⟩
  · rintro targets results hs id (habsent | ⟨n, hn, hm⟩)
    · rw [hs.sweeps, habsent]
      rfl
    · rw [hs.sweeps, hn, Option.map_some, Cluster.judged_in_maintenance _ hm]
  · intro targets answers hs id
    exact hs.round_failures id

/-- A node fails a check and is put into maintenance. After that it fails two
more. -/
def faltering : List Cue :=
  [ .order ⟨0, false⟩ (.join { NodeSpec.blank with id := "a" })
  , .start ⟨0, false⟩ .healthSweep
  , .resume ⟨0, false⟩ 0
  , .order ⟨0, false⟩ (.maintenance "a" true)
  , .order ⟨0, false⟩ (.maintenance "a" false)
  , .start ⟨0, false⟩ .healthSweep
  , .resume ⟨0, false⟩ 0
  , .start ⟨0, false⟩ .healthSweep
  , .resume ⟨0, false⟩ 0 ]

/-- Nobody can be reached. -/
def unreached : (a : Activity) → a.Reply
  | .pinging targets => targets.map fun _ => false
  | .probing targets => targets.map fun _ => .unreachable 0.0
  | .connecting .. => some false
  | .announcing .. => true
  | .ready _ => ()

theorem a_failure_count_is_the_failures_in_a_row_of_two :
    ∃ (trace : List (System × Move)) (w : System) (n : Node),
      History trace w ∧ BySpec trace ∧ w.cluster.node? "a" = some n ∧
      recordOf "a" trace = [.clean, .verdict .unhealthy, .clean, .clean, .verdict .unhealthy,
        .verdict .unhealthy] ∧
      n.failures = min 4294967295 (strikes (recordOf "a" trace)) ∧ n.failures = 2 ∧
      (0 < n.failures → n.status = .unhealthy ∨ n.status = .unknown) := by
  have h : History ((System.initial .standard).moves unreached faltering)
      (System.play unreached (.initial .standard) faltering) :=
    ⟨.standard, Coordinator.fresh_standard,
      (System.play_run unreached (.initial .standard) faltering).1⟩
  have hspec : BySpec ((System.initial .standard).moves unreached faltering) := by
    unfold BySpec
    decide +kernel
  obtain ⟨n, hn⟩ : ∃ n, (System.play unreached (.initial .standard) faltering).cluster.node? "a" =
      some n := Option.isSome_iff_exists.mp (by decide +kernel)
  obtain ⟨hcount, hfailing⟩ := (a_failure_count_is_the_failures_in_a_row h hspec).1 "a" n hn
  have hrecord : recordOf "a" ((System.initial .standard).moves unreached faltering) =
      [.clean, .verdict .unhealthy, .clean, .clean, .verdict .unhealthy, .verdict .unhealthy] := by
    decide +kernel
  refine ⟨_, _, n, h, hspec, hn, hrecord, hcount, ?_, hfailing⟩
  rw [hcount, hrecord]
  decide

end Failover
