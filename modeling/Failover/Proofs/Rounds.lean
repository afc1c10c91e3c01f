import Failover.Proofs.Members

-- What becomes of one member: look-ups after rounds of pings, sweeps,
-- maintenance, joins and leaves.

namespace Failover

/-- The member has answered a ping. -/
def Node.heardAt (time : Moment) (n : Node) : Node := { n with lastHeartbeat := time, active := true }

/-- The member has not been heard of for too long. -/
def Node.timedOut (n : Node) : Node := { n with active := false, status := .unhealthy, score := 0.0 }

/-- The report of a probe of the member is in. -/
def Node.judged (n : Node) (r : HealthReport Float) : Node :=
  if n.status = .maintenance then n else n.withReport r

/-- Where a member is to be reached, and what is known of it. -/
def Node.standing (n : Node) : String × Nat × HealthStatus × Bool :=
  (n.address, n.port, n.status, n.active)

/-- Something about members that does not hang on their parts, nor on how often
they have failed. -/
def Node.Partless {β : Type} (view : Node → β) : Prop :=
  ∀ n primary role failures, view { n with primary, role, failures } = view n

theorem Node.partless_standing : Node.Partless Node.standing := fun _ _ _ _ => rfl

/-- What a sweep reports about one member. -/
def reportsOn (id : String) (reports : List (String × HealthReport Float)) :
    List (HealthReport Float) :=
  (reports.filter (·.1 = id)).map (·.2)

theorem FailoverSettings.heartbeatTimeout_nonneg (s : FailoverSettings) : 0 ≤ s.heartbeatTimeout :=
  Int.mul_nonneg (Int.natCast_nonneg _) (by decide)

namespace Cluster

/-! ## Rounds of pings -/

theorem node?_recordHeartbeat (k : Cluster) (id other : String) (time : Moment) :
    (k.recordHeartbeat id time).2.node? other =
      (k.node? other).map fun n => if other = id then n.heardAt time else n := by
  unfold recordHeartbeat
  split
  · rename_i hn
    by_cases heq : other = id
    · simp [heq, hn]
    · simp [heq]
  · simp only [node?, Table.get?_modify]
    rfl

/-- A member that has answered once in a round has answered. -/
theorem node?_recordPings (k : Cluster) (time : Moment) (answers : List (String × Bool))
    (id : String) :
    (k.recordPings time answers).2.node? id =
      (k.node? id).map fun n => if (id, true) ∈ answers then n.heardAt time else n := by
  unfold recordPings
  generalize HeartbeatSummary.zero = summary
  induction answers generalizing summary k with
  | nil => simp
  | cons x rest ih =>
    obtain ⟨other, answered⟩ := x
    simp only [List.foldl_cons]
    cases answered with
    | false =>
      have hstep : recordPing time (summary, k) other false =
          ({ summary with failed := summary.failed + 1 }, k) := rfl
      rw [hstep, ih]
      simp
    | true =>
      have hstep : (recordPing time (summary, k) other true).2 = (k.recordHeartbeat other time).2 :=
        rfl
      rw [← Prod.eta (recordPing time (summary, k) other true), hstep, ih, node?_recordHeartbeat,
        Option.map_map]
      congr 1
      funext n
      by_cases heq : id = other <;> by_cases hmem : (id, true) ∈ rest <;>
        simp [heq, Node.heardAt]

theorem node?_scanTimeouts (k : Cluster) (limit : Span) (now : Moment) (id : String) :
    (k.scanTimeouts limit now).node? id =
      (k.node? id).map fun n => if isSilent limit now n then n.timedOut else n := by
  simp [scanTimeouts, node?, Node.timedOut]

/-- Who has just been heard of is not silent. -/
theorem isSilent_heardAt {limit : Span} (h : 0 ≤ limit) (now : Moment) (n : Node) :
    isSilent limit now (n.heardAt now) = false := by
  have hzero : now.since now = 0 := Int.sub_self _
  simp [isSilent, Node.heardAt, hzero, h]

/-- A silence is that of a member, which is not active afterwards. -/
theorem silences_inactive {k : Cluster} {limit : Span} {now : Moment} {s : Silence}
    (hk : OnePrimary k) (h : s ∈ k.silences limit now) :
    (s.wasPrimary = true → k.primary = some s.node) ∧
      ∃ n, (k.scanTimeouts limit now).node? s.node = some n ∧ n.active = false := by
  obtain ⟨n, hmem, rfl⟩ := List.mem_map.mp h
  obtain ⟨hlist, hsilent⟩ := List.mem_filter.mp hmem
  obtain ⟨id, hid⟩ := mem_list.mp hlist
  have hname : n.id = id := hk.named id n hid
  rw [← hname] at hid
  refine ⟨fun hp => by simpa [isPrimary] using hp, n.timedOut, ?_, rfl⟩
  rw [node?_scanTimeouts, hid, Option.map_some, if_pos hsilent]

/-! ## Sweeps -/

theorem node?_record (k : Cluster) (id other : String) (r : HealthReport Float) :
    (k.record id r).2.node? other =
      (k.node? other).map fun n => if other = id then n.judged r else n := by
  unfold record
  split
  · rename_i hn
    by_cases heq : other = id
    · simp [heq, hn]
    · simp [heq]
  · rename_i n hn
    split
    · rename_i hm
      by_cases heq : other = id
      · simp [heq, hn, Node.judged, beq_iff_eq.mp hm]
      · simp [heq]
    · rename_i hm
      simp only [node?, Table.get?_modify]
      by_cases heq : other = id
      · have hget : k.nodes.get? id = some n := hn
        have hne : n.status ≠ .maintenance := by simpa using hm
        simp [heq, hget, Node.judged, hne]
      · simp [heq]

/-- The reports about a member reach it in their order. -/
theorem node?_recordAll (k : Cluster) (reports : List (String × HealthReport Float)) (id : String) :
    (k.recordAll reports).2.node? id =
      (k.node? id).map fun n => (reportsOn id reports).foldl Node.judged n := by
  induction reports generalizing k with
  | nil => simp [recordAll, reportsOn]
  | cons x rest ih =>
    obtain ⟨other, r⟩ := x
    have hstep : (k.recordAll ((other, r) :: rest)).2 = ((k.record other r).2.recordAll rest).2 := rfl
    rw [hstep, ih, node?_record, Option.map_map]
    congr 1
    funext n
    by_cases heq : other = id
    · simp [reportsOn, heq]
    · simp [reportsOn, heq, Ne.symm heq]

/-! ## Promotions and recoveries -/

variable {β : Type} {view : Node → β}

theorem view_promote (hview : Node.Partless view) (k : Cluster) (id other : String) :
    ((k.promote id).node? other).map view = (k.node? other).map view := by
  rw [node?_promote, Option.map_map]
  congr 1
  funext n
  by_cases heq : n.id = id
  · simp only [Function.comp_apply, if_pos heq]
    exact hview n _ _ _
  · simp only [Function.comp_apply, if_neg heq]
    unfold depose
    split
    · exact hview n _ _ _
    · rfl

theorem view_rejoin (hview : Node.Partless view) (k : Cluster) (id other : String)
    (primary : Bool) :
    ((k.nodes.modify id (Coordinator.rejoined primary)).get? other).map view =
      (k.node? other).map view := by
  rw [Table.get?_modify, Option.map_map]
  congr 1
  funext n
  by_cases heq : other = id
  · simp only [Function.comp_apply, if_pos heq]
    exact hview n _ _ _
  · simp only [Function.comp_apply, if_neg heq]

theorem standing_promote (k : Cluster) (id other : String) :
    ((k.promote id).node? other).map Node.standing = (k.node? other).map Node.standing :=
  view_promote Node.partless_standing k id other

theorem standing_rejoin (k : Cluster) (id other : String) (primary : Bool) :
    ((k.nodes.modify id (Coordinator.rejoined primary)).get? other).map Node.standing =
      (k.node? other).map Node.standing :=
  view_rejoin Node.partless_standing k id other primary

/-! ## Maintenance, joins and leaves -/

theorem node?_setMaintenance {k k' : Cluster} {id other : String} {enabled : Bool}
    (h : k.setMaintenance id enabled = .ok k') (hne : other ≠ id) :
    k'.node? other = k.node? other := by
  unfold setMaintenance at h
  split at h
  · cases h
    simp [node?, Table.get?_modify, hne]
  · cases h

/-- While there is a primary, a new member changes nothing but its own
place. -/
theorem add_beside {k k' : Cluster} {n : Node} {id : String} (h : k.add n = .ok k')
    (hp : k.primary = some id) :
    k.contains n.id = false ∧ k'.primary = k.primary ∧
      ∀ other, other ≠ n.id → k'.node? other = k.node? other := by
  unfold add at h
  split at h
  · cases h
  · rename_i hnew
    refine ⟨by simpa using hnew, ?_⟩
    simp only [hp] at h
    split at h <;> cases h
    all_goals exact ⟨hp.symm, fun other hne => by simp [node?, hne]⟩

theorem add_new {k k' : Cluster} {n : Node} (h : k.add n = .ok k') : k.contains n.id = false := by
  unfold add at h
  split at h
  · cases h
  · rename_i hnew
    simpa using hnew

/-- A new member may get the part of the primary at once. -/
theorem view_add (hview : Node.Partless view) {k k' : Cluster} {n : Node} (h : k.add n = .ok k')
    (id : String) :
    (k'.node? id).map view = if id = n.id then some (view n) else (k.node? id).map view := by
  have hinsert : ∀ n' : Node, view n' = view n →
      ((k.nodes.insert n.id n').get? id).map view =
        if id = n.id then some (view n) else (k.node? id).map view := by
    intro n' hn'
    rw [Table.get?_insert]
    split
    · rw [Option.map_some, hn']
    · rfl
  unfold add at h
  split at h
  · cases h
  · dsimp only at h
    split at h
    · split at h
      · cases h
        exact hinsert _ (hview n _ _ _)
      · cases h
        rw [view_promote hview]
        exact hinsert _ (hview n _ _ _)
    · cases h
      exact hinsert _ (hview n _ _ _)

theorem standing_add {k k' : Cluster} {n : Node} (h : k.add n = .ok k') (id : String) :
    (k'.node? id).map Node.standing =
      if id = n.id then some n.standing else (k.node? id).map Node.standing :=
  view_add Node.partless_standing h id

theorem remove_others {k k' : Cluster} {id : String} {r : Removal}
    (h : k.remove id = .ok (r, k')) :
    r.wasPrimary = k.isPrimary id ∧ k'.primary = (if k.isPrimary id then none else k.primary) ∧
      ∀ other, other ≠ id → k'.node? other = k.node? other := by
  unfold remove at h
  split at h <;> cases h
  exact ⟨rfl, rfl, fun other hne => by simp [node?, hne]⟩

theorem remove_gone {k k' : Cluster} {id : String} {r : Removal} (h : k.remove id = .ok (r, k')) :
    k'.node? id = none := by
  unfold remove at h
  split at h <;> cases h
  simp [node?]

end Cluster

end Failover
