import Failover.Cluster.Basic
import Failover.Coordinator.Recovery
import Failover.Health.Report
import Failover.Proofs.Tables

-- What operations do to the members of a cluster, and the law of the one
-- primary. Rounds, sweeps and maintenance leave every member its part; the
-- part of the primary changes hands in three operations only.

namespace Failover

/-- The fields of a member that say who is the primary. -/
def Node.part (n : Node) : String × Bool × NodeRole := (n.id, n.primary, n.role)

namespace Cluster

theorem contains_iff {k : Cluster} {id : String} :
    k.contains id = true ↔ ∃ n, k.node? id = some n := by
  unfold contains Table.contains node?
  rw [Option.isSome_iff_exists]

theorem mem_list {k : Cluster} {n : Node} : n ∈ k.list ↔ ∃ id, k.node? id = some n :=
  Table.mem_values

/-! ## Upkeep leaves the parts alone -/

/-- The same members with the same parts, under the same primary and in the
same state. -/
structure SameParts (k k' : Cluster) : Prop where
  primary : k'.primary = k.primary
  state : k'.state = k.state
  lastFailure : k'.lastFailure = k.lastFailure
  part : ∀ id, (k'.node? id).map Node.part = (k.node? id).map Node.part

theorem SameParts.refl (k : Cluster) : SameParts k k := ⟨rfl, rfl, rfl, fun _ => rfl⟩

theorem SameParts.trans {k k' k'' : Cluster} (h : SameParts k k') (h' : SameParts k' k'') :
    SameParts k k'' :=
  ⟨h'.primary.trans h.primary, h'.state.trans h.state, h'.lastFailure.trans h.lastFailure,
    fun id => (h'.part id).trans (h.part id)⟩

/-- A change of the members one by one. -/
theorem SameParts.contains {k k' : Cluster} (h : SameParts k k') (id : String) :
    k'.contains id = k.contains id := by
  have hsome := congrArg Option.isSome (h.part id)
  rwa [Option.isSome_map, Option.isSome_map] at hsome

theorem sameParts_map (k : Cluster) (f : String → Node → Node)
    (hf : ∀ id n, (f id n).part = n.part) : SameParts k { k with nodes := k.nodes.map f } := by
  refine ⟨rfl, rfl, rfl, fun id => ?_⟩
  simp only [node?, Table.get?_map, Option.map_map]
  congr 1
  funext n
  exact hf id n

/-- A change of one member. -/
theorem sameParts_modify (k : Cluster) (id : String) (f : Node → Node)
    (hf : ∀ n, (f n).part = n.part) : SameParts k { k with nodes := k.nodes.modify id f } := by
  refine sameParts_map k _ fun id' n => ?_
  split
  · exact hf n
  · rfl

theorem sameParts_recordHeartbeat (k : Cluster) (id : String) (time : Moment) :
    SameParts k (k.recordHeartbeat id time).2 := by
  unfold recordHeartbeat
  split
  · exact .refl k
  · exact sameParts_modify k id _ fun _ => rfl

theorem sameParts_recordPing (time : Moment) (acc : HeartbeatSummary × Cluster) (id : String)
    (answered : Bool) : SameParts acc.2 (recordPing time acc id answered).2 := by
  unfold recordPing
  dsimp only
  split
  · exact sameParts_recordHeartbeat acc.2 id time
  · exact .refl acc.2

theorem sameParts_recordPings (k : Cluster) (time : Moment) (answers : List (String × Bool)) :
    SameParts k (k.recordPings time answers).2 := by
  unfold recordPings
  generalize hacc : (HeartbeatSummary.zero, k) = acc
  have hk : SameParts k acc.2 := by rw [← hacc]; exact .refl k
  clear hacc
  induction answers generalizing acc with
  | nil => exact hk
  | cons x rest ih => exact ih _ (hk.trans (sameParts_recordPing time acc x.1 x.2))

theorem sameParts_scanTimeouts (k : Cluster) (limit : Span) (now : Moment) :
    SameParts k (k.scanTimeouts limit now) := by
  refine sameParts_map k _ fun id n => ?_
  split <;> rfl

theorem sameParts_record (k : Cluster) (id : String) (r : HealthReport Float) :
    SameParts k (k.record id r).2 := by
  unfold record
  split
  · exact .refl k
  · split
    · exact .refl k
    · exact sameParts_modify k id _ fun _ => rfl

theorem sameParts_recordAll (k : Cluster) (reports : List (String × HealthReport Float)) :
    SameParts k (k.recordAll reports).2 := by
  induction reports generalizing k with
  | nil => exact .refl k
  | cons x rest ih => exact (sameParts_record k x.1 x.2).trans (ih _)

theorem sameParts_setMaintenance {k k' : Cluster} {id : String} {enabled : Bool}
    (h : k.setMaintenance id enabled = .ok k') : SameParts k k' := by
  unfold setMaintenance at h
  split at h
  · cases h
    exact sameParts_modify k id _ fun _ => rfl
  · cases h

/-! ## Members come and go in any state -/

theorem add_state {k k' : Cluster} {n : Node} (h : k.add n = .ok k') : k'.state = k.state := by
  simp only [add] at h
  repeat' split at h
  all_goals cases h
  all_goals rfl

theorem remove_state {k k' : Cluster} {id : String} {r : Removal} (h : k.remove id = .ok (r, k')) :
    k'.state = k.state := by
  unfold remove at h
  split at h <;> cases h
  rfl

theorem add_lastFailure {k k' : Cluster} {n : Node} (h : k.add n = .ok k') :
    k'.lastFailure = k.lastFailure := by
  simp only [add] at h
  repeat' split at h
  all_goals cases h
  all_goals rfl

theorem remove_lastFailure {k k' : Cluster} {id : String} {r : Removal}
    (h : k.remove id = .ok (r, k')) : k'.lastFailure = k.lastFailure := by
  unfold remove at h
  split at h <;> cases h
  rfl

/-! ## The one primary -/

/-- Every member stands under its own id, the primary is a member, and the
three places that say who is the primary agree on each member. -/
structure OnePrimary (k : Cluster) : Prop where
  named : ∀ id n, k.node? id = some n → n.id = id
  member : ∀ id, k.primary = some id → k.contains id = true
  marked : ∀ id n, k.node? id = some n → (n.primary = true ↔ k.primary = some id)
  titled : ∀ id n, k.node? id = some n → (n.role = .primary ↔ k.primary = some id)

theorem OnePrimary.primaryNode?_eq_some {k : Cluster} {n : Node} (h : OnePrimary k)
    (hn : k.primaryNode? = some n) : k.primary = some n.id ∧ k.node? n.id = some n := by
  obtain ⟨id, hid, hnode⟩ := Option.bind_eq_some_iff.mp hn
  rw [h.named id n hnode]
  exact ⟨hid, hnode⟩

theorem OnePrimary.primaryNode?_eq_none {k : Cluster} (h : OnePrimary k)
    (hn : k.primaryNode? = none) : k.primary = none := by
  cases hid : k.primary with
  | none => rfl
  | some id =>
    obtain ⟨n, hnode⟩ := contains_iff.mp (h.member id hid)
    simp [primaryNode?, hid, hnode] at hn

theorem onePrimary_empty : OnePrimary empty :=
  ⟨by simp [node?, empty], by simp [empty], by simp [node?, empty], by simp [node?, empty]⟩

theorem SameParts.onePrimary {k k' : Cluster} (h : SameParts k k') (hk : OnePrimary k) :
    OnePrimary k' := by
  have hnode : ∀ id n', k'.node? id = some n' → ∃ n, k.node? id = some n ∧ n.part = n'.part := by
    intro id n' hn'
    have hpart := h.part id
    rw [hn', Option.map_some] at hpart
    obtain ⟨n, hn, heq⟩ := Option.map_eq_some_iff.mp hpart.symm
    exact ⟨n, hn, heq⟩
  refine ⟨?_, ?_, ?_, ?_⟩
  · intro id n' hn'
    obtain ⟨n, hn, heq⟩ := hnode id n' hn'
    exact (congrArg Prod.fst heq).symm.trans (hk.named id n hn)
  · intro id hid
    obtain ⟨n, hn⟩ := contains_iff.mp (hk.member id (h.primary ▸ hid))
    have hpart := h.part id
    rw [hn, Option.map_some] at hpart
    obtain ⟨n', hn', _⟩ := Option.map_eq_some_iff.mp hpart
    exact contains_iff.mpr ⟨n', hn'⟩
  · intro id n' hn'
    obtain ⟨n, hn, heq⟩ := hnode id n' hn'
    have hmark : n.primary = n'.primary := congrArg (·.2.1) heq
    rw [← hmark, h.primary]
    exact hk.marked id n hn
  · intro id n' hn'
    obtain ⟨n, hn, heq⟩ := hnode id n' hn'
    have hrole : n.role = n'.role := congrArg (·.2.2) heq
    rw [← hrole, h.primary]
    exact hk.titled id n hn

/-- The state and the record of the failure play no part. -/
theorem OnePrimary.restate {k : Cluster} (h : OnePrimary k) (state : ClusterState)
    (lastFailure : Option FailureRecord) : OnePrimary { k with state, lastFailure } :=
  ⟨h.named, h.member, h.marked, h.titled⟩

theorem node?_promote (k : Cluster) (id other : String) :
    (k.promote id).node? other =
      (k.node? other).map fun n => if n.id = id then crown n else depose n := by
  simp [promote, node?]

theorem contains_add {k k' : Cluster} {n : Node} (h : k.add n = .ok k') : k'.contains n.id = true := by
  simp only [add] at h
  repeat' split at h
  all_goals cases h
  all_goals simp [contains, Table.contains, promote]

theorem depose_primary (n : Node) : (depose n).primary = false := by
  unfold depose
  split
  · rfl
  · rename_i h
    simp only [Bool.or_eq_true, not_or] at h
    simpa using h.1

theorem depose_role (n : Node) : (depose n).role ≠ .primary := by
  unfold depose
  split
  · simp
  · rename_i h
    simp only [Bool.or_eq_true, beq_iff_eq, not_or] at h
    exact h.2

/-- A promotion makes the one primary, whoever was marked before. -/
theorem onePrimary_promote {k : Cluster} {id : String} (hid : k.contains id = true)
    (named : ∀ id n, k.node? id = some n → n.id = id) : OnePrimary (k.promote id) := by
  have hnode : ∀ other n', (k.promote id).node? other = some n' →
      ∃ n, n.id = other ∧ n' = if other = id then crown n else depose n := by
    intro other n' hn'
    rw [node?_promote] at hn'
    obtain ⟨n, hn, rfl⟩ := Option.map_eq_some_iff.mp hn'
    have hname := named other n hn
    exact ⟨n, hname, by rw [hname]⟩
  refine ⟨?_, ?_, ?_, ?_⟩
  · intro other n' hn'
    obtain ⟨n, rfl, rfl⟩ := hnode other n' hn'
    split
    · rfl
    · unfold depose
      split <;> rfl
  · intro other hother
    cases hother
    obtain ⟨n, hn⟩ := contains_iff.mp hid
    exact contains_iff.mpr ⟨_, by rw [node?_promote, hn]; rfl⟩
  · intro other n' hn'
    obtain ⟨n, rfl, rfl⟩ := hnode other n' hn'
    split
    · rename_i heq
      simp [crown, promote, heq]
    · rename_i hne
      simp [depose_primary, promote, Ne.symm hne]
  · intro other n' hn'
    obtain ⟨n, rfl, rfl⟩ := hnode other n' hn'
    split
    · rename_i heq
      simp [crown, promote, heq]
    · rename_i hne
      simp [depose_role, promote, Ne.symm hne]

/-- A new member that does not ask for the part of the primary, or does not
get it. -/
theorem onePrimary_insert {k : Cluster} {n : Node} (h : OnePrimary k)
    (hnew : k.contains n.id = false) (hp : n.primary = false) (hr : n.role ≠ .primary) :
    OnePrimary { k with nodes := k.nodes.insert n.id n } := by
  have hnot : k.primary ≠ some n.id := by
    intro hprimary
    rw [h.member _ hprimary] at hnew
    cases hnew
  have hnode : ∀ id n', (k.nodes.insert n.id n).get? id = some n' →
      (id = n.id ∧ n' = n) ∨ k.node? id = some n' := by
    intro id n' hn'
    rw [Table.get?_insert] at hn'
    split at hn'
    · rename_i heq
      cases hn'
      exact Or.inl ⟨heq, rfl⟩
    · exact Or.inr hn'
  refine ⟨?_, ?_, ?_, ?_⟩
  · intro id n' hn'
    rcases hnode id n' hn' with ⟨rfl, rfl⟩ | hold
    · rfl
    · exact h.named id n' hold
  · intro id hid
    obtain ⟨n', hn'⟩ := contains_iff.mp (h.member id hid)
    refine contains_iff.mpr ⟨n', ?_⟩
    have hne : id ≠ n.id := fun heq => hnot (heq ▸ hid)
    simp only [node?, Table.get?_insert, if_neg hne]
    exact hn'
  · intro id n' hn'
    rcases hnode id n' hn' with ⟨rfl, rfl⟩ | hold
    · simp [hp, hnot]
    · exact h.marked id n' hold
  · intro id n' hn'
    rcases hnode id n' hn' with ⟨rfl, rfl⟩ | hold
    · simp [hr, hnot]
    · exact h.titled id n' hold

theorem onePrimary_add {k k' : Cluster} {n : Node} (h : OnePrimary k) (ha : k.add n = .ok k') :
    OnePrimary k' := by
  unfold add at ha
  split at ha
  · cases ha
  · rename_i hnew
    simp only [Bool.not_eq_true] at hnew
    dsimp only at ha
    split at ha
    · split at ha
      · cases ha
        exact onePrimary_insert (n := { n with primary := false, role := .secondary }) h hnew rfl
          (by simp)
      · cases ha
        refine onePrimary_promote (contains_iff.mpr ⟨{ n with primary := false }, ?_⟩) ?_
        · simp [node?]
        · intro id n' hn'
          simp only [node?, Table.get?_insert] at hn'
          split at hn'
          · rename_i heq
            cases hn'
            exact heq.symm
          · exact h.named id n' hn'
    · rename_i hwants
      cases ha
      simp only [Bool.or_eq_true, beq_iff_eq, not_or] at hwants
      exact onePrimary_insert (n := { n with primary := false }) h hnew rfl hwants.1

theorem onePrimary_remove {k k' : Cluster} {id : String} {r : Removal} (h : OnePrimary k)
    (hr : k.remove id = .ok (r, k')) : OnePrimary k' := by
  unfold remove at hr
  split at hr
  · cases hr
  · cases hr
    have hnode : ∀ other n', (k.nodes.erase id).get? other = some n' →
        other ≠ id ∧ k.node? other = some n' := by
      intro other n' hn'
      rw [Table.get?_erase] at hn'
      split at hn'
      · cases hn'
      · exact ⟨‹_›, hn'⟩
    have hprimary : ∀ other, other ≠ id →
        ((if k.isPrimary id then none else k.primary) = some other ↔ k.primary = some other) := by
      intro other hne
      split
      · rename_i hwas
        simp only [isPrimary, beq_iff_eq] at hwas
        simp [hwas, Ne.symm hne]
      · rfl
    refine ⟨?_, ?_, ?_, ?_⟩
    · intro other n' hn'
      exact h.named other n' (hnode other n' hn').2
    · intro other hother
      have hne : other ≠ id := by
        rintro rfl
        simp only [isPrimary, beq_iff_eq] at hother
        split at hother
        · cases hother
        · rename_i hnot
          exact hnot hother
      obtain ⟨n', hn'⟩ := contains_iff.mp (h.member other ((hprimary other hne).mp hother))
      refine contains_iff.mpr ⟨n', ?_⟩
      simp only [node?, Table.get?_erase, if_neg hne]
      exact hn'
    · intro other n' hn'
      obtain ⟨hne, hold⟩ := hnode other n' hn'
      exact (h.marked other n' hold).trans (hprimary other hne).symm
    · intro other n' hn'
      obtain ⟨hne, hold⟩ := hnode other n' hn'
      exact (h.titled other n' hold).trans (hprimary other hne).symm

/-- A node that joins again keeps the part that it has. -/
theorem onePrimary_rejoin {k : Cluster} (h : OnePrimary k) (id : String) :
    OnePrimary { k with nodes := k.nodes.modify id (Coordinator.rejoined (k.isPrimary id)) } := by
  have hnode : ∀ other n', (k.nodes.modify id (Coordinator.rejoined (k.isPrimary id))).get? other =
      some n' → ∃ n, k.node? other = some n ∧ n'.id = n.id ∧
        (other = id → n'.primary = k.isPrimary id ∧
          n'.role = if k.isPrimary id then .primary else .secondary) ∧
        (other ≠ id → n' = n) := by
    intro other n' hn'
    rw [Table.get?_modify] at hn'
    obtain ⟨n, hn, rfl⟩ := Option.map_eq_some_iff.mp hn'
    refine ⟨n, hn, ?_, ?_, ?_⟩
    · split <;> rfl
    · intro heq
      simp [heq, Coordinator.rejoined]
    · intro hne
      simp [hne]
  refine ⟨?_, ?_, ?_, ?_⟩
  · intro other n' hn'
    obtain ⟨n, hn, hid, _⟩ := hnode other n' hn'
    exact hid.trans (h.named other n hn)
  · intro other hother
    obtain ⟨n, hn⟩ := contains_iff.mp (h.member other hother)
    exact contains_iff.mpr ⟨_, by simp only [node?, Table.get?_modify]; rw [← node?, hn]; rfl⟩
  · intro other n' hn'
    obtain ⟨n, hn, _, hself, hrest⟩ := hnode other n' hn'
    by_cases heq : other = id
    · rw [(hself heq).1, heq]
      simp [isPrimary]
    · rw [hrest heq]
      exact h.marked other n hn
  · intro other n' hn'
    obtain ⟨n, hn, _, hself, hrest⟩ := hnode other n' hn'
    by_cases heq : other = id
    · rw [(hself heq).2, heq]
      by_cases hp : k.isPrimary id = true
      · simp only [hp, if_true, true_iff]
        simpa [isPrimary] using hp
      · simp only [hp, if_false, Bool.false_eq_true]
        simpa [isPrimary] using hp
    · rw [hrest heq]
      exact h.titled other n hn

theorem length_le_one {ids : List String} (h : ids.Nodup) {p : Option String}
    (hall : ∀ id ∈ ids, p = some id) : ids.length ≤ 1 := by
  rcases ids with _ | ⟨a, _ | ⟨b, rest⟩⟩
  · simp
  · simp
  · have ha := hall a (by simp)
    have hb := hall b (by simp)
    have hab : a = b := Option.some.inj (ha.symm.trans hb)
    simp [hab] at h

/-- The ids of the members are the names that they stand under. -/
theorem ids_self {k : Cluster} (named : ∀ id n, k.node? id = some n → n.id = id) :
    k.list.map (·.id) = k.nodes.names := by
  simp only [list, Table.values, Table.names, List.map_map]
  apply List.map_congr_left
  intro e he
  exact named e.1 e.2 (Table.get?_eq_some_iff.mpr he)

theorem OnePrimary.ids {k : Cluster} (h : OnePrimary k) : k.list.map (·.id) = k.nodes.names :=
  ids_self h.named

/-- A member is found under its id. -/
theorem node?_self {k : Cluster} (named : ∀ id n, k.node? id = some n → n.id = id) {n : Node}
    (hn : n ∈ k.list) : k.node? n.id = some n := by
  obtain ⟨id, hid⟩ := mem_list.mp hn
  rw [named id n hid]
  exact hid

/-- No other member has the id. -/
theorem find?_self {k : Cluster} (named : ∀ id n, k.node? id = some n → n.id = id) {n : Node}
    (hn : n ∈ k.list) : k.list.find? (·.id == n.id) = some n := by
  cases hfind : k.list.find? (·.id == n.id) with
  | none => exact absurd (List.find?_eq_none.mp hfind n hn) (by simp)
  | some n' =>
    have hid : n'.id = n.id := by simpa using List.find?_some hfind
    have hn' := node?_self named (List.mem_of_find?_eq_some hfind)
    rw [hid, node?_self named hn] at hn'
    exact hn'.symm

theorem OnePrimary.node?_id {k : Cluster} (h : OnePrimary k) {n : Node} (hn : n ∈ k.list) :
    k.node? n.id = some n := node?_self h.named hn

theorem OnePrimary.find?_id {k : Cluster} (h : OnePrimary k) {n : Node} (hn : n ∈ k.list) :
    k.list.find? (·.id == n.id) = some n := find?_self h.named hn

theorem OnePrimary.count_le_one {k : Cluster} (h : OnePrimary k) : k.primaryCount ≤ 1 := by
  have hnodup : ((k.list.filter (·.primary)).map (·.id)).Nodup := by
    refine List.Nodup.sublist (List.filter_sublist.map _) ?_
    rw [h.ids]
    exact k.nodes.names_nodup
  have hall : ∀ id ∈ (k.list.filter (·.primary)).map (·.id), k.primary = some id := by
    intro id hid
    obtain ⟨n, hn, rfl⟩ := List.mem_map.mp hid
    obtain ⟨hmem, hp⟩ := List.mem_filter.mp hn
    obtain ⟨name, hname⟩ := mem_list.mp hmem
    rw [h.named name n hname]
    exact (h.marked name n hname).mp hp
  simpa [primaryCount] using length_le_one hnodup hall

end Cluster

end Failover
