import Failover.Proofs.Members

-- Rankings: who stands in one.

namespace Failover

/-! ## Sorting by any order -/

section Sorting

variable {α β : Type} {before : α → α → Bool}

/-- Puts an element into a list that stands last first: before those at the end
that it precedes. -/
def enterBy (before : α → α → Bool) (c : α) : List α → List α
  | [] => [c]
  | last :: rest => if before c last then last :: enterBy before c rest else c :: last :: rest

def sortBy (before : α → α → Bool) (cs : List α) : List α :=
  (cs.foldl (fun sorted c => enterBy before c sorted) []).reverse

theorem perm_enterBy (c : α) (cs : List α) : (enterBy before c cs).Perm (c :: cs) := by
  induction cs with
  | nil => exact .refl _
  | cons last rest ih =>
    unfold enterBy
    split
    · exact (ih.cons last).trans (.swap c last rest)
    · exact .refl _

/-- Nothing is lost, and nothing is new. -/
theorem perm_sortBy (cs : List α) : (sortBy before cs).Perm cs := by
  have hfold : ∀ sorted : List α,
      (cs.foldl (fun sorted c => enterBy before c sorted) sorted).Perm (cs ++ sorted) := by
    induction cs with
    | nil => exact fun _ => .refl _
    | cons c cs ih =>
      intro sorted
      rw [List.foldl_cons]
      have hstep : (enterBy before c sorted).Perm (c :: sorted) := perm_enterBy c sorted
      exact (ih _).trans ((hstep.append_left cs).trans List.perm_middle)
  exact (List.reverse_perm _).trans (by simpa using hfold [])

/-- What is renamed without a change of the order is sorted as before. -/
theorem map_sortBy {before' : β → β → Bool} {f : α → β}
    (hsame : ∀ x y, before' (f x) (f y) = before x y) (cs : List α) :
    (sortBy before cs).map f = sortBy before' (cs.map f) := by
  have henter : ∀ c sorted,
      (enterBy before c sorted).map f = enterBy before' (f c) (sorted.map f) := by
    intro c sorted
    induction sorted with
    | nil => rfl
    | cons last rest ih =>
      rw [enterBy, List.map_cons, enterBy, hsame]
      split
      · rw [List.map_cons, ih]
      · rfl
  have hfold : ∀ sorted : List α, (cs.foldl (fun sorted c => enterBy before c sorted) sorted).map f =
      (cs.map f).foldl (fun sorted c => enterBy before' c sorted) (sorted.map f) := by
    induction cs with
    | nil => exact fun _ => rfl
    | cons c cs ih =>
      intro sorted
      rw [List.foldl_cons, ih, henter]
      rfl
  rw [sortBy, List.map_reverse, hfold]
  rfl

variable {R : α → α → Prop}

theorem sorted_enterBy (hbefore : ∀ x y, before x y = true → R x y)
    (hafter : ∀ x y, ¬ before x y = true → R y x) (htrans : ∀ x y z, R x y → R y z → R x z)
    {c : α} {cs : List α} (h : cs.Pairwise fun x y => R y x) :
    (enterBy before c cs).Pairwise fun x y => R y x := by
  induction cs with
  | nil => exact List.pairwise_singleton _ _
  | cons last rest ih =>
    obtain ⟨hlast, hrest⟩ := List.pairwise_cons.mp h
    unfold enterBy
    split
    · rename_i hc
      refine List.pairwise_cons.mpr ⟨fun x hx => ?_, ih hrest⟩
      rcases List.mem_cons.mp ((perm_enterBy c rest).mem_iff.mp hx) with rfl | hx
      · exact hbefore _ _ hc
      · exact hlast x hx
    · rename_i hc
      have hl := hafter c last hc
      refine List.pairwise_cons.mpr ⟨fun x hx => ?_, h⟩
      rcases List.mem_cons.mp hx with rfl | hx
      · exact hl
      · exact htrans _ _ _ (hlast x hx) hl

/-- Of any two, the one that is placed first may stand first. -/
theorem sorted_sortBy (hbefore : ∀ x y, before x y = true → R x y)
    (hafter : ∀ x y, ¬ before x y = true → R y x) (htrans : ∀ x y z, R x y → R y z → R x z)
    (cs : List α) : (sortBy before cs).Pairwise R := by
  have hfold : ∀ sorted : List α, sorted.Pairwise (fun x y => R y x) →
      (cs.foldl (fun sorted c => enterBy before c sorted) sorted).Pairwise fun x y => R y x := by
    induction cs with
    | nil => exact fun _ h => h
    | cons c cs ih => exact fun sorted h => ih _ (sorted_enterBy hbefore hafter htrans h)
  rw [sortBy, List.pairwise_reverse]
  exact hfold [] List.Pairwise.nil

end Sorting

namespace Candidate

theorem enter_eq (c : Candidate) (cs : List Candidate) : c.enter cs = enterBy precedes c cs := by
  induction cs with
  | nil => rfl
  | cons last rest ih => rw [enter, enterBy, ih]

theorem sort_eq (cs : List Candidate) : sort cs = sortBy precedes cs := by
  have hsame : enter = enterBy precedes := funext fun c => funext (enter_eq c)
  rw [sort, sortBy, hsame]

theorem perm_enter (c : Candidate) (cs : List Candidate) : (c.enter cs).Perm (c :: cs) := by
  rw [enter_eq]
  exact perm_enterBy c cs

/-- Everybody stands in the ranking, and nobody else. -/
theorem perm_sort (cs : List Candidate) : (sort cs).Perm cs := by
  rw [sort_eq]
  exact perm_sortBy cs

theorem mem_rank {w : PriorityWeights Float} {nodes : List Node} {failing : Option String}
    {c : Candidate} :
    c ∈ rank w nodes failing ↔
      ∃ n ∈ nodes, n.isEligible failing = true ∧ n.candidate w = c := by
  unfold rank
  rw [(perm_sort _).mem_iff, List.mem_map]
  simp only [List.mem_filter, and_assoc]

end Candidate

/-- A false alarm, too few members, or a ranking. -/
theorem Selection.of_cases (s : FailoverSettings) (nodes : List Node) (a : Attempt) :
    (isFalseAlarm nodes a = true ∧ Selection.of s nodes a = .falseAlarm) ∨
      (isFalseAlarm nodes a = false ∧
        (s.enforceQuorum = true ∧ reachableMembers nodes a.failing < s.quorumSize) ∧
        Selection.of s nodes a =
          .failed (.quorumNotReached s.quorumSize (reachableMembers nodes a.failing))) ∨
      (isFalseAlarm nodes a = false ∧
        ¬ (s.enforceQuorum = true ∧ reachableMembers nodes a.failing < s.quorumSize) ∧
        ∃ ranked, Selection.of s nodes a = .candidates ranked) := by
  unfold of
  dsimp only
  split
  · rename_i h
    exact Or.inl ⟨h, rfl⟩
  · rename_i h
    rw [Bool.not_eq_true] at h
    split
    · rename_i hquorum
      exact Or.inr (Or.inl ⟨h, by simpa using hquorum, rfl⟩)
    · rename_i hquorum
      exact Or.inr (Or.inr ⟨h, by simpa using hquorum, _, rfl⟩)

/-- An eligible node that is found under its id is to be tried. -/
theorem Selection.mem_candidates {s : FailoverSettings} {nodes : List Node} {a : Attempt} {n : Node}
    {ranked : List (Candidate × Node)} (h : Selection.of s nodes a = .candidates ranked)
    (hn : n ∈ nodes) (he : n.isEligible a.failing = true)
    (hfind : nodes.find? (·.id == n.id) = some n) : (n.candidate s.weights, n) ∈ ranked := by
  have hrank : n.candidate s.weights ∈ Candidate.rank s.weights nodes a.failing :=
    Candidate.mem_rank.mpr ⟨n, hn, he, rfl⟩
  unfold Selection.of at h
  dsimp only at h
  split at h
  · cases h
  · split at h
    · cases h
    · cases h
      refine List.mem_filterMap.mpr ⟨_, hrank, ?_⟩
      rw [show (n.candidate s.weights).id = n.id from rfl, hfind]
      rfl

/-- When the cause of the failover is not doubted and the members are enough,
candidates are ranked. -/
theorem Selection.exists_candidates {s : FailoverSettings} {nodes : List Node} {a : Attempt}
    (hsure : a.trigger.mayBeFalseAlarm = false)
    (hquorum : s.enforceQuorum = true → s.quorumSize ≤ reachableMembers nodes a.failing) :
    ∃ ranked, Selection.of s nodes a = .candidates ranked := by
  have hnoalarm : isFalseAlarm nodes a = false := by simp [isFalseAlarm, hsure]
  have henough : ¬ (s.enforceQuorum && reachableMembers nodes a.failing < s.quorumSize) = true := by
    simp only [Bool.and_eq_true, decide_eq_true_eq, not_and, Nat.not_lt]
    exact hquorum
  unfold Selection.of
  simp only [hnoalarm, henough, if_false, Bool.false_eq_true]
  exact ⟨_, rfl⟩

/-- Candidates are eligible when they are chosen. -/
theorem Selection.eligible {s : FailoverSettings} {nodes : List Node} {a : Attempt}
    {ranked : List (Candidate × Node)} (h : Selection.of s nodes a = .candidates ranked) :
    ∀ x ∈ ranked, ∃ n ∈ nodes, n.isEligible a.failing = true ∧ n.id = x.1.id := by
  intro x hx
  unfold Selection.of at h
  dsimp only at h
  split at h
  · cases h
  · split at h
    · cases h
    · cases h
      obtain ⟨c, hc, hnode⟩ := List.mem_filterMap.mp hx
      obtain ⟨node, _, rfl⟩ := Option.map_eq_some_iff.mp hnode
      obtain ⟨n, hn, he, rfl⟩ := Candidate.mem_rank.mp hc
      exact ⟨n, hn, he, rfl⟩

/-- The eligible nodes in the order in which they are asked. -/
def Candidate.ranking (w : PriorityWeights Float) (nodes : List Node) (failing : Option String) :
    List Node :=
  (rank w nodes failing).filterMap fun candidate => nodes.find? (·.id == candidate.id)

namespace Selection

variable {s : FailoverSettings} {a : Attempt} {ranked : List (Candidate × Node)}

theorem isFalseAlarm_iff {k : Cluster} (named : ∀ id n, k.node? id = some n → n.id = id) :
    isFalseAlarm k.list a = true ↔ a.trigger.mayBeFalseAlarm = true ∧
      ∃ n ∈ k.list, a.failing = some n.id ∧ n.active = true ∧ n.status = .healthy := by
  unfold isFalseAlarm
  rw [Bool.and_eq_true]
  refine and_congr_right fun _ => ?_
  constructor
  · intro h
    split at h
    · rename_i n hn
      obtain ⟨id, hid, hfind⟩ := Option.bind_eq_some_iff.mp hn
      have hname : n.id = id := by simpa using List.find?_some hfind
      rw [Bool.and_eq_true, Node.isHealthy, beq_iff_eq] at h
      exact ⟨n, List.mem_of_find?_eq_some hfind, by rw [hid, hname], h⟩
    · cases h
  · rintro ⟨n, hn, hid, hactive, hhealthy⟩
    simp [hid, Cluster.find?_self named hn, hactive, Node.isHealthy, hhealthy]

/-- A candidate is found among the members as the node that it was made
from. -/
theorem find?_rank {k : Cluster} (named : ∀ id n, k.node? id = some n → n.id = id)
    {w : PriorityWeights Float} {failing : Option String} {candidate : Candidate} {x : Node}
    (hrank : candidate ∈ Candidate.rank w k.list failing)
    (hx : k.list.find? (·.id == candidate.id) = some x) :
    x ∈ k.list ∧ x.isEligible failing = true ∧ candidate = x.candidate w := by
  obtain ⟨m, hm, heligible, rfl⟩ := Candidate.mem_rank.mp hrank
  rw [show (m.candidate w).id = m.id from rfl, Cluster.find?_self named hm] at hx
  cases hx
  exact ⟨hm, heligible, rfl⟩

theorem mem_ranking {k : Cluster} (named : ∀ id n, k.node? id = some n → n.id = id)
    {w : PriorityWeights Float} {failing : Option String} {x : Node}
    (h : x ∈ Candidate.ranking w k.list failing) : x ∈ k.list ∧ x.isEligible failing = true := by
  obtain ⟨candidate, hrank, hx⟩ := List.mem_filterMap.mp h
  obtain ⟨hmem, heligible, _⟩ := find?_rank named hrank hx
  exact ⟨hmem, heligible⟩

/-- Each of the candidates stands beside its own node. -/
theorem candidates_ranking {k : Cluster} (named : ∀ id n, k.node? id = some n → n.id = id)
    (h : of s k.list a = .candidates ranked) :
    ranked.map (·.2) = Candidate.ranking s.weights k.list a.failing ∧
      ∀ x ∈ ranked, x.1 = x.2.candidate s.weights := by
  unfold of at h
  dsimp only at h
  split at h
  · cases h
  · split at h
    · cases h
    · cases h
      refine ⟨?_, ?_⟩
      · rw [Candidate.ranking, List.map_filterMap]
        congr 1
        funext candidate
        cases k.list.find? (·.id == candidate.id) <;> rfl
      · intro x hx
        obtain ⟨candidate, hrank, hnode⟩ := List.mem_filterMap.mp hx
        obtain ⟨n, hn, rfl⟩ := Option.map_eq_some_iff.mp hnode
        exact (find?_rank named hrank hn).2.2

end Selection

end Failover
