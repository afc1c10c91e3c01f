import Failover.Proofs.Floats
import Failover.Proofs.Interleaving
import Failover.Proofs.Ranking

-- The order of a ranking: falling scores, and rising ids where two scores are
-- equal. As long as all scores can be compared, the eligible nodes stand in this
-- order in one way only, so a ranking does not depend on how they were listed.

namespace Failover

/-! ## Scores that can be compared -/

/-- One of any two scores is not the smaller one, and being at least as great
carries over. -/
structure Graded (scores : List Float) : Prop where
  total : ∀ x ∈ scores, ∀ y ∈ scores, ¬ x < y ∨ ¬ y < x
  trans : ∀ x ∈ scores, ∀ y ∈ scores, ∀ z ∈ scores, ¬ x < y → ¬ y < z → ¬ x < z

theorem graded_of_numbers {scores : List Float} (h : ∀ x ∈ scores, x.isNaN = false) :
    Graded scores where
  total x hx y hy := by
    rw [float_not_lt_iff (h x hx) (h y hy), float_not_lt_iff (h y hy) (h x hx)]
    exact le_total _ _
  trans x hx y hy z hz := by
    rw [float_not_lt_iff (h x hx) (h y hy), float_not_lt_iff (h y hy) (h z hz),
      float_not_lt_iff (h x hx) (h z hz)]
    exact fun hxy hyz => hyz.trans hxy

theorem Graded.subset {scores few : List Float} (h : Graded scores) (hsub : few ⊆ scores) :
    Graded few where
  total x hx y hy := h.total x (hsub hx) y (hsub hy)
  trans x hx y hy z hz := h.trans x (hsub hx) y (hsub hy) z (hsub hz)

/-! ## Who stands before whom -/

namespace Candidate

/-- The greater score comes first, and the smaller id where neither score is
the greater one. -/
def Before (a b : Candidate) : Prop :=
  b.score < a.score ∨ ¬ b.score < a.score ∧ ¬ a.score < b.score ∧ a.id < b.id

theorem precedes_iff {a b : Candidate} : a.precedes b = true ↔ a.Before b := by
  unfold precedes Before
  by_cases hgreater : b.score < a.score
  · simp [hgreater]
  · by_cases hless : a.score < b.score
    · simp [hgreater, hless]
    · simp [hgreater, hless]

/-- Of two candidates with ids of their own one stands before the other. -/
theorem before_of_not_before {a b : Candidate} (hid : a.id ≠ b.id) (h : ¬ a.Before b) :
    b.Before a := by
  unfold Before at *
  by_cases hless : a.score < b.score
  · exact Or.inl hless
  · have hgreater : ¬ b.score < a.score := fun hgreater => h (Or.inl hgreater)
    have hlater : ¬ a.id < b.id := fun hlt => h (Or.inr ⟨hgreater, hless, hlt⟩)
    have hearlier : b.id < a.id := by
      by_contra hnot
      exact hid (String.le_antisymm hnot hlater)
    exact Or.inr ⟨hless, hgreater, hearlier⟩

section Graded

variable {cs : List Candidate}

/-- Nobody before somebody has the smaller score. -/
theorem Before.not_less (h : Graded (cs.map (·.score))) {a b : Candidate} (ha : a ∈ cs)
    (hb : b ∈ cs) (hab : a.Before b) : ¬ a.score < b.score := by
  rcases hab with hgreater | ⟨_, hless, _⟩
  · rcases h.total _ (List.mem_map_of_mem ha) _ (List.mem_map_of_mem hb) with hless | hnot
    · exact hless
    · exact absurd hgreater hnot
  · exact hless

theorem Before.asymm (h : Graded (cs.map (·.score))) {a b : Candidate} (ha : a ∈ cs)
    (hb : b ∈ cs) (hab : a.Before b) : ¬ b.Before a := by
  intro hba
  have hless := hab.not_less h ha hb
  have hgreater := hba.not_less h hb ha
  rcases hab with hlt | ⟨_, _, hid⟩
  · exact hgreater hlt
  · rcases hba with hlt | ⟨_, _, hid'⟩
    · exact hless hlt
    · exact String.lt_asymm hid hid'

theorem Before.trans (h : Graded (cs.map (·.score))) {a b c : Candidate} (ha : a ∈ cs)
    (hb : b ∈ cs) (hc : c ∈ cs) (hab : a.Before b) (hbc : b.Before c) : a.Before c := by
  have chain : ∀ x ∈ cs, ∀ y ∈ cs, ∀ z ∈ cs,
      ¬ x.score < y.score → ¬ y.score < z.score → ¬ x.score < z.score :=
    fun x hx y hy z hz => h.trans _ (List.mem_map_of_mem hx) _ (List.mem_map_of_mem hy) _
      (List.mem_map_of_mem hz)
  have hnab := hab.not_less h ha hb
  have hnbc := hbc.not_less h hb hc
  by_cases hgreater : c.score < a.score
  · exact Or.inl hgreater
  · -- Then no score of the three is greater than another, and the ids decide.
    have hnba : ¬ b.score < a.score := chain b hb c hc a ha hnbc hgreater
    have hncb : ¬ c.score < b.score := chain c hc a ha b hb hgreater hnab
    have hid : a.id < b.id := (hab.resolve_left hnba).2.2
    have hid' : b.id < c.id := (hbc.resolve_left hncb).2.2
    exact Or.inr ⟨hgreater, chain a ha b hb c hc hnab hnbc, String.lt_trans hid hid'⟩

/-! ## A ranking stands in order -/

/-- A list that stands last first still does after somebody new has entered. -/
theorem sorted_enter (h : Graded (cs.map (·.score))) {c : Candidate} (hc : c ∈ cs)
    {ranked : List Candidate} (hranked : ranked ⊆ cs) (hnew : ∀ x ∈ ranked, x.id ≠ c.id)
    (hsorted : ranked.Pairwise fun x y => y.Before x) :
    (c.enter ranked).Pairwise fun x y => y.Before x := by
  induction ranked with
  | nil => exact List.pairwise_singleton _ _
  | cons last rest ih =>
    obtain ⟨hlast, hrest⟩ := List.pairwise_cons.mp hsorted
    have hlastIn : last ∈ cs := hranked List.mem_cons_self
    have hrestIn : rest ⊆ cs := fun x hx => hranked (List.mem_cons_of_mem _ hx)
    unfold enter
    split
    · rename_i hbefore
      refine List.pairwise_cons.mpr
        ⟨fun x hx => ?_, ih hrestIn (fun x hx => hnew x (List.mem_cons_of_mem _ hx)) hrest⟩
      rcases List.mem_cons.mp ((perm_enter c rest).mem_iff.mp hx) with rfl | hx
      · exact precedes_iff.mp hbefore
      · exact hlast x hx
    · rename_i hbefore
      have hafter : last.Before c :=
        before_of_not_before (hnew last List.mem_cons_self).symm
          fun hb => hbefore (precedes_iff.mpr hb)
      refine List.pairwise_cons.mpr ⟨fun x hx => ?_, hsorted⟩
      rcases List.mem_cons.mp hx with rfl | hx
      · exact hafter
      · exact (hlast x hx).trans h (hrestIn hx) hlastIn hc hafter

theorem sorted_foldl_enter (h : Graded (cs.map (·.score))) {waiting ranked : List Candidate}
    (hwaiting : waiting ⊆ cs) (hranked : ranked ⊆ cs)
    (hids : ((waiting ++ ranked).map (·.id)).Nodup)
    (hsorted : ranked.Pairwise fun x y => y.Before x) :
    (waiting.foldl (fun ranked c => enter c ranked) ranked).Pairwise fun x y => y.Before x := by
  induction waiting generalizing ranked with
  | nil => exact hsorted
  | cons c waiting ih =>
    have hc : c ∈ cs := hwaiting List.mem_cons_self
    have hperm : (waiting ++ c.enter ranked).Perm (c :: waiting ++ ranked) :=
      ((perm_enter c ranked).append_left waiting).trans List.perm_middle
    have hnew : ∀ x ∈ ranked, x.id ≠ c.id := by
      intro x hx hid
      exact (List.nodup_cons.mp hids).1
        (List.mem_map.mpr ⟨x, List.mem_append_right _ hx, hid⟩)
    rw [List.foldl_cons]
    refine ih (fun x hx => hwaiting (List.mem_cons_of_mem _ hx)) (fun x hx => ?_)
      ((hperm.map _).nodup_iff.mpr hids) (sorted_enter h hc hranked hnew hsorted)
    rcases List.mem_cons.mp ((perm_enter c ranked).mem_iff.mp hx) with rfl | hx
    · exact hc
    · exact hranked hx

theorem sorted_sort (h : Graded (cs.map (·.score))) (hids : (cs.map (·.id)).Nodup) :
    (sort cs).Pairwise Before := by
  unfold sort
  rw [List.pairwise_reverse]
  exact sorted_foldl_enter h (List.Subset.refl _) (List.nil_subset _) (by simpa using hids)
    List.Pairwise.nil

end Graded

end Candidate

/-! ## Rankings by a score -/

theorem Node.isEligible_iff {failing : Option String} {n : Node} :
    n.isEligible failing = true ↔
      n.active = true ∧ n.status = .healthy ∧ n.primary = false ∧ failing ≠ some n.id := by
  simp [isEligible, isStandby, isHealthy, and_assoc, and_left_comm]

namespace Candidate

/-- The eligible nodes in order, by any score. -/
def rankBy (score : Node → Float) (nodes : List Node) (failing : Option String) :
    List Candidate :=
  sort ((nodes.filter (Node.isEligible failing)).map fun n => ⟨n.id, score n⟩)

def bestBy? (score : Node → Float) (nodes : List Node) (failing : Option String) :
    Option Candidate :=
  (rankBy score nodes failing).head?

/-- The scores that a ranking compares. -/
def scores (score : Node → Float) (nodes : List Node) (failing : Option String) : List Float :=
  (nodes.filter (Node.isEligible failing)).map score

theorem mem_scores {score : Node → Float} {nodes : List Node} {failing : Option String} {n : Node}
    (hn : n ∈ nodes) (he : n.isEligible failing = true) : score n ∈ scores score nodes failing :=
  List.mem_map_of_mem (List.mem_filter.mpr ⟨hn, he⟩)

end Candidate

/-- A list of candidates in which every eligible node stands once and with its
score, nobody else does, and each stands before all that follow. -/
structure RankedBy (score : Node → Float) (nodes : List Node) (failing : Option String)
    (ranked : List Candidate) : Prop where
  members : ∀ c, c ∈ ranked ↔ ∃ n ∈ nodes,
    (n.active = true ∧ n.status = .healthy ∧ n.primary = false ∧ failing ≠ some n.id) ∧
      c = ⟨n.id, score n⟩
  once : (ranked.map (·.id)).Nodup
  sorted : ranked.Pairwise Candidate.Before

/-- No eligible node has a greater score, and none with an equal score has a
smaller id. -/
def Leads (score : Node → Float) (nodes : List Node) (failing : Option String) (n : Node) : Prop :=
  ∀ m ∈ nodes, m.isEligible failing = true →
    ¬ score n < score m ∧ (¬ score m < score n → n.id ≤ m.id)

namespace RankedBy

variable {score : Node → Float} {nodes nodes' : List Node} {failing : Option String}
  {ranked ranked' : List Candidate}

theorem of_rankBy (distinct : (nodes.map (·.id)).Nodup)
    (hgraded : Graded (Candidate.scores score nodes failing)) :
    RankedBy score nodes failing (Candidate.rankBy score nodes failing) := by
  have hscores : ((nodes.filter (Node.isEligible failing)).map
      fun n => (⟨n.id, score n⟩ : Candidate)).map (·.score) =
        Candidate.scores score nodes failing := by
    simp [Candidate.scores]
  have hids : (((nodes.filter (Node.isEligible failing)).map
      fun n => (⟨n.id, score n⟩ : Candidate)).map (·.id)).Nodup := by
    rw [List.map_map]
    exact distinct.sublist (List.filter_sublist.map _)
  refine ⟨fun c => ?_, ?_, Candidate.sorted_sort (hscores ▸ hgraded) hids⟩
  · rw [Candidate.rankBy, (Candidate.perm_sort _).mem_iff]
    simp only [List.mem_map, List.mem_filter, Node.isEligible_iff, and_assoc, @eq_comm _ c]
  · exact ((Candidate.perm_sort _).map _).nodup_iff.mpr hids

theorem mem_iff (h : RankedBy score nodes failing ranked) {c : Candidate} :
    c ∈ ranked ↔ ∃ n ∈ nodes, n.isEligible failing = true ∧ c = ⟨n.id, score n⟩ := by
  simp only [h.members c, Node.isEligible_iff]

theorem graded (h : RankedBy score nodes failing ranked)
    (hgraded : Graded (Candidate.scores score nodes failing)) : Graded (ranked.map (·.score)) := by
  refine hgraded.subset fun x hx => ?_
  obtain ⟨c, hc, rfl⟩ := List.mem_map.mp hx
  obtain ⟨n, hn, heligible, rfl⟩ := h.mem_iff.mp hc
  exact Candidate.mem_scores hn heligible

/-- There is one such list. -/
theorem unique (h : RankedBy score nodes failing ranked) (h' : RankedBy score nodes failing ranked')
    (hgraded : Graded (Candidate.scores score nodes failing)) : ranked = ranked' := by
  have hsame : ∀ c, c ∈ ranked ↔ c ∈ ranked' := fun c => (h.members c).trans (h'.members c).symm
  have hperm : ranked.Perm ranked' :=
    (List.perm_ext_iff_of_nodup h.once.of_map h'.once.of_map).mpr hsame
  refine hperm.eq_of_pairwise (fun a b ha hb hab hba => ?_) h.sorted h'.sorted
  exact absurd hba (hab.asymm (h.graded hgraded) ha ((hsame b).mpr hb))

/-- It does not matter how the nodes were listed. -/
theorem perm (h : RankedBy score nodes failing ranked) (hperm : nodes.Perm nodes') :
    RankedBy score nodes' failing ranked where
  members c := by simp only [h.members c, hperm.mem_iff]
  once := h.once
  sorted := h.sorted

theorem head_leads (h : RankedBy score nodes failing ranked)
    (hgraded : Graded (Candidate.scores score nodes failing)) {c : Candidate}
    (hhead : ranked.head? = some c) :
    ∃ n ∈ nodes, n.isEligible failing = true ∧ c = ⟨n.id, score n⟩ ∧
      Leads score nodes failing n := by
  obtain ⟨rest, rfl⟩ := List.head?_eq_some_iff.mp hhead
  obtain ⟨n, hn, heligible, rfl⟩ := h.mem_iff.mp List.mem_cons_self
  refine ⟨n, hn, heligible, rfl, fun m hm hmEligible => ?_⟩
  rcases List.mem_cons.mp (h.mem_iff.mpr ⟨m, hm, hmEligible, rfl⟩) with hsame | hlater
  · injection hsame with hid hscore
    have hnot : ¬ score n < score n :=
      (hgraded.total _ (Candidate.mem_scores hn heligible) _
        (Candidate.mem_scores hn heligible)).elim id id
    rw [hid, hscore]
    exact ⟨hnot, fun _ => String.le_refl _⟩
  · have hbefore := (List.pairwise_cons.mp h.sorted).1 _ hlater
    have hless := hbefore.not_less (h.graded hgraded) List.mem_cons_self
      (List.mem_cons_of_mem _ hlater)
    refine ⟨hless, fun hnot => ?_⟩
    exact String.not_lt.mp (String.lt_asymm (hbefore.resolve_left hnot).2.2)

/-- Only one node leads, so whoever does is the head. -/
theorem head?_eq_some_iff (h : RankedBy score nodes failing ranked)
    (distinct : (nodes.map (·.id)).Nodup)
    (hgraded : Graded (Candidate.scores score nodes failing)) {c : Candidate} :
    ranked.head? = some c ↔
      ∃ n ∈ nodes, n.isEligible failing = true ∧ c = ⟨n.id, score n⟩ ∧
        Leads score nodes failing n := by
  refine ⟨h.head_leads hgraded, ?_⟩
  rintro ⟨n, hn, heligible, rfl, hleads⟩
  cases hhead : ranked.head? with
  | none =>
    have hmem := h.mem_iff.mpr ⟨n, hn, heligible, rfl⟩
    rw [List.head?_eq_none_iff.mp hhead] at hmem
    cases hmem
  | some first =>
    obtain ⟨m, hm, hmEligible, rfl, hmLeads⟩ := h.head_leads hgraded hhead
    obtain ⟨hnm, hnId⟩ := hleads m hm hmEligible
    obtain ⟨hmn, hmId⟩ := hmLeads n hn heligible
    have hid : m.id = n.id := String.le_antisymm (hmId hnm) (hnId hmn)
    rw [List.inj_on_of_nodup_map distinct hm hn hid]

end RankedBy

/-- The eligible nodes, each once and with its own score, stand in a ranking in
the one order there is, however the nodes were listed. The best is the eligible
node that leads, and there is none only when no node is eligible. Scores that
are numbers can always be compared. -/
theorem a_ranking_is_the_one_order_of_the_eligible_nodes (score : Node → Float)
    (nodes : List Node) (failing : Option String) (distinct : (nodes.map (·.id)).Nodup) :
    ((∀ n ∈ nodes, n.isEligible failing = true → (score n).isNaN = false) →
      Graded (Candidate.scores score nodes failing)) ∧
    (Graded (Candidate.scores score nodes failing) →
      (∀ ranked, RankedBy score nodes failing ranked ↔
        ranked = Candidate.rankBy score nodes failing) ∧
      (∀ nodes', nodes.Perm nodes' →
        Candidate.rankBy score nodes' failing = Candidate.rankBy score nodes failing ∧
        Candidate.bestBy? score nodes' failing = Candidate.bestBy? score nodes failing) ∧
      (Candidate.bestBy? score nodes failing = none ↔
        ∀ n ∈ nodes, n.isEligible failing = false) ∧
      (∀ c, Candidate.bestBy? score nodes failing = some c ↔
        ∃ n ∈ nodes, n.isEligible failing = true ∧ c = ⟨n.id, score n⟩ ∧
          Leads score nodes failing n)) ∧
    (∀ w, Candidate.rank w = Candidate.rankBy (fun n => n.merits.score w) ∧
      Candidate.best? w = Candidate.bestBy? fun n => n.merits.score w) := by
  refine ⟨fun hnumbers => graded_of_numbers fun x hx => ?_, fun hgraded => ?_,
    fun w => ⟨rfl, rfl⟩⟩
  · obtain ⟨n, hn, rfl⟩ := List.mem_map.mp hx
    obtain ⟨hn, heligible⟩ := List.mem_filter.mp hn
    exact hnumbers n hn heligible
  · have hranked := RankedBy.of_rankBy distinct hgraded
    have hperm : ∀ nodes', nodes.Perm nodes' →
        Candidate.rankBy score nodes' failing = Candidate.rankBy score nodes failing := by
      intro nodes' hperm
      have hgraded' : Graded (Candidate.scores score nodes' failing) :=
        hgraded.subset ((hperm.filter _).map _).symm.subset
      have hdistinct' := (hperm.map (·.id)).nodup_iff.mp distinct
      exact (RankedBy.of_rankBy hdistinct' hgraded').unique (hranked.perm hperm) hgraded'
    refine ⟨fun ranked => ⟨fun h => h.unique hranked hgraded, fun h => h ▸ hranked⟩,
      fun nodes' h => ⟨hperm nodes' h, congrArg List.head? (hperm nodes' h)⟩, ?_,
      fun c => hranked.head?_eq_some_iff distinct hgraded⟩
    rw [Candidate.bestBy?, List.head?_eq_none_iff, List.eq_nil_iff_forall_not_mem]
    constructor
    · intro hnobody n hn
      exact Bool.eq_false_iff.mpr fun he => hnobody _ (hranked.mem_iff.mpr ⟨n, hn, he, rfl⟩)
    · intro hnobody c hc
      obtain ⟨n, hn, he, _⟩ := hranked.mem_iff.mp hc
      rw [hnobody n hn] at he
      cases he

/-- Two equal nodes are listed the wrong way round; a third is not eligible. -/
theorem a_ranking_is_the_one_order_of_the_eligible_nodes_in_a_tie :
    ∃ (nodes : List Node) (w : PriorityWeights Float),
      (nodes.map (·.id)).Nodup ∧
      (∀ n ∈ nodes, n.isEligible none = true → (n.merits.score w).isNaN = false) ∧
      (∀ ranked, RankedBy (fun n => n.merits.score w) nodes none ranked ↔
        ranked = Candidate.rank w nodes none) ∧
      (Candidate.rank w nodes none).map (·.id) = ["a", "b"] ∧
      ∃ n ∈ nodes, Candidate.best? w nodes none = some ⟨n.id, n.merits.score w⟩ ∧ n.id = "a" ∧
        Leads (fun n => n.merits.score w) nodes none n := by
  let nodes : List Node :=
    [ Node.well "b" .secondary
    , Node.well "a" .secondary
    , { Node.well "p" .primary with primary := true } ]
  have distinct : (nodes.map (·.id)).Nodup := by decide
  have hnumbers : ∀ n ∈ nodes, n.isEligible none = true →
      (n.merits.score PriorityWeights.standard).isNaN = false := by decide +kernel
  obtain ⟨hgraded, hunique, _⟩ := a_ranking_is_the_one_order_of_the_eligible_nodes
    (fun n => n.merits.score .standard) nodes none distinct
  obtain ⟨hone, _, _, hbest⟩ := hunique (hgraded hnumbers)
  have hids : (Candidate.rank .standard nodes none).map (·.id) = ["a", "b"] := by decide +kernel
  obtain ⟨c, hc⟩ : ∃ c, Candidate.best? .standard nodes none = some c :=
    Option.isSome_iff_exists.mp (by decide +kernel)
  obtain ⟨n, hn, _, rfl, hleads⟩ := (hbest c).mp hc
  refine ⟨nodes, .standard, distinct, hnumbers, hone, hids, n, hn, hc, ?_, hleads⟩
  have hhead : ((Candidate.best? .standard nodes none).map (·.id)) = some "a" := by decide +kernel
  rw [hc] at hhead
  exact Option.some.inj hhead

end Failover
