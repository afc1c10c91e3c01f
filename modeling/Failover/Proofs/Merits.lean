import Mathlib.Tactic.Linarith
import Mathlib.Tactic.NormNum
import Failover.Proofs.ExactNumbers
import Failover.Proofs.Precedence

-- The better node wins. In exact numbers every part of a score goes the right
-- way: up with health, role and priority, down with usage and latency. So a node
-- that is nowhere worse than another one stands before it in a ranking, unless
-- their scores are equal and the id of the other one is smaller.

namespace Failover

/-! ## Scores in any numbers -/

/-- The numbers that a node is scored by. -/
structure Figures (α : Type) where
  health : α
  /-- Percentages by name. -/
  usage : Table α
  latencyMs : α

/-- The mean of the known usage, and zero when none is known. -/
def Figures.averageUsage (f : Figures Rat) : Rat := (Node.meanOf? f.usage.values).getD 0

namespace Node

variable {α : Type} [Scalar α]

/-- The figures that a coordinator has of a node. -/
def figures (n : Node) : Figures Float := ⟨n.score, n.usage, n.latencyMs⟩

/-- The score of a node that these figures belong to. -/
def scoreBy (w : PriorityWeights α) (f : Figures α) (n : Node) : α :=
  Merits.score w
    { health := f.health, usage := meanOf? f.usage.values, latencyMs := f.latencyMs, role := n.role
      priority := n.priority }

end Node

/-- An id in a ranking, with its score. -/
structure Standing (α : Type) where
  id : String
  score : α

namespace Standing

variable {α : Type} [Scalar α]

/-- By descending score, and by ascending id where neither score is the greater
one. -/
def precedes (a b : Standing α) : Bool :=
  if b.score < a.score then true
  else if a.score < b.score then false
  else decide (a.id < b.id)

/-- The eligible nodes in order. -/
def rank (score : Node → α) (nodes : List Node) (failing : Option String) : List (Standing α) :=
  sortBy precedes ((nodes.filter (Node.isEligible failing)).map fun n => ⟨n.id, score n⟩)

/-- Every eligible node stands in the ranking. -/
theorem mem_rank {score : Node → α} {nodes : List Node} {failing : Option String} {n : Node}
    (hn : n ∈ nodes) (he : n.isEligible failing = true) :
    ⟨n.id, score n⟩ ∈ rank score nodes failing := by
  rw [rank, (perm_sortBy _).mem_iff]
  exact List.mem_map_of_mem (List.mem_filter.mpr ⟨hn, he⟩)

def candidate (s : Standing Float) : Candidate := ⟨s.id, s.score⟩

/-- By the figures that a coordinator has, this is the ranking that it goes
by. -/
theorem map_rank (w : PriorityWeights Float) (nodes : List Node) (failing : Option String) :
    (rank (fun n => n.scoreBy w n.figures) nodes failing).map candidate =
      Candidate.rank w nodes failing := by
  have hsame : ∀ x y : Standing Float, x.candidate.precedes y.candidate = x.precedes y :=
    fun _ _ => rfl
  rw [rank, map_sortBy hsame, List.map_map, Candidate.rank, Candidate.sort_eq]
  rfl

/-! ## The order of exact scores -/

/-- The greater score comes first, and of equal scores no greater id. -/
def Ahead (a b : Standing Rat) : Prop :=
  b.score < a.score ∨ a.score = b.score ∧ a.id ≤ b.id

theorem ahead_of_precedes (a b : Standing Rat) (h : a.precedes b = true) : a.Ahead b := by
  unfold precedes at h
  split at h
  · rename_i hgreater
    exact Or.inl hgreater
  · rename_i hgreater
    split at h
    · cases h
    · rename_i hless
      have hequal : a.score = b.score := le_antisymm (not_lt.mp hgreater) (not_lt.mp hless)
      exact Or.inr ⟨hequal, String.not_lt.mp (String.lt_asymm (of_decide_eq_true h))⟩

theorem ahead_of_not_precedes (a b : Standing Rat) (h : ¬ a.precedes b = true) : b.Ahead a := by
  unfold precedes at h
  split at h
  · exact absurd rfl h
  · rename_i hgreater
    split at h
    · rename_i hless
      exact Or.inl hless
    · rename_i hless
      have hequal : b.score = a.score := le_antisymm (not_lt.mp hless) (not_lt.mp hgreater)
      exact Or.inr ⟨hequal, String.not_lt.mp fun hlt => h (decide_eq_true hlt)⟩

theorem Ahead.trans (a b c : Standing Rat) (hab : a.Ahead b) (hbc : b.Ahead c) : a.Ahead c := by
  rcases hab with hab | ⟨hab, hid⟩
  · rcases hbc with hbc | ⟨hbc, _⟩
    · exact Or.inl (hbc.trans hab)
    · exact Or.inl (hbc ▸ hab)
  · rcases hbc with hbc | ⟨hbc, hid'⟩
    · exact Or.inl (hab ▸ hbc)
    · exact Or.inr ⟨hab.trans hbc, String.le_trans hid hid'⟩

theorem sorted_rank (score : Node → Rat) (nodes : List Node) (failing : Option String) :
    (rank score nodes failing).Pairwise Ahead :=
  sorted_sortBy ahead_of_precedes ahead_of_not_precedes Ahead.trans _

/-- Of any two, one stands before the other. -/
theorem sublist_or_sublist {β : Type} {l : List β} {x y : β} (hx : x ∈ l) (hy : y ∈ l)
    (hne : x ≠ y) : [x, y].Sublist l ∨ [y, x].Sublist l := by
  obtain ⟨before, after, rfl⟩ := List.append_of_mem hx
  rcases List.mem_append.mp hy with hy | hy
  · refine Or.inr ?_
    exact (List.singleton_sublist.mpr hy).append (List.singleton_sublist.mpr List.mem_cons_self)
  · have hy : y ∈ after := (List.mem_cons.mp hy).resolve_left hne.symm
    refine Or.inl ?_
    exact ((List.singleton_sublist.mpr hy).cons_cons x).trans (List.sublist_append_right _ _)

end Standing

/-! ## The parts of an exact score -/

/-- Weights that can be used are not negative. -/
theorem PriorityWeights.usable_iff {w : PriorityWeights Rat} :
    w.usable = true ↔
      0 ≤ w.healthScore ∧ 0 ≤ w.resourceUsage ∧ 0 ≤ w.networkLatency ∧ 0 ≤ w.nodeRole := by
  have hkept : ∀ x : Rat, (Scalar.isFinite x && !decide (x < Scalar.zero)) = true ↔ 0 ≤ x := by
    intro x
    rw [show Scalar.isFinite x = true from rfl, Bool.true_and, Bool.not_eq_true',
      decide_eq_false_iff_not, Scalar.zero_rat]
    exact not_lt
  simp only [usable, toList, List.all_cons, List.all_nil, Bool.and_true, Bool.and_eq_true, hkept]

namespace Merits

theorem idleShare_rat (usage : Option Rat) :
    idleShare usage = Scalar.positivePart (1 - usage.getD 0 / 100) := by
  cases usage with
  | some mean => rfl
  | none =>
    show (1 : Rat) = _
    rw [Scalar.positivePart_rat, Option.getD_none]
    norm_num

theorem idleShare_anti {x y : Option Rat} (h : x.getD 0 ≤ y.getD 0) : idleShare y ≤ idleShare x := by
  rw [idleShare_rat, idleShare_rat]
  refine Scalar.positivePart_mono ?_
  linarith

theorem latencyShare_anti {x y : Rat} (h : x ≤ y) : latencyShare y ≤ latencyShare x := by
  refine Scalar.positivePart_mono ?_
  show (1 : Rat) - y / 1000.0 ≤ 1 - x / 1000.0
  have hshare : x / 1000.0 ≤ y / 1000.0 := div_le_div_of_nonneg_right h (by norm_num)
  linarith

/-- Whoever has at least as much of everything good and at most as much of
everything bad scores at least as high. -/
theorem score_mono {w : PriorityWeights Rat} (hw : w.usable = true) {m m' : Merits Rat}
    (health : m.health ≤ m'.health) (usage : m'.usage.getD 0 ≤ m.usage.getD 0)
    (latency : m'.latencyMs ≤ m.latencyMs)
    (role : (m.role.promotionScore : Rat) ≤ m'.role.promotionScore)
    (priority : m.priority ≤ m'.priority) : m.score w ≤ m'.score w := by
  obtain ⟨hhealth, hresource, hnetwork, hrole⟩ := PriorityWeights.usable_iff.mp hw
  have hpriority : (m.priority : Rat) ≤ m'.priority := Int.cast_le.mpr priority
  have hstep : (0 : Rat) ≤ 0.1 := by norm_num
  show m.health * w.healthScore + idleShare m.usage * w.resourceUsage +
      latencyShare m.latencyMs * w.networkLatency + m.role.promotionScore * w.nodeRole +
        (m.priority : Rat) * 0.1 ≤
    m'.health * w.healthScore + idleShare m'.usage * w.resourceUsage +
      latencyShare m'.latencyMs * w.networkLatency + m'.role.promotionScore * w.nodeRole +
        (m'.priority : Rat) * 0.1
  refine add_le_add (add_le_add (add_le_add (add_le_add ?_ ?_) ?_) ?_) ?_
  · exact mul_le_mul_of_nonneg_right health hhealth
  · exact mul_le_mul_of_nonneg_right (idleShare_anti usage) hresource
  · exact mul_le_mul_of_nonneg_right (latencyShare_anti latency) hnetwork
  · exact mul_le_mul_of_nonneg_right role hrole
  · exact mul_le_mul_of_nonneg_right hpriority hstep

end Merits

/-! ## The better node -/

/-- By these figures the first node is nowhere worse than the second. -/
structure AsGood (figures : Node → Figures Rat) (a b : Node) : Prop where
  health : (figures b).health ≤ (figures a).health
  usage : (figures a).averageUsage ≤ (figures b).averageUsage
  latency : (figures a).latencyMs ≤ (figures b).latencyMs
  role : (b.role.promotionScore : Rat) ≤ a.role.promotionScore
  priority : b.priority ≤ a.priority

/-- With weights that can be used, a node that is nowhere worse than another one
scores at least as high. When both are eligible, each of them stands in the
ranking, and the other one stands before it only if their scores are equal and
its id is the smaller one. Machine numbers are ranked in the same way. -/
theorem a_better_node_never_loses (w : PriorityWeights Rat) (hw : w.usable = true)
    (figures : Node → Figures Rat) (a b : Node) (better : AsGood figures a b) :
    let score := fun n : Node => n.scoreBy w (figures n)
    score b ≤ score a ∧
    (∀ (nodes : List Node) (failing : Option String), a ∈ nodes → b ∈ nodes →
      a.isEligible failing = true → b.isEligible failing = true → a.id ≠ b.id →
      let ranking := Standing.rank score nodes failing
      ([⟨a.id, score a⟩, ⟨b.id, score b⟩].Sublist ranking ∨
        [⟨b.id, score b⟩, ⟨a.id, score a⟩].Sublist ranking) ∧
      ([⟨b.id, score b⟩, ⟨a.id, score a⟩].Sublist ranking →
        score b = score a ∧ b.id < a.id)) ∧
    (∀ (weights : PriorityWeights Float) (nodes : List Node) (failing : Option String),
      (Standing.rank (fun n => n.scoreBy weights n.figures) nodes failing).map Standing.candidate =
        Candidate.rank weights nodes failing) := by
  intro score
  have hscore : score b ≤ score a :=
    Merits.score_mono hw better.health better.usage better.latency better.role better.priority
  refine ⟨hscore, fun nodes failing ha hb hea heb hid => ⟨?_, fun hbefore => ?_⟩, Standing.map_rank⟩
  · refine Standing.sublist_or_sublist (Standing.mem_rank ha hea) (Standing.mem_rank hb heb) ?_
    exact fun heq => hid (congrArg Standing.id heq)
  · have hsorted := (Standing.sorted_rank score nodes failing).sublist hbefore
    have hahead := (List.pairwise_cons.mp hsorted).1 _ (List.mem_singleton_self _)
    rcases hahead with hless | ⟨hequal, hle⟩
    · exact absurd hscore (not_le.mpr hless)
    · refine ⟨hequal, ?_⟩
      by_contra hnot
      exact hid (String.le_antisymm (String.not_lt.mp hnot) hle)

/-- The node with the greater id uses less, and comes first. -/
theorem a_better_node_never_loses_when_it_is_idle :
    ∃ (w : PriorityWeights Rat) (figures : Node → Figures Rat) (a b : Node),
      w.usable = true ∧ AsGood figures a b ∧ b.id < a.id ∧
      [(⟨a.id, a.scoreBy w (figures a)⟩ : Standing Rat), ⟨b.id, b.scoreBy w (figures b)⟩].Sublist
        (Standing.rank (fun n => n.scoreBy w (figures n)) [b, a] none) := by
  let figures : Node → Figures Rat := fun n =>
    { health := 1, latencyMs := 0
      usage := if n.id = "a" then Table.ofList [("cpu_usage", 90), ("disk_usage", 30)] else .empty }
  let a := Node.well "b" .secondary
  let b := Node.well "a" .secondary
  have hw : (PriorityWeights.standard : PriorityWeights Rat).usable = true := by decide +kernel
  have hbetter : AsGood figures a b :=
    { health := by decide +kernel, usage := by decide +kernel, latency := by decide +kernel
      role := by decide +kernel, priority := by decide +kernel }
  have hless : b.scoreBy .standard (figures b) ≠ a.scoreBy .standard (figures a) := by
    decide +kernel
  obtain ⟨_, hranked, _⟩ := a_better_node_never_loses .standard hw figures a b hbetter
  obtain ⟨heither, hbefore⟩ := hranked [b, a] none (by simp) (by simp) rfl rfl (by decide)
  refine ⟨.standard, figures, a, b, hw, hbetter, by decide, heither.resolve_right fun h => ?_⟩
  exact hless (hbefore h).1

end Failover
