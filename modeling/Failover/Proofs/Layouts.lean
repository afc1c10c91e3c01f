import Failover.Proofs.Numerals
import Failover.Proofs.Startup

-- The layout that the check of the settings prints, as a person reads it: a
-- star in front of a node makes it the primary, and behind its place stands
-- the part that it plays. The members of the coordinator are looked up beside
-- it.

namespace Failover

namespace CommandLine

/-! ## Words -/

/-- What parts the words of a line. -/
def isGap (c : Char) : Bool := c == ' ' || c == '\n'

/-- The words of a text. -/
def words (cs : List Char) : List String :=
  ((cs.splitOnP isGap).filter fun w => !w.isEmpty).map String.ofList

/-- Everything about words comes from this equation. -/
theorem words_append_gap {c : Char} (hc : isGap c = true) (xs ys : List Char) :
    words (xs ++ c :: ys) = words xs ++ words ys := by
  unfold words
  rw [List.splitOnP_append_cons xs ys hc, List.filter_append, List.map_append]

theorem words_of_no_gap {w : List Char} (hne : w ≠ []) (h : ∀ c ∈ w, isGap c = false) :
    words w = [String.ofList w] := by
  unfold words
  rw [List.splitOnP_eq_singleton h]
  simp [hne]

theorem isGap_of_isFigure {c : Char} (h : Json.isFigure c = true) : isGap c = false := by
  by_contra hgap
  simp only [isGap, Bool.not_eq_false, Bool.or_eq_true, beq_iff_eq] at hgap
  rcases hgap with rfl | rfl <;> revert h <;> decide

theorem toString_ne_nil (i : Int) : (toString i).toList ≠ [] := by
  rw [Int.toString_eq_repr, Int.repr_eq_if]
  split <;> simp [Nat.repr_eq_ofList_toDigits]

theorem words_toString (i : Int) : words (toString i).toList = [toString i] := by
  rw [words_of_no_gap (toString_ne_nil i) fun c hc => isGap_of_isFigure (Json.figures_toString i c hc),
    String.ofList_toList]

theorem words_column_role (r : NodeRole) : words (column 10 r.name).toList = [r.name] := by
  cases r <;> decide

/-! ## What a line shows -/

/-- A star behind the margin. -/
def isMarked (line : String) : Bool := line.toList[2]? == some '*'

/-- The part is the third word from the end. -/
def roleOn? (line : String) : Option NodeRole := (words line.toList).reverse[2]?.bind NodeRole.ofName?

theorem isMarked_nodeLine (n : NodeSpec) : isMarked (nodeLine n) = (n.role == .primary) := by
  unfold isMarked nodeLine
  simp only [String.toList_append, List.append_assoc]
  cases n.role == .primary <;> rfl

theorem words_nodeLine (n : NodeSpec) :
    ∃ front, words (nodeLine n).toList = front ++ [n.role.name, "priority", toString n.priority] := by
  unfold nodeLine
  dsimp only
  generalize "  " ++ (if n.role == .primary then "*" else " ") ++ " " ++ column 16 n.id ++ " " ++
    column 24 (endpoint n.host n.port) = start
  have hline : (start ++ " " ++ column 10 n.role.name ++ " priority " ++ toString n.priority ++
      "\n").toList = start.toList ++ ' ' :: ((column 10 n.role.name).toList ++
        ' ' :: ("priority".toList ++ ' ' :: ((toString n.priority).toList ++ ['\n']))) := by
    simp only [String.toList_append, List.append_assoc]
    rfl
  refine ⟨words start.toList, ?_⟩
  rw [hline, words_append_gap rfl, words_append_gap rfl, words_append_gap rfl, words_append_gap rfl,
    words_column_role, words_toString]
  congr 1

theorem roleOn?_nodeLine (n : NodeSpec) : roleOn? (nodeLine n) = some n.role := by
  obtain ⟨front, hwords⟩ := words_nodeLine n
  unfold roleOn?
  rw [hwords, List.reverse_append]
  cases n.role <;> rfl

theorem exists_head_summary (s : ClusterSettings) : ∃ head, summary s =
    head ++ "Nodes (" ++ toString s.nodes.length ++ "):\n" ++ String.join (s.nodes.map nodeLine) :=
  ⟨_, rfl⟩

theorem checkConfig_output {s : ClusterSettings} (hcheck : (checkConfig s).exit = 0) :
    (checkConfig s).output = summary s := by
  obtain ⟨hvalid, hnodes⟩ := checkConfig_exit_iff.mp hcheck
  unfold checkConfig
  rw [hvalid]
  simp [hnodes, Conclusion.ofResult, Conclusion.success]

end CommandLine

/-! ## The layout and the members -/

open CommandLine (nodeLine isMarked roleOn? checkConfig)

/-- What a line shows is so: the star stands at the primary, and the part is
that of the member. -/
structure Cluster.AsShown (k : Cluster) (spec : NodeSpec) : Prop where
  marked : isMarked (nodeLine spec) = true ↔ k.primary = some spec.id
  role : ∃ n, k.node? spec.id = some n ∧ roleOn? (nodeLine spec) = some n.role

section

variable {k : Cluster} {specs : List NodeSpec} {spec : NodeSpec} {now : Moment}

/-- Whoever is primary has asked for it. -/
theorem Cluster.Seats.asked (h : k.Seats specs now) (hmem : spec ∈ specs)
    (hp : k.primary = some spec.id) : spec.role = .primary := by
  obtain ⟨other, hother, hrole, hid⟩ := firstPrimary?_eq_some (h.primary.symm.trans hp)
  have hsame : other.seated k.primary now = spec.seated k.primary now := by
    rw [← Option.some.injEq, ← h.present other hother, hid, h.present spec hmem]
  have hroles := congrArg Node.role hsame
  simpa [NodeSpec.seated, hp, hid, hrole] using hroles.symm

theorem Cluster.Seats.asShown_iff (h : k.Seats specs now) (hmem : spec ∈ specs) :
    k.AsShown spec ↔ ¬ (spec.role = .primary ∧ k.primary ≠ some spec.id) := by
  constructor
  · rintro ⟨hmarked, -⟩ ⟨hrole, hother⟩
    have hstar : isMarked (nodeLine spec) = true := by
      rw [CommandLine.isMarked_nodeLine, hrole]
      rfl
    exact hother (hmarked.mp hstar)
  · intro hclear
    refine ⟨?_, _, h.present spec hmem, ?_⟩
    · rw [CommandLine.isMarked_nodeLine, beq_iff_eq]
      exact ⟨fun hrole => not_not.mp fun hne => hclear ⟨hrole, hne⟩, h.asked hmem⟩
    · rw [CommandLine.roleOn?_nodeLine]
      simp [NodeSpec.seated, hclear]

/-- The layout is right when no two nodes ask for the part of the primary. -/
theorem Cluster.Seats.all_asShown_iff (h : k.Seats specs now) (hnames : (specs.map (·.id)).Nodup) :
    (∀ spec ∈ specs, k.AsShown spec) ↔ (specs.filter (·.role == .primary)).length ≤ 1 := by
  have hfirst : k.primary = (specs.filter (·.role == .primary)).head?.map (·.id) := by
    rw [h.primary, firstPrimary?, List.head?_filter]
  have hasking : (∀ spec ∈ specs, k.AsShown spec) ↔
      ∀ spec ∈ specs.filter (·.role == .primary), k.primary = some spec.id := by
    simp only [List.mem_filter, beq_iff_eq, and_imp]
    refine forall₂_congr fun spec hmem => ?_
    rw [h.asShown_iff hmem, not_and, not_not]
  have hapart : ((specs.filter (·.role == .primary)).map (·.id)).Nodup :=
    hnames.sublist (List.filter_sublist.map _)
  rw [hasking, hfirst]
  generalize specs.filter (·.role == .primary) = asking at hapart ⊢
  cases asking with
  | nil => simp
  | cons a rest =>
    cases rest with
    | nil => simp
    | cons b rest =>
      have hne : a.id ≠ b.id := by
        rintro heq
        simp [heq] at hapart
      simp [hne]

end

/-- The printed layout is the one that a coordinator starts with, but for the
nodes that ask for the part of the primary behind another one: they are shown
as primaries and are secondaries. So it is right as a whole when at most one
node asks. -/
theorem the_layout_is_right_but_for_rivals (s : ClusterSettings) (folder : Folder) (now : Moment)
    (hlog : ∀ path, s.failover.eventLogPath = some path → ∃ o, folder.openAt path = .ok o)
    (hcheck : (checkConfig s).exit = 0) :
    (∃ head, (checkConfig s).output = head ++ "Nodes (" ++ toString s.nodes.length ++ "):\n" ++
      String.join (s.nodes.map nodeLine)) ∧
    ∃ c, Coordinator.build folder s.coordinatorId s.failover s.nodes now = .ok c ∧
      (∀ spec ∈ s.nodes, c.cluster.AsShown spec ↔
        ¬ (spec.role = .primary ∧ c.cluster.primary ≠ some spec.id)) ∧
      (∀ spec ∈ s.nodes, spec.role = .primary → c.cluster.primary ≠ some spec.id →
        isMarked (nodeLine spec) = true ∧ roleOn? (nodeLine spec) = some .primary ∧
          (c.cluster.node? spec.id).map (·.role) = some .secondary) ∧
      ((∀ spec ∈ s.nodes, c.cluster.AsShown spec) ↔
        (s.nodes.filter (·.role == .primary)).length ≤ 1) := by
  obtain ⟨hvalid, -⟩ := CommandLine.checkConfig_exit_iff.mp hcheck
  obtain ⟨c, -, hbuild, -⟩ := starts_of_checked now hlog hcheck
  have hseats := seats_of_valid hvalid hbuild
  obtain ⟨-, -, hnames, -⟩ := ClusterSettings.validate_eq_ok_iff.mp hvalid
  rw [CommandLine.checkConfig_output hcheck]
  refine ⟨CommandLine.exists_head_summary s, c, hbuild, fun spec hmem => hseats.asShown_iff hmem, ?_,
    hseats.all_asShown_iff hnames⟩
  intro spec hmem hrole hother
  rw [CommandLine.isMarked_nodeLine, CommandLine.roleOn?_nodeLine, hseats.present spec hmem, hrole]
  refine ⟨rfl, rfl, ?_⟩
  simp [NodeSpec.seated, hrole, hother]

/-- The first two of the rivals. -/
def ClusterSettings.allies : ClusterSettings :=
  { ClusterSettings.rivals with nodes := ClusterSettings.rivals.nodes.take 2 }

/-- The layout of a hot spare and a primary is right. -/
theorem the_layout_is_right_but_for_rivals_among_allies :
    (checkConfig .allies).exit = 0 ∧
    ∃ c, Coordinator.build .empty ClusterSettings.allies.coordinatorId
        ClusterSettings.allies.failover ClusterSettings.allies.nodes default = .ok c ∧
      c.cluster.AsShown (.asking "a" .hotSpare) ∧ c.cluster.AsShown (.asking "b" .primary) := by
  have hcheck : (checkConfig .allies).exit = 0 := by rfl
  obtain ⟨-, c, hbuild, -, -, hall⟩ := the_layout_is_right_but_for_rivals .allies .empty default
    CommandLine.Surroundings.bare_opens hcheck
  have hshown := hall.mpr (by decide)
  exact ⟨hcheck, c, hbuild, hshown _ List.mem_cons_self,
    hshown _ (List.mem_cons_of_mem _ List.mem_cons_self)⟩

/-- The node has a star, and another node is the primary. -/
theorem a_node_that_steps_back_is_shown_as_primary :
    (checkConfig .rivals).exit = 0 ∧
    ∃ c, Coordinator.build .empty ClusterSettings.rivals.coordinatorId
        ClusterSettings.rivals.failover ClusterSettings.rivals.nodes default = .ok c ∧
      c.cluster.primary = some "b" ∧ (c.cluster.node? "d").map (·.role) = some .secondary ∧
      isMarked (nodeLine (.asking "d" .primary)) = true ∧
      roleOn? (nodeLine (.asking "d" .primary)) = some .primary ∧
      ¬ c.cluster.AsShown (.asking "d" .primary) := by
  have hcheck : (checkConfig .rivals).exit = 0 := by rfl
  have hvalid := (CommandLine.checkConfig_exit_iff.mp hcheck).1
  obtain ⟨c, -, hbuild, -⟩ := starts_of_checked default CommandLine.Surroundings.bare_opens hcheck
  have hseats := seats_of_valid hvalid hbuild
  have hprimary : c.cluster.primary = some "b" := hseats.primary
  have hmem : NodeSpec.asking "d" .primary ∈ ClusterSettings.rivals.nodes := by
    simp [ClusterSettings.rivals]
  have hnode : c.cluster.node? "d" = _ := hseats.present _ hmem
  refine ⟨hcheck, c, hbuild, hprimary, ?_, ?_, ?_, ?_⟩
  · rw [hnode, hprimary]
    rfl
  · rw [CommandLine.isMarked_nodeLine]
    rfl
  · rw [CommandLine.roleOn?_nodeLine]
    rfl
  · rw [hseats.asShown_iff hmem, hprimary]
    decide

end Failover
