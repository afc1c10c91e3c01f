import Mathlib
import Failover.CommandLine.Program
import Failover.Proofs.Interleaving
import Failover.Proofs.Members
import Failover.Proofs.UsableSettings

-- The start of a coordinator. The nodes of its settings join one by one, and
-- the first of them that asks for the part of the primary gets it. What a
-- check of the settings accepts is what can start.

namespace Failover

/-! ## The first members -/

/-- The first node on a list that asks for the part of the primary. -/
def firstPrimary? (specs : List NodeSpec) : Option String :=
  (specs.find? fun spec => spec.role == .primary).map (·.id)

theorem firstPrimary?_append (specs : List NodeSpec) (spec : NodeSpec) :
    firstPrimary? (specs ++ [spec]) =
      (firstPrimary? specs).or (if spec.role = .primary then some spec.id else none) := by
  unfold firstPrimary?
  rw [List.find?_append, Option.map_or]
  congr 1
  by_cases h : spec.role = .primary <;> simp [h]

theorem firstPrimary?_eq_some {specs : List NodeSpec} {id : String}
    (h : firstPrimary? specs = some id) : ∃ spec ∈ specs, spec.role = .primary ∧ spec.id = id := by
  obtain ⟨spec, hfind, rfl⟩ := Option.map_eq_some_iff.mp h
  exact ⟨spec, List.mem_of_find?_eq_some hfind, by simpa using List.find?_some hfind, rfl⟩

theorem firstPrimary?_eq_none_iff {specs : List NodeSpec} :
    firstPrimary? specs = none ↔ ∀ spec ∈ specs, spec.role ≠ .primary := by
  simp [firstPrimary?]

/-- The member that a request to join leads to, under this primary. -/
def NodeSpec.seated (spec : NodeSpec) (primary : Option String) (now : Moment) : Node :=
  { spec.toNode now with
    primary := primary == some spec.id
    role := if spec.role = .primary ∧ primary ≠ some spec.id then .secondary else spec.role }

namespace Cluster

/-- The members are the nodes on this list, and nothing has happened to them
since they joined. -/
structure Seats (k : Cluster) (specs : List NodeSpec) (now : Moment) : Prop where
  present : ∀ spec ∈ specs, k.node? spec.id = some (spec.seated k.primary now)
  absent : ∀ id, id ∉ specs.map (·.id) → k.node? id = none
  primary : k.primary = firstPrimary? specs
  state : k.state = .normal
  lastFailure : k.lastFailure = none

variable {k k' : Cluster} {specs : List NodeSpec} {spec : NodeSpec} {now : Moment}

theorem seats_empty (now : Moment) : Seats empty [] now :=
  ⟨by simp, fun _ _ => rfl, rfl, rfl, rfl⟩

theorem Seats.contains_eq_false (h : k.Seats specs now) (hnew : spec.id ∉ specs.map (·.id)) :
    k.contains spec.id = false := by
  have habsent := h.absent spec.id hnew
  unfold contains Table.contains
  rw [node?] at habsent
  rw [habsent, Option.isSome_none]

/-- The primary is on the list. -/
theorem Seats.primary_ne (h : k.Seats specs now) (hnew : spec.id ∉ specs.map (·.id)) :
    k.primary ≠ some spec.id := by
  rw [h.primary]
  intro heq
  obtain ⟨other, hmem, _, hid⟩ := firstPrimary?_eq_some heq
  exact hnew (List.mem_map.mpr ⟨other, hmem, hid⟩)

/-- Whoever is a member is on the list. -/
theorem Seats.node (h : k.Seats specs now) {id : String} {n : Node} (hn : k.node? id = some n) :
    ∃ other ∈ specs, other.id = id ∧ n = other.seated k.primary now := by
  by_cases hid : id ∈ specs.map (·.id)
  · obtain ⟨other, hmem, rfl⟩ := List.mem_map.mp hid
    rw [h.present other hmem, Option.some.injEq] at hn
    exact ⟨other, hmem, rfl, hn.symm⟩
  · rw [h.absent id hid] at hn
    cases hn

theorem Seats.nobody_iff (h : k.Seats specs now) : k.nodes.isEmpty = true ↔ specs = [] := by
  rw [Table.isEmpty_iff]
  constructor
  · intro hnobody
    by_contra hne
    obtain ⟨spec, hmem⟩ := List.exists_mem_of_ne_nil specs hne
    have hpresent := h.present spec hmem
    rw [node?, hnobody spec.id] at hpresent
    cases hpresent
  · rintro rfl name
    exact h.absent name (by simp)

/-- One more node takes its seat, and the others keep theirs. -/
theorem Seats.append (h : k.Seats specs now) (hnew : spec.id ∉ specs.map (·.id))
    (hself : k'.node? spec.id = some (spec.seated k'.primary now))
    (hothers : ∀ id, id ≠ spec.id → k'.node? id = k.node? id)
    (hkept : ∀ other ∈ specs, other.seated k'.primary now = other.seated k.primary now)
    (hprimary : k'.primary = firstPrimary? (specs ++ [spec])) (hstate : k'.state = k.state)
    (hfailure : k'.lastFailure = k.lastFailure) : k'.Seats (specs ++ [spec]) now := by
  refine ⟨?_, ?_, hprimary, hstate.trans h.state, hfailure.trans h.lastFailure⟩
  · intro other hmem
    rcases List.mem_append.mp hmem with hmem | hmem
    · have hne : other.id ≠ spec.id := fun heq => hnew (List.mem_map.mpr ⟨other, hmem, heq⟩)
      rw [hothers other.id hne, hkept other hmem]
      exact h.present other hmem
    · rw [List.mem_singleton.mp hmem]
      exact hself
  · intro id hid
    simp only [List.map_append, List.map_cons, List.map_nil, List.mem_append, List.mem_singleton,
      not_or] at hid
    rw [hothers id hid.2]
    exact h.absent id hid.1

/-- A node that gets no part of the primary. -/
theorem Seats.insert (h : k.Seats specs now) (hnew : spec.id ∉ specs.map (·.id))
    (hpart : spec.role ≠ .primary ∨ k.primary ≠ none) {n : Node}
    (hn : n = spec.seated k.primary now) :
    Seats { k with nodes := k.nodes.insert spec.id n } (specs ++ [spec]) now := by
  refine h.append hnew ?_ ?_ (fun _ _ => rfl) ?_ rfl rfl
  · simp [node?, hn]
  · intro id hid
    simp [node?, hid]
  · change k.primary = _
    rw [firstPrimary?_append, ← h.primary]
    rcases hpart with hrole | hsome
    · rw [if_neg hrole, Option.or_none]
    · exact (Option.or_of_isSome (Option.isSome_iff_ne_none.mpr hsome)).symm

/-- The first node that asks for the part of the primary gets it, and as
nobody has asked before, nobody steps back. -/
theorem Seats.promote (h : k.Seats specs now) (hnew : spec.id ∉ specs.map (·.id))
    (hrole : spec.role = .primary) (hnone : k.primary = none) {n : Node}
    (hn : n = spec.toNode now) :
    Seats ({ k with nodes := k.nodes.insert spec.id n }.promote spec.id) (specs ++ [spec]) now := by
  have hroles : ∀ other ∈ specs, other.role ≠ .primary :=
    firstPrimary?_eq_none_iff.mp (h.primary ▸ hnone)
  refine h.append hnew ?_ ?_ ?_ ?_ rfl rfl
  · rw [node?_promote, node?, Table.get?_insert, if_pos rfl, hn]
    simp [crown, NodeSpec.seated, NodeSpec.toNode, Cluster.promote, hrole]
  · intro id hid
    rw [node?_promote, node?, Table.get?_insert, if_neg hid]
    change (k.node? id).map _ = k.node? id
    cases hid' : k.node? id with
    | none => rfl
    | some m =>
      obtain ⟨other, hmem, rfl, rfl⟩ := h.node hid'
      have hsecond := hroles other hmem
      simp [depose, NodeSpec.seated, NodeSpec.toNode, hnone, hid, hsecond]
  · intro other hmem
    have hsecond := hroles other hmem
    have hne : spec.id ≠ other.id := fun heq => hnew (List.mem_map.mpr ⟨other, hmem, heq.symm⟩)
    simp [NodeSpec.seated, Cluster.promote, hnone, hsecond, hne]
  · change some spec.id = _
    rw [firstPrimary?_append, ← h.primary, hnone, if_pos hrole, Option.none_or]

/-- A node of another name is let in and takes its seat. -/
theorem Seats.add (h : k.Seats specs now) (hnew : spec.id ∉ specs.map (·.id)) :
    ∃ k', k.add (spec.toNode now) = .ok k' ∧ k'.Seats (specs ++ [spec]) now := by
  have hout : k.contains (spec.toNode now).id = false := h.contains_eq_false hnew
  unfold Cluster.add
  rw [if_neg (by simp [hout])]
  dsimp only
  split
  · rename_i hwants
    have hrole : spec.role = .primary := by simpa [NodeSpec.toNode] using hwants
    split
    · rename_i p hp
      refine ⟨_, rfl, h.insert hnew (Or.inr (by simp [hp])) ?_⟩
      have hne := h.primary_ne hnew
      simp [NodeSpec.seated, NodeSpec.toNode, hrole, hne]
    · rename_i hnone
      exact ⟨_, rfl, h.promote hnew hrole hnone rfl⟩
  · rename_i hplain
    have hrole : spec.role ≠ .primary := by simpa [NodeSpec.toNode] using hplain
    refine ⟨_, rfl, h.insert hnew (Or.inl hrole) ?_⟩
    have hne := h.primary_ne hnew
    simp [NodeSpec.seated, NodeSpec.toNode, hrole, hne]

end Cluster

/-! ## Building and starting -/

namespace Coordinator

variable {c : Coordinator} {specs rest : List NodeSpec} {folder : Folder}
  {settings : FailoverSettings} {now : Moment}

/-- Nodes of different names are all let in, one behind the other. -/
theorem addNodes_seats (h : c.cluster.Seats specs now)
    (hnames : ((specs ++ rest).map (·.id)).Nodup) :
    ∃ c', c.addNodes rest now = .ok c' ∧ c'.cluster.Seats (specs ++ rest) now ∧
      c'.settings = c.settings ∧ c'.started = c.started := by
  -- Who has joined moves from the one list to the other, so the names of both
  -- together are what stays.
  induction rest generalizing specs c with
  | nil => exact ⟨c, rfl, by simpa using h, rfl, rfl⟩
  | cons spec rest ih =>
    have hnew : spec.id ∉ specs.map (·.id) := by
      rw [List.map_append, List.nodup_append] at hnames
      intro hmem
      exact hnames.2.2 spec.id hmem spec.id (by simp) rfl
    obtain ⟨k, hk, hseats⟩ := h.add hnew
    have hone : c.addNode spec now = .ok { c with cluster := k }.updateLevels := by
      unfold addNode
      rw [hk]
    rw [List.append_cons] at hnames
    obtain ⟨c', hrest, hall, hsettings, hstarted⟩ :=
      ih (c := { c with cluster := k }.updateLevels) hseats hnames
    refine ⟨c', ?_, List.append_cons specs spec rest ▸ hall, hsettings, hstarted⟩
    unfold addNodes at hrest ⊢
    rw [List.foldlM_cons, hone]
    exact hrest

/-- A coordinator can be created when its settings are valid and its file
opens. -/
theorem create_ok (id : String) (hvalid : settings.validate = .ok ())
    (hlog : ∀ path, settings.eventLogPath = some path → ∃ o, folder.openAt path = .ok o) :
    ∃ c, create folder id settings = .ok c ∧ c.settings = settings ∧ c.started = false := by
  unfold create
  rw [hvalid]
  cases hpath : settings.eventLogPath with
  | none => exact ⟨_, rfl, rfl, rfl⟩
  | some path =>
    obtain ⟨o, ho⟩ := hlog path hpath
    simp only [ho]
    exact ⟨_, rfl, rfl, rfl⟩

/-- A coordinator starts once, and only with members. -/
theorem start_ok_iff {c' : Coordinator} : c.start = .ok c' ↔ c.settings.validate = .ok () ∧
    c.cluster.nodes.isEmpty = false ∧ c.started = false ∧
      c' = { c with started := true }.updateLevels := by
  unfold start
  cases c.settings.validate with
  | error complaint => simp [throw, throwThe, MonadExceptOf.throw, bind, Except.bind]
  | ok =>
    cases c.cluster.nodes.isEmpty <;> cases c.started <;>
      simp [throw, throwThe, MonadExceptOf.throw, bind, Except.bind, pure, Except.pure, eq_comm]

/-- The nodes are let in by a coordinator without members. -/
theorem create_seats {id : String} (h : create folder id settings = .ok c) :
    c.cluster.Seats [] now := by
  have hfresh : c.Fresh := ⟨folder, id, settings, h⟩
  exact hfresh.blank.1 ▸ Cluster.seats_empty now

/-- Nodes of different names make up a coordinator. -/
theorem build_ok (id : String) (now : Moment) (hvalid : settings.validate = .ok ())
    (hlog : ∀ path, settings.eventLogPath = some path → ∃ o, folder.openAt path = .ok o)
    (hnames : (specs.map (·.id)).Nodup) :
    ∃ c, build folder id settings specs now = .ok c ∧ c.settings = settings ∧
      c.started = false := by
  obtain ⟨c, hcreate, hsettings, hstarted⟩ := create_ok id hvalid hlog
  obtain ⟨c', hadd, -, hsettings', hstarted'⟩ := addNodes_seats (create_seats hcreate) hnames
  refine ⟨c', ?_, hsettings'.trans hsettings, hstarted'.trans hstarted⟩
  unfold build
  rw [hcreate]
  exact hadd

/-- Whatever has been built has these members. -/
theorem build_seats {id : String} (hnames : (specs.map (·.id)).Nodup)
    (h : build folder id settings specs now = .ok c) : c.cluster.Seats specs now := by
  unfold build at h
  cases hcreate : create folder id settings with
  | error e =>
    rw [hcreate] at h
    cases h
  | ok c₀ =>
    obtain ⟨c', hadd, hseats, -, -⟩ := addNodes_seats (create_seats hcreate) hnames
    rw [hcreate] at h
    obtain rfl : c' = c := Except.ok.inj (hadd.symm.trans h)
    exact hseats

end Coordinator

/-! ## The check of the settings -/

namespace ClusterSettings

/-- Nothing is wrong with the nodes when each has a name of its own. -/
theorem nodeComplaint?_eq_none_iff {seen : List String} {specs : List NodeSpec} :
    nodeComplaint? seen specs = none ↔
      (∀ spec ∈ specs, spec.id ≠ "" ∧ spec.id ∉ seen) ∧ (specs.map (·.id)).Nodup := by
  induction specs generalizing seen with
  | nil => simp [nodeComplaint?]
  | cons spec rest ih =>
    unfold nodeComplaint?
    split
    · rename_i hempty
      have hnone : spec.id = "" := String.isEmpty_iff.mp hempty
      simp [hnone]
    · rename_i hname
      split
      · rename_i hseen
        have hmem : spec.id ∈ seen := by simpa using hseen
        simp [hmem]
      · rename_i hseen
        rw [ih]
        simp only [String.isEmpty_iff, List.contains_eq_mem, decide_eq_true_eq] at hname hseen
        simp only [List.mem_cons, List.map_cons, List.nodup_cons, List.mem_map, forall_eq_or_imp]
        grind

theorem validate_eq_ok_iff {s : ClusterSettings} : s.validate = .ok () ↔
    s.failover.validate = .ok () ∧ (∀ spec ∈ s.nodes, spec.id ≠ "") ∧
      (s.nodes.map (·.id)).Nodup ∧ 0 < s.probe.requestTimeoutMs := by
  have hnodes : nodeComplaint? [] s.nodes = none ↔
      (∀ spec ∈ s.nodes, spec.id ≠ "") ∧ (s.nodes.map (·.id)).Nodup := by
    simp [nodeComplaint?_eq_none_iff]
  rw [← and_assoc (a := ∀ spec ∈ s.nodes, spec.id ≠ ""), ← hnodes]
  unfold validate
  cases s.failover.validate with
  | error complaint => simp [bind, Except.bind]
  | ok =>
    cases nodeComplaint? [] s.nodes <;> simp [bind, Except.bind, Nat.pos_iff_ne_zero]

end ClusterSettings

namespace CommandLine

variable {s : ClusterSettings} {around : Surroundings}

/-- Settings pass when they are valid and name a node. -/
theorem checkConfig_exit_iff : (checkConfig s).exit = 0 ↔ s.validate = .ok () ∧ s.nodes ≠ [] := by
  unfold checkConfig
  cases s.validate with
  | error complaint => simp [Conclusion.failure]
  | ok => cases s.nodes <;> simp [Conclusion.ofResult, Conclusion.success, Conclusion.failure]

/-- Without an interface there is nothing to wait for after the start. -/
theorem serve_ok_iff (hserver : s.server.enabled = false) :
    serve around s = .ok () ↔ s.validate = .ok () ∧ ∃ c c',
      Coordinator.build around.folder s.coordinatorId s.failover s.nodes around.now = .ok c ∧
        c.start = .ok c' := by
  unfold serve
  cases s.validate with
  | error complaint => simp [throw, throwThe, MonadExceptOf.throw, bind, Except.bind]
  | ok =>
    cases Coordinator.build around.folder s.coordinatorId s.failover s.nodes around.now with
    | error e => simp [throw, throwThe, MonadExceptOf.throw]
    | ok c =>
      cases hstart : c.start <;>
        simp [throw, throwThe, MonadExceptOf.throw, bind, Except.bind, pure, Except.pure, hserver, hstart]

end CommandLine

/-! ## What starts -/

/-- The member that a request has led to: all that was asked for, but for the
part of the primary where another has it, and no verdict yet. -/
structure NodeSpec.Became (spec : NodeSpec) (primary : Option String) (n : Node) : Prop where
  id : n.id = spec.id
  name : n.name = spec.name.getD spec.id
  address : n.address = spec.host
  port : n.port = spec.port
  priority : n.priority = spec.priority
  labels : n.labels = spec.labels
  status : n.status = .unknown
  active : n.active = true
  failures : n.failures = 0
  marked : n.primary = true ↔ primary = some spec.id
  role : n.role = if spec.role = .primary ∧ primary ≠ some spec.id then .secondary else spec.role

theorem NodeSpec.seated_became (spec : NodeSpec) (primary : Option String) (now : Moment) :
    spec.Became primary (spec.seated primary now) :=
  ⟨rfl, rfl, rfl, rfl, rfl, rfl, rfl, rfl, rfl, beq_iff_eq, rfl⟩

/-- The members are the nodes on this list and no others, the first that asks
for the part of the primary has it, and nothing has failed yet. -/
structure Cluster.FormedFrom (k : Cluster) (specs : List NodeSpec) : Prop where
  present : ∀ spec ∈ specs, ∃ n, k.node? spec.id = some n ∧ spec.Became k.primary n
  absent : ∀ id, id ∉ specs.map (·.id) → k.node? id = none
  primary : k.primary = firstPrimary? specs
  state : k.state = .normal
  lastFailure : k.lastFailure = none

theorem Cluster.Seats.formed {k : Cluster} {specs : List NodeSpec} {now : Moment}
    (h : k.Seats specs now) : k.FormedFrom specs :=
  ⟨fun spec hmem => ⟨_, h.present spec hmem, spec.seated_became k.primary now⟩, h.absent, h.primary,
    h.state, h.lastFailure⟩

/-- Settings that pass the check make up a coordinator that starts. -/
theorem starts_of_checked {s : ClusterSettings} {folder : Folder} (now : Moment)
    (hlog : ∀ path, s.failover.eventLogPath = some path → ∃ o, folder.openAt path = .ok o)
    (hcheck : (CommandLine.checkConfig s).exit = 0) :
    ∃ c c', Coordinator.build folder s.coordinatorId s.failover s.nodes now = .ok c ∧
      c.start = .ok c' := by
  obtain ⟨hvalid, hnodes⟩ := CommandLine.checkConfig_exit_iff.mp hcheck
  obtain ⟨hfailover, _, hnames, _⟩ := ClusterSettings.validate_eq_ok_iff.mp hvalid
  obtain ⟨c, hbuild, hsettings, hstarted⟩ :=
    Coordinator.build_ok s.coordinatorId now hfailover hlog hnames
  have hmembers : c.cluster.nodes.isEmpty = false := by
    rw [Bool.eq_false_iff, ne_eq, (Coordinator.build_seats hnames hbuild).nobody_iff]
    exact hnodes
  exact ⟨c, _, hbuild,
    Coordinator.start_ok_iff.mpr ⟨hsettings.symm ▸ hfailover, hmembers, hstarted, rfl⟩⟩

/-- The members of what has been built are those that valid settings ask for. -/
theorem seats_of_valid {s : ClusterSettings} {folder : Folder} {now : Moment} {c : Coordinator}
    (hvalid : s.validate = .ok ())
    (hbuild : Coordinator.build folder s.coordinatorId s.failover s.nodes now = .ok c) :
    c.cluster.Seats s.nodes now :=
  Coordinator.build_seats (ClusterSettings.validate_eq_ok_iff.mp hvalid).2.2.1 hbuild

/-- Settings pass the check exactly when they are valid and make up a
coordinator that starts, which without an interface is all that a run of the
program does. The members are then those that the settings ask for. -/
theorem what_the_check_accepts_can_start (s : ClusterSettings) (around : CommandLine.Surroundings)
    (hlog : ∀ path, s.failover.eventLogPath = some path → ∃ o, around.folder.openAt path = .ok o) :
    ((CommandLine.checkConfig s).exit = 0 ↔ s.validate = .ok () ∧ ∃ c c',
      Coordinator.build around.folder s.coordinatorId s.failover s.nodes around.now = .ok c ∧
        c.start = .ok c') ∧
    (s.server.enabled = false →
      ((CommandLine.checkConfig s).exit = 0 ↔ CommandLine.serve around s = .ok ())) ∧
    ∀ c c', (CommandLine.checkConfig s).exit = 0 →
      Coordinator.build around.folder s.coordinatorId s.failover s.nodes around.now = .ok c →
      c.start = .ok c' → c'.cluster.FormedFrom s.nodes := by
  have hstarts : (CommandLine.checkConfig s).exit = 0 ↔ s.validate = .ok () ∧ ∃ c c',
      Coordinator.build around.folder s.coordinatorId s.failover s.nodes around.now = .ok c ∧
        c.start = .ok c' := by
    constructor
    · intro hcheck
      exact ⟨(CommandLine.checkConfig_exit_iff.mp hcheck).1, starts_of_checked around.now hlog hcheck⟩
    · rintro ⟨hvalid, c, c', hbuild, hstart⟩
      have hmembers := (Coordinator.start_ok_iff.mp hstart).2.1
      rw [Bool.eq_false_iff, ne_eq, (seats_of_valid hvalid hbuild).nobody_iff] at hmembers
      exact CommandLine.checkConfig_exit_iff.mpr ⟨hvalid, hmembers⟩
  refine ⟨hstarts, fun hserver => hstarts.trans (CommandLine.serve_ok_iff hserver).symm, ?_⟩
  intro c c' hcheck hbuild hstart
  have hseats := seats_of_valid (CommandLine.checkConfig_exit_iff.mp hcheck).1 hbuild
  rw [(Coordinator.start_ok_iff.mp hstart).2.2.2]
  exact hseats.formed

/-- A node that asks for a part, on a host of its own name. -/
def NodeSpec.asking (id : String) (role : NodeRole) : NodeSpec :=
  { NodeSpec.blank with id, host := id, port := 7000, role }

/-- No interface, a log, and two nodes that both want to be primary. -/
def ClusterSettings.rivals : ClusterSettings :=
  { ClusterSettings.standard "c" with
    server := { ServerSettings.standard with enabled := false }
    failover := { FailoverSettings.standard with eventLogPath := some "log" }
    nodes := [.asking "a" .hotSpare, .asking "b" .primary, .asking "d" .primary] }

/-- An empty machine. -/
def CommandLine.Surroundings.bare : CommandLine.Surroundings :=
  { host := "c", environment := [], folder := .empty, web := none, takenPorts := [], now := default }

theorem CommandLine.Surroundings.bare_opens (path : String)
    (hpath : ClusterSettings.rivals.failover.eventLogPath = some path) :
    ∃ o, bare.folder.openAt path = .ok o := by
  obtain rfl : "log" = path := Option.some.inj hpath
  have hopens : (Folder.empty.openAt "log").isOk = true := by cbv
  change ∃ o, Folder.empty.openAt "log" = .ok o
  cases hopen : Folder.empty.openAt "log" with
  | error fault =>
    rw [hopen] at hopens
    cases hopens
  | ok o => exact ⟨o, rfl⟩

/-- The second of them steps back. -/
theorem what_the_check_accepts_can_start_with_rivals :
    (∃ o, Folder.empty.openAt "log" = .ok o) ∧
    (CommandLine.checkConfig .rivals).exit = 0 ∧ CommandLine.serve .bare .rivals = .ok () ∧
    ∃ k : Cluster, k.FormedFrom ClusterSettings.rivals.nodes ∧ k.primary = some "b" ∧
      (k.node? "d").map (·.role) = some .secondary := by
  have hcheck : (CommandLine.checkConfig .rivals).exit = 0 := by rfl
  obtain ⟨hstarts, hserve, hformed⟩ :=
    what_the_check_accepts_can_start .rivals .bare CommandLine.Surroundings.bare_opens
  obtain ⟨-, c, c', hbuild, hstart⟩ := hstarts.mp hcheck
  have hforms := hformed c c' hcheck hbuild hstart
  have hprimary : c'.cluster.primary = some "b" := hforms.primary
  obtain ⟨n, hn, hbecame⟩ :=
    hforms.present (.asking "d" .primary) (by simp [ClusterSettings.rivals])
  refine ⟨CommandLine.Surroundings.bare_opens "log" rfl, hcheck, (hserve rfl).mp hcheck,
    c'.cluster, hforms, hprimary, ?_⟩
  change (c'.cluster.node? (NodeSpec.asking "d" .primary).id).map (·.role) = _
  rw [hn, Option.map_some, hbecame.role, hprimary]
  rfl

end Failover
