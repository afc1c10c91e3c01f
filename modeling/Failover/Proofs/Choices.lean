import Failover.Proofs.Audience
import Failover.Proofs.Promotions
import Failover.Proofs.SinglePrimary

-- How a candidate is chosen, in time. The members are ranked once, and asked
-- in that order until the first of them is reached or the time is over. What
-- the choice comes to is a function of the members as they are at its
-- beginning and of what they answer; it changes nothing on its way.

namespace Failover

/-! ## Nodes that answer for themselves -/

/-- What the nodes answer, and how long that takes, in nanoseconds: each of
them for itself, whatever was asked before. -/
structure Hosts where
  pings : Node → Bool
  /-- How long a round of pings takes. -/
  round : Nat
  probes : Node → ProbeResult Float
  /-- How long a sweep takes. -/
  sweep : Nat
  /-- Whether a connection is made. -/
  reached : Node → Bool
  /-- How long a connection takes, or its failure. -/
  delay : Node → Nat

namespace Hosts

def network (hosts : Hosts) : Network where
  answer
    | _, .pings targets => targets.map hosts.pings
    | _, .probes targets => targets.map hosts.probes
    | _, .connection node => hosts.reached node
  takes
    | _, .pings _ => (hosts.round : Int)
    | _, .probes _ => (hosts.sweep : Int)
    | _, .connection node => (hosts.delay node : Int)

/-- How long it takes to ask these nodes, one after the other. -/
def delays (hosts : Hosts) : List Node → Int
  | [] => 0
  | x :: rest => hosts.delay x + delays hosts rest

variable {hosts : Hosts}

@[simp] theorem delays_nil : hosts.delays [] = 0 := rfl

@[simp] theorem delays_cons (x : Node) (nodes : List Node) :
    hosts.delays (x :: nodes) = hosts.delay x + hosts.delays nodes := rfl

theorem delays_nonneg (nodes : List Node) : 0 ≤ hosts.delays nodes := by
  induction nodes with
  | nil => exact Int.le_refl 0
  | cons x rest ih => exact Int.add_nonneg (Int.natCast_nonneg _) ih

end Hosts

/-! ## What a choice comes to -/

inductive Choice where
  | falseAlarm
  | found (candidate : Candidate)
  | failed (f : FailoverFailure)

/-- The section that follows a choice. -/
def Choice.carryOut (now : Moment) (a : Attempt) : Choice → Section
  | falseAlarm => Coordinator.cancelAttempt now a
  | found candidate => Coordinator.commitPromotion now a candidate
  | failed f => Coordinator.failAttempt now a f

namespace Hosts

/-- These nodes are asked in turn while there is time left: what that comes
to, and who has been asked in the end. -/
def search (hosts : Hosts) (s : FailoverSettings) : Int → List Node → Choice × List Node
  | _, [] => (.failed .noCandidate, [])
  | left, x :: rest =>
    if hosts.delay x ≤ left then
      if hosts.reached x then (.found (x.candidate s.weights), [x])
      else
        let later := hosts.search s (left - hosts.delay x) rest
        (later.1, x :: later.2)
    else (.failed (.timedOut s.failoverTimeout), [x])

/-- What a choice comes to, and who is asked on the way. -/
def choose (hosts : Hosts) (s : FailoverSettings) (nodes : List Node) (a : Attempt) :
    Choice × List Node :=
  match Selection.of s nodes a with
  | .falseAlarm => (.falseAlarm, [])
  | .failed f => (.failed f, [])
  | .candidates ranked => hosts.search s s.failoverTimeout (ranked.map (·.2))

/-- This is the first of the nodes that can be reached, and it is reached in
time. -/
def ReachesFirst (hosts : Hosts) (left : Int) (ranking : List Node) (x : Node) : Prop :=
  ∃ before after, ranking = before ++ x :: after ∧ (∀ y ∈ before, hosts.reached y = false) ∧
    hosts.reached x = true ∧ hosts.delays (before ++ [x]) ≤ left

/-- Nobody can be reached, and that is known in time. -/
def ReachesNobody (hosts : Hosts) (left : Int) (ranking : List Node) : Prop :=
  (∀ x ∈ ranking, hosts.reached x = false) ∧ hosts.delays ranking ≤ left

variable {hosts : Hosts} {s : FailoverSettings} {left : Int} {ranking rest : List Node} {x y : Node}

theorem not_reachesFirst_nil : ¬ hosts.ReachesFirst left [] x := by
  rintro ⟨before, after, h, _⟩
  cases before <;> cases h

theorem reachesFirst_cons : hosts.ReachesFirst left (x :: rest) y ↔
    (hosts.reached x = true ∧ y = x ∧ hosts.delay x ≤ left) ∨
      (hosts.reached x = false ∧ hosts.ReachesFirst (left - hosts.delay x) rest y) := by
  constructor
  · rintro ⟨before, after, h, hbefore, hy, htime⟩
    cases before with
    | nil =>
      cases h
      exact Or.inl ⟨hy, rfl, by simpa using htime⟩
    | cons z before =>
      cases h
      refine Or.inr ⟨hbefore x (by simp), before, after, rfl, ?_, hy, ?_⟩
      · exact fun z hz => hbefore z (List.mem_cons_of_mem _ hz)
      · rw [List.cons_append, delays_cons] at htime
        omega
  · rintro (⟨hx, rfl, htime⟩ | ⟨hx, before, after, rfl, hbefore, hy, htime⟩)
    · exact ⟨[], rest, rfl, by simp, hx, by simpa using htime⟩
    · refine ⟨x :: before, after, rfl, ?_, hy, ?_⟩
      · intro z hz
        rcases List.mem_cons.mp hz with rfl | hz
        · exact hx
        · exact hbefore z hz
      · rw [List.cons_append, delays_cons]
        omega

theorem reachesNobody_cons : hosts.ReachesNobody left (x :: rest) ↔
    hosts.reached x = false ∧ hosts.ReachesNobody (left - hosts.delay x) rest := by
  simp only [ReachesNobody, List.forall_mem_cons, delays_cons, and_assoc]
  refine and_congr_right fun _ => and_congr_right fun _ => ?_
  omega

theorem ReachesFirst.mem (h : hosts.ReachesFirst left ranking x) : x ∈ ranking := by
  obtain ⟨before, after, rfl, _⟩ := h
  simp

/-- Nothing is known in less than no time. -/
theorem ReachesFirst.nonneg (h : hosts.ReachesFirst left ranking x) : 0 ≤ left := by
  obtain ⟨before, _, _, _, _, htime⟩ := h
  exact Int.le_trans (delays_nonneg _) htime

theorem ReachesNobody.nonneg (h : hosts.ReachesNobody left ranking) : 0 ≤ left :=
  Int.le_trans (delays_nonneg _) h.2

/-! ## The search -/

theorem search_reached (htime : hosts.delay x ≤ left) (hx : hosts.reached x = true) :
    hosts.search s left (x :: rest) = (.found (x.candidate s.weights), [x]) := by
  simp [search, htime, hx]

theorem search_refused (htime : hosts.delay x ≤ left) (hx : hosts.reached x = false) :
    hosts.search s left (x :: rest) = ((hosts.search s (left - hosts.delay x) rest).1,
      x :: (hosts.search s (left - hosts.delay x) rest).2) := by
  simp [search, htime, hx]

theorem search_late (htime : ¬ hosts.delay x ≤ left) :
    hosts.search s left (x :: rest) = (.failed (.timedOut s.failoverTimeout), [x]) := by
  simp [search, htime]

theorem search_found {candidate : Candidate} :
    (hosts.search s left ranking).1 = .found candidate ↔
      ∃ x, hosts.ReachesFirst left ranking x ∧ x.candidate s.weights = candidate := by
  induction ranking generalizing left with
  | nil => simp [search, not_reachesFirst_nil]
  | cons x rest ih =>
    by_cases htime : hosts.delay x ≤ left
    · cases hx : hosts.reached x with
      | true => simp [search_reached htime hx, reachesFirst_cons, htime, hx]
      | false => simp [search_refused htime hx, reachesFirst_cons, hx, ih]
    · have hlate : ∀ y, ¬ hosts.ReachesFirst (left - hosts.delay x) rest y := by
        intro y h
        have := h.nonneg
        omega
      simp [search_late htime, reachesFirst_cons, htime, hlate]

theorem search_noCandidate (hleft : 0 ≤ left) :
    (hosts.search s left ranking).1 = .failed .noCandidate ↔ hosts.ReachesNobody left ranking := by
  induction ranking generalizing left with
  | nil => simpa [search, ReachesNobody] using hleft
  | cons x rest ih =>
    rw [reachesNobody_cons]
    by_cases htime : hosts.delay x ≤ left
    · cases hx : hosts.reached x with
      | true => simp [search_reached htime hx]
      | false =>
        have hrest : 0 ≤ left - hosts.delay x := by omega
        simp [search_refused htime hx, ih hrest]
    · have hlate : ¬ hosts.ReachesNobody (left - hosts.delay x) rest := by
        intro h
        have := h.nonneg
        omega
      simp [search_late htime, hlate]

/-- The search comes to nothing else. -/
theorem search_cases (hosts : Hosts) (s : FailoverSettings) (left : Int) (ranking : List Node) :
    (∃ candidate, (hosts.search s left ranking).1 = .found candidate) ∨
      (hosts.search s left ranking).1 = .failed .noCandidate ∨
      (hosts.search s left ranking).1 = .failed (.timedOut s.failoverTimeout) := by
  induction ranking generalizing left with
  | nil => exact Or.inr (Or.inl rfl)
  | cons x rest ih =>
    by_cases htime : hosts.delay x ≤ left
    · cases hx : hosts.reached x with
      | true => exact Or.inl ⟨_, congrArg Prod.fst (search_reached htime hx)⟩
      | false =>
        rw [search_refused htime hx]
        exact ih _
    · exact Or.inr (Or.inr (congrArg Prod.fst (search_late htime)))

theorem search_timedOut (hleft : 0 ≤ left) :
    (hosts.search s left ranking).1 = .failed (.timedOut s.failoverTimeout) ↔
      (¬ ∃ x, hosts.ReachesFirst left ranking x) ∧ ¬ hosts.ReachesNobody left ranking := by
  rw [← search_noCandidate (s := s) hleft]
  constructor
  · intro h
    refine ⟨fun ⟨x, hx⟩ => ?_, by simp [h]⟩
    have hfound := (search_found (s := s)).mpr ⟨x, hx, rfl⟩
    cases h.symm.trans hfound
  · rintro ⟨hnot, hnobody⟩
    rcases hosts.search_cases s left ranking with ⟨candidate, hfound⟩ | h | h
    · obtain ⟨x, hx, _⟩ := search_found.mp hfound
      exact absurd ⟨x, hx⟩ hnot
    · exact absurd h hnobody
    · exact h

/-- The nodes are asked in their order, and nobody after the first that is
reached. -/
theorem search_asks (hosts : Hosts) (s : FailoverSettings) (left : Int) (ranking : List Node) :
    (hosts.search s left ranking).2 <+: ranking ∧
      ∀ y ∈ (hosts.search s left ranking).2.dropLast, hosts.reached y = false := by
  induction ranking generalizing left with
  | nil => exact ⟨List.prefix_rfl, by simp [search]⟩
  | cons x rest ih =>
    by_cases htime : hosts.delay x ≤ left
    · cases hx : hosts.reached x with
      | true => simp [search_reached htime hx]
      | false =>
        obtain ⟨hbegins, hlast⟩ := ih (left - hosts.delay x)
        rw [search_refused htime hx]
        dsimp only
        generalize (hosts.search s (left - hosts.delay x) rest).2 = asked at hbegins hlast ⊢
        refine ⟨List.cons_prefix_cons.mpr ⟨rfl, hbegins⟩, ?_⟩
        cases asked with
        | nil => simp
        | cons z asked =>
          intro y hy
          rcases List.mem_cons.mp hy with rfl | hy
          · exact hx
          · exact hlast y hy
    · simp [search_late htime]

end Hosts

/-! ## The choice in time -/

namespace Solo

variable {hosts : Hosts} {audience : Audience} {u : Solo} {k : Coordinator} {a : Attempt}

/-- These nodes have been asked as well. -/
def asking (u : Solo) (nodes : List Node) : Solo :=
  { u with asked := u.asked ++ nodes.map .connection }

@[simp] theorem asking_nil (u : Solo) : u.asking [] = u := by
  simp [asking]

theorem asking_cons (u : Solo) (x : Node) (nodes : List Node) :
    u.asking (x :: nodes) = (u.asking [x]).asking nodes := by
  simp [asking]

/-- The next section of a run that has recorded nothing since. -/
theorem after_after (hk : k.log.appended = u.coordinator.log.appended) (now now' : Moment)
    (progress : Progress) (r : Coordinator × Progress) (nodes : List Node) :
    ((u.after now (k, progress)).asking nodes).after now' r = (u.asking nodes).after now' r := by
  simp [after, asking, ← hk, EventLog.since_appended]

/-- One candidate is asked. -/
theorem next_asks (hk : k.log.appended = u.coordinator.log.appended) (now deadline : Moment)
    (candidate : Candidate) (node : Node) (rest : List (Candidate × Node)) :
    let s := u.after now (k, .waits (.connecting a deadline candidate node rest))
    let now' := now.plus (min (hosts.delay node : Int) (deadline.since now))
    let reply := if (hosts.delay node : Int) ≤ deadline.since now then some (hosts.reached node) else none
    s.next hosts.network audience = (u.asking [node]).after now'
      (Coordinator.afterConnect now' a deadline candidate rest reply k) := by
  intro s now' reply
  rw [next_of_waits hosts.network audience (a := .connecting a deadline candidate node rest) rfl]
  exact after_after hk now now' _ _ [node]

/-- The candidates are asked in turn, and nothing changes until one is found or
the attempt has failed. -/
theorem tryNext_searches (hk : k.log.appended = u.coordinator.log.appended) (hosts : Hosts)
    (audience : Audience) (a : Attempt) {ranked : List (Candidate × Node)}
    (hranked : ∀ x ∈ ranked, x.1 = x.2.candidate k.settings.weights) (now deadline : Moment) :
    let search := hosts.search k.settings (deadline.since now) (ranked.map (·.2))
    let s := u.after now (Coordinator.tryNext now a deadline ranked k)
    ∃ n now', s.later hosts.network audience n =
        (u.asking search.2).after now' (search.1.carryOut now' a k) ∧
      ∀ i < n, (s.later hosts.network audience i).coordinator = k := by
  induction ranked generalizing u now with
  | nil => exact ⟨0, now, by simp [Hosts.search, Choice.carryOut, Coordinator.tryNext, later], by simp⟩
  | cons x rest ih =>
    obtain ⟨candidate, node⟩ := x
    obtain rfl : candidate = node.candidate k.settings.weights := hranked (candidate, node) (by simp)
    intro search s
    have hnext : s.next hosts.network audience = _ :=
      next_asks hk now deadline (node.candidate k.settings.weights) node rest
    have hstill : ∀ i < 1, (s.later hosts.network audience i).coordinator = k := by
      intro i hi
      obtain rfl : i = 0 := by omega
      rfl
    by_cases htime : (hosts.delay node : Int) ≤ deadline.since now
    · rw [if_pos htime, Int.min_eq_left htime] at hnext
      cases hreached : hosts.reached node with
      | true =>
        rw [hreached] at hnext
        refine ⟨1, now.plus (hosts.delay node : Int), ?_, hstill⟩
        rw [show search = _ from Hosts.search_reached htime hreached]
        exact hnext
      | false =>
        -- the search goes on with the next node, a little later
        have hnext' : s.next hosts.network audience =
            (u.asking [node]).after (now.plus (hosts.delay node : Int))
              (Coordinator.tryNext (now.plus (hosts.delay node : Int)) a deadline rest k) := by
          rw [hreached] at hnext
          exact hnext
        obtain ⟨n, now', hlater, hearlier⟩ := ih (u := u.asking [node]) hk
          (fun x hx => hranked x (List.mem_cons_of_mem _ hx)) (now.plus (hosts.delay node : Int))
        rw [← hnext', Moment.since_later, ← asking_cons] at hlater
        rw [← hnext'] at hearlier
        refine ⟨n + 1, now', ?_, ?_⟩
        · rw [show search = _ from Hosts.search_refused htime hreached]
          exact hlater
        · intro i hi
          cases i with
          | zero => rfl
          | succ i => exact hearlier i (by omega)
    · rw [if_neg htime, Int.min_eq_right (by omega)] at hnext
      refine ⟨1, now.plus (deadline.since now), ?_, hstill⟩
      rw [show search = _ from Hosts.search_late htime]
      exact hnext

/-- The choice of a candidate takes its time, changes nothing meanwhile, and
comes to what the members and their answers make of it. -/
theorem selectCandidate_chooses (hk : k.log.appended = u.coordinator.log.appended)
    (named : ∀ id n, k.cluster.node? id = some n → n.id = id) (hosts : Hosts) (audience : Audience)
    (now : Moment) (a : Attempt) :
    let chosen := hosts.choose k.settings k.cluster.list a
    let s := u.after now (Coordinator.selectCandidate now a k)
    ∃ n now', s.later hosts.network audience n =
        (u.asking chosen.2).after now' (chosen.1.carryOut now' a k) ∧
      ∀ i < n, (s.later hosts.network audience i).coordinator = k := by
  unfold Hosts.choose Coordinator.selectCandidate
  cases hselection : Selection.of k.settings k.cluster.list a with
  | falseAlarm => exact ⟨0, now, by rw [asking_nil]; rfl, by simp⟩
  | failed f => exact ⟨0, now, by rw [asking_nil]; rfl, by simp⟩
  | candidates ranked =>
    have hranked := (Selection.candidates_ranking named hselection).2
    have hsearch := tryNext_searches hk hosts audience a hranked now
      (now.plus k.settings.failoverTimeout)
    rw [Moment.since_plus] at hsearch
    exact hsearch

end Solo

/-! ## The law of the choice -/

/-- The node that was to be replaced works, and the cause may have been
mistaken. -/
def Attempt.Mistaken (a : Attempt) (nodes : List Node) : Prop :=
  a.trigger.mayBeFalseAlarm = true ∧
    ∃ n ∈ nodes, a.failing = some n.id ∧ n.active = true ∧ n.status = .healthy

/-- How many active members there are besides the one that is replaced. -/
def Selection.backing (nodes : List Node) (failing : Option String) : Nat :=
  nodes.countP fun n => n.active && failing != some n.id

/-- What is chosen among these members, case by case: a false alarm comes first,
then the quorum, and then whoever is the first in reach. -/
structure Choice.Follows (hosts : Hosts) (s : FailoverSettings) (nodes : List Node) (a : Attempt)
    (choice : Choice) : Prop where
  falseAlarm : choice = .falseAlarm ↔ a.Mistaken nodes
  quorum : ¬ a.Mistaken nodes → ∀ needed got, choice = .failed (.quorumNotReached needed got) ↔
    s.enforceQuorum = true ∧ needed = s.quorumSize ∧ got = Selection.backing nodes a.failing ∧
      got < needed
  search : ¬ a.Mistaken nodes →
    ¬ (s.enforceQuorum = true ∧ Selection.backing nodes a.failing < s.quorumSize) →
    let ranking := Candidate.ranking s.weights nodes a.failing
    (∀ candidate, choice = .found candidate ↔
      ∃ x, hosts.ReachesFirst s.failoverTimeout ranking x ∧ x.candidate s.weights = candidate) ∧
    (choice = .failed .noCandidate ↔ hosts.ReachesNobody s.failoverTimeout ranking) ∧
    (choice = .failed (.timedOut s.failoverTimeout) ↔
      (¬ ∃ x, hosts.ReachesFirst s.failoverTimeout ranking x) ∧
        ¬ hosts.ReachesNobody s.failoverTimeout ranking)

theorem FailoverSettings.failoverTimeout_nonneg (s : FailoverSettings) : 0 ≤ s.failoverTimeout :=
  Int.mul_nonneg (Int.natCast_nonneg _) (by decide)

theorem Hosts.choose_follows {k : Cluster} (named : ∀ id n, k.node? id = some n → n.id = id)
    (hosts : Hosts) (s : FailoverSettings) (a : Attempt) :
    (hosts.choose s k.list a).1.Follows hosts s k.list a := by
  have halarm : Selection.isFalseAlarm k.list a = true ↔ a.Mistaken k.list :=
    Selection.isFalseAlarm_iff named
  have hbacking : Selection.reachableMembers k.list a.failing = Selection.backing k.list a.failing :=
    List.countP_eq_length_filter.symm
  unfold choose
  rcases Selection.of_cases s k.list a with ⟨h, hof⟩ | ⟨h, hquorum, hof⟩ | ⟨h, hquorum, ranked, hof⟩
  · have hmistaken := halarm.mp h
    rw [hof]
    exact ⟨by simp [hmistaken], fun hnot => absurd hmistaken hnot, fun hnot => absurd hmistaken hnot⟩
  · have hmistaken : ¬ a.Mistaken k.list := by simp [← halarm, h]
    rw [hbacking] at hquorum hof
    rw [hof]
    refine ⟨by simp [hmistaken], fun _ needed got => ?_, fun _ hnot => absurd hquorum hnot⟩
    constructor
    · intro heq
      cases heq
      exact ⟨hquorum.1, rfl, rfl, hquorum.2⟩
    · rintro ⟨_, rfl, rfl, _⟩
      rfl
  · have hmistaken : ¬ a.Mistaken k.list := by simp [← halarm, h]
    rw [hbacking] at hquorum
    rw [hof]
    dsimp only
    rw [(Selection.candidates_ranking named hof).1]
    refine ⟨?_, fun _ needed got => ?_, fun _ _ => ⟨fun _ => search_found, ?_, ?_⟩⟩
    · rcases hosts.search_cases s s.failoverTimeout
        (Candidate.ranking s.weights k.list a.failing) with ⟨_, h⟩ | h | h <;> simp [h, hmistaken]
    · constructor
      · intro heq
        rcases hosts.search_cases s s.failoverTimeout
          (Candidate.ranking s.weights k.list a.failing) with ⟨_, h⟩ | h | h <;> cases h.symm.trans heq
      · rintro ⟨henforced, rfl, rfl, hless⟩
        exact absurd ⟨henforced, hless⟩ hquorum
    · exact search_noCandidate s.failoverTimeout_nonneg
    · exact search_timedOut s.failoverTimeout_nonneg

/-- Nobody is asked but in the order of the ranking, and nobody after the first
that is reached. -/
theorem Hosts.choose_asks {k : Cluster} (named : ∀ id n, k.node? id = some n → n.id = id)
    (hosts : Hosts) (s : FailoverSettings) (a : Attempt) :
    (hosts.choose s k.list a).2 <+: Candidate.ranking s.weights k.list a.failing ∧
      ∀ x ∈ (hosts.choose s k.list a).2.dropLast, hosts.reached x = false := by
  unfold choose
  cases hof : Selection.of s k.list a with
  | falseAlarm | failed f => exact ⟨List.nil_prefix, by simp⟩
  | candidates ranked =>
    rw [← (Selection.candidates_ranking named hof).1]
    exact hosts.search_asks s s.failoverTimeout (ranked.map (·.2))

/-- A run in which nothing has happened yet. -/
def Solo.idle (now : Moment) (c : Coordinator) : Solo :=
  { now, coordinator := c, progress := .ends .done, asked := [], called := [], events := [] }

/-- The members as they are when the choice begins and what they answer decide
what it comes to. The nodes are asked in the order of the ranking, nobody is
asked after the first that is reached, and until the choice has come to
something nothing changes at all. -/
theorem the_first_in_reach_is_chosen (hosts : Hosts) (audience : Audience) (now : Moment)
    (c : Coordinator) (a : Attempt) (named : ∀ id n, c.cluster.node? id = some n → n.id = id) :
    let s := (Solo.idle now c).after now (Coordinator.selectCandidate now a c)
    ∃ (n : Nat) (now' : Moment) (choice : Choice) (asked : List Node),
      s.later hosts.network audience n =
        ((Solo.idle now c).asking asked).after now' (choice.carryOut now' a c) ∧
      (∀ i < n, (s.later hosts.network audience i).coordinator = c) ∧
      choice.Follows hosts c.settings c.cluster.list a ∧
      asked <+: Candidate.ranking c.settings.weights c.cluster.list a.failing ∧
      ∀ x ∈ asked.dropLast, hosts.reached x = false := by
  intro s
  obtain ⟨n, now', hlater, hearlier⟩ :=
    Solo.selectCandidate_chooses (u := .idle now c) rfl named hosts audience now a
  obtain ⟨hbegins, hlast⟩ := hosts.choose_asks named c.settings a
  exact ⟨n, now', _, _, hlater, hearlier, hosts.choose_follows named c.settings a, hbegins, hlast⟩

/-- Everybody answers at once. -/
def Hosts.prompt : Hosts where
  pings _ := true
  round := 0
  probes _ := .answered ⟨20.0, 30.0, 40.0, 0.0⟩ ⟨4, 4, 0.0, 0.0⟩ 0.0
  sweep := 0
  reached _ := true
  delay _ := 0

/-- Only `c` can be reached, and it takes four seconds to find out about
anybody. -/
def Hosts.distant : Hosts := { prompt with reached := (·.id == "c"), delay := fun _ => 4000000000 }

/-- An operator wants the primary replaced. The first of the two candidates is out
of reach. -/
theorem the_first_in_reach_is_chosen_of_two :
    ∃ (trace : List (System × Move)) (w : System) (a : Attempt) (candidate : Candidate) (n : Nat)
      (now : Moment) (asked : List Node),
      History trace w ∧ w.state = .failoverInProgress ∧ a.failing = some "a" ∧
      (Candidate.ranking w.coordinator.settings.weights w.cluster.list a.failing).map (·.id) =
        ["b", "c"] ∧ candidate.id = "c" ∧
      ((Solo.idle ⟨0, false⟩ w.coordinator).after ⟨0, false⟩
        (Coordinator.selectCandidate ⟨0, false⟩ a w.coordinator)).later Hosts.distant.network
          ⟨0, fun _ _ => .never⟩ n =
        ((Solo.idle ⟨0, false⟩ w.coordinator).asking asked).after now
          (Coordinator.commitPromotion now a candidate w.coordinator) := by
  obtain ⟨trace, h, _⟩ := System.play_history Coordinator.fresh_standard calm
    (trio ++ [.start ⟨0, false⟩ (.trigger "drill")])
  let w := System.play calm (.initial .standard) (trio ++ [.start ⟨0, false⟩ (.trigger "drill")])
  let a : Attempt := ⟨.order "drill", some "a", ⟨0, false⟩, .order⟩
  obtain ⟨n, now, choice, asked, hlater, _, hfollows, _⟩ :=
    the_first_in_reach_is_chosen Hosts.distant ⟨0, fun _ _ => .never⟩ ⟨0, false⟩ w.coordinator a
      h.onePrimary.named
  have hsure : ¬ a.Mistaken w.coordinator.cluster.list := fun h => Bool.noConfusion h.1
  have hquorum : ¬ (w.coordinator.settings.enforceQuorum = true ∧
      Selection.backing w.coordinator.cluster.list a.failing < w.coordinator.settings.quorumSize) :=
    fun h => Bool.noConfusion h.1
  have hids : (Candidate.ranking w.coordinator.settings.weights w.coordinator.cluster.list
      a.failing).map (·.id) = ["b", "c"] := by decide +kernel
  obtain ⟨x, y, hranking, hx, hy⟩ : ∃ x y, Candidate.ranking w.coordinator.settings.weights
      w.coordinator.cluster.list a.failing = [x, y] ∧ x.id = "b" ∧ y.id = "c" := by
    obtain ⟨x, rest, hranking, hx, hrest⟩ := List.map_eq_cons_iff.mp hids
    obtain ⟨y, rfl, hy⟩ := List.map_eq_singleton_iff.mp hrest
    exact ⟨x, y, hranking, hx, hy⟩
  have htime : Hosts.distant.delays ([x] ++ [y]) ≤ w.coordinator.settings.failoverTimeout := by
    show (4000000000 : Int) + (4000000000 + 0) ≤ FailoverSettings.standard.failoverTimeout
    decide
  have hfirst : Hosts.distant.ReachesFirst w.coordinator.settings.failoverTimeout [x, y] y :=
    ⟨[x], [], rfl, by simp [Hosts.distant, hx], by simp [Hosts.distant, hy], htime⟩
  have hfound := ((hfollows.search hsure hquorum).1 _).mpr ⟨y, hranking ▸ hfirst, rfl⟩
  subst hfound
  exact ⟨trace, w, a, _, n, now, asked, h, by decide, rfl, hids, hy, hlater⟩

end Failover
