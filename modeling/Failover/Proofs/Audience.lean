import Failover.Proofs.Abreast
import Failover.Proofs.Returns

-- An operation that runs alone, in time. The nodes answer what they are asked,
-- and each answer takes its time; the observers take their hooks well, badly
-- or never. Two runs before different observers are at the same place whenever
-- no hook is called: one run is followed section by section, and the other
-- catches up through its own hooks.

namespace Failover

/-! ## Nodes and observers -/

/-- A question to the nodes. -/
inductive Inquiry where
  | pings (targets : List Node)
  | probes (targets : List Node)
  | connection (node : Node)

def Inquiry.Answer : Inquiry → Type
  | pings _ => List Bool
  | probes _ => List (ProbeResult Float)
  | connection _ => Bool

/-- The nodes: what they answer, and how long that takes. Both may depend on
the questions before. -/
structure Network where
  answer : List Inquiry → (q : Inquiry) → q.Answer
  takes : List Inquiry → Inquiry → Span

/-- How a hook goes. -/
inductive Conduct where
  | succeeds (after : Span)
  | fails (after : Span)
  | panics (after : Span)
  | never

namespace Conduct

/-- The coordinator waits for a hook until the limit. -/
def lasts (limit : Span) : Conduct → Span
  | succeeds after | fails after | panics after => min after limit
  | never => limit

/-- A hook goes well if it succeeds in time. -/
def isWell (limit : Span) : Conduct → Bool
  | succeeds after => decide (after ≤ limit)
  | fails _ | panics _ | never => false

end Conduct

/-- Observers. How one takes a hook may depend on the hooks before. -/
structure Audience where
  size : Nat
  conduct : List Hook → Hook → Conduct

/-! ## An operation in time -/

/-- An operation that runs alone. -/
structure Solo where
  now : Moment
  coordinator : Coordinator
  progress : Progress
  /-- The questions so far. -/
  asked : List Inquiry
  /-- The hooks that are over, and how they went. -/
  called : List (Hook × Conduct)
  /-- The events so far. -/
  events : List FailoverEvent

namespace Solo

/-- A section has run. -/
def after (s : Solo) (now : Moment) (r : Coordinator × Progress) : Solo :=
  { s with
    now
    coordinator := r.1
    progress := r.2
    events := s.events ++ r.1.log.since s.coordinator.log.appended }

/-- The operation begins, before these observers. -/
def begin (audience : Audience) (now : Moment) (op : Operation) (c : Coordinator) : Solo :=
  let c := { c with observers := audience.size }
  { now, coordinator := c, progress := .ends .done, asked := [], called := [], events := [] : Solo }.after
    now (Coordinator.firstSection now op c)

/-- How long a wait lasts, and its answer. What is ready at a deadline is in
time. -/
def answer (network : Network) (audience : Audience) (s : Solo) : (a : Activity) → Span × a.Reply
  | .pinging targets =>
    (network.takes s.asked (.pings targets), network.answer s.asked (.pings targets))
  | .probing targets =>
    (network.takes s.asked (.probes targets), network.answer s.asked (.probes targets))
  | .connecting _ deadline _ node _ =>
    let span := network.takes s.asked (.connection node)
    let left := deadline.since s.now
    (min span left, if span ≤ left then some (network.answer s.asked (.connection node)) else none)
  | .announcing hook _ _ _ =>
    let conduct := audience.conduct (s.called.map (·.1)) hook
    let limit := s.coordinator.settings.observerTimeout
    (conduct.lasts limit, conduct.isWell limit)
  | .ready _ => (0, ())

/-- What has been asked or called is remembered. -/
def noting (audience : Audience) (s : Solo) : Activity → Solo
  | .pinging targets => { s with asked := s.asked ++ [.pings targets] }
  | .probing targets => { s with asked := s.asked ++ [.probes targets] }
  | .connecting _ _ _ node _ => { s with asked := s.asked ++ [.connection node] }
  | .announcing hook _ _ _ =>
    { s with called := s.called ++ [(hook, audience.conduct (s.called.map (·.1)) hook)] }
  | .ready _ => s

/-- The next section runs when its answer is there. Nothing follows the end. -/
def next (network : Network) (audience : Audience) (s : Solo) : Solo :=
  match s.progress with
  | .ends _ => s
  | .waits a =>
    let now := s.now.plus (s.answer network audience a).1
    (s.noting audience a).after now
      (Coordinator.nextSection now a (s.answer network audience a).2 s.coordinator)

/-- So many sections later. -/
def later (network : Network) (audience : Audience) : Nat → Solo → Solo
  | 0, s => s
  | n + 1, s => later network audience n (s.next network audience)

end Solo

/-! ## What observers hear -/

/-- The observers have heard of every event, one after the other and each of
all its notices, and every hook that did not go well has been counted. -/
structure Solo.Heard (audience : Audience) (c : Coordinator) (s : Solo) : Prop where
  settings : s.coordinator.settings = c.settings
  observers : s.coordinator.observers = audience.size
  hooks : s.called.map (·.1) ++ s.progress.hooks = s.events.flatMap (·.hooks audience.size)
  errors : s.coordinator.log.stats.callbackErrors + s.progress.failures =
    c.log.stats.callbackErrors + s.called.countP fun x => !x.2.isWell c.settings.observerTimeout

/-! ## Every hook is called, and every failure counted -/

namespace Solo

variable {network : Network} {audience audience' : Audience} {c : Coordinator} {s s' : Solo}

theorem Heard.of_section {now : Moment} {k : Coordinator} {r : Coordinator × Progress}
    (hs : k.settings = c.settings) (ho : k.observers = audience.size)
    (ha : k.log.appended = s.coordinator.log.appended)
    (hooks : s.called.map (·.1) = s.events.flatMap (·.hooks audience.size))
    (errors : k.log.stats.callbackErrors = c.log.stats.callbackErrors +
      s.called.countP fun x => !x.2.isWell c.settings.observerTimeout)
    (h : ∃ e, k.Calls e r) : (s.after now r).Heard audience c := by
  obtain ⟨e, h⟩ := h
  have hevents : (s.after now r).events = s.events ++ e.toList := by
    simp only [after, ← ha, h.events]
  refine ⟨h.settings.trans hs, h.observers.trans ho, ?_, ?_⟩
  · rw [hevents, List.flatMap_append, ← ho, ← h.hooks, ho, ← hooks]
    rfl
  · simp only [after, h.errors, h.failures, errors, Nat.add_zero]

theorem noting_called {a : Activity} (ha : a.hooks = []) (audience : Audience) (s : Solo) :
    (s.noting audience a).called = s.called := by
  cases a with
  | announcing => cases ha
  | pinging | probing | connecting | ready => rfl

theorem noting_events (audience : Audience) (s : Solo) (a : Activity) :
    (s.noting audience a).events = s.events ∧ (s.noting audience a).coordinator = s.coordinator := by
  cases a <;> exact ⟨rfl, rfl⟩

/-- A hook is over, and the next one is called, or the operation goes on. -/
theorem Heard.hook (h : s.Heard audience c) {hook : Hook} {rest : List Hook} {failures : Nat}
    {next : Continuation} (hwaits : s.progress = .waits (.announcing hook rest failures next))
    (now : Moment) :
    let conduct := audience.conduct (s.called.map (·.1)) hook
    ({ s with called := s.called ++ [(hook, conduct)] }.after now
      (Coordinator.afterHook now rest failures next
        (conduct.isWell s.coordinator.settings.observerTimeout) s.coordinator)).Heard audience c := by
  intro conduct
  have hhooks := h.hooks
  have herrors := h.errors
  rw [hwaits] at hhooks herrors
  rw [h.settings]
  unfold Coordinator.afterHook
  generalize hwell : conduct.isWell c.settings.observerTimeout = succeeded
  have hfailures : (if succeeded = true then failures else failures + 1) =
      failures + if (!succeeded) = true then 1 else 0 := by
    cases succeeded <;> rfl
  cases rest with
  | cons hook' rest =>
    refine ⟨h.settings, h.observers, ?_, ?_⟩
    · simpa [after, Progress.hooks, Activity.hooks, EventLog.since_appended] using hhooks
    · simp only [after, Progress.failures, Activity.failures, hfailures, List.countP_append,
        List.countP_singleton, hwell] at herrors ⊢
      omega
  | nil =>
    dsimp only
    rw [hfailures]
    let k := s.coordinator.countHookFailures (failures + if (!succeeded) = true then 1 else 0)
    have hakin : s.coordinator.Akin k := s.coordinator.akin_countHookFailures _
    have hobservers : k.observers = s.coordinator.observers :=
      (Coordinator.alike_countHookFailures s.coordinator _).1.observers
    refine .of_section (hakin.settings.trans h.settings) (hobservers.trans h.observers)
      hakin.log.appended ?_ ?_ (Coordinator.proceed_calls now next k)
    · simpa [Progress.hooks, Activity.hooks] using hhooks
    · rw [Coordinator.errors_countHookFailures]
      simp only [Progress.failures, Activity.failures, List.countP_append, List.countP_singleton,
        hwell] at herrors ⊢
      omega

theorem Heard.next (h : s.Heard audience c) : (s.next network audience).Heard audience c := by
  unfold Solo.next
  split
  · exact h
  · rename_i a hwaits
    by_cases ha : a.hooks = []
    · have hhooks := h.hooks
      have herrors := h.errors
      have hfailures : a.failures = 0 := by
        cases a with
        | announcing => cases ha
        | pinging | probing | connecting | ready => rfl
      rw [hwaits] at hhooks herrors
      simp only [Progress.hooks, Progress.failures, ha, hfailures, List.append_nil] at hhooks herrors
      obtain ⟨hevents, hsame⟩ := noting_events audience s a
      refine .of_section h.settings h.observers (by rw [hsame]) ?_ ?_
        (Coordinator.nextSection_calls ha _ _ s.coordinator)
      · rw [noting_called ha, hevents, hhooks]
      · rw [noting_called ha]
        exact herrors
    · cases a with
      | announcing hook rest failures next => exact h.hook hwaits _
      | pinging | probing | connecting | ready => exact absurd rfl ha

theorem Heard.later (h : s.Heard audience c) (n : Nat) :
    (s.later network audience n).Heard audience c := by
  induction n generalizing s with
  | zero => exact h
  | succ n ih => exact ih h.next

end Solo

/-! ## Every operation ends -/

namespace Coordinator

variable {now now' : Moment} {c c' k k' : Coordinator} {r r' : Coordinator × Progress}

/-- Whatever the answers are. -/
abbrev Ends : Coordinator × Progress → Prop := Returns (fun _ _ => True) fun _ _ => True

theorem ends_proceed (now : Moment) (next : Continuation) (c : Coordinator) :
    Ends (proceed now next c) := by
  have hreopen : ∀ now c, Ends (reopen now c) := fun now c => returns_announceLast fun _ _ => trivial
  cases next with
  | select a => exact returns_selectCandidate fun _ _ => trivial
  | rejoin id => exact returns_announce fun now c' _ _ => hreopen now c'
  | reopen => exact hreopen now c
  | close renewLevels answer => exact returns_close fun _ _ _ => trivial

theorem Abreast.ends_left (h : Abreast now now' c c' r r') : Ends r := by
  cases h with
  | ends answer => exact .ends trivial
  | announces next => exact returns_announce fun now c' _ _ => ends_proceed now next c'
  | @asks k k' a deadline _ candidate node rest =>
    have hfail : ∀ now f, Ends (failAttempt now a f k) := fun now f => returns_failAttempt fun _ => trivial
    have hcommit : ∀ x ∈ (candidate, node) :: rest, ∀ now, Ends (commitPromotion now a x.1 k) := by
      intro x _ now
      by_cases hcan : k.canPromote x.1.id = true
      · obtain ⟨e, _, _, hannounces⟩ := commitPromotion_announces hcan now a
        exact hannounces.concludes fun _ _ => trivial
      · unfold commitPromotion
        rw [if_neg hcan]
        exact hfail now _
    show Ends (tryNext now a deadline ((candidate, node) :: rest) k)
    exact returns_tryNext hcommit (fun _ _ _ _ => hfail) fun _ => hfail

theorem ends_firstSection (now : Moment) (op : Operation) (c : Coordinator) :
    Ends (firstSection now op c) := by
  have hbeside := (Akin.refl c).beside
  by_cases hop : op.polls = true
  · cases op with
    | heartbeatRound =>
      exact .waits fun now answers _ => (afterPings_abreast hbeside c.cluster.list answers).ends_left
    | healthSweep =>
      exact .waits fun now results _ =>
        (afterProbes_abreast hbeside c.cluster.probeTargets results).ends_left
    | watch | trigger | promote | acknowledge | remove => cases hop
  · exact (firstSection_abreast hbeside (by simpa using hop)).ends_left

/-! ## Two audiences -/

theorem Akin.symm (h : c.Akin c') : c'.Akin c :=
  ⟨h.id.symm, h.settings.symm, h.cluster.symm, h.log.capacity.symm, h.log.appended.symm,
    h.log.events.symm, h.log.stats.initiated.symm, h.log.stats.completed.symm,
    h.log.stats.failed.symm, h.log.stats.recoveries.symm, h.log.stats.falseAlarms.symm⟩

theorem Akin.trans {c'' : Coordinator} (h : c.Akin c') (h' : c'.Akin c'') : c.Akin c'' :=
  ⟨h'.id.trans h.id, h'.settings.trans h.settings, h'.cluster.trans h.cluster,
    h'.log.capacity.trans h.log.capacity, h'.log.appended.trans h.log.appended,
    h'.log.events.trans h.log.events, h'.log.stats.initiated.trans h.log.stats.initiated,
    h'.log.stats.completed.trans h.log.stats.completed,
    h'.log.stats.failed.trans h.log.stats.failed,
    h'.log.stats.recoveries.trans h.log.stats.recoveries,
    h'.log.stats.falseAlarms.trans h.log.stats.falseAlarms⟩

theorem Akin.append (h : c.Akin c') {e e' : FailoverEvent} (he : e'.gist = e.gist) :
    (c.append e).Akin (c'.append e') := ⟨h.id, h.settings, h.cluster, h.log.append he⟩

end Coordinator

/-- What an operation goes on with when the observers have heard. -/
def Activity.next? : Activity → Option Continuation
  | announcing _ _ _ next | ready next => some next
  | _ => none

namespace Solo

variable {network : Network} {audience audience' : Audience} {s s' : Solo}

/-- The two runs stand in the same place. How many observers are still to hear
may differ. -/
inductive Level (s s' : Solo) : Prop
  | ends (answer : Answer) (h : s.progress = .ends answer) (h' : s'.progress = .ends answer)
  | asks (a : Attempt) {deadline deadline' : Moment} (candidate : Candidate) (node : Node)
      (rest : List (Candidate × Node))
      (h : s.progress = .waits (.connecting a deadline candidate node rest))
      (h' : s'.progress = .waits (.connecting a deadline' candidate node rest))
      (hleft : deadline'.since s'.now = deadline.since s.now)
  | tells {a a' : Activity} (next : Continuation) (h : s.progress = .waits a)
      (h' : s'.progress = .waits a') (ha : a.next? = some next) (ha' : a'.next? = some next)

structure Alongside (s s' : Solo) : Prop where
  akin : s.coordinator.Akin s'.coordinator
  asked : s'.asked = s.asked
  events : s'.events.map FailoverEvent.gist = s.events.map FailoverEvent.gist
  place : s.Level s'

theorem announce_next (e : FailoverEvent) (next : Continuation) (c : Coordinator) :
    ∃ a, Coordinator.announce e next c = (c.append e, .waits a) ∧ a.next? = some next := by
  unfold Coordinator.announce
  dsimp only
  split <;> exact ⟨_, rfl, rfl⟩

/-- A section that leaves both runs abreast leaves them alongside. -/
theorem Alongside.of_abreast {now now' : Moment} {k k' : Coordinator} {r r' : Coordinator × Progress}
    (asked : s'.asked = s.asked)
    (events : s'.events.map FailoverEvent.gist = s.events.map FailoverEvent.gist)
    (hk : k.log.appended = s.coordinator.log.appended)
    (hk' : k'.log.appended = s'.coordinator.log.appended)
    (h : Coordinator.Abreast now now' k k' r r') : (s.after now r).Alongside (s'.after now' r') := by
  cases h with
  | @ends l l' answer h =>
    refine ⟨h.akin, asked, ?_, .ends answer rfl rfl⟩
    simp only [after, ← hk, ← hk', h.left.since, h.right.since, List.append_nil, events]
  | @asks l l' a deadline deadline' candidate node rest h hleft =>
    refine ⟨h.akin, asked, ?_, .asks a candidate node rest rfl rfl hleft⟩
    simp only [after, ← hk, ← hk', h.left.since, h.right.since, List.append_nil, events]
  | @announces l l' e e' next h he =>
    obtain ⟨a, heq, ha⟩ := announce_next e next l
    obtain ⟨a', heq', ha'⟩ := announce_next e' next l'
    rw [heq, heq']
    refine ⟨h.akin.append he, asked, ?_, .tells next rfl rfl ha ha'⟩
    simp only [after, ← hk, ← hk', h.left.since_append, h.right.since_append, List.map_append,
      List.map_cons, List.map_nil, events, he]

theorem next_of_waits (network : Network) (audience : Audience) {a : Activity}
    (h : s.progress = .waits a) :
    s.next network audience = (s.noting audience a).after (s.now.plus (s.answer network audience a).1)
      (Coordinator.nextSection (s.now.plus (s.answer network audience a).1) a
        (s.answer network audience a).2 s.coordinator) := by
  unfold Solo.next
  rw [h]

/-- The remaining hooks are called, however each of them goes, and then the
operation goes on. -/
theorem goes_on (network : Network) (audience : Audience) {a : Activity} {next : Continuation}
    (h : s.progress = .waits a) (ha : a.next? = some next) :
    ∃ (n : Nat) (u : Solo) (now : Moment) (k : Coordinator),
      s.later network audience n = u.after now (Coordinator.proceed now next k) ∧
      u.asked = s.asked ∧ u.events = s.events ∧ u.coordinator = s.coordinator ∧
      s.coordinator.Akin k := by
  cases a with
  | pinging | probing | connecting => cases ha
  | ready next =>
    cases ha
    exact ⟨1, s, _, _, next_of_waits network audience h, rfl, rfl, rfl, .refl _⟩
  | announcing hook rest failures next =>
    cases ha
    induction rest generalizing s hook failures with
    | nil =>
      exact ⟨1, _, _, _, next_of_waits network audience h, rfl, rfl, rfl, s.coordinator.akin_countHookFailures _⟩
    | cons hook' rest ih =>
      have hnext := next_of_waits network audience h
      have hcoordinator : (s.next network audience).coordinator = s.coordinator := by rw [hnext]; rfl
      have hasked : (s.next network audience).asked = s.asked := by rw [hnext]; rfl
      have hevents : (s.next network audience).events = s.events := by
        rw [hnext]
        exact (congrArg (s.events ++ ·) s.coordinator.log.since_appended).trans (List.append_nil _)
      obtain ⟨failures', hwaits⟩ : ∃ failures', (s.next network audience).progress =
          .waits (.announcing hook' rest failures' next) := ⟨_, by rw [hnext]; rfl⟩
      obtain ⟨n, u, now, k, hlater, hu, hue, huc, hk⟩ := ih hook' failures' hwaits
      exact ⟨n + 1, u, now, k, hlater, hu.trans hasked, hue.trans hevents, huc.trans hcoordinator,
        hcoordinator ▸ hk⟩

theorem later_add (m n : Nat) (s : Solo) :
    s.later network audience (m + n) = (s.later network audience m).later network audience n := by
  induction m generalizing s with
  | zero => rw [Nat.zero_add]; rfl
  | succ m ih => rw [Nat.succ_add]; exact ih _

/-- The next hook is called, and the operation stays where it is. -/
theorem Alongside.stays (h : s.Alongside s') {hook hook' : Hook} {rest : List Hook} {failures : Nat}
    {next : Continuation} {a' : Activity}
    (hw : s.progress = .waits (.announcing hook (hook' :: rest) failures next))
    (hw' : s'.progress = .waits a') (ha' : a'.next? = some next) :
    (s.next network audience).Alongside s' := by
  rw [next_of_waits network audience hw]
  refine ⟨h.akin, h.asked, ?_, .tells next rfl hw' rfl ha'⟩
  have hevents : s.events ++ s.coordinator.log.since s.coordinator.log.appended = s.events := by
    rw [s.coordinator.log.since_appended, List.append_nil]
  exact h.events.trans (congrArg _ hevents.symm)

/-- Both runs ask the same candidate, which answers both alike. -/
theorem Alongside.answered (h : s.Alongside s') {a : Attempt} {deadline deadline' : Moment}
    {candidate : Candidate} {node : Node} {rest : List (Candidate × Node)}
    (hw : s.progress = .waits (.connecting a deadline candidate node rest))
    (hw' : s'.progress = .waits (.connecting a deadline' candidate node rest))
    (hleft : deadline'.since s'.now = deadline.since s.now) :
    (s.next network audience).Alongside (s'.next network audience') := by
  have hanswer : s'.answer network audience' (.connecting a deadline' candidate node rest) =
      s.answer network audience (.connecting a deadline candidate node rest) := by
    simp only [answer, h.asked, hleft]
    rfl
  rw [next_of_waits network audience hw, next_of_waits network audience' hw', hanswer]
  refine .of_abreast (congrArg (· ++ [Inquiry.connection node]) h.asked) h.events rfl rfl ?_
  refine Coordinator.afterConnect_abreast h.akin.beside a ?_ candidate rest _
  rw [Moment.since_later, Moment.since_later, hleft]

end Solo

/-- The observers have heard of each event in turn, and the failures that were
counted are those of the hooks that did not succeed in time. -/
structure Solo.Told (audience : Audience) (c : Coordinator) (s : Solo) : Prop where
  hooks : s.called.map (·.1) = s.events.flatMap (·.hooks audience.size)
  errors : s.coordinator.log.stats.callbackErrors =
    c.log.stats.callbackErrors + s.called.countP fun x => !x.2.isWell c.settings.observerTimeout

theorem Solo.Heard.told {audience : Audience} {c : Coordinator} {s : Solo} {answer : Answer}
    (h : s.Heard audience c) (hend : s.progress = .ends answer) : s.Told audience c := by
  have hhooks := h.hooks
  have herrors := h.errors
  rw [hend] at hhooks herrors
  simp only [Progress.hooks, List.append_nil] at hhooks
  exact ⟨hhooks, herrors⟩

end Failover
