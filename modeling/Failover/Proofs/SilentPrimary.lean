import Failover.Proofs.Causes
import Failover.Proofs.Choices

-- A silent primary. When a round of pings ends and the primary has not
-- answered for too long, the round goes on to a failover: one round later
-- another node is the primary, or the cluster is degraded.

namespace Failover

open Cluster (OnePrimary)

/-! ## Events of an operation in time -/

namespace Solo

variable {network : Network} {audience : Audience} {v : Solo} {c : Coordinator} {e : FailoverEvent}
  {k : Cluster} {r : Coordinator × Progress}

/-- An event has been recorded, and the operation goes on when the observers
have heard of it. -/
theorem announces_on (network : Network) (audience : Audience) {next : Continuation}
    (hr : c.Announces e k next r) (hc : c.log.appended = v.coordinator.log.appended) (now : Moment) :
    ∃ (n : Nat) (u : Solo) (now' : Moment) (c' : Coordinator),
      (v.after now r).later network audience n = u.after now' (Coordinator.proceed now' next c') ∧
      u.events = v.events ++ [e] ∧ c'.log.appended = u.coordinator.log.appended ∧
      c'.settings = c.settings ∧ c'.cluster = k := by
  obtain ⟨c', rfl, halike, rfl⟩ := hr
  obtain ⟨a, heq, ha⟩ := announce_next e next c'
  have hsince := halike.logged.log.since
  obtain ⟨n, u, now', c'', hlater, _, hevents, hsame, hakin⟩ :=
    goes_on (s := v.after now (c'.append e, .waits a)) network audience rfl ha
  refine ⟨n, u, now', c'', ?_, ?_, ?_, ?_, hakin.cluster⟩
  · rw [heq]
    exact hlater
  · rw [hevents]
    simp only [after, ← hc, hsince, Option.toList_some]
  · rw [hsame]
    exact hakin.log.appended
  · exact hakin.settings.trans halike.settings

/-- The last event has been recorded. -/
theorem concludes (network : Network) (audience : Audience) {renewLevels : Bool} {answer : Answer}
    (hr : c.Announces e k (.close renewLevels answer) r)
    (hc : c.log.appended = v.coordinator.log.appended) (now : Moment) :
    ∃ n, ((v.after now r).later network audience n).progress = .ends answer ∧
      ((v.after now r).later network audience n).events = v.events ++ [e] ∧
      ((v.after now r).later network audience n).coordinator.cluster = k := by
  obtain ⟨n, u, now', c', hlater, hevents, happended, _, hcluster⟩ :=
    announces_on network audience hr hc now
  obtain ⟨_, hsame, halike⟩ := Coordinator.close_closing renewLevels answer c'
  refine ⟨n, by rw [hlater]; rfl, ?_, ?_⟩
  · have hsince := EventLog.Took.since (e := none) halike.log
    rw [hlater, ← hevents]
    simp only [after, Coordinator.proceed, ← happended, hsince, Option.toList_none, List.append_nil]
  · rw [hlater]
    exact hsame.trans hcluster

end Solo

/-! ## A failover in time -/

namespace Solo

variable {hosts : Hosts} {audience : Audience} {u : Solo} {k : Coordinator} {a : Attempt}

/-- An attempt that is not called off gives the part of the primary to the first
node in reach if the members are enough, and leaves the cluster degraded
otherwise. -/
theorem attempt_ends (hk : k.log.appended = u.coordinator.log.appended)
    (named : ∀ id n, k.cluster.node? id = some n → n.id = id)
    (hs : k.cluster.state = .failoverInProgress) (hsure : ¬ a.Mistaken k.cluster.list)
    (hosts : Hosts) (audience : Audience) (now : Moment) :
    let ranking := Candidate.ranking k.settings.weights k.cluster.list a.failing
    let quorum := k.settings.enforceQuorum = true →
      k.settings.quorumSize ≤ Selection.backing k.cluster.list a.failing
    ∃ (n : Nat) (e : FailoverEvent) (o : Outcome),
      let s := (u.after now (Coordinator.selectCandidate now a k)).later hosts.network audience n
      s.progress = .ends (a.purpose.answer o) ∧ s.events = u.events ++ [e] ∧
      ((quorum ∧ ∃ x ∈ k.cluster.list, x.isEligible a.failing = true ∧
          hosts.ReachesFirst k.settings.failoverTimeout ranking x ∧
          e.type = .failoverCompleted ∧ e.target = some x.id ∧
          s.coordinator.cluster = { k.cluster.promote x.id with state := .failoverComplete }) ∨
        (¬ (quorum ∧ ∃ x, hosts.ReachesFirst k.settings.failoverTimeout ranking x) ∧
          e.type = .failoverFailed ∧
          s.coordinator.cluster = { k.cluster with state := .degraded })) := by
  intro ranking quorum
  obtain ⟨n, now', hlater, _⟩ := selectCandidate_chooses hk named hosts audience now a
  have hfollows := hosts.choose_follows named k.settings a
  generalize hosts.choose k.settings k.cluster.list a = chosen at hlater hfollows
  obtain ⟨choice, asked⟩ := chosen
  have hquorum : quorum ↔ ¬ (k.settings.enforceQuorum = true ∧
      Selection.backing k.cluster.list a.failing < k.settings.quorumSize) := by
    simp only [quorum, not_and, Nat.not_lt]
  cases choice with
  | falseAlarm => exact absurd (hfollows.falseAlarm.mp rfl) hsure
  | found candidate =>
    have henough : quorum := by
      by_contra hnot
      rw [hquorum, not_not] at hnot
      have := (hfollows.quorum hsure _ _).mpr ⟨hnot.1, rfl, rfl, hnot.2⟩
      cases this
    obtain ⟨x, hfirst, rfl⟩ := ((hfollows.search hsure (hquorum.mp henough)).1 candidate).mp rfl
    have hx := Selection.mem_ranking named hfirst.mem
    have hcan : k.canPromote (x.candidate k.settings.weights).id = true :=
      Coordinator.canPromote_of_eligible named hs hx.1 hx.2
    obtain ⟨e, htype, htarget, hannounces⟩ := Coordinator.commitPromotion_announces hcan now' a
    obtain ⟨n', hends, hevents, hcluster⟩ :=
      concludes (v := u.asking asked) hosts.network audience hannounces hk now'
    refine ⟨n + n', e, .promoted x.id (k.cluster.primaryBefore x.id), ?_⟩
    rw [later_add, hlater]
    exact ⟨hends, hevents, Or.inl ⟨henough, x, hx.1, hx.2, hfirst, htype, htarget, hcluster⟩⟩
  | failed f =>
    have hnobody : ¬ (quorum ∧ ∃ x, hosts.ReachesFirst k.settings.failoverTimeout ranking x) := by
      rintro ⟨henough, x, hfirst⟩
      have := ((hfollows.search hsure (hquorum.mp henough)).1 _).mpr ⟨x, hfirst, rfl⟩
      cases this
    obtain ⟨e, htype, hannounces⟩ := Coordinator.failAttempt_announces hs now' a f
    obtain ⟨n', hends, hevents, hcluster⟩ :=
      concludes (v := u.asking asked) hosts.network audience hannounces hk now'
    refine ⟨n + n', e, .failed f, ?_⟩
    rw [later_add, hlater]
    exact ⟨hends, hevents, Or.inr ⟨hnobody, htype, hcluster⟩⟩

end Solo

/-! ## A round that nobody hears the primary in -/

/-- The primary is down, and another node has its part. -/
structure Cluster.Replaced (k : Cluster) (p x : String) : Prop where
  state : k.state = .failoverComplete
  primary : k.primary = some x
  marked : ∀ id m, k.node? id = some m → (m.primary = true ↔ id = x)
  former : ∃ m, k.node? p = some m ∧ m.active = false ∧ m.status = .unhealthy ∧
    m.primary = false ∧ m.role = .secondary

/-- Nobody has taken the part of the primary. -/
structure Cluster.Stranded (k : Cluster) (p : String) : Prop where
  state : k.state = .degraded
  primary : k.primary = some p
  marked : ∃ m, k.node? p = some m ∧ m.primary = true

variable {hosts : Hosts} {c : Coordinator} {p : String} {n : Node} {now : Moment}

/-- The members as they are when the answers of a round are in. -/
def Hosts.heard (hosts : Hosts) (now : Moment) (k : Cluster) : Cluster :=
  (k.recordPings now ((k.list.map (·.id)).zip (k.list.map hosts.pings))).2

/-- The member after its own answer. -/
def Hosts.afterPing (hosts : Hosts) (ended : Moment) (n : Node) : Node :=
  if hosts.pings n then n.heardAt ended else n

/-- A round changes each member by its own answer. -/
theorem Hosts.nodes_heard {k : Cluster} (named : ∀ id n, k.node? id = some n → n.id = id)
    (hosts : Hosts) (ended : Moment) :
    (hosts.heard ended k).nodes = k.nodes.map fun _ n => hosts.afterPing ended n := by
  refine Table.eq_of_get? fun id => ?_
  show (hosts.heard ended k).node? id = _
  rw [heard, List.zip_map', Cluster.node?_recordPings, Table.get?_map]
  show (k.node? id).map _ = (k.node? id).map _
  cases hn : k.node? id with
  | none => rfl
  | some n =>
    have hasked : (id, true) ∈ (k.list.map fun m => (m.id, hosts.pings m)) ↔ hosts.pings n = true := by
      constructor
      · intro hmem
        obtain ⟨m, hm, heq⟩ := List.mem_map.mp hmem
        obtain ⟨rfl, hanswered⟩ := Prod.mk.inj heq
        rw [Cluster.node?_self named hm] at hn
        cases hn
        exact hanswered
      · intro hanswered
        exact List.mem_map.mpr ⟨n, Cluster.mem_list.mpr ⟨id, hn⟩, by rw [named id n hn, hanswered]⟩
    simp only [Option.map_some, afterPing, hasked]

/-- Who does not answer has not been heard of. -/
theorem Hosts.node?_heard (hone : OnePrimary c.cluster) (hn : c.cluster.node? p = some n)
    (hmute : hosts.pings n = false) (now : Moment) :
    (hosts.heard now c.cluster).node? p = some n := by
  rw [Cluster.node?, nodes_heard hone.named, Table.get?_map]
  show (c.cluster.node? p).map _ = _
  rw [hn, Option.map_some, afterPing, hmute]
  rfl

/-- When the round ends without a word of the primary for too long, a failover
begins. -/
theorem Coordinator.afterPings_begins (hone : OnePrimary c.cluster)
    (hmode : c.settings.mode = .automatic) (hp : c.cluster.primary = some p)
    (hn : (hosts.heard now c.cluster).node? p = some n)
    (hsilent : Cluster.isSilent c.settings.heartbeatTimeout now n = true) :
    ∃ c', c.Alike none c' ∧
      c'.cluster = (hosts.heard now c.cluster).scanTimeouts c.settings.heartbeatTimeout now ∧
      afterPings now c.cluster.list (c.cluster.list.map hosts.pings) c =
        beginFailover now (.silence p) .heartbeat c' := by
  have hsame : c.cluster.SameParts (hosts.heard now c.cluster) := Cluster.sameParts_recordPings _ _ _
  have hheard := hsame.onePrimary hone
  have hname := hheard.named p n hn
  have hprimary : (hosts.heard now c.cluster).primary = some p := hsame.primary.trans hp
  unfold afterPings
  dsimp only
  split
  · rename_i s hfind
    have hwas : s.wasPrimary = true := List.find?_some hfind
    have hs := (Cluster.silences_inactive hheard (List.mem_of_find?_eq_some hfind)).1 hwas
    rw [hprimary, Option.some.injEq] at hs
    rw [if_pos (FailoverMode.triggersOnSilence_iff.mpr hmode), ← hs]
    refine ⟨_, ?_, ?_, rfl⟩
    · exact alike_of_log rfl rfl rfl
    · rfl
  · rename_i hfind
    have hmem : n ∈ (hosts.heard now c.cluster).list.filter
        (Cluster.isSilent c.settings.heartbeatTimeout now) :=
      List.mem_filter.mpr ⟨Cluster.mem_list.mpr ⟨p, hn⟩, hsilent⟩
    refine absurd ?_ (List.find?_eq_none.mp hfind _ (List.mem_map_of_mem hmem))
    rw [hname]
    exact beq_iff_eq.mpr hprimary

/-- A node that is down gives its part to another one. -/
theorem Cluster.replaced {k : Cluster} {x : Node} (hk : OnePrimary k) (hp : k.primary = some p)
    (hn : k.node? p = some n) (hactive : n.active = false) (hstatus : n.status = .unhealthy)
    (hx : x ∈ k.list) (he : x.isEligible (some p) = true) :
    Replaced { k.promote x.id with state := .failoverComplete } p x.id := by
  have hcontains : k.contains x.id = true := contains_iff.mpr ⟨x, hk.node?_id hx⟩
  have hpromoted := onePrimary_promote hcontains hk.named
  have hother : n.id ≠ x.id := by
    rw [hk.named p n hn]
    rintro rfl
    simp [Node.isEligible] at he
  have hmarked : n.primary = true := (hk.marked p n hn).mpr hp
  refine ⟨rfl, rfl, ?_, depose n, ?_, ?_⟩
  · intro id m hm
    rw [hpromoted.marked id m hm]
    show some x.id = some id ↔ id = x.id
    rw [Option.some.injEq, eq_comm]
  · show (k.promote x.id).node? p = some (depose n)
    rw [node?_promote, hn, Option.map_some, if_neg hother]
  · simp [depose, hmarked, hactive, hstatus]

theorem Cluster.stranded {k : Cluster} (hk : OnePrimary k) (hp : k.primary = some p)
    (hn : k.node? p = some n) : Stranded { k with state := .degraded } p :=
  ⟨rfl, hp, n, hn, (hk.marked p n hn).mpr hp⟩

/-- Nobody who has just fallen silent is chosen. -/
theorem Cluster.silences_ineligible {k : Cluster} {limit : Span} {failing : Option String} {x : Node}
    (hk : OnePrimary k) (hx : x ∈ (k.scanTimeouts limit now).list)
    (he : x.isEligible failing = true) : ∀ silence ∈ k.silences limit now, silence.node ≠ x.id := by
  intro silence hmem heq
  obtain ⟨m, hm, hinactive⟩ := (silences_inactive hk hmem).2
  rw [heq, ((sameParts_scanTimeouts k limit now).onePrimary hk).node?_id hx] at hm
  cases hm
  simp [Node.isEligible, Node.isStandby, hinactive] at he

/-- It is no mistake that a node is down. -/
theorem Attempt.not_mistaken {k : Cluster} {a : Attempt} (hk : OnePrimary k) (ha : a.failing = some p)
    (hn : k.node? p = some n) (hdown : n.active = false) : ¬ a.Mistaken k.list := by
  rintro ⟨_, m, hm, hid, hactive, _⟩
  have hnode := hk.node?_id hm
  rw [← Option.some.inj (ha.symm.trans hid), hn] at hnode
  cases hnode
  rw [hdown] at hactive
  cases hactive

/-- The round ends, a failover against the primary begins, and a candidate is
to be chosen when the observers have heard. -/
theorem Solo.round_begins_failover (audience : Audience) (hone : OnePrimary c.cluster)
    (hmode : c.settings.mode = .automatic) (hs : c.cluster.state = .normal)
    (hp : c.cluster.primary = some p) {ended : Moment} (hended : ended = now.plus (hosts.round : Int))
    (hn : (hosts.heard ended c.cluster).node? p = some n)
    (hsilent : Cluster.isSilent c.settings.heartbeatTimeout ended n = true) :
    ∃ (i : Nat) (u : Solo) (now' : Moment) (c' : Coordinator) (e : FailoverEvent),
      (begin audience now .heartbeatRound c).later hosts.network audience i = u.after now'
        (Coordinator.selectCandidate now' ⟨.silence p, some p, ended, .heartbeat⟩ c') ∧
      u.events = [e] ∧ e.type = .failoverInitiated ∧ e.trigger = some p ∧
      c'.log.appended = u.coordinator.log.appended ∧ c'.settings = c.settings ∧
      c'.cluster = { (hosts.heard ended c.cluster).scanTimeouts c.settings.heartbeatTimeout ended with
        state := .failoverInProgress
        lastFailure := some { node := some p, time := ended } } := by
  let c₀ : Coordinator := { c with observers := audience.size }
  let v := (begin audience now .heartbeatRound c).noting audience (.pinging c.cluster.list)
  let answers := c.cluster.list.map hosts.pings
  have hround : (begin audience now .heartbeatRound c).next hosts.network audience =
      v.after ended (Coordinator.afterPings ended c.cluster.list answers c₀) := by
    rw [hended]
    exact next_of_waits hosts.network audience (a := .pinging c.cluster.list) rfl
  obtain ⟨c₁, halike, hscanned, hbegins⟩ :=
    Coordinator.afterPings_begins (c := c₀) hone hmode hp hn hsilent
  have hsame : c.cluster.SameParts c₁.cluster := by
    rw [hscanned]
    exact (Cluster.sameParts_recordPings _ _ _).trans (Cluster.sameParts_scanTimeouts _ _ _)
  obtain ⟨e, htype, htrigger, _, hannounces⟩ := Coordinator.beginFailover_announces
    (hsame.state.trans hs) ended (.silence p) .heartbeat
  obtain ⟨_, hlog, _⟩ := halike.log
  obtain ⟨i, u, now', c', hlater, hevents, happended, hsettings, hcluster⟩ :=
    announces_on (v := v) hosts.network audience hannounces (by rw [hlog]; rfl) ended
  refine ⟨1 + i, u, now', c', e, ?_, ?_, htype, htrigger, happended, ?_, ?_⟩
  · rw [later_add]
    show ((begin audience now .heartbeatRound c).next hosts.network audience).later hosts.network
      audience i = _
    rw [hround, hbegins]
    exact hlater
  · rw [hevents]
    simp [v, begin, noting, after, Coordinator.firstSection, EventLog.since_appended]
  · exact hsettings.trans halike.settings
  · rw [hcluster, hscanned]
    rfl

/-- A primary that does not answer a round of pings, and has been silent for too
long when the round ends, is replaced before the operation is over if another
node is in reach in time and the members are enough. Otherwise the cluster is
degraded and keeps its primary. Two events tell of it, and nobody who has
fallen silent in the same round is chosen. -/
theorem a_silent_primary_is_replaced_within_one_round (hosts : Hosts) (audience : Audience)
    (now : Moment) (c : Coordinator) (p : String) (n : Node) (hone : OnePrimary c.cluster)
    (hmode : c.settings.mode = .automatic) (hs : c.cluster.state = .normal)
    (hp : c.cluster.primary = some p) (hn : c.cluster.node? p = some n) (hactive : n.active = true)
    (hmute : hosts.pings n = false)
    (hlong : c.settings.heartbeatTimeout < (now.plus (hosts.round : Int)).since n.lastHeartbeat) :
    let ended := now.plus (hosts.round : Int)
    let heard := hosts.heard ended c.cluster
    let nodes := (heard.scanTimeouts c.settings.heartbeatTimeout ended).list
    let ranking := Candidate.ranking c.settings.weights nodes (some p)
    let quorum := c.settings.enforceQuorum = true →
      c.settings.quorumSize ≤ Selection.backing nodes (some p)
    ∃ (i : Nat) (e e' : FailoverEvent),
      let s := (Solo.begin audience now .heartbeatRound c).later hosts.network audience i
      s.progress = .ends .done ∧ s.events = [e, e'] ∧
      e.type = .failoverInitiated ∧ e.trigger = some p ∧
      ((quorum ∧ ∃ x, hosts.ReachesFirst c.settings.failoverTimeout ranking x ∧
          (∀ silence ∈ heard.silences c.settings.heartbeatTimeout ended, silence.node ≠ x.id) ∧
          e'.type = .failoverCompleted ∧ e'.target = some x.id ∧
          s.coordinator.cluster.Replaced p x.id) ∨
        (¬ (quorum ∧ ∃ x, hosts.ReachesFirst c.settings.failoverTimeout ranking x) ∧
          e'.type = .failoverFailed ∧ s.coordinator.cluster.Stranded p)) := by
  intro ended heard nodes ranking quorum
  have hheard : heard.node? p = some n := Hosts.node?_heard hone hn hmute ended
  have hsilent : Cluster.isSilent c.settings.heartbeatTimeout ended n = true := by
    rw [Cluster.isSilent, hactive, Bool.true_and, decide_eq_true_eq]
    exact hlong
  obtain ⟨i, u, now', c', e, hlater, hevents, htype, htrigger, happended, hsettings, hcluster⟩ :=
    Solo.round_begins_failover audience hone hmode hs hp rfl hheard hsilent
  have hsame : c.cluster.SameParts heard := Cluster.sameParts_recordPings _ _ _
  have hscan : heard.SameParts (heard.scanTimeouts c.settings.heartbeatTimeout ended) :=
    heard.sameParts_scanTimeouts _ _
  have hk : OnePrimary c'.cluster := by
    rw [hcluster]
    exact ((hsame.trans hscan).onePrimary hone).restate _ _
  have hprimary : c'.cluster.primary = some p := by
    rw [hcluster]
    exact (hsame.trans hscan).primary.trans hp
  have hnodes : c'.cluster.list = nodes := by
    rw [hcluster]
    rfl
  have hdown : c'.cluster.node? p = some n.timedOut := by
    rw [hcluster]
    show (heard.scanTimeouts c.settings.heartbeatTimeout ended).node? p = some n.timedOut
    rw [Cluster.node?_scanTimeouts, hheard, Option.map_some, if_pos hsilent]
  let a : Attempt := ⟨.silence p, some p, ended, .heartbeat⟩
  have hsure : ¬ a.Mistaken c'.cluster.list := Attempt.not_mistaken hk rfl hdown rfl
  obtain ⟨j, e', o, hends, hevents', hend⟩ := Solo.attempt_ends happended hk.named
    (by rw [hcluster]) hsure hosts audience now'
  rw [hnodes, hsettings] at hend
  refine ⟨i + j, e, e', ?_⟩
  rw [Solo.later_add, hlater]
  refine ⟨hends, by rw [hevents', hevents]; rfl, htype, htrigger, ?_⟩
  rcases hend with ⟨hquorum, x, hx, he, hfirst, htype', htarget, hlast⟩ | ⟨hnobody, htype', hlast⟩
  · have hnotsilent := Cluster.silences_ineligible (hsame.onePrimary hone) hx he
    refine Or.inl ⟨hquorum, x, hfirst, hnotsilent, htype', htarget, ?_⟩
    rw [hlast]
    exact Cluster.replaced hk hprimary hdown rfl rfl (hnodes ▸ hx) he
  · refine Or.inr ⟨hnobody, htype', ?_⟩
    rw [hlast]
    exact Cluster.stranded hk hprimary hdown

/-- Everybody but one node answers at once. -/
def Hosts.without (id : String) : Hosts := { prompt with pings := fun n => n.id != id }

/-- One of two nodes is not heard of for twenty seconds. -/
theorem a_silent_primary_is_replaced_within_one_round_by_the_other_node :
    ∃ (trace : List (System × Move)) (w : System) (i : Nat) (e e' : FailoverEvent),
      History trace w ∧ w.state = .normal ∧ w.cluster.primary = some "a" ∧
      let s := (Solo.begin ⟨0, fun _ _ => .never⟩ ⟨20000000000, false⟩ .heartbeatRound
        w.coordinator).later (Hosts.without "a").network ⟨0, fun _ _ => .never⟩ i
      s.progress = .ends .done ∧ s.events = [e, e'] ∧ e.type = .failoverInitiated ∧
      e'.type = .failoverCompleted ∧ s.coordinator.cluster.Replaced "a" "b" := by
  obtain ⟨trace, h, _⟩ := System.play_history Coordinator.fresh_standard calm (listening.take 2)
  let w := System.play calm (.initial .standard) (listening.take 2)
  let hosts := Hosts.without "a"
  let ended := Moment.plus ⟨20000000000, false⟩ (hosts.round : Int)
  obtain ⟨i, e, e', hends, hevents, htype, _, hend⟩ :=
    a_silent_primary_is_replaced_within_one_round hosts ⟨0, fun _ _ => .never⟩ ⟨20000000000, false⟩
      w.coordinator "a" (Cluster.crown (Node.well "a" .primary)) h.onePrimary rfl rfl rfl rfl rfl rfl
      (by decide)
  have hids : (Candidate.ranking w.coordinator.settings.weights
      ((hosts.heard ended w.coordinator.cluster).scanTimeouts w.coordinator.settings.heartbeatTimeout
        ended).list (some "a")).map (·.id) = ["b"] := by decide
  obtain ⟨x, hranking, hid⟩ := List.map_eq_singleton_iff.mp hids
  rw [hranking] at hend
  refine ⟨trace, w, i, e, e', h, rfl, rfl, hends, hevents, htype, ?_⟩
  rcases hend with ⟨_, y, hfirst, _, htype', _, hreplaced⟩ | ⟨hnobody, _⟩
  · rw [List.mem_singleton.mp hfirst.mem, hid] at hreplaced
    exact ⟨htype', hreplaced⟩
  · have hfirst : hosts.ReachesFirst w.coordinator.settings.failoverTimeout [x] x :=
      ⟨[], [], rfl, by simp, rfl, w.coordinator.settings.failoverTimeout_nonneg⟩
    exact absurd ⟨fun h => Bool.noConfusion h, x, hfirst⟩ hnobody

end Failover
