import Failover.Proofs.SilentPrimary
import Failover.Proofs.Strikes

-- A round of pings and the scan that follows it at the same instant. Each member
-- has one of three fates: it is heard of, it is left as it is, or it is given up.
-- Which of them it is depends on that member and on its own answer alone.

namespace Failover

/-! ## The counts of a round -/

namespace Cluster

theorem recordPings_snoc (k : Cluster) (time : Moment) (answers : List (String × Bool)) (id : String)
    (answered : Bool) :
    k.recordPings time (answers ++ [(id, answered)]) =
      recordPing time (k.recordPings time answers) id answered := by
  simp [recordPings, List.foldl_append]

/-- A member has come back when it was not active. -/
theorem recordHeartbeat_back {k : Cluster} {id : String} {n : Node} (hn : k.node? id = some n)
    (time : Moment) : (k.recordHeartbeat id time).1 = !n.active := by
  unfold recordHeartbeat
  rw [hn]

/-- Every answer is counted once, and each member that is back stands among the
others in their order. -/
theorem recordPings_summary {k : Cluster} (pings : Node → Bool) (time : Moment)
    {targets : List Node} (hnodup : (targets.map (·.id)).Nodup)
    (hmembers : ∀ n ∈ targets, k.node? n.id = some n) :
    (k.recordPings time (targets.map fun n => (n.id, pings n))).1 =
      { delivered := targets.countP pings
        failed := targets.countP fun n => !pings n
        reactivated := (targets.filter fun n => pings n && !n.active).map (·.id) } := by
  -- From the left, as the answers are taken in: a member is asked once, so that
  -- it is still as it was when its own answer comes.
  induction targets using List.reverseRecOn with
  | nil => rfl
  | append_singleton targets n ih =>
    rw [List.map_append, List.map_singleton, List.nodup_append] at hnodup
    obtain ⟨hnodup, _, hnew⟩ := hnodup
    have hsummary := ih hnodup fun m hm => hmembers m (List.mem_append_left _ hm)
    have hunasked : (n.id, true) ∉ targets.map fun m => (m.id, pings m) := by
      intro hmem
      obtain ⟨m, hm, heq⟩ := List.mem_map.mp hmem
      exact hnew m.id (List.mem_map_of_mem hm) n.id (List.mem_singleton_self _) (congrArg Prod.fst heq)
    have hn : (k.recordPings time (targets.map fun m => (m.id, pings m))).2.node? n.id = some n := by
      rw [node?_recordPings, hmembers n (List.mem_append_right _ (List.mem_singleton_self _)),
        Option.map_some, if_neg hunasked]
    rw [List.map_append, List.map_singleton, recordPings_snoc]
    generalize k.recordPings time (targets.map fun m => (m.id, pings m)) = acc at hsummary hn ⊢
    obtain ⟨summary, heard⟩ := acc
    obtain rfl : summary = _ := hsummary
    cases hanswered : pings n with
    | false => simp [recordPing, hanswered]
    | true =>
      simp only [recordPing, recordHeartbeat_back hn]
      cases hactive : n.active <;> simp [hanswered, hactive]

theorem scanTimeouts_eq_self {k : Cluster} {limit : Span} {now : Moment}
    (h : k.silences limit now = []) : k.scanTimeouts limit now = k := by
  have hnodes : (k.scanTimeouts limit now).nodes = k.nodes := by
    refine Table.eq_of_get? fun id => ?_
    show (k.scanTimeouts limit now).node? id = k.node? id
    rw [node?_scanTimeouts]
    cases hn : k.node? id with
    | none => rfl
    | some n =>
      have hloud := List.filter_eq_nil_iff.mp (List.map_eq_nil_iff.mp h) n (mem_list.mpr ⟨id, hn⟩)
      rw [Option.map_some, if_neg hloud]
  show { k with nodes := (k.scanTimeouts limit now).nodes } = k
  rw [hnodes]

end Cluster

/-! ## A round and its scan -/

/-- What a round of pings and the scan after it tell and leave behind. -/
structure PingRound where
  summary : HeartbeatSummary
  silences : List Silence
  cluster : Cluster

/-- What an operation does with a round that is over. -/
def PingRound.goOn (r : PingRound) (ended : Moment) : Section := fun c =>
  let c := { c with
    cluster := r.cluster
    metrics := c.metrics.recordHeartbeats r.summary.failed r.silences.length }
  match r.silences.find? (·.wasPrimary) with
  | some s =>
    if c.settings.mode.triggersOnSilence then
      Coordinator.beginFailover ended (.silence s.node) .heartbeat c
    else Coordinator.close false .done c
  | none => Coordinator.close false .done c

namespace Hosts

/-- Everybody is pinged. The answers are taken in when the last of them has come,
and the members are scanned at that instant. -/
def pingRound (hosts : Hosts) (limit : Span) (ended : Moment) (k : Cluster) : PingRound where
  summary := (k.recordPings ended ((k.list.map (·.id)).zip (k.list.map hosts.pings))).1
  silences := (hosts.heard ended k).silences limit ended
  cluster := (hosts.heard ended k).scanTimeouts limit ended

/-- Given up: no answer, and none for too long. -/
def lost (hosts : Hosts) (limit : Span) (ended : Moment) (n : Node) : Bool :=
  !hosts.pings n && Cluster.isSilent limit ended n

/-- The member after the scan. -/
def afterRound (hosts : Hosts) (limit : Span) (ended : Moment) (n : Node) : Node :=
  if hosts.pings n then n.heardAt ended
  else if hosts.lost limit ended n then n.timedOut
  else n

variable {hosts : Hosts} {limit : Span} {ended : Moment} {k : Cluster} {id : String} {n : Node}

theorem lost_iff :
    hosts.lost limit ended n = true ↔
      hosts.pings n = false ∧ n.active = true ∧ limit < ended.since n.lastHeartbeat := by
  rw [lost, Cluster.isSilent, Bool.and_eq_true, Bool.and_eq_true, Bool.not_eq_true', decide_eq_true_eq]

theorem not_lost_of_answer (h : hosts.pings n = true) : hosts.lost limit ended n = false := by
  rw [lost, h]
  rfl

theorem afterRound_of_answer (h : hosts.pings n = true) :
    hosts.afterRound limit ended n = n.heardAt ended :=
  if_pos h

theorem afterRound_of_lost (h : hosts.lost limit ended n = true) :
    hosts.afterRound limit ended n = n.timedOut := by
  rw [afterRound, (lost_iff.mp h).1, h]
  rfl

theorem afterRound_of_neither (hmute : hosts.pings n = false) (h : hosts.lost limit ended n = false) :
    hosts.afterRound limit ended n = n := by
  rw [afterRound, hmute, h]
  rfl

theorem isSilent_afterPing (hlimit : 0 ≤ limit) (hosts : Hosts) (ended : Moment) (n : Node) :
    Cluster.isSilent limit ended (hosts.afterPing ended n) = hosts.lost limit ended n := by
  unfold afterPing lost
  cases hosts.pings n with
  | false => rfl
  | true => exact Cluster.isSilent_heardAt hlimit ended n

/-- Whoever is given up is not active, and so cannot be given up again. -/
theorem isSilent_afterRound (hlimit : 0 ≤ limit) (hosts : Hosts) (ended : Moment) (n : Node) :
    Cluster.isSilent limit ended (hosts.afterRound limit ended n) = false := by
  cases hanswered : hosts.pings n with
  | true =>
    rw [afterRound_of_answer hanswered]
    exact Cluster.isSilent_heardAt hlimit ended n
  | false =>
    cases hlost : hosts.lost limit ended n with
    | true =>
      rw [afterRound_of_lost hlost]
      rfl
    | false =>
      rw [afterRound_of_neither hanswered hlost]
      rw [lost, hanswered] at hlost
      exact hlost

theorem list_heard (named : ∀ id n, k.node? id = some n → n.id = id) (hosts : Hosts)
    (ended : Moment) : (hosts.heard ended k).list = k.list.map (hosts.afterPing ended) := by
  unfold Cluster.list
  rw [nodes_heard named, Table.values_map]

/-! ## What a round leaves behind -/

theorem nodes_pingRound (named : ∀ id n, k.node? id = some n → n.id = id) (hlimit : 0 ≤ limit)
    (hosts : Hosts) (ended : Moment) :
    (hosts.pingRound limit ended k).cluster.nodes =
      k.nodes.map fun _ n => hosts.afterRound limit ended n := by
  refine Table.eq_of_get? fun id => ?_
  show ((hosts.heard ended k).scanTimeouts limit ended).node? id = _
  rw [Cluster.node?_scanTimeouts, Cluster.node?, nodes_heard named, Table.get?_map, Table.get?_map,
    Option.map_map]
  congr 1
  funext n
  simp only [Function.comp_apply, isSilent_afterPing hlimit]
  unfold afterPing afterRound lost
  cases hosts.pings n <;> rfl

theorem node?_pingRound (named : ∀ id n, k.node? id = some n → n.id = id) (hlimit : 0 ≤ limit)
    (hosts : Hosts) (ended : Moment) (hn : k.node? id = some n) :
    (hosts.pingRound limit ended k).cluster.node? id = some (hosts.afterRound limit ended n) := by
  show (hosts.pingRound limit ended k).cluster.nodes.get? id = _
  rw [nodes_pingRound named hlimit, Table.get?_map]
  show (k.node? id).map _ = _
  rw [hn, Option.map_some]

theorem sameParts_pingRound (hosts : Hosts) (limit : Span) (ended : Moment) (k : Cluster) :
    k.SameParts (hosts.pingRound limit ended k).cluster :=
  (Cluster.sameParts_recordPings _ _ _).trans (Cluster.sameParts_scanTimeouts _ _ _)

theorem failures_pingRound (named : ∀ id n, k.node? id = some n → n.id = id) (hlimit : 0 ≤ limit)
    (hosts : Hosts) (ended : Moment) (id : String) :
    ((hosts.pingRound limit ended k).cluster.node? id).map (·.failures) =
      (k.node? id).map (·.failures) := by
  show ((hosts.pingRound limit ended k).cluster.nodes.get? id).map _ = (k.nodes.get? id).map _
  rw [nodes_pingRound named hlimit, Table.get?_map, Option.map_map]
  congr 1
  funext n
  simp only [Function.comp_apply]
  unfold afterRound
  split
  · rfl
  · split <;> rfl

/-- A second scan at the same instant has nobody to give up. -/
theorem silences_again (named : ∀ id n, k.node? id = some n → n.id = id) (hlimit : 0 ≤ limit)
    (hosts : Hosts) (ended : Moment) :
    (hosts.pingRound limit ended k).cluster.silences limit ended = [] := by
  rw [Cluster.silences, List.map_eq_nil_iff, List.filter_eq_nil_iff]
  intro n hn
  rw [Cluster.list, nodes_pingRound named hlimit, Table.values_map] at hn
  obtain ⟨m, _, rfl⟩ := List.mem_map.mp hn
  rw [isSilent_afterRound hlimit]
  exact Bool.false_ne_true

/-! ## What a round tells -/

/-- What is told of a member that is given up. -/
def silenceOf (k : Cluster) (ended : Moment) (n : Node) : Silence :=
  { node := n.id, wasPrimary := k.isPrimary n.id, lasted := ended.since n.lastHeartbeat }

theorem summary_pingRound (named : ∀ id n, k.node? id = some n → n.id = id) (hosts : Hosts)
    (limit : Span) (ended : Moment) :
    (hosts.pingRound limit ended k).summary =
      { delivered := k.list.countP hosts.pings
        failed := k.list.countP fun n => !hosts.pings n
        reactivated := (k.list.filter fun n => hosts.pings n && !n.active).map (·.id) } := by
  unfold pingRound
  dsimp only
  rw [List.zip_map']
  refine Cluster.recordPings_summary hosts.pings ended ?_ fun n hn => Cluster.node?_self named hn
  rw [Cluster.ids_self named]
  exact k.nodes.names_nodup

theorem mem_reactivated (named : ∀ id n, k.node? id = some n → n.id = id) (hosts : Hosts)
    (limit : Span) (ended : Moment) (hn : k.node? id = some n) :
    id ∈ (hosts.pingRound limit ended k).summary.reactivated ↔
      hosts.pings n = true ∧ n.active = false := by
  rw [summary_pingRound named]
  dsimp only
  rw [List.mem_map]
  constructor
  · rintro ⟨m, hm, rfl⟩
    obtain ⟨hlist, hback⟩ := List.mem_filter.mp hm
    rw [Cluster.node?_self named hlist] at hn
    cases hn
    simpa using hback
  · rintro ⟨hanswered, hinactive⟩
    have hback : (hosts.pings n && !n.active) = true := by rw [hanswered, hinactive]; rfl
    exact ⟨n, List.mem_filter.mpr ⟨Cluster.mem_list.mpr ⟨id, hn⟩, hback⟩, named id n hn⟩

/-- The members that are given up are reported as they were before the round. -/
theorem silences_pingRound (named : ∀ id n, k.node? id = some n → n.id = id) (hlimit : 0 ≤ limit)
    (hosts : Hosts) (ended : Moment) :
    (hosts.pingRound limit ended k).silences =
      (k.list.filter (hosts.lost limit ended)).map (silenceOf k ended) := by
  have hprimary : (hosts.heard ended k).primary = k.primary :=
    (Cluster.sameParts_recordPings _ _ _).primary
  show ((hosts.heard ended k).list.filter _).map _ = _
  rw [list_heard named, List.filter_map, List.map_map]
  have hlost : Cluster.isSilent limit ended ∘ hosts.afterPing ended = hosts.lost limit ended :=
    funext (isSilent_afterPing hlimit hosts ended)
  rw [hlost]
  refine List.map_congr_left fun n hn => ?_
  have hmute : hosts.pings n = false := (lost_iff.mp (List.mem_filter.mp hn).2).1
  simp only [Function.comp_apply, afterPing, hmute, Bool.false_eq_true, if_false,
    Cluster.isPrimary, hprimary, silenceOf]

/-- A member that is given up is reported once, and no other one is. -/
theorem silences_of (named : ∀ id n, k.node? id = some n → n.id = id) (hlimit : 0 ≤ limit)
    (hosts : Hosts) (ended : Moment) (hn : k.node? id = some n) :
    (hosts.pingRound limit ended k).silences.filter (fun s => s.node = id) =
      if hosts.lost limit ended n then [silenceOf k ended n] else [] := by
  have hnodup : (k.list.map (·.id)).Nodup := by
    rw [Cluster.ids_self named]
    exact k.nodes.names_nodup
  have honly : k.list.filter (fun m => m.id = id) = [n] := by
    rw [← named id n hn]
    exact filter_eq_singleton hnodup (Cluster.mem_list.mpr ⟨id, hn⟩)
  rw [silences_pingRound named hlimit, List.filter_map]
  have hcomp : (k.list.filter (hosts.lost limit ended)).filter
      ((fun s : Silence => decide (s.node = id)) ∘ silenceOf k ended) =
      (k.list.filter fun m => m.id = id).filter (hosts.lost limit ended) := List.filter_comm _ _ _
  rw [hcomp, honly, List.filter_singleton]
  cases hosts.lost limit ended n <;> rfl

/-- Who is given up did not answer. -/
theorem mute_of_mem_silences (named : ∀ id n, k.node? id = some n → n.id = id) (hlimit : 0 ≤ limit)
    (hosts : Hosts) (ended : Moment) {s : Silence}
    (hs : s ∈ (hosts.pingRound limit ended k).silences) :
    ∃ n, k.node? s.node = some n ∧ hosts.pings n = false := by
  rw [silences_pingRound named hlimit] at hs
  obtain ⟨n, hn, rfl⟩ := List.mem_map.mp hs
  obtain ⟨hlist, hlost⟩ := List.mem_filter.mp hn
  exact ⟨n, Cluster.node?_self named hlist, (lost_iff.mp hlost).1⟩

/-- Every member either answers or fails to. -/
theorem delivered_add_failed (named : ∀ id n, k.node? id = some n → n.id = id) (hosts : Hosts)
    (limit : Span) (ended : Moment) :
    (hosts.pingRound limit ended k).summary.delivered +
      (hosts.pingRound limit ended k).summary.failed = k.list.length := by
  rw [summary_pingRound named, List.length_eq_countP_add_countP hosts.pings]
  simp

end Hosts

/-- A round of pings with the scan that follows it, for any answers. The members,
their parts and their failures, the primary and the state of the cluster stay as
they are. A member that answers is active and heard of, and is told to be back if it
was not active. One that does not is left as it is when it is not active or has not
been silent for longer than the limit; otherwise it is given up, and this is told
once. Every answer is counted, nobody is both heard of and given up, and a second
scan finds nothing. An operation goes on from this round and no other. -/
theorem a_ping_round_hears_leaves_or_gives_up_each_member (hosts : Hosts) (limit : Span)
    (hlimit : 0 < limit) (ended : Moment) (k : Cluster)
    (named : ∀ id n, k.node? id = some n → n.id = id) :
    let r := hosts.pingRound limit ended k
    (r.cluster.nodes.names = k.nodes.names ∧ k.SameParts r.cluster ∧
      ∀ id, (r.cluster.node? id).map (·.failures) = (k.node? id).map (·.failures)) ∧
    (∀ id n, k.node? id = some n →
      let reports := r.silences.filter (fun s => s.node = id)
      let silentFor := ended.since n.lastHeartbeat
      (hosts.pings n = true →
        r.cluster.node? id = some { n with lastHeartbeat := ended, active := true } ∧
        (id ∈ r.summary.reactivated ↔ n.active = false) ∧ reports = []) ∧
      (hosts.pings n = false → n.active = false ∨ silentFor ≤ limit →
        r.cluster.node? id = some n ∧ id ∉ r.summary.reactivated ∧ reports = []) ∧
      (hosts.pings n = false → n.active = true → limit < silentFor →
        r.cluster.node? id = some { n with active := false, status := .unhealthy, score := 0.0 } ∧
        id ∉ r.summary.reactivated ∧
        ∃ s, reports = [s] ∧ s.lasted = silentFor ∧ (s.wasPrimary = true ↔ k.primary = some id))) ∧
    r.summary.delivered + r.summary.failed = k.list.length ∧
    (∀ s ∈ r.silences, ∃ n, k.node? s.node = some n ∧ hosts.pings n = false) ∧
    (r.cluster.silences limit ended = [] ∧ r.cluster.scanTimeouts limit ended = r.cluster) ∧
    (∀ c : Coordinator, c.cluster = k → c.settings.heartbeatTimeout = limit →
      Coordinator.afterPings ended k.list (k.list.map hosts.pings) c = r.goOn ended c) := by
  intro r
  have hle : 0 ≤ limit := Int.le_of_lt hlimit
  have hsecond : r.cluster.silences limit ended = [] := Hosts.silences_again named hle hosts ended
  refine ⟨⟨?_, Hosts.sameParts_pingRound hosts limit ended k,
    Hosts.failures_pingRound named hle hosts ended⟩, fun id n hn => ?_,
    Hosts.delivered_add_failed named hosts limit ended,
    fun s hs => Hosts.mute_of_mem_silences named hle hosts ended hs,
    ⟨hsecond, Cluster.scanTimeouts_eq_self hsecond⟩, ?_⟩
  · rw [Hosts.nodes_pingRound named hle, Table.names_map]
  · have hafter := Hosts.node?_pingRound named hle hosts ended hn
    have hback := Hosts.mem_reactivated named hosts limit ended hn
    have hreports := Hosts.silences_of named hle hosts ended hn
    refine ⟨fun hanswered => ⟨?_, ?_, ?_⟩, fun hmute hspared => ?_, fun hmute hactive hlong => ?_⟩
    · rw [hafter, Hosts.afterRound_of_answer hanswered]
      rfl
    · rw [hback]
      exact and_iff_right hanswered
    · rw [hreports, Hosts.not_lost_of_answer hanswered]
      rfl
    · have hkept : hosts.lost limit ended n = false := by
        rw [Bool.eq_false_iff, ne_eq, Hosts.lost_iff]
        rintro ⟨_, hactive, hlong⟩
        rcases hspared with hinactive | hshort
        · rw [hactive] at hinactive
          cases hinactive
        · exact absurd hlong (Int.not_lt.mpr hshort)
      rw [Hosts.afterRound_of_neither hmute hkept] at hafter
      rw [hkept] at hreports
      rw [hmute] at hback
      exact ⟨hafter, fun hmem => Bool.false_ne_true (hback.mp hmem).1, hreports⟩
    · have hlost := Hosts.lost_iff.mpr ⟨hmute, hactive, hlong⟩
      rw [Hosts.afterRound_of_lost hlost] at hafter
      rw [hlost] at hreports
      rw [hmute] at hback
      refine ⟨hafter, fun hmem => Bool.false_ne_true (hback.mp hmem).1, _, hreports, rfl, ?_⟩
      rw [← named id n hn]
      exact beq_iff_eq
  · rintro c rfl rfl
    rfl

/-- The primary of two nodes does not answer for twenty seconds; the other one
does. -/
theorem a_ping_round_gives_up_the_silent_primary_of_two :
    ∃ (trace : List (System × Move)) (w : System), History trace w ∧
      let r := (Hosts.without "a").pingRound w.coordinator.settings.heartbeatTimeout
        ⟨20000000000, false⟩ w.cluster
      r.summary.delivered + r.summary.failed = 2 ∧
      r.cluster.node? "b" =
        some { Node.well "b" .secondary with lastHeartbeat := ⟨20000000000, false⟩, active := true } ∧
      ∃ s, r.silences.filter (fun s => s.node = "a") = [s] ∧ s.lasted = 20000000000 ∧
        s.wasPrimary = true := by
  obtain ⟨trace, h, _⟩ := System.play_history Coordinator.fresh_standard calm (listening.take 2)
  let w := System.play calm (.initial .standard) (listening.take 2)
  obtain ⟨_, hmembers, hcounted, _⟩ :=
    a_ping_round_hears_leaves_or_gives_up_each_member (Hosts.without "a")
      w.coordinator.settings.heartbeatTimeout (by decide) ⟨20000000000, false⟩ w.cluster
      h.onePrimary.named
  obtain ⟨_, _, hgiven⟩ := hmembers "a" (Cluster.crown (Node.well "a" .primary)) rfl
  obtain ⟨hheard, _, _⟩ := hmembers "b" (Node.well "b" .secondary) rfl
  obtain ⟨_, _, s, hreported, hlasted, hwas⟩ := hgiven (by decide) rfl (by decide)
  exact ⟨trace, w, h, hcounted, (hheard (by decide)).1, s, hreported, hlasted, hwas.mpr rfl⟩

end Failover
