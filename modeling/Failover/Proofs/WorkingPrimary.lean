import Failover.Proofs.AuditTrail
import Failover.Proofs.Causes
import Failover.Proofs.Comebacks

-- A primary that works stays the primary. Whatever the other members do and
-- however the loops overlap, no failover starts while it answers its pings and
-- passes its checks. The one thing that it cannot help is a round of pings that
-- had begun before it joined: such a round does not ask it, and takes it for
-- silent all the same if it ends late enough.

namespace Failover

open Cluster (OnePrimary)

/-- The cluster is normal, and its primary is active and has passed its last
check. -/
structure Cluster.Works (k : Cluster) (p : String) : Prop where
  normal : k.state = .normal
  primary : k.primary = some p
  node : ∃ n, k.node? p = some n ∧ n.active = true ∧ n.failures = 0

/-! ## What leaves the primary alone -/

/-- Whenever the node has been pinged, it has answered. -/
def Answered (p : String) (targets : List Node) (answers : List Bool) : Prop :=
  ∀ (i : Nat) (n : Node), targets[i]? = some n → n.id = p → answers[i]? = some true

/-- Whenever the node has been probed, it was healthy or degraded. -/
def Passed (p : String) (t : HealthThresholds Float) (targets : List Node)
    (results : List (ProbeResult Float)) : Prop :=
  ∀ (i : Nat) (n : Node) (r : ProbeResult Float), targets[i]? = some n → n.id = p →
    results[i]? = some r →
    (HealthReport.ofResult t r).status = .healthy ∨ (HealthReport.ofResult t r).status = .degraded

/-- The node works as far as this move can tell, and nobody interferes: no
operator asks for a failover, promotes a node, takes this one out or changes
its maintenance. -/
def Move.Spares (p : String) (t : HealthThresholds Float) : Move → Prop
  | start _ (.trigger _) | start _ (.promote _) => False
  | start _ (.remove id) | order _ (.unregister id) | order _ (.maintenance id _) => id ≠ p
  | resume _ _ (.pinging targets) answers => Answered p targets answers
  | resume _ _ (.probing targets) results => Passed p t targets results
  | _ => True

/-- A round of pings ends that has not asked the node, and the node was last
heard of too long ago. -/
def Move.Overlooks (p : String) (c : Coordinator) : Move → Prop
  | resume now _ (.pinging targets) _ => (∀ n ∈ targets, n.id ≠ p) ∧
      ∃ n, c.cluster.node? p = some n ∧
        Cluster.isSilent c.settings.heartbeatTimeout now n = true
  | _ => False

/-- If it is a round of pings, then one that asks the node. -/
def Activity.Knows (p : String) : Activity → Prop
  | pinging targets => ∃ n ∈ targets, n.id = p
  | _ => True

theorem Progress.knows_of_polls {progress : Progress} {a : Activity} (h : progress.polls = false)
    (hwaits : progress = .waits a) (p : String) : a.Knows p := by
  subst hwaits
  cases a with
  | pinging | probing => cases h
  | connecting | announcing | ready => trivial

theorem Move.Spares.stays {m : Move} {p : String} {t : HealthThresholds Float}
    (h : m.Spares p t) : m.leaver? ≠ some p := by
  cases m with
  | start now op =>
    cases op with
    | remove => exact fun hid => h (Option.some.inj hid)
    | heartbeatRound | healthSweep | watch | trigger | promote | acknowledge => nofun
  | order now o =>
    cases o with
    | unregister => exact fun hid => h (Option.some.inj hid)
    | join | register | maintenance | observe => nofun
  | resume | drop => nofun

/-! ## The primary among the members -/

namespace Cluster

variable {k k' : Cluster} {p : String} {now : Moment}

theorem Works.isPrimary (h : k.Works p) {id : String} (hne : id ≠ p) : k.isPrimary id = false := by
  simp [Cluster.isPrimary, h.primary, Ne.symm hne]

/-- The other members play no part. -/
theorem Works.beside (h : k.Works p) (hs : k'.state = k.state) (hp : k'.primary = k.primary)
    (hn : k'.node? p = k.node? p) : k'.Works p :=
  ⟨hs.trans h.normal, hp.trans h.primary, hn ▸ h.node⟩

theorem Works.join (h : k.Works p) {n : Node} (ha : k.add n = .ok k') : k'.Works p := by
  obtain ⟨hnew, hp, hothers⟩ := add_beside ha h.primary
  refine h.beside (add_state ha) hp (hothers p ?_)
  rintro rfl
  obtain ⟨m, hm, _⟩ := h.node
  rw [contains_iff.mpr ⟨m, hm⟩] at hnew
  cases hnew

theorem Works.leave (h : k.Works p) {id : String} {r : Removal} (hr : k.remove id = .ok (r, k'))
    (hne : id ≠ p) : r.wasPrimary = false ∧ k'.Works p := by
  obtain ⟨hwas, hp, hothers⟩ := remove_others hr
  rw [h.isPrimary hne] at hwas hp
  exact ⟨hwas, h.beside (remove_state hr) hp (hothers p (Ne.symm hne))⟩

theorem Works.maintain (h : k.Works p) {id : String} {enabled : Bool}
    (hm : k.setMaintenance id enabled = .ok k') (hne : id ≠ p) : k'.Works p := by
  have hsame := sameParts_setMaintenance hm
  exact h.beside hsame.state hsame.primary (node?_setMaintenance hm (Ne.symm hne))

/-- The answers of a round are taken in at its end, and so is the time by
which silence is measured: who has answered is not silent, however long the
round took. -/
theorem Works.round (h : k.Works p) {limit : Span} (hlimit : 0 ≤ limit)
    {answers : List (String × Bool)}
    (hp : (p, true) ∈ answers ∨ ∀ n, k.node? p = some n → isSilent limit now n = false) :
    ((k.recordPings now answers).2.scanTimeouts limit now).Works p := by
  have hpings := sameParts_recordPings k now answers
  have hsame := hpings.trans (sameParts_scanTimeouts _ limit now)
  obtain ⟨n, hn, ha, hf⟩ := h.node
  refine ⟨hsame.state.trans h.normal, hsame.primary.trans h.primary, ?_⟩
  rw [node?_scanTimeouts, node?_recordPings, hn]
  by_cases hheard : (p, true) ∈ answers
  · refine ⟨n.heardAt now, ?_, rfl, hf⟩
    simp [hheard, isSilent_heardAt hlimit]
  · have hrecent := hp.resolve_left hheard n hn
    exact ⟨n, by simp [hheard, hrecent], ha, hf⟩

/-- Good reports leave a member active and without failures. -/
theorem judged_well {reports : List (HealthReport Float)} {n : Node}
    (hgood : ∀ r ∈ reports, r.status.isFailure = false) (ha : n.active = true)
    (hf : n.failures = 0) :
    (reports.foldl Node.judged n).active = true ∧ (reports.foldl Node.judged n).failures = 0 := by
  induction reports generalizing n with
  | nil => exact ⟨ha, hf⟩
  | cons r rest ih =>
    have hr := hgood r (by simp)
    refine ih (fun r' hr' => hgood r' (List.mem_cons_of_mem r hr')) ?_ ?_
    · unfold Node.judged
      split
      · exact ha
      · exact ha
    · unfold Node.judged
      split
      · exact hf
      · simp [Node.withReport, hr]

theorem Works.sweep (h : k.Works p) {reports : List (String × HealthReport Float)}
    (hp : ∀ r, (p, r) ∈ reports → r.status.isFailure = false) : (k.recordAll reports).2.Works p := by
  have hsame := sameParts_recordAll k reports
  obtain ⟨n, hn, ha, hf⟩ := h.node
  refine ⟨hsame.state.trans h.normal, hsame.primary.trans h.primary,
    (reportsOn p reports).foldl Node.judged n, ?_, judged_well ?_ ha hf⟩
  · rw [node?_recordAll, hn, Option.map_some]
  · intro r hr
    simp only [reportsOn, List.mem_map, List.mem_filter, decide_eq_true_eq] at hr
    obtain ⟨⟨id, r⟩, ⟨hmem, rfl⟩, rfl⟩ := hr
    exact hp r hmem

end Cluster

theorem Answered.mem {p : String} {targets : List Node} {answers : List Bool}
    (h : Answered p targets answers) (hp : ∃ n ∈ targets, n.id = p) :
    (p, true) ∈ (targets.map (·.id)).zip answers := by
  obtain ⟨n, hn, hid⟩ := hp
  obtain ⟨i, hi⟩ := List.mem_iff_getElem?.mp hn
  refine List.mem_iff_getElem?.mpr ⟨i, List.getElem?_zip_eq_some.mpr ⟨?_, h i n hi hid⟩⟩
  simp [hi, hid]

theorem Passed.good {p : String} {t : HealthThresholds Float} {targets : List Node}
    {results : List (ProbeResult Float)} (h : Passed p t targets results)
    {r : HealthReport Float}
    (hr : (p, r) ∈ (targets.map (·.id)).zip (results.map (HealthReport.ofResult t))) :
    r.status.isFailure = false := by
  obtain ⟨i, hi⟩ := List.mem_iff_getElem?.mp hr
  obtain ⟨hid, hreport⟩ := List.getElem?_zip_eq_some.mp hi
  obtain ⟨n, hn, hname⟩ := Option.map_eq_some_iff.mp (List.getElem?_map .. ▸ hid)
  obtain ⟨result, hresult, rfl⟩ := Option.map_eq_some_iff.mp (List.getElem?_map .. ▸ hreport)
  rcases h i n result hn hname hresult with hs | hs <;> rw [hs] <;> rfl

/-! ## Sections -/

/-- A section has left the primary alone, and nothing has been recorded. -/
structure Coordinator.Spared (p : String) (c : Coordinator) (r : Coordinator × Progress) : Prop where
  alike : c.Alike none r.1
  works : r.1.cluster.Works p

namespace Coordinator

variable {p : String} {now : Moment} {c c' : Coordinator}

theorem close_spared {renewLevels : Bool} {answer : Answer} (h : c.Alike none c')
    (hk : c'.cluster.Works p) : Spared p c (close renewLevels answer c') := by
  obtain ⟨_, hsame, halike⟩ := close_closing renewLevels answer c'
  exact ⟨h.trans halike, hsame ▸ hk⟩

/-- There is nothing to be done about a primary that works. -/
theorem failoverCondition?_eq_none (hk : c.cluster.Works p)
    (hmax : 0 < c.settings.maxConsecutiveFailures) : c.failoverCondition? = none := by
  obtain ⟨n, hn, ha, hf⟩ := hk.node
  have hprimary : c.cluster.primaryNode? = some n := by
    simp [Cluster.primaryNode?, hk.primary, hn]
  simp [failoverCondition?, hk.normal, hprimary, ha, hf, Nat.not_le.mpr hmax]

theorem evaluate_spared (h : c.Alike none c') (hk : c'.cluster.Works p)
    (hmax : 0 < c.settings.maxConsecutiveFailures) : Spared p c (evaluate now c') := by
  unfold evaluate
  rw [failoverCondition?_eq_none hk (h.settings ▸ hmax)]
  exact close_spared h hk

theorem afterProbes_spared {targets : List Node} {results : List (ProbeResult Float)}
    (hk : c.cluster.Works p) (hmax : 0 < c.settings.maxConsecutiveFailures)
    (hpassed : Passed p c.settings.thresholds targets results) :
    Spared p c (afterProbes now targets results c) := by
  unfold afterProbes
  exact evaluate_spared (alike_of_log rfl rfl rfl) (hk.sweep fun r hr => hpassed.good hr) hmax

/-- The round has asked the primary, or ends early enough. -/
theorem afterPings_spared {targets : List Node} {answers : List Bool} (hk : c.cluster.Works p)
    (hone : OnePrimary c.cluster) (hanswered : Answered p targets answers)
    (hseen : (∃ n ∈ targets, n.id = p) ∨ ∀ n, c.cluster.node? p = some n →
      Cluster.isSilent c.settings.heartbeatTimeout now n = false) :
    Spared p c (afterPings now targets answers c) := by
  have hlimit := c.settings.heartbeatTimeout_nonneg
  obtain ⟨c', halike, hcluster, hend⟩ := afterPings_cases now targets answers c
  have hworks : c'.cluster.Works p := hcluster ▸ hk.round hlimit (hseen.imp_left hanswered.mem)
  rcases hend with hend | ⟨s, hmem, hwas, _, _⟩
  · rw [hend]
    exact close_spared halike hworks
  · -- the silence would be that of the primary, which is active after the round
    have hpings := c.cluster.sameParts_recordPings now ((targets.map (·.id)).zip answers)
    obtain ⟨hp, n, hn, ha⟩ := Cluster.silences_inactive (hpings.onePrimary hone) hmem
    have hnode : s.node = p := Option.some.inj ((hp hwas).symm.trans (hpings.primary.trans hk.primary))
    obtain ⟨n', hn', ha', _⟩ := hworks.node
    rw [hcluster, ← hnode, hn] at hn'
    rw [← Option.some.inj hn', ha] at ha'
    cases ha'

theorem removeNode_spared {id : String} (hk : c.cluster.Works p) (hne : id ≠ p) :
    Spared p c (removeNode now id c) := by
  unfold removeNode refuse
  split
  · exact close_spared (.refl c) hk
  · rename_i removal cluster hr
    obtain ⟨hwas, hleft⟩ := hk.leave hr hne
    dsimp only
    rw [if_neg (by simp [hwas])]
    exact close_spared (alike_of_log rfl rfl rfl) hleft

theorem firstSection_spared {op : Operation} (hk : c.cluster.Works p)
    (hmax : 0 < c.settings.maxConsecutiveFailures)
    (hop : Move.Spares p c.settings.thresholds (.start now op)) :
    Spared p c (firstSection now op c) := by
  cases op with
  | heartbeatRound | healthSweep => exact ⟨.refl c, hk⟩
  | watch =>
    have hwatch : firstSection now .watch c = evaluate now c := if_pos hk.normal
    rw [hwatch]
    exact evaluate_spared (.refl c) hk hmax
  | trigger | promote => exact hop.elim
  | acknowledge =>
    have hclose : firstSection now .acknowledge c = close false (.acknowledged .normal) c :=
      if_pos hk.normal
    rw [hclose]
    exact close_spared (.refl c) hk
  | remove id => exact removeNode_spared hk hop

/-- In the normal state a recovery has only its event left to tell. -/
theorem reopen_works (hk : c.cluster.Works p) : (reopen now c).1.cluster.Works p := by
  unfold reopen announceLast
  rw [announce_cluster, hk.normal]
  exact hk.beside hk.normal.symm rfl rfl

theorem reopens_works {a : Activity} (hk : c.cluster.Works p) (h : a.reopens = true)
    (reply : a.Reply) : (nextSection now a reply c).1.cluster.Works p := by
  have hcounted (failures : Nat) : (c.countHookFailures failures).cluster.Works p :=
    (alike_countHookFailures c failures).2 ▸ hk
  unfold Activity.reopens at h
  split at h
  · exact reopen_works hk
  · exact reopen_works (hcounted _)
  · cases h

theorem seen_of_not_overlooks {number : Nat} {targets : List Node} {answers : List Bool}
    (h : ¬ Move.Overlooks p c (.resume now number (.pinging targets) answers)) :
    (∃ n ∈ targets, n.id = p) ∨ ∀ n, c.cluster.node? p = some n →
      Cluster.isSilent c.settings.heartbeatTimeout now n = false := by
  by_cases hasked : ∃ n ∈ targets, n.id = p
  · exact Or.inl hasked
  · refine Or.inr fun n hn => Bool.eq_false_iff.mpr fun hsilent => h ⟨fun t ht hid => ?_, n, hn, hsilent⟩
    exact hasked ⟨t, ht, hid⟩

/-- Neither a failover nor a recovery goes on, and a round of pings has not
overlooked the primary. -/
theorem nextSection_spared {number : Nat} {a : Activity} {reply : a.Reply} (hk : c.cluster.Works p)
    (hone : OnePrimary c.cluster) (hmax : 0 < c.settings.maxConsecutiveFailures)
    (hphase : a.phase.state? = none) (hends : a.reopens = false)
    (hreply : Move.Spares p c.settings.thresholds (.resume now number a reply))
    (hseen : ¬ Move.Overlooks p c (.resume now number a reply)) :
    Spared p c (nextSection now a reply c) := by
  have hclosing (h : a.closing = true) : Spared p c (nextSection now a reply c) := by
    obtain ⟨_, hsame, halike⟩ := nextSection_closing h now reply c
    exact ⟨halike, hsame ▸ hk⟩
  have hreopening (h : a.phase = .reopening) : Spared p c (nextSection now a reply c) := by
    have hsame := reopening_waits (c := c) now reply h hends
    constructor
    · rw [hsame]
      exact .refl c
    · rw [hsame]
      exact hk
  cases a with
  | pinging targets => exact afterPings_spared hk hone hreply (seen_of_not_overlooks hseen)
  | probing targets => exact afterProbes_spared hk hmax hreply
  | connecting => cases hphase
  | announcing _ _ _ next | ready next =>
    cases next with
    | select | rejoin => cases hphase
    | reopen => exact hreopening rfl
    | close => exact hclosing rfl

theorem apply_works {o : Order} {t : HealthThresholds Float} (hk : c.cluster.Works p)
    (ho : Move.Spares p t (.order now o)) : (o.apply now c).cluster.Works p := by
  cases o with
  | join spec =>
    simp only [Order.apply, addNode]
    split
    · rename_i ha
      exact hk.join ha
    · exact hk
  | register n =>
    simp only [Order.apply]
    cases ha : c.cluster.add n with
    | ok => exact hk.join ha
    | error => exact hk
  | unregister id =>
    simp only [Order.apply]
    cases hr : c.cluster.remove id with
    | ok r => exact (hk.leave hr ho).2
    | error => exact hk
  | maintenance id enabled =>
    simp only [Order.apply, setMaintenance]
    split
    · rename_i hm
      exact hk.maintain hm ho
    · exact hk
  | observe => exact hk

end Coordinator

/-! ## Runs -/

theorem FailoverSettings.failures_pos {s : FailoverSettings} (h : s.validate = .ok ()) :
    0 < s.maxConsecutiveFailures := by
  by_contra hzero
  have hmem : Complaint.noFailuresAllowed ∈ s.complaints := by
    simp [complaints, Nat.eq_zero_of_not_pos hzero]
  unfold validate at h
  split at h
  · rename_i hnone
    simp [hnone] at hmem
  · cases h

variable {trace before : List (System × Move)} {start w w' : System} {m : Move} {p : String}

/-- The primary works, and a failover or a recovery would have the cluster in
another state. -/
structure Serves (p : String) (w : System) : Prop where
  works : w.cluster.Works p
  one : OnePrimary w.cluster
  owned : Owned w

/-- Nothing has been recorded. -/
structure System.Unheard (w w' : System) : Prop where
  history : w'.history = w.history
  events : w'.coordinator.log.events = w.coordinator.log.events

theorem System.Unheard.refl (w : System) : w.Unheard w := ⟨rfl, rfl⟩

theorem System.Unheard.trans {w'' : System} (h : w.Unheard w') (h' : w'.Unheard w'') :
    w.Unheard w'' :=
  ⟨h'.history.trans h.history, h'.events.trans h.events⟩

theorem System.turn_unheard {number : Nat} {others after : List Task} {r : Coordinator × Progress}
    (h : w.coordinator.Alike none r.1) : w.Unheard (w.turn number others after r) := by
  obtain ⟨stats, hlog, _⟩ := h.log
  constructor
  · simp [System.turn, hlog, EventLog.since, EventLog.lastOf]
  · simp [System.turn, hlog]

theorem Serves.plain (h : Serves p w) {t : Task} (ht : t ∈ w.tasks) :
    t.activity.phase.state? = none := by
  cases hs : t.activity.phase.state? with
  | none => rfl
  | some s =>
    have hstate := h.owned.state hs (System.count_pos ht)
    rw [show w.state = .normal from h.works.normal] at hstate
    rcases Phase.eq_of_state hs with ⟨rfl, _⟩ | ⟨rfl, _⟩ <;> cases hstate

theorem Step.served (h : Step w m w') (hw : Serves p w)
    (hmax : 0 < w.coordinator.settings.maxConsecutiveFailures)
    (hm : m.Spares p w.coordinator.settings.thresholds) (hseen : ¬ m.Overlooks p w.coordinator) :
    Serves p w' ∧ (¬ Stray w m → w.Unheard w') := by
  have hserves (hk : w'.cluster.Works p) : Serves p w' := ⟨hk, h.onePrimary hw.one, h.owned hw.owned⟩
  cases h with
  | start now op =>
    have hr := Coordinator.firstSection_spared hw.works hmax hm
    have hquiet : w.Unheard (w.turn w.started w.tasks []
        (Coordinator.firstSection now op w.coordinator)) := System.turn_unheard hr.alike
    exact ⟨hserves hr.works, fun _ => ⟨hquiet.history, hquiet.events⟩⟩
  | resume now others after number a reply htasks =>
    have hphase : a.phase.state? = none := hw.plain (t := ⟨number, a⟩) (by simp [htasks])
    cases hends : a.reopens with
    | true =>
      refine ⟨hserves (Coordinator.reopens_works hw.works hends reply), fun hstray => ?_⟩
      refine absurd ⟨now, number, a, reply, rfl, hends, ?_⟩ hstray
      rw [show w.state = .normal from hw.works.normal]
      nofun
    | false =>
      have hr := Coordinator.nextSection_spared hw.works hw.one hmax hphase hends hm hseen
      exact ⟨hserves hr.works, fun _ => System.turn_unheard hr.alike⟩
  | drop others after t htasks => exact ⟨hserves hw.works, fun _ => ⟨rfl, rfl⟩⟩
  | order now o =>
    have ho := order_obeyed now w.coordinator o
    exact ⟨hserves (Coordinator.apply_works hw.works hm), fun _ => ⟨rfl, congrArg EventLog.events ho.log⟩⟩

theorem Run.served (hrun : Run start trace w) (hstart : Serves p start)
    (hmax : 0 < start.coordinator.settings.maxConsecutiveFailures)
    (hspares : ∀ s ∈ trace, s.2.Spares p start.coordinator.settings.thresholds)
    (hseen : ∀ s ∈ trace, ¬ s.2.Overlooks p s.1.coordinator) :
    Serves p w ∧ ((∀ s ∈ trace, ¬ Stray s.1 s.2) → start.Unheard w) ∧
      w.coordinator.settings = start.coordinator.settings := by
  induction hrun with
  | nil => exact ⟨hstart, fun _ => .refl start, rfl⟩
  | @snoc trace w w' m hrun hs ih =>
    obtain ⟨hserves, hquiet, hsettings⟩ := ih (fun s hmem => hspares s (List.mem_append_left _ hmem))
      fun s hmem => hseen s (List.mem_append_left _ hmem)
    have hm := hspares (w, m) (by simp)
    rw [← hsettings] at hmax hm
    obtain ⟨hserves', hquiet'⟩ := hs.served hserves hmax hm (hseen (w, m) (by simp))
    refine ⟨hserves', fun hclean => ?_, hs.settings.trans hsettings⟩
    have hearlier := hquiet fun s hmem => hclean s (List.mem_append_left _ hmem)
    exact hearlier.trans (hquiet' (hclean (w, m) (by simp)))

/-! ## Rounds that know the primary -/

/-- A round that starts while the node is a member asks it. -/
theorem Step.known (h : Step w m w') (hone : OnePrimary w.cluster) {n : Node}
    (hn : w.cluster.node? p = some n) (hw : ∀ t ∈ w.tasks, t.activity.Knows p) :
    ∀ t ∈ w'.tasks, t.activity.Knows p := by
  refine h.each_task (P := fun a => a.Knows p) ?_ ?_ hw
  · intro now op a hwaits
    cases op with
    | heartbeatRound =>
      rw [← Progress.waits.inj hwaits]
      exact ⟨n, Cluster.mem_list.mpr ⟨p, hn⟩, hone.named p n hn⟩
    | healthSweep =>
      rw [← Progress.waits.inj hwaits]
      trivial
    | watch | trigger | promote | acknowledge | remove =>
      refine Progress.knows_of_polls ?_ hwaits p
      exact Coordinator.firstSection_polls now rfl w.coordinator
  · intro now a reply a' _ hwaits
    exact Progress.knows_of_polls (Coordinator.nextSection_polls now a reply w.coordinator) hwaits p

theorem Step.not_overlooks (h : Step w m w') (hw : ∀ t ∈ w.tasks, t.activity.Knows p) :
    ¬ m.Overlooks p w.coordinator := by
  intro hm
  cases h with
  | resume now others after number a reply htasks =>
    have hknows : a.Knows p := hw ⟨number, a⟩ (by simp [htasks])
    cases a with
    | pinging targets =>
      obtain ⟨n, hmem, hid⟩ := hknows
      exact hm.1 n hmem hid
    | probing | connecting | announcing | ready => exact hm
  | start | drop | order => exact hm

theorem Run.not_overlooks (hbefore : History before start) (hrun : Run start trace w) {n : Node}
    (hn : start.cluster.node? p = some n) (hkept : ∀ s ∈ trace, s.2.leaver? ≠ some p)
    (hstart : ∀ t ∈ start.tasks, t.activity.Knows p) :
    (∀ t ∈ w.tasks, t.activity.Knows p) ∧ ∀ s ∈ trace, ¬ s.2.Overlooks p s.1.coordinator := by
  induction hrun with
  | nil => exact ⟨hstart, by simp⟩
  | @snoc trace w w' m hrun hs ih =>
    have hearlier : ∀ s ∈ trace, s.2.leaver? ≠ some p := fun s hmem => hkept s (by simp [hmem])
    obtain ⟨hknown, hnot⟩ := ih hearlier
    obtain ⟨n', hn', _⟩ := hrun.member hearlier hn
    refine ⟨hs.known (hbefore.extend hrun).onePrimary hn' hknown, fun s hmem => ?_⟩
    rcases List.mem_append.mp hmem with hmem | hmem
    · exact hnot s hmem
    · rw [List.mem_singleton.mp hmem]
      exact hs.not_overlooks hknown

/-- Such a round takes the node for silent. -/
theorem Move.Overlooks.silences (h : m.Overlooks p w.coordinator) : FallsSilent p w m := by
  cases m with
  | resume now number a reply =>
    cases a with
    | pinging targets =>
      obtain ⟨hunasked, n, hn, hsilent⟩ := h
      simp only [Cluster.isSilent, Bool.and_eq_true, decide_eq_true_eq] at hsilent
      refine ⟨now, number, targets, reply, n, rfl, fun hmem => ?_, hn, hsilent.1, hsilent.2⟩
      obtain ⟨t, ht, hid⟩ := List.mem_map.mp (List.of_mem_zip hmem).1
      exact hunasked t ht hid
    | probing | connecting | announcing | ready => exact h.elim
  | start | drop | order => exact h.elim

/-- Take a run from a normal cluster whose primary is active and has no failed
check. However the operations overlap, wherever they are dropped and whatever
becomes of the other members: while the primary answers its pings and passes its
checks, no operator interferes and no round of pings overlooks it, it stays the
active primary and the cluster stays normal, and nothing is recorded unless a
recovery that was overtaken tells its end. A round that knows the primary does not
overlook it, however long it takes, and every round that starts while it is a
member knows it; a round that does overlook it takes it for silent. -/
theorem a_working_primary_is_never_failed_over (hbefore : History before start)
    (hworks : start.cluster.Works p) (hrun : Run start trace w)
    (hspares : ∀ s ∈ trace, s.2.Spares p start.coordinator.settings.thresholds) :
    ((∀ s ∈ trace, ¬ s.2.Overlooks p s.1.coordinator) →
      w.state = .normal ∧ w.cluster.primary = some p ∧
      (∃ n, w.cluster.node? p = some n ∧ n.active = true ∧ n.failures = 0) ∧
      ((∀ s ∈ trace, ¬ Stray s.1 s.2) →
        w.history = start.history ∧ w.coordinator.log.events = start.coordinator.log.events)) ∧
    ((∀ t ∈ start.tasks, t.activity.Knows p) → ∀ s ∈ trace, ¬ s.2.Overlooks p s.1.coordinator) ∧
    ∀ s ∈ trace, ∀ w', Step s.1 s.2 w' → s.2.Overlooks p s.1.coordinator →
      ∃ n, w'.cluster.node? p = some n ∧ n.active = false := by
  refine ⟨fun hseen => ?_, fun htasks => ?_, fun s _ w' hs hm => ?_⟩
  · have hmax := FailoverSettings.failures_pos hbefore.valid
    have hstart : Serves p start := ⟨hworks, hbefore.onePrimary, hbefore.owned⟩
    obtain ⟨hserves, hquiet, _⟩ := hrun.served hstart hmax hspares hseen
    refine ⟨hserves.works.normal, hserves.works.primary, hserves.works.node, fun hclean => ?_⟩
    exact ⟨(hquiet hclean).history, (hquiet hclean).events⟩
  · obtain ⟨n, hn, _⟩ := hworks.node
    exact (hrun.not_overlooks hbefore hn (fun s hmem => (hspares s hmem).stays) htasks).2
  · obtain ⟨n, hn, hoff, _⟩ := hm.silences.down hs
    exact ⟨n, hn, hoff⟩

/-- The other member keeps the round waiting and does not answer. -/
theorem a_working_primary_is_never_failed_over_in_a_slow_round :
    ∃ before start trace w, History before start ∧ start.cluster.Works "a" ∧ Run start trace w ∧
      (∀ s ∈ trace, s.2.Spares "a" start.coordinator.settings.thresholds) ∧
      (∀ t ∈ start.tasks, t.activity.Knows "a") ∧ (∀ s ∈ trace, ¬ Stray s.1 s.2) ∧
      trace.length = 1 ∧ (w.cluster.node? "b").map (·.active) = some false ∧
      w.state = .normal ∧ w.cluster.primary = some "a" ∧
      (∃ n, w.cluster.node? "a" = some n ∧ n.active = true ∧ n.failures = 0) ∧
      w.history = start.history ∧ w.coordinator.log.events = start.coordinator.log.events := by
  obtain ⟨before, h, _⟩ := System.play_history Coordinator.fresh_standard calm listening
  have hworks : (System.play calm (.initial .standard) listening).cluster.Works "a" :=
    ⟨by decide, by decide, _, rfl, by decide, by decide⟩
  have hknown : ∀ t ∈ (System.play calm (.initial .standard) listening).tasks,
      t.activity.Knows "a" := by
    intro t ht
    rw [List.mem_singleton.mp ht]
    exact ⟨_, List.mem_cons_self, rfl⟩
  have hanswered : Answered "a" (System.play calm (.initial .standard) listening).cluster.list
      [true, false] := by
    intro i n hn hid
    match i with
    | 0 => rfl
    | 1 =>
      cases hn
      exact absurd hid (by decide)
    | i + 2 => cases hn
  have hrun := Run.nil.snoc (Step.resume (System.play calm (.initial .standard) listening)
    (Moment.ofMillis 100000) [] [] 0 (.pinging _) [true, false] rfl)
  have hspares : ∀ s ∈ [] ++ [(System.play calm (.initial .standard) listening,
      lateRound listening .standard [true, false])], s.2.Spares "a" FailoverSettings.standard.thresholds := by
    intro s hs
    rw [List.mem_singleton.mp hs]
    exact hanswered
  have hclean : ∀ s ∈ [] ++ [(System.play calm (.initial .standard) listening,
      lateRound listening .standard [true, false])], ¬ Stray s.1 s.2 := by
    rintro s hs ⟨_, _, a, _, hm, hends, _⟩
    rw [List.mem_singleton.mp hs] at hm
    cases hm
    cases hends
  obtain ⟨hkept, hnot, _⟩ := a_working_primary_is_never_failed_over h hworks hrun hspares
  obtain ⟨hstate, hprimary, hnode, hquiet⟩ := hkept (hnot hknown)
  exact ⟨before, _, _, _, h, hworks, hrun, hspares, hknown, hclean, rfl, by decide, hstate, hprimary,
    hnode, hquiet hclean⟩

/-- A round of pings is out when a primary joins. -/
def joining : List Cue :=
  [ .order ⟨0, false⟩ (.join { NodeSpec.blank with id := "s" })
  , .start ⟨0, false⟩ .heartbeatRound
  , .order (Moment.ofMillis 1000) (.join { NodeSpec.blank with id := "p", role := .primary }) ]

/-- The round takes longer than the primary may be silent, and a failover starts.
In the second run a recovery that was overtaken tells its end in the normal
state. -/
theorem a_primary_that_joins_during_a_round_is_failed_over :
    (∃ before start trace w, History before start ∧ start.cluster.Works "p" ∧ Run start trace w ∧
      (∀ s ∈ trace, s.2.Spares "p" start.coordinator.settings.thresholds) ∧
      (∀ s ∈ trace, ¬ Stray s.1 s.2) ∧ w.state = .failoverInProgress ∧
      (w.cluster.node? "p").map (·.active) = some false ∧
      w.history.length = start.history.length + 1) ∧
    ∃ before start trace w, History before start ∧ start.cluster.Works "b" ∧ Run start trace w ∧
      (∀ s ∈ trace, s.2.Spares "b" start.coordinator.settings.thresholds) ∧
      (∀ s ∈ trace, ¬ s.2.Overlooks "b" s.1.coordinator) ∧ w.state = .normal ∧
      w.history.length = start.history.length + 1 := by
  constructor
  · obtain ⟨before, h, _⟩ := System.play_history Coordinator.fresh_standard calm joining
    have hrun := Run.nil.snoc (Step.resume (System.play calm (.initial .standard) joining)
      (Moment.ofMillis 22000) [] [] 0 (.pinging _) [true] rfl)
    refine ⟨before, _, _, _, h, ⟨by decide, by decide, _, rfl, by decide, by decide⟩, hrun, ?_, ?_,
      by decide, by decide, by decide⟩
    · intro s hs
      rw [List.mem_singleton.mp hs]
      intro i n hn _
      match i with
      | 0 => rfl
      | i + 1 => cases hn
    · rintro s hs ⟨_, _, a, _, hm, hends, _⟩
      rw [List.mem_singleton.mp hs] at hm
      cases hm
      cases hends
  · obtain ⟨before, h, _⟩ := System.play_history Coordinator.fresh_standard calm (overtaken.take 12)
    have hrun := (System.play_run calm (System.play calm (.initial .standard) (overtaken.take 12))
      [.resume (Moment.ofMillis 300000) 0]).1
    refine ⟨before, _, _, _, h, ⟨by decide, by decide, _, rfl, by decide, by decide⟩, hrun, ?_, ?_,
      by decide, by decide⟩
    · intro s hs
      rw [List.mem_singleton.mp hs]
      trivial
    · intro s hs
      rw [List.mem_singleton.mp hs]
      exact id

end Failover
