import Failover.Admin.Handler
import Failover.Proofs.Audience
import Failover.Proofs.Causes
import Failover.Proofs.Refusals

-- What the status of an answer tells. A request that is refused has changed
-- nothing; a failure of the interface is a failover that has been lost; and
-- whoever has ordered a failover and reads a success has another primary.

namespace Failover

open Cluster (OnePrimary)
open Coordinator (Returns)

namespace Coordinator

/-- All that has happened is that a failover began and failed, and that the
cluster is degraded now. -/
structure Lost (c k : Coordinator) : Prop where
  before : c.cluster.state = .normal
  state : k.cluster.state = .degraded
  primary : k.cluster.primary = c.cluster.primary
  nodes : k.cluster.nodes = c.cluster.nodes
  told : ∃ (e e' : FailoverEvent) (between : EventLog),
    c.log.Took (some e) between ∧ between.Took (some e') k.log ∧
    e.type = .failoverInitiated ∧ e'.type = .failoverFailed

/-- Another member is the primary. -/
structure Won (c k : Coordinator) (id : String) : Prop where
  state : k.cluster.state = .failoverComplete
  primary : k.cluster.primary = some id
  other : c.cluster.primary ≠ some id
  member : c.cluster.contains id = true

variable {ok : (a : Activity) → a.Reply → Prop} {post : Coordinator → Answer → Prop}
  {c : Coordinator}

/-- A failover that an operator asks for is refused, or lost, or won. It is not
taken for a false alarm. -/
theorem returns_order (hone : OnePrimary c.cluster) {now : Moment} {reason : String}
    (hrefused : ∀ e, orderFailover now reason c = (c, .ends (.refused e)) → post c (.refused e))
    (hlost : ∀ f k, c.Lost k → post k (.outcome (.failed f)))
    (hwon : ∀ id k, c.Won k id → post k (.outcome (.promoted id c.cluster.primary))) :
    Returns ok post (orderFailover now reason c) := by
  have hjudged : Judged c ((Operation.trigger reason).Barred c.cluster) (orderFailover now reason c) :=
    orderFailover_judged
  generalize hr : orderFailover now reason c = r at hjudged
  cases hjudged with
  | refused _ e => exact .ends (hrefused e hr)
  | granted hfree _ =>
    simp only [Operation.Barred, not_or, not_not] at hfree
    obtain ⟨hsome, hs⟩ := hfree
    have hmembers : ¬ c.cluster.nodes.isEmpty = true := by
      simpa [Table.isEmpty, Cluster.list, Table.values] using hsome
    rw [orderFailover, if_neg hmembers] at hr
    obtain ⟨e, htype, _, _, hannounces⟩ := beginFailover_announces hs now (.order reason) .order
    rw [hr] at hannounces
    refine hannounces.returns fun now' c' hlogged => ?_
    have hk : OnePrimary c'.cluster := by
      rw [hlogged.cluster]
      exact hone.restate _ _
    refine returns_attempt hk.named (by rw [hlogged.cluster]) rfl ?_ ?_
    · intro f e' k htype' hlogged'
      refine hlost f k ⟨hs, ?_, ?_, ?_, e, e', c'.log, hlogged.log, hlogged'.log, htype, htype'⟩
      all_goals rw [hlogged'.cluster, hlogged.cluster]
    · intro n hn he e' k _ _ hlogged'
      have hother : c.cluster.primary ≠ some n.id := by
        simp only [Node.isEligible, Bool.and_eq_true, bne_iff_ne] at he
        exact he.2
      have hbefore : c'.cluster.primaryBefore n.id = c.cluster.primary := by
        rw [hlogged.cluster]
        unfold Cluster.primaryBefore
        cases hp : c.cluster.primary with
        | none => rfl
        | some p =>
          have hne : p ≠ n.id := fun heq => hother (by rw [hp, heq])
          simp [hne]
      rw [hbefore]
      rw [hlogged.cluster] at hn
      refine hwon n.id k ⟨?_, ?_, hother, Cluster.contains_iff.mpr ⟨n, hone.node?_id hn⟩⟩
      all_goals rw [hlogged'.cluster]
      rfl

/-- What stands in the way of a promotion is no failure of the interface. -/
theorem promotionFault?_status {id : String} {e : FailoverError} (h : c.promotionFault? id = some e) :
    400 ≤ Admin.statusOf e ∧ Admin.statusOf e < 500 := by
  unfold promotionFault? at h
  repeat' split at h
  all_goals cases h
  all_goals simp [Admin.statusOf]

/-- An operator is not told of a failure of the interface when an operation is
refused. -/
theorem refusal_status {now : Moment} {op : Operation} {e : FailoverError}
    (h : (firstSection now op c).2 = .ends (.refused e)) :
    400 ≤ Admin.statusOf e ∧ Admin.statusOf e < 500 := by
  cases op with
  | heartbeatRound | healthSweep => cases h
  | watch => exact absurd ⟨e, h⟩ (Progress.not_refused watch_granted)
  | trigger reason =>
    simp only [firstSection, orderFailover] at h
    split at h
    · cases h
      simp [Admin.statusOf]
    · unfold beginFailover at h
      split at h
      · exact absurd ⟨e, h⟩ (Progress.not_refused (announce_granted _ _ _))
      · cases h
        simp [Admin.statusOf]
  | promote id =>
    simp only [firstSection, promoteNode] at h
    split at h
    · rename_i hfault
      cases h
      exact promotionFault?_status hfault
    · exact absurd ⟨e, h⟩ (Progress.not_refused (announce_granted _ _ _))
  | acknowledge =>
    simp only [firstSection, acknowledge] at h
    split at h
    · cases h
    · split at h
      · cases h
        simp [Admin.statusOf]
      · exact absurd ⟨e, h⟩ (Progress.not_refused (announce_granted _ _ _))
  | remove id =>
    simp only [firstSection, removeNode] at h
    split at h
    · rename_i hr
      cases h
      cases Cluster.remove_error hr
      simp [Admin.statusOf]
    · split at h
      · exact absurd ⟨e, h⟩ (Progress.not_refused (beginFailover_granted (Or.inl (by simp))))
      · cases h

/-- What is not refused at the start is not refused at all. -/
theorem Returns.granted {r : Coordinator × Progress} (h : Returns ok (fun _ _ => True) r)
    (hr : r.2.granted = true) (hpost : ∀ k answer, answer.granted = true → post k answer) :
    Returns ok post r := by
  induction h with
  | ends => exact .ends (hpost _ _ hr)
  | waits _ ih =>
    exact .waits fun now reply hok => ih now reply hok (nextSection_granted now _ reply _ hr)

end Coordinator

/-! ## Requests -/

namespace Admin

/-- The request asks for a change: its path leads to an action, and it has the
method of the action. -/
def Request.Acts (r : Request) : Prop :=
  ∃ route, Route.ofPath? r.path = some route ∧ r.method ∈ route.methods ∧
    (r.method = "POST" ∨ r.method = "DELETE")

/-- However long the request takes and whatever answers its waits, it is
answered, and this holds of the coordinator and of the answer then. -/
def Settles (r : Request) (post : Coordinator → Response → Prop) : Coordinator × Handling → Prop
  | (c, .respond answer) => ∀ took, post (count r answer.status took c) (sent r answer)
  | (c, .operate op finish) => ∀ now, Returns (fun _ _ => True)
      (fun k answer => ∀ took, post (count r (finish k answer).status took k) (sent r (finish k answer)))
      (Coordinator.firstSection now op c)

/-- The status of the answer tells what has become of the request. -/
structure Truthful (r : Request) (c k : Coordinator) (answer : Response) : Prop where
  /-- What is refused has changed neither the cluster nor the events nor the
  statistics. -/
  refused : 400 ≤ answer.status → answer.status < 500 → k.cluster = c.cluster ∧ k.log = c.log
  failed : r.Acts → 500 ≤ answer.status → Route.ofPath? r.path = some .trigger ∧ c.Lost k
  promoted : r.Acts → Route.ofPath? r.path = some .trigger → answer.status = 200 →
    ∃ id, c.Won k id ∧ answer = actionResponse k "promoted" c.cluster.primary

variable {r : Request} {t : Clock} {c k : Coordinator} {answer : Response}

theorem count_same (r : Request) (status : Nat) (took : Span) (c : Coordinator) :
    (count r status took c).cluster = c.cluster ∧ (count r status took c).log = c.log := by
  unfold count
  split <;> exact ⟨rfl, rfl⟩

@[simp] theorem sent_status (r : Request) (answer : Response) :
    (sent r answer).status = answer.status := by
  unfold sent
  split <;> rfl

/-- What a request leaves behind does not depend on how it is counted and
sent. -/
theorem Truthful.of_status (hrefused : 400 ≤ answer.status → answer.status < 500 →
      k.cluster = c.cluster ∧ k.log = c.log)
    (hfailed : r.Acts → answer.status < 500)
    (hpromoted : r.Acts → Route.ofPath? r.path = some .trigger → answer.status ≠ 200) (took : Span) :
    Truthful r c (count r answer.status took k) (sent r answer) := by
  obtain ⟨hcluster, hlog⟩ := count_same r answer.status took k
  refine ⟨?_, ?_, ?_⟩
  · rw [sent_status, hcluster, hlog]
    exact hrefused
  · intro hacts h
    rw [sent_status] at h
    exact absurd h (Nat.not_le.mpr (hfailed hacts))
  · intro hacts hroute h
    rw [sent_status] at h
    exact absurd h (hpromoted hacts hroute)

/-- A request that is refused. -/
theorem truthful_refused (answer : Response) (h : 400 ≤ answer.status) (h' : answer.status < 500)
    (took : Span) : Truthful r c (count r answer.status took c) (sent r answer) :=
  .of_status (fun _ _ => ⟨rfl, rfl⟩) (fun _ => h') (fun _ _ heq => by omega) took

/-- A request that is granted, and is no order for a failover. -/
theorem truthful_granted (h : answer.status < 400) (hroute : Route.ofPath? r.path ≠ some .trigger)
    (took : Span) : Truthful r c (count r answer.status took k) (sent r answer) :=
  .of_status (fun _ _ => by omega) (fun _ => by omega) (fun _ heq => absurd heq hroute) took

/-- A request that asks for no change. -/
theorem truthful_asked (hasks : ¬ r.Acts) (hcluster : k.cluster = c.cluster) (hlog : k.log = c.log)
    (took : Span) : Truthful r c (count r answer.status took k) (sent r answer) :=
  .of_status (fun _ _ => ⟨hcluster, hlog⟩) (fun h => absurd h hasks) (fun h => absurd h hasks) took

theorem not_acts (h : r.method ≠ "POST") (h' : r.method ≠ "DELETE") : ¬ r.Acts := by
  rintro ⟨_, _, _, hpost | hdelete⟩
  · exact h hpost
  · exact h' hdelete

theorem not_acts_of_asking (h : r.method = "GET" ∨ r.method = "HEAD") : ¬ r.Acts := by
  rcases h with h | h <;> exact not_acts (by rw [h]; decide) (by rw [h]; decide)

/-! ## Actions that end at once -/

/-- A body that cannot be read is the fault of whoever has sent it. -/
theorem truthful_unread {α : Type} {read : Decoder α} (h : readBody r read = .error answer)
    (took : Span) : Truthful r c (count r answer.status took c) (sent r answer) := by
  have hstatus : 400 ≤ answer.status ∧ answer.status < 500 := by
    unfold readBody at h
    dsimp only at h
    repeat' split at h
    all_goals cases h
    all_goals decide
  exact truthful_refused answer hstatus.1 hstatus.2 took

@[simp] theorem failure_status (e : FailoverError) : (failure e).status = statusOf e := rfl

theorem nodeResponse_status {id : String} (h : c.cluster.contains id = true) (status : Nat) :
    (nodeResponse c id status).status = status := by
  obtain ⟨n, hn⟩ := Cluster.contains_iff.mp h
  rw [nodeResponse, hn]
  rfl

theorem addNode_settles (hroute : Route.ofPath? r.path ≠ some .trigger) (spec : NodeSpec) :
    Settles r (Truthful r c) (answered (addNode spec t c)) := by
  unfold addNode
  split
  · exact truthful_refused (.text _ 400) (by decide) (by decide)
  · unfold Coordinator.addNode
    cases ha : c.cluster.add (spec.toNode t.now) with
    | error e =>
      cases Cluster.add_error ha
      exact truthful_refused (failure _) (by simp [statusOf]) (by simp [statusOf])
    | ok k =>
      have hcontains : k.contains spec.id = true := Cluster.contains_add ha
      let c' : Coordinator := Coordinator.updateLevels { c with cluster := k }
      have hstatus : (nodeResponse c' spec.id 201).status = 201 := nodeResponse_status hcontains 201
      exact truthful_granted (by rw [hstatus]; decide) hroute

theorem setMaintenance_settles (hroute : Route.ofPath? r.path ≠ some .trigger) (id : String)
    (enabled : Bool) : Settles r (Truthful r c) (answered (setMaintenance id enabled c)) := by
  unfold setMaintenance Coordinator.setMaintenance
  cases hm : c.cluster.setMaintenance id enabled with
  | error e =>
    cases Cluster.setMaintenance_error hm
    exact truthful_refused (failure _) (by simp [statusOf]) (by simp [statusOf])
  | ok k =>
    have hcontains : c.cluster.contains id = true := by
      by_contra hnot
      rw [Bool.not_eq_true] at hnot
      obtain ⟨e, he⟩ := (Cluster.setMaintenance_refused_iff enabled).mpr hnot
      rw [hm] at he
      cases he
    rw [← (Cluster.sameParts_setMaintenance hm).contains] at hcontains
    have hstatus : (nodeResponse { c with cluster := k } id 200).status = 200 :=
      nodeResponse_status hcontains 200
    exact truthful_granted (by rw [hstatus]; decide) hroute

/-! ## Actions that take their time -/

/-- An operation that nobody has ordered a failover with. -/
theorem operate_settles {op : Operation} {finish : Coordinator → Answer → Response}
    (hroute : Route.ofPath? r.path ≠ some .trigger)
    (hrefused : ∀ k e, finish k (.refused e) = failure e)
    (hgranted : ∀ k answer, answer.granted = true → (finish k answer).status = 200) :
    Settles r (Truthful r c) (c, .operate op finish) := by
  intro now
  have hjudged := Coordinator.firstSection_judged now op c
  have hends := Coordinator.ends_firstSection now op c
  have hstatus : ∀ e, (Coordinator.firstSection now op c).2 = .ends (.refused e) →
      400 ≤ statusOf e ∧ statusOf e < 500 := fun _ => Coordinator.refusal_status
  generalize Coordinator.firstSection now op c = section' at hjudged hends hstatus ⊢
  cases hjudged with
  | refused _ e =>
    obtain ⟨h, h'⟩ := hstatus e rfl
    refine .ends fun took => ?_
    rw [hrefused]
    exact truthful_refused _ h h' took
  | granted _ hr =>
    refine hends.granted hr fun k answer hanswer took => truthful_granted ?_ hroute took
    rw [hgranted k answer hanswer]
    decide

/-- What became of a failover does not depend on how the request is counted. -/
theorem lost_count (h : c.Lost k) (status : Nat) (took : Span) : c.Lost (count r status took k) := by
  unfold count
  split
  · exact h
  · exact ⟨h.before, h.state, h.primary, h.nodes, h.told⟩

theorem won_count {id : String} (h : c.Won k id) (status : Nat) (took : Span) :
    c.Won (count r status took k) id := by
  unfold count
  split
  · exact h
  · exact ⟨h.state, h.primary, h.other, h.member⟩

theorem failure_lost (f : FailoverFailure) : 500 ≤ (failure f.toError).status := by
  cases f <;> simp [FailoverFailure.toError, statusOf]

/-- Whoever orders a failover reads that it has been refused, that it has failed,
or who is the primary now. -/
theorem trigger_settles (hone : OnePrimary c.cluster) (hroute : Route.ofPath? r.path = some .trigger)
    (hmethod : r.method = "POST") (reason : Option String) :
    Settles r (Truthful r c) (c, .operate (triggerOperation reason) afterTrigger) := by
  intro now
  refine Coordinator.returns_order hone ?_ ?_ ?_
  · intro e he took
    have hrefused : (Coordinator.firstSection now (triggerOperation reason) c).2 = .ends (.refused e) :=
      congrArg Prod.snd he
    obtain ⟨h, h'⟩ := Coordinator.refusal_status hrefused
    exact truthful_refused (failure e) h h' took
  · intro f k hlost took
    have hfailed := failure_lost f
    refine ⟨?_, ?_, ?_⟩ <;> rw [sent_status]
    · exact fun _ h => absurd hfailed (Nat.not_le.mpr h)
    · exact fun _ _ => ⟨hroute, lost_count hlost _ took⟩
    · intro _ _ h
      rw [afterTrigger] at h
      omega
  · intro id k hwon took
    refine ⟨?_, ?_, ?_⟩
    · intro h _
      rw [sent_status] at h
      exact absurd (show 400 ≤ 200 from h) (by decide)
    · intro _ h
      rw [sent_status] at h
      exact absurd (show 500 ≤ 200 from h) (by decide)
    · intro _ _ _
      refine ⟨id, won_count hwon _ took, ?_⟩
      have hbody : sent r (actionResponse k "promoted" c.cluster.primary) =
          actionResponse k "promoted" c.cluster.primary := by
        rw [sent, hmethod]
        rfl
      show sent r (actionResponse k "promoted" c.cluster.primary) = _
      rw [hbody, actionResponse, actionResponse, (count_same r _ took k).1]

/-! ## All requests -/

theorem dispatch_settles {route : Route} (hone : OnePrimary c.cluster)
    (hroute : Route.ofPath? r.path = some route) (hmethod : r.method ∈ route.methods) :
    Settles r (Truthful r c) (dispatch route r t c) := by
  have hplain : route ≠ .trigger → Route.ofPath? r.path ≠ some .trigger := by
    intro hne heq
    rw [hroute, Option.some.injEq] at heq
    exact hne heq
  unfold dispatch
  split
  · exact truthful_refused (.rejected 400) (by decide) (by decide)
  · rename_i id _
    cases route with
    | metrics | health | status =>
      exact truthful_asked (not_acts_of_asking (by simpa [Route.methods] using hmethod)) rfl rfl
    | events =>
      have hasks := not_acts_of_asking (r := r) (by simpa [Route.methods] using hmethod)
      dsimp only
      split <;> exact truthful_asked hasks rfl rfl
    | nodes =>
      dsimp only
      split
      · split
        · exact addNode_settles (hplain nofun) _
        · rename_i hread
          exact truthful_unread hread
      · rename_i hpost
        exact truthful_asked (not_acts_of_asking (by simp_all [Route.methods])) rfl rfl
    | node _ =>
      dsimp only
      split
      · refine operate_settles (hplain nofun) (fun _ _ => rfl) fun k answer hanswer => ?_
        cases answer <;> first | rfl | cases hanswer
      · rename_i hdelete
        exact truthful_asked (not_acts_of_asking (by simp_all [Route.methods])) rfl rfl
    | maintenance _ =>
      dsimp only
      split
      · exact setMaintenance_settles (hplain nofun) id _
      · rename_i hread
        exact truthful_unread hread
    | trigger =>
      have hpost : r.method = "POST" := by simpa [Route.methods] using hmethod
      dsimp only
      split
      · exact trigger_settles hone hroute hpost _
      · rename_i hread
        exact truthful_unread hread
    | promote _ =>
      refine operate_settles (hplain nofun) (fun _ _ => rfl) fun k answer hanswer => ?_
      cases answer <;> first | rfl | cases hanswer
    | acknowledge =>
      refine operate_settles (hplain nofun) (fun _ _ => rfl) fun k answer hanswer => ?_
      cases answer <;> first | rfl | cases hanswer

theorem handle_settles (hone : OnePrimary c.cluster) (r : Request) (t : Clock) :
    Settles r (Truthful r c) (handle r t c) := by
  unfold handle
  split
  · rename_i hpreflight
    have hmethod : r.method = "OPTIONS" := beq_iff_eq.mp hpreflight
    exact truthful_asked (not_acts (by rw [hmethod]; decide) (by rw [hmethod]; decide)) rfl rfl
  · cases hroute : Route.ofPath? r.path with
    | none => exact truthful_refused (.bare 404) (by decide) (by decide)
    | some route =>
      dsimp only
      split
      · rename_i hmethod
        exact dispatch_settles hone hroute (List.contains_iff_mem.mp hmethod)
      · exact truthful_refused (.bare 405) (by decide) (by decide)

/-- However long a request takes and whatever it meets with on its way, it is
answered, and the status tells the truth. After a refusal the cluster, the events
and the statistics are what they were. Only an order for a failover meets with a
failure: the failover has begun and failed, and the cluster is degraded with the
primary and the nodes it had. An order that succeeds names the new primary; it is
never called off and never skipped. -/
theorem the_status_tells_what_became_of_a_request {trace : List (System × Move)} {w : System}
    (h : History trace w) (r : Request) (t : Clock) :
    Settles r (Truthful r w.coordinator) (handle r t w.coordinator) ∧
      ∀ now reason, Returns (fun _ _ => True)
        (fun _ answer => answer ≠ .outcome .cancelled ∧ ∀ s, answer ≠ .outcome (.skipped s))
        (Coordinator.firstSection now (triggerOperation reason) w.coordinator) := by
  refine ⟨handle_settles h.onePrimary r t, fun now reason => ?_⟩
  exact Coordinator.returns_order h.onePrimary (fun _ _ => ⟨nofun, nofun⟩) (fun _ _ _ => ⟨nofun, nofun⟩)
    fun _ _ _ => ⟨nofun, nofun⟩

/-- A failover is ordered where there are two nodes. -/
theorem the_status_tells_what_became_of_a_request_to_two_nodes :
    ∃ (trace : List (System × Move)) (w : System), History trace w ∧ w.tasks = [] ∧
      w.state = .normal ∧ w.cluster.nodes.names = ["a", "b"] ∧
      let r : Request := ⟨"POST", "/api/v1/failover/trigger", some "application/json", "\x7b\x7d"⟩
      let t : Clock := ⟨⟨0, false⟩, ⟨0, false⟩⟩
      Settles r (Truthful r w.coordinator) (handle r t w.coordinator) ∧
        ∀ now reason, Returns (fun _ _ => True)
          (fun _ answer => answer ≠ .outcome .cancelled ∧ ∀ s, answer ≠ .outcome (.skipped s))
          (Coordinator.firstSection now (triggerOperation reason) w.coordinator) := by
  obtain ⟨trace, h, _⟩ := System.play_history Coordinator.fresh_standard calm (listening.take 2)
  exact ⟨trace, _, h, by decide, by decide, by decide,
    the_status_tells_what_became_of_a_request h _ _⟩

end Admin

end Failover
