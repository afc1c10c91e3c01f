import Mathlib.Data.List.Induction
import Mathlib.Tactic.FieldSimp
import Mathlib.Tactic.Ring
import Failover.Proofs.Accounts
import Failover.Proofs.ExactNumbers
import Failover.Proofs.Promotions

-- How long failovers take, and the mean that is kept along the way. Only a
-- completed failover moves the mean, by the number of those that there have
-- been. In exact numbers that is the mean of all of them.

namespace Failover

/-! ## A mean from the mean before -/

/-- One more value moves the mean to that of all values. -/
theorem nextMean_rat (xs : List Rat) (x : Rat) :
    nextMean (xs.sum / xs.length) (xs.length + 1) x = (xs ++ [x]).sum / (xs ++ [x]).length := by
  unfold nextMean
  rw [Scalar.ofInt_rat, Scalar.one_rat]
  split
  · rename_i hfirst
    have hnil : xs.length = 0 := by
      have hle : ((xs.length + 1 : Nat) : Int) ≤ 1 := by exact_mod_cast hfirst
      omega
    rw [List.length_eq_zero_iff.mp hnil]
    simp
  · rename_i hlater
    have hne : (xs.length : Rat) ≠ 0 := by
      intro hzero
      apply hlater
      simp [hzero]
    have hne' : (xs.length : Rat) + 1 ≠ 0 := Nat.cast_add_one_ne_zero xs.length
    simp only [List.sum_append, List.sum_singleton, List.length_append, List.length_singleton]
    push_cast
    field_simp
    ring

/-! ## What a run says -/

/-- How long the failover took that a move completes, if it completes one. -/
def Move.took? (c : Coordinator) : Move → Option Span
  | resume now _ a reply => (a.chosen? reply).bind fun x =>
      if c.canPromote x.2.id then some (now.since x.1.started) else none
  | _ => none

/-- How long the completed failovers of a run took, in their order. -/
def durations (trace : List (System × Move)) : List Span :=
  trace.filterMap fun s => s.2.took? s.1.coordinator

/-- The times that are noted with the completed failovers. -/
def System.times (w : System) : List (Option Data) :=
  (w.history.filter fun e => e.type = .failoverCompleted).map (·.metadata.get? "failover_time_ms")

section

variable {α : Type} [Scalar α] (value : Span → α)

/-- The mean after a move: that before it, unless the move completes a
failover. Then it takes in the value of the duration, as the last of those that
the statistics have come to. -/
def meanNext (mean : α) (s : System × Move) : α :=
  match s.2.took? s.1.coordinator with
  | none => mean
  | some d => nextMean mean (s.1.stats.completed + 1) (value d)

/-- The mean that is kept along a run. -/
def meanAlong (trace : List (System × Move)) : α := trace.foldl (meanNext value) Scalar.zero

theorem meanAlong_snoc (trace : List (System × Move)) (s : System × Move) :
    meanAlong value (trace ++ [s]) = meanNext value (meanAlong value trace) s := by
  unfold meanAlong
  rw [List.foldl_append, List.foldl_cons, List.foldl_nil]

end

theorem durations_snoc (trace : List (System × Move)) (s : System × Move) :
    durations (trace ++ [s]) = durations trace ++ (s.2.took? s.1.coordinator).toList := by
  unfold durations
  rw [List.filterMap_append]
  cases h : s.2.took? s.1.coordinator <;> simp [h]

theorem meanAlong_of_no_durations {α : Type} [Scalar α] (value : Span → α)
    {trace : List (System × Move)} (h : durations trace = []) :
    meanAlong value trace = Scalar.zero := by
  induction trace using List.reverseRecOn with
  | nil => rfl
  | append_singleton trace s ih =>
    rw [durations_snoc, List.append_eq_nil_iff, Option.toList_eq_nil_iff] at h
    rw [meanAlong_snoc, ih h.1, meanNext, h.2]

/-! ## Sections that leave the mean alone -/

namespace Coordinator

/-- The mean duration of a completed failover, as it is reported. -/
def meanMs (c : Coordinator) : Float := c.log.stats.averageMs

variable (now : Moment) (c : Coordinator)

theorem announce_meanMs (e : FailoverEvent) (next : Continuation) :
    (announce e next c).1.meanMs = c.meanMs := by
  obtain ⟨a, heq, _⟩ := announce_waits e next c
  rw [heq]
  rfl

theorem close_meanMs (renewLevels : Bool) (answer : Answer) :
    (close renewLevels answer c).1.meanMs = c.meanMs := by
  unfold close
  split <;> rfl

theorem beginFailover_meanMs (trigger : Trigger) (purpose : Purpose) :
    (beginFailover now trigger purpose c).1.meanMs = c.meanMs := by
  unfold beginFailover
  split
  · exact announce_meanMs _ _ _
  · exact close_meanMs c _ _

theorem evaluate_meanMs : (evaluate now c).1.meanMs = c.meanMs := by
  unfold evaluate
  split
  · exact beginFailover_meanMs now c _ _
  · exact close_meanMs c _ _

theorem failAttempt_meanMs (a : Attempt) (f : FailoverFailure) :
    (failAttempt now a f c).1.meanMs = c.meanMs :=
  announce_meanMs _ _ _

theorem cancelAttempt_meanMs (a : Attempt) : (cancelAttempt now a c).1.meanMs = c.meanMs :=
  announce_meanMs _ _ _

theorem tryNext_meanMs (a : Attempt) (deadline : Moment) (ranked : List (Candidate × Node)) :
    (tryNext now a deadline ranked c).1.meanMs = c.meanMs := by
  cases ranked with
  | nil => exact failAttempt_meanMs now c a _
  | cons => rfl

theorem selectCandidate_meanMs (a : Attempt) : (selectCandidate now a c).1.meanMs = c.meanMs := by
  unfold selectCandidate
  split
  · exact cancelAttempt_meanMs now c a
  · exact failAttempt_meanMs now c a _
  · exact tryNext_meanMs now c a _ _

theorem settle_meanMs : (settle now c).1.meanMs = c.meanMs := by
  unfold settle
  dsimp only
  split
  · exact announce_meanMs _ _ _
  · exact close_meanMs c _ _

theorem beginRecovery_meanMs (id : String) : (beginRecovery now id c).1.meanMs = c.meanMs := by
  unfold beginRecovery
  dsimp only
  split
  · exact announce_meanMs _ _ _
  · exact close_meanMs c _ _

theorem checkRecovery_meanMs : (checkRecovery now c).1.meanMs = c.meanMs := by
  unfold checkRecovery
  repeat' split
  · exact close_meanMs c _ _
  · exact close_meanMs c _ _
  · exact beginRecovery_meanMs now c _
  · exact close_meanMs c _ _
  · exact settle_meanMs now c

theorem promoteNode_meanMs (id : String) : (promoteNode now id c).1.meanMs = c.meanMs := by
  unfold promoteNode
  split
  · exact close_meanMs c _ _
  · exact announce_meanMs _ _ _

theorem acknowledge_meanMs : (acknowledge now c).1.meanMs = c.meanMs := by
  unfold acknowledge
  dsimp only
  repeat' split
  · exact close_meanMs c _ _
  · exact close_meanMs c _ _
  · exact announce_meanMs _ _ _

theorem orderFailover_meanMs (reason : String) : (orderFailover now reason c).1.meanMs = c.meanMs := by
  unfold orderFailover
  split
  · exact close_meanMs c _ _
  · exact beginFailover_meanMs now c _ _

theorem removeNode_meanMs (id : String) : (removeNode now id c).1.meanMs = c.meanMs := by
  unfold removeNode
  split
  · exact close_meanMs c _ _
  · dsimp only
    split
    · exact beginFailover_meanMs now _ _ _
    · exact close_meanMs _ _ _

theorem afterPings_meanMs (targets : List Node) (answers : List Bool) :
    (afterPings now targets answers c).1.meanMs = c.meanMs := by
  unfold afterPings
  dsimp only
  repeat' split
  · exact beginFailover_meanMs now _ _ _
  · exact close_meanMs _ _ _
  · exact close_meanMs _ _ _

theorem watch_meanMs : (watch now c).1.meanMs = c.meanMs := by
  unfold watch
  repeat' split
  · exact evaluate_meanMs now c
  · exact checkRecovery_meanMs now c
  · exact close_meanMs c _ _

theorem firstSection_meanMs (op : Operation) : (firstSection now op c).1.meanMs = c.meanMs := by
  cases op with
  | heartbeatRound | healthSweep => rfl
  | watch => exact watch_meanMs now c
  | trigger reason => exact orderFailover_meanMs now c reason
  | promote id => exact promoteNode_meanMs now c id
  | acknowledge => exact acknowledge_meanMs now c
  | remove id => exact removeNode_meanMs now c id

theorem proceed_meanMs (next : Continuation) : (proceed now next c).1.meanMs = c.meanMs := by
  cases next with
  | select a => exact selectCandidate_meanMs now c a
  | rejoin id => exact announce_meanMs _ _ _
  | reopen => exact announce_meanMs _ _ _
  | close renewLevels answer => exact close_meanMs c _ _

theorem afterHook_meanMs (rest : List Hook) (failures : Nat) (next : Continuation)
    (succeeded : Bool) : (afterHook now rest failures next succeeded c).1.meanMs = c.meanMs := by
  have hcounted : ∀ n, (c.countHookFailures n).meanMs = c.meanMs := by
    intro n
    unfold countHookFailures
    split <;> rfl
  cases rest with
  | nil => exact (proceed_meanMs now _ next).trans (hcounted _)
  | cons => rfl

/-- Only the promotion of a candidate that has been reached can move it. -/
theorem nextSection_meanMs (a : Activity) (reply : a.Reply)
    (h : (a.chosen? reply).all fun x => !c.canPromote x.2.id) :
    (nextSection now a reply c).1.meanMs = c.meanMs := by
  cases a with
  | pinging targets => exact afterPings_meanMs now c targets reply
  | probing targets => exact evaluate_meanMs now _
  | announcing hook rest failures next => exact afterHook_meanMs now c rest failures next reply
  | ready next => exact proceed_meanMs now c next
  | connecting a deadline candidate node rest =>
    change (afterConnect now a deadline candidate rest reply c).1.meanMs = c.meanMs
    -- The deadline has come, the candidate has not answered, or it has.
    rcases reply with _ | _ | _
    · exact failAttempt_meanMs now c a _
    · exact tryNext_meanMs now c a deadline rest
    · have hlost : c.canPromote candidate.id = false := by simpa [Activity.chosen?] using h
      change (commitPromotion now a candidate c).1.meanMs = c.meanMs
      unfold commitPromotion
      rw [hlost]
      exact failAttempt_meanMs now c a _

theorem completionNotes_time (candidate : Candidate) (ms : Float) (previous : Option String) :
    (completionNotes candidate ms previous).get? "failover_time_ms" = some (Data.number ms) := by
  cases previous <;> simp [completionNotes, Table.ofList]

/-- A promotion takes its duration into the mean, after it has been counted,
and notes it with the event. -/
theorem commitPromotion_times {a : Attempt} {candidate : Candidate}
    (h : c.canPromote candidate.id = true) :
    ∃ e, c.log.Took (some e) (commitPromotion now a candidate c).1.log ∧
      e.type = .failoverCompleted ∧
      e.metadata.get? "failover_time_ms" = some (Data.number (now.since a.started).millis) ∧
      (commitPromotion now a candidate c).1.meanMs =
        nextMean c.meanMs (c.log.stats.completed + 1) (now.since a.started).millis := by
  unfold commitPromotion conclude announceLast
  rw [if_pos h]
  refine ⟨_, announce_took ?_ _, rfl, completionNotes_time _ _ _, announce_meanMs _ _ _⟩
  exact ⟨rfl, rfl, _, rfl, FailoverStats.counted_completed _⟩

end Coordinator

/-! ## One step -/

variable {trace : List (System × Move)} {w w' : System} {m : Move}

theorem Move.took?_eq_some {c : Coordinator} {d : Span} (h : m.took? c = some d) :
    ∃ now number a deadline candidate node rest,
      m = .resume now number (.connecting a deadline candidate node rest) (some true) ∧
        c.canPromote candidate.id = true ∧ d = now.since a.started := by
  cases m with
  | start | drop | order => cases h
  | resume now number activity reply =>
    simp only [took?, Activity.chosen?] at h
    split at h
    · rw [Option.bind_some, Option.ite_none_right_eq_some, Option.some.injEq] at h
      exact ⟨now, number, _, _, _, _, _, rfl, h.1, h.2.symm⟩
    · cases h

/-- A failover that is completed moves the mean by its duration, and the event
notes the same duration. -/
theorem Step.timed_of_took {d : Span} (h : Step w m w') (hd : m.took? w.coordinator = some d) :
    w'.stats.averageMs = nextMean w.stats.averageMs (w.stats.completed + 1) d.millis ∧
      ∃ e, Completes w w' e ∧
        e.metadata.get? "failover_time_ms" = some (Data.number d.millis) := by
  obtain ⟨now, number, a, deadline, candidate, node, rest, rfl, hcan, rfl⟩ := Move.took?_eq_some hd
  cases h with
  | resume =>
    obtain ⟨e, htook, htype, htime, hmean⟩ :=
      Coordinator.commitPromotion_times (a := a) now w.coordinator hcan
    exact ⟨hmean, e, ⟨congrArg (w.history ++ ·) htook.since, htype⟩, htime⟩

/-- A failover is completed with a candidate that can still be promoted. -/
theorem Turn.promotable {now : Moment} {limit : Span} {chosen : Option (Attempt × Candidate)}
    {c : Coordinator} {k : Cluster} {p q : Phase} {e : FailoverEvent}
    (h : Turn now limit chosen c.cluster p q (some e) k) (ht : e.type = .failoverCompleted) :
    ∃ x, chosen = some x ∧ c.canPromote x.2.id = true := by
  cases h with
  | commit hc hs hn ha => exact ⟨_, hc, Coordinator.canPromote_iff.mpr ⟨hs, _, hn, ha⟩⟩
  | begin _ _ he | fail he | cancel he | recover _ he | rejoin _ he | reopen he | release _ _ he
  | promote _ _ _ _ _ he => cases he.1.symm.trans ht

theorem Step.took_of_completes {e : FailoverEvent} (h : Step w m w') (hc : Completes w w' e) :
    ∃ d, m.took? w.coordinator = some d := by
  obtain ⟨_, _, _, hturn⟩ := h.turn hc.1
  obtain ⟨x, hchosen, hcan⟩ := hturn.promotable hc.2
  cases m with
  | start | drop | order => cases hchosen
  | resume now number activity reply =>
    refine ⟨now.since x.1.started, ?_⟩
    change (Move.chosen? (.resume now number activity reply)).bind _ = _
    rw [hchosen, Option.bind_some, if_pos hcan]

/-- No other step moves the mean. -/
theorem Step.mean_of_untimed (h : Step w m w') (hd : m.took? w.coordinator = none) :
    w'.stats.averageMs = w.stats.averageMs := by
  cases h with
  | start now op => exact Coordinator.firstSection_meanMs now w.coordinator op
  | drop => rfl
  | order now o => exact congrArg (·.stats.averageMs) (order_obeyed now w.coordinator o).log
  | resume now before after number a reply =>
    refine Coordinator.nextSection_meanMs now w.coordinator a reply ?_
    cases hchosen : a.chosen? reply with
    | none => rfl
    | some x => simpa [Move.took?, hchosen] using hd

theorem Step.mean_next (h : Step w m w') :
    w'.stats.averageMs = meanNext Span.millis w.stats.averageMs (w, m) := by
  unfold meanNext
  cases hd : m.took? w.coordinator with
  | none => exact h.mean_of_untimed hd
  | some d => exact (h.timed_of_took hd).1

/-- The history grows by one event at most. -/
theorem Step.history_grows (h : Step w m w') :
    ∃ e : Option FailoverEvent, w'.history = w.history ++ e.toList := by
  rcases h.advanced_or_rested with ha | hrest
  · obtain ⟨_, e, _, _, hhistory, _⟩ := ha.turn
    exact ⟨e, hhistory⟩
  · exact ⟨none, by simpa using hrest.history⟩

theorem Step.times_next (h : Step w m w') :
    w'.times = w.times ++
      (m.took? w.coordinator).toList.map fun d => some (Data.number d.millis) := by
  cases hd : m.took? w.coordinator with
  | some d =>
    obtain ⟨-, e, ⟨hhistory, htype⟩, htime⟩ := h.timed_of_took hd
    simp [System.times, hhistory, htype, htime]
  | none =>
    obtain ⟨e, hhistory⟩ := h.history_grows
    cases e with
    | none => simp [System.times, hhistory]
    | some e =>
      have htype : e.type ≠ .failoverCompleted := by
        intro htype
        obtain ⟨d, hd'⟩ := h.took_of_completes ⟨hhistory, htype⟩
        rw [hd] at hd'
        cases hd'
      simp [System.times, hhistory, htype]

/-! ## A whole run -/

theorem History.mean_along (h : History trace w) :
    w.stats.averageMs = meanAlong Span.millis trace := by
  obtain ⟨c, hc, hrun⟩ := h
  induction hrun with
  | nil =>
    have hzero : (System.initial c).stats = .zero := hc.blank.2.2.2.2
    rw [hzero]
    rfl
  | snoc _ hs ih => rw [hs.mean_next, meanAlong_snoc, ih]

theorem History.times (h : History trace w) :
    w.times = (durations trace).map fun d => some (Data.number d.millis) := by
  obtain ⟨c, hc, hrun⟩ := h
  induction hrun with
  | nil => rfl
  | snoc _ hs ih => rw [hs.times_next, durations_snoc, List.map_append, ih]

theorem History.length_durations (h : History trace w) :
    (durations trace).length = w.stats.completed := by
  have hlength := congrArg List.length h.times
  rw [System.times, List.length_map, List.length_map, ← List.countP_eq_length_filter] at hlength
  rw [← hlength, ← h.balanced.counted .failoverCompleted _ rfl]
  rfl

/-- In exact numbers the mean along a run is that of all durations, however a
duration is read as a number. -/
theorem History.mean_exact (h : History trace w) (value : Span → Rat) :
    meanAlong value trace = ((durations trace).map value).sum / (durations trace).length := by
  obtain ⟨c, hc, hrun⟩ := h
  induction hrun with
  | nil => simp [meanAlong, durations]
  | @snoc trace w w' m hrun hs ih =>
    -- The counter that the step finds is the number of durations so far.
    have hcount := History.length_durations ⟨c, hc, hrun⟩
    rw [meanAlong_snoc, durations_snoc, ih]
    unfold meanNext
    cases hd : m.took? w.coordinator with
    | none => simp
    | some d =>
      have hnext := nextMean_rat ((durations trace).map value) (value d)
      rw [List.length_map] at hnext
      simpa [hd, ← hcount] using hnext

/-- What is reported is the mean that is kept along the run, from the times that
are noted with the completed failovers. In exact numbers, however a duration is
read as one, it is the mean of all of them, and zero when there are none. No
step moves it that does not complete a failover. -/
theorem the_reported_time_is_the_mean (h : History trace w) :
    w.stats.averageMs = meanAlong Span.millis trace ∧
    w.times = (durations trace).map (fun d => some (Data.number d.millis)) ∧
    (durations trace).length = w.stats.completed ∧
    (w.stats.completed = 0 → w.stats.averageMs = 0.0) ∧
    (∀ value : Span → Rat, meanAlong value trace =
      if w.stats.completed = 0 then 0
      else ((durations trace).map value).sum / w.stats.completed) ∧
    ∀ m w', Step w m w' → (¬ ∃ e, Completes w w' e) →
      w'.stats.averageMs = w.stats.averageMs ∧
        ∀ value : Span → Rat, meanAlong value (trace ++ [(w, m)]) = meanAlong value trace := by
  have hlength := h.length_durations
  refine ⟨h.mean_along, h.times, hlength, ?_, ?_, ?_⟩
  · intro hnone
    rw [hnone, List.length_eq_zero_iff] at hlength
    rw [h.mean_along, meanAlong_of_no_durations _ hlength]
    rfl
  · intro value
    rw [h.mean_exact value, hlength]
    split
    · rename_i hnone
      rw [hnone, Nat.cast_zero, div_zero]
    · rfl
  · intro m w' hs hnot
    have hd : m.took? w.coordinator = none := by
      by_contra hsome
      obtain ⟨d, hd⟩ := Option.ne_none_iff_exists'.mp hsome
      obtain ⟨-, e, hc, -⟩ := hs.timed_of_took hd
      exact hnot ⟨e, hc⟩
    refine ⟨hs.mean_of_untimed hd, fun value => ?_⟩
    rw [meanAlong_snoc, meanNext, hd]

/-- Two failovers, of two seconds and of one. -/
def twoFailovers : List Cue :=
  let second (n : Nat) : Moment := .ofMillis (1000 * n)
  [ .order (second 0) (.register (Node.well "a" .primary))
  , .order (second 0) (.register (Node.well "b" .secondary))
  , .start (second 0) (.trigger "drill"), .resume (second 1) 0, .resume (second 2) 0
  , .resume (second 2) 0
  , .start (second 3) .acknowledge, .resume (second 3) 0
  , .start (second 4) (.trigger "drill"), .resume (second 4) 0, .resume (second 5) 0 ]

theorem the_reported_time_is_the_mean_of_two :
    ∃ trace w, History trace w ∧ w.stats.completed = 2 ∧
      durations trace = [2000000000, 1000000000] ∧ w.stats.averageMs = 1500.0 ∧
      w.times = [some (.float 2000.0), some (.float 1000.0)] ∧
      meanAlong (fun d => (d : Rat) / 1000000) trace = 1500 := by
  have h : History ((System.initial .standard).moves calm twoFailovers)
      ((System.initial .standard).play calm twoFailovers) :=
    ⟨_, Coordinator.fresh_standard, (System.play_run calm _ twoFailovers).1⟩
  have hdurations : durations ((System.initial .standard).moves calm twoFailovers) =
      [2000000000, 1000000000] := by decide
  obtain ⟨-, htimes, hlength, -, hexact, -⟩ := the_reported_time_is_the_mean h
  have htwo := hlength.symm.trans (congrArg List.length hdurations)
  refine ⟨_, _, h, htwo, hdurations, by decide +kernel, ?_, ?_⟩
  · rw [htimes, hdurations]
    rfl
  · rw [hexact, htwo, hdurations]
    norm_num

end Failover
