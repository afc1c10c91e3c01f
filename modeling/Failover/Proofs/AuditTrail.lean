import Failover.Proofs.Transitions

-- The events as a record of the run: whether each goes on from where the one
-- before has left off, and whether the last one tells where the cluster is.

namespace Failover

/-! ## Chains of events -/

/-- The events lead from one state to another, each from where the one before
has led. -/
def Linked : ClusterState → List FailoverEvent → ClusterState → Prop
  | first, [], last => first = last
  | first, e :: rest, last => e.oldState = first ∧ Linked e.newState rest last

instance decidableLinked : (first : ClusterState) → (es : List FailoverEvent) →
    (last : ClusterState) → Decidable (Linked first es last)
  | first, [], last => inferInstanceAs (Decidable (first = last))
  | first, e :: rest, last =>
    have := decidableLinked e.newState rest last
    inferInstanceAs (Decidable (e.oldState = first ∧ Linked e.newState rest last))

theorem linked_append {first last : ClusterState} {es fs : List FailoverEvent} :
    Linked first (es ++ fs) last ↔ ∃ s, Linked first es s ∧ Linked s fs last := by
  induction es generalizing first with
  | nil => simp [Linked]
  | cons e rest ih =>
    simp only [List.cons_append, Linked, ih]
    constructor
    · rintro ⟨he, s, hrest, hfs⟩
      exact ⟨s, ⟨he, hrest⟩, hfs⟩
    · rintro ⟨s, ⟨he, hrest⟩, hfs⟩
      exact ⟨he, s, hrest, hfs⟩

/-- A chain leads to one state. -/
theorem Linked.unique {first s s' : ClusterState} {es : List FailoverEvent}
    (h : Linked first es s) (h' : Linked first es s') : s = s' := by
  induction es generalizing first with
  | nil => exact h.symm.trans h'
  | cons e rest ih => exact ih h.2 h'.2

theorem Recorded.linked {before after : ClusterState} {e : Option FailoverEvent}
    (h : Recorded before after e) : Linked before e.toList after := by
  cases e with
  | none => exact h.symm
  | some e => exact h

/-! ## The log keeps the end of the history -/

theorem EventLog.length_lastOf {α : Type} (n : Nat) (xs : List α) :
    (lastOf n xs).length = min n xs.length := by
  unfold lastOf
  rw [List.length_drop]
  omega

/-- One more comes in, and the first of as many as there may be gives way. -/
theorem EventLog.lastOf_snoc {α : Type} {n : Nat} (hn : 0 < n) (xs : List α) (x : α) :
    lastOf n (xs ++ [x]) =
      (if (lastOf n xs).length = n then (lastOf n xs).tail else lastOf n xs) ++ [x] := by
  rw [length_lastOf]
  unfold lastOf
  rw [List.length_append, List.length_singleton, List.drop_append_of_le_length (by omega)]
  by_cases hfull : n ≤ xs.length
  · have hone : xs.length + 1 - n = xs.length - n + 1 := by omega
    rw [if_pos (Nat.min_eq_left hfull), List.tail_drop, hone]
  · have hnone : xs.length + 1 - n = 0 := by omega
    have hnone' : xs.length - n = 0 := by omega
    rw [if_neg (by omega), hnone, hnone']

/-- How many events there were, and the last of them. -/
def Kept (log : EventLog) (history : List FailoverEvent) : Prop :=
  log.appended = history.length ∧ log.events = EventLog.lastOf log.capacity history

theorem Kept.append {log : EventLog} {history : List FailoverEvent} (h : Kept log history)
    (e : FailoverEvent) : Kept (log.append e) (history ++ [e]) := by
  refine ⟨by simp [EventLog.append, h.1], ?_⟩
  simp only [EventLog.append, EventLog.staying, h.2]
  exact (EventLog.lastOf_snoc log.capacity_pos history e).symm

theorem Kept.took {log log' : EventLog} {history : List FailoverEvent}
    {e : Option FailoverEvent} (h : Kept log history) (ht : log.Took e log') :
    Kept log' (history ++ e.toList) := by
  obtain ⟨stats, rfl, _⟩ := ht
  cases e with
  | none => simpa [Kept] using h
  | some e => exact h.append e

theorem Step.kept {w w' : System} {m : Move} (h : Step w m w')
    (hw : Kept w.coordinator.log w.history) : Kept w'.coordinator.log w'.history := by
  rcases h.advanced_or_rested with ha | hrest
  · obtain ⟨_, e, q, htook, hhistory, _⟩ := ha.turn
    rw [hhistory]
    exact hw.took htook
  · rw [hrest.log, hrest.history]
    exact hw

theorem History.kept {trace : List (System × Move)} {w : System} (h : History trace w) :
    Kept w.coordinator.log w.history := by
  refine h.holds (fun c hc => ?_) fun w m w' hw hs => hs.kept hw
  obtain ⟨_, _, hevents, happended, _⟩ := hc.blank
  exact ⟨happended, by simp [System.initial, hevents, EventLog.lastOf]⟩

/-! ## Recoveries that are overtaken -/

/-- Nothing is left of a recovery but its last section. -/
def Activity.reopens : Activity → Bool
  | ready .reopen | announcing _ [] _ .reopen => true
  | _ => false

/-- A recovery is about to tell that the cluster is normal, and somebody else
has taken the cluster out of the state that it starts from. -/
def Stray (w : System) (m : Move) : Prop :=
  ∃ now number a reply, m = .resume now number a reply ∧ a.reopens = true ∧
    w.state ≠ .recoveryComplete

section

open Coordinator

variable {a : Activity} {c : Coordinator}

/-- The last section of a recovery tells its part of the story in any case. -/
theorem reopen_took {c' : Coordinator} (now : Moment) (h : c.Alike none c') :
    ∃ e, c.log.Took (some e) (reopen now c').1.log ∧ e.oldState = .recoveryComplete := by
  unfold reopen announceLast
  refine ⟨_, announce_took ?_ _, rfl⟩
  exact h.trans ⟨rfl, rfl, _, rfl, FailoverStats.counted_uncounted rfl⟩

theorem reopens_took (now : Moment) (reply : a.Reply) (c : Coordinator) (h : a.reopens = true) :
    ∃ e, c.log.Took (some e) (nextSection now a reply c).1.log ∧ e.oldState = .recoveryComplete := by
  unfold Activity.reopens at h
  split at h
  · exact reopen_took now (.refl c)
  · exact reopen_took now (alike_countHookFailures c _).1
  · cases h

theorem reopening_waits (now : Moment) (reply : a.Reply) (hp : a.phase = .reopening)
    (h : a.reopens = false) :
    (nextSection now a reply c).1 = c := by
  cases a with
  | pinging | probing | connecting => cases hp
  | ready next => cases next <;> simp_all [Activity.phase, Continuation.phase, Activity.reopens]
  | announcing hook rest failures next =>
    cases rest with
    | nil => cases next <;> simp_all [Activity.phase, Continuation.phase, Activity.reopens]
    | cons hook' rest => rfl

end

variable {trace : List (System × Move)} {w w' : System} {m : Move}

/-- A step tells what it does to the state, and nothing else. -/
def Told (w w' : System) : Prop :=
  ∃ e, w'.history = w.history ++ e.toList ∧ Recorded w.state w'.state e

theorem Stray.not_told (hm : Stray w m) (h : Step w m w') : ¬ Told w w' := by
  rintro ⟨e, hhistory, hr⟩
  obtain ⟨now, number, a, reply, rfl, hlast, hne⟩ := hm
  cases h with
  | resume now before after number a reply hw =>
    obtain ⟨e', htook, hold⟩ := reopens_took now reply w.coordinator hlast
    simp only [System.turn, htook.since] at hhistory
    have heq : e.toList = [e'] := (List.append_cancel_left hhistory).symm
    rw [Option.toList_eq_singleton_iff.mp heq] at hr
    exact hne (hr.1.symm.trans hold)

theorem Step.told (h : Step w m w') (hw : Owned w) (hm : ¬ Stray w m) : Told w w' := by
  obtain ⟨e, hhistory, hr | ⟨hp, hne, _, e', rfl, _⟩⟩ := h.recorded hw
  · exact ⟨e, hhistory, hr⟩
  · obtain ⟨now, number, a, reply, rfl, hphase⟩ := Move.resumes hp (by simp)
    cases hlast : a.reopens with
    | true => exact absurd ⟨now, number, a, reply, rfl, hlast, hne⟩ hm
    | false =>
      -- a hook that others follow says nothing
      cases h with
      | resume now before after number a reply hw =>
        simp only [System.turn, reopening_waits now reply hphase hlast] at hhistory
        simp [EventLog.since, EventLog.lastOf] at hhistory

theorem Run.linked {start : System} (h : Run start trace w)
    (h0 : Linked .normal start.history start.state) (howned : Owned start) :
    Owned w ∧ ((∀ s ∈ trace, ¬ Stray s.1 s.2) → Linked .normal w.history w.state) ∧
      ∀ last, Linked .normal w.history last → ∀ s ∈ trace, ¬ Stray s.1 s.2 := by
  induction h with
  | nil => exact ⟨howned, fun _ => h0, by simp⟩
  | @snoc trace w w' m hrun hs ih =>
    obtain ⟨hw, hlinked, hclean⟩ := ih
    refine ⟨hs.owned hw, ?_, ?_⟩
    · intro hall
      obtain ⟨e, hhistory, hr⟩ := hs.told hw (hall (w, m) (by simp))
      rw [hhistory]
      exact linked_append.mpr ⟨w.state, hlinked fun s hmem => hall s (by simp [hmem]), hr.linked⟩
    · intro last hlast t ht
      obtain ⟨e, hhistory, hr⟩ := hs.recorded hw
      rw [hhistory] at hlast
      obtain ⟨s, hold, hnew⟩ := linked_append.mp hlast
      have htrace := hclean s hold
      have hstate : s = w.state := hold.unique (hlinked htrace)
      rcases List.mem_append.mp ht with ht | ht
      · exact htrace t ht
      · rw [List.mem_singleton.mp ht]
        intro hstray
        rcases hr with hr | ⟨_, hne, _, e', rfl, htells⟩
        · exact hstray.not_told hs ⟨e, hhistory, hr⟩
        · exact hne (hstate.symm.trans (hnew.1.symm.trans htells.2.1))

/-- The events are the run of the cluster from the normal state to where it
is, and every step tells what it does to the state, but for one thing: a
recovery that is overtaken tells its end all the same. -/
theorem the_trail_is_the_run_until_a_recovery_is_overtaken (h : History trace w) :
    (Linked .normal w.history w.state ↔ ∀ s ∈ trace, ¬ Stray s.1 s.2) ∧
      (∀ m w', Step w m w' → (Told w w' ↔ ¬ Stray w m)) ∧
      Kept w.coordinator.log w.history := by
  have hw := h.owned
  have hkept := h.kept
  obtain ⟨c, hc, hrun⟩ := h
  have h0 : Linked .normal (System.initial c).history (System.initial c).state := by
    simp only [System.initial, System.state, System.cluster, hc.blank.1]
    rfl
  obtain ⟨_, hlinked, hclean⟩ := hrun.linked h0 (attended_initial hc).owned
  refine ⟨⟨hclean w.state, hlinked⟩, fun m w' hs => ⟨?_, hs.told hw⟩, hkept⟩
  exact fun htold hm => hm.not_told hs htold

/-- A failover is over, the node that failed joins again, and an operator
acknowledges while an observer still hears of it. -/
def overtaken : List Cue :=
  let now := ⟨0, false⟩
  let later := Moment.ofMillis 300000
  [ .order now (.register (Node.well "a" .primary))
  , .order now (.register (Node.well "b" .secondary))
  , .start now (.trigger "drill"), .resume now 0, .resume now 0, .resume now 0
  , .order later .observe
  , .start later .watch, .resume later 0, .resume later 0, .resume later 0
  , .start later .acknowledge
  , .resume later 0 ]

theorem the_trail_is_the_run_until_a_recovery_is_overtaken_drill :
    ∃ trace w, History trace w ∧ w.state = .failoverComplete ∧
      Linked .normal w.history w.state ∧
      (Linked .normal w.history w.state ↔ ∀ s ∈ trace, ¬ Stray s.1 s.2) ∧
      (∀ m w', Step w m w' → (Told w w' ↔ ¬ Stray w m)) ∧
      Kept w.coordinator.log w.history := by
  obtain ⟨trace, h, _⟩ := System.play_history Coordinator.fresh_standard calm (overtaken.take 5)
  exact ⟨trace, _, h, by decide, by decide,
    the_trail_is_the_run_until_a_recovery_is_overtaken h⟩

/-- The end of the recovery is told from a state that the cluster has left. -/
theorem an_overtaken_recovery_breaks_the_trail :
    ∃ trace w, History trace w ∧ Undropped trace ∧
      (w.history.map fun e => (e.oldState, e.newState)) =
        [ (.normal, .failoverInProgress), (.failoverInProgress, .failoverComplete)
        , (.failoverComplete, .recoveryInProgress), (.recoveryInProgress, .recoveryComplete)
        , (.recoveryComplete, .normal), (.recoveryComplete, .normal) ] ∧
      ¬ Linked .normal w.history w.state := by
  obtain ⟨trace, h, hd⟩ := System.play_history Coordinator.fresh_standard calm overtaken
  exact ⟨trace, _, h, hd, by decide, by decide⟩

end Failover
