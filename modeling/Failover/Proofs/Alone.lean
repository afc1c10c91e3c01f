import Failover.Proofs.Sections

-- Operations that run alone: one section after the other, with any answers,
-- while nothing else happens to the coordinator.

namespace Failover

/-- Nothing is left of the operation but its end, and the observers that are
still to hear of the last event. -/
def Activity.closing : Activity → Bool
  | announcing _ _ _ (.close _ _) | ready (.close _ _) => true
  | _ => false

def Progress.closing : Progress → Bool
  | waits a => a.closing
  | ends _ => true

theorem EventLog.last?_append (log : EventLog) (e : FailoverEvent) :
    (log.append e).last? = some e := by
  unfold last? append
  exact List.getLast?_concat

/-- The last event that the log has taken is the last that it keeps. -/
theorem EventLog.Took.last? {log log' : EventLog} {e : Option FailoverEvent} (h : log.Took e log') :
    log'.last? = e.or log.last? := by
  obtain ⟨stats, rfl, _⟩ := h
  cases e with
  | none => rfl
  | some e => exact log.last?_append e

namespace Coordinator

/-- What becomes of an operation that is left alone from here on. -/
inductive Alone (r : Coordinator × Progress) : Coordinator × Progress → Prop
  | here : Alone r r
  | on {c : Coordinator} {a : Activity} (h : Alone r (c, .waits a)) (now : Moment)
      (reply : a.Reply) : Alone r (nextSection now a reply c)

/-! ## The end of an operation -/

variable {c : Coordinator} {a : Activity}

theorem close_closing (renewLevels : Bool) (answer : Answer) (c : Coordinator) :
    (close renewLevels answer c).2.closing = true ∧
      (close renewLevels answer c).1.cluster = c.cluster ∧
      c.Alike none (close renewLevels answer c).1 := by
  refine ⟨rfl, close_cluster renewLevels answer c, ?_⟩
  unfold close
  split
  · exact alike_of_log rfl rfl rfl
  · exact .refl c

theorem afterHook_closing (now : Moment) (rest : List Hook) (failures : Nat) (renewLevels : Bool)
    (answer : Answer) (succeeded : Bool) (c : Coordinator) :
    (afterHook now rest failures (.close renewLevels answer) succeeded c).2.closing = true ∧
      (afterHook now rest failures (.close renewLevels answer) succeeded c).1.cluster = c.cluster ∧
      c.Alike none (afterHook now rest failures (.close renewLevels answer) succeeded c).1 := by
  cases rest with
  | cons hook rest => exact ⟨rfl, rfl, .refl c⟩
  | nil =>
    obtain ⟨hcounted, hsame⟩ :=
      alike_countHookFailures c (if succeeded then failures else failures + 1)
    obtain ⟨hclosing, hcluster, halike⟩ := close_closing renewLevels answer
      (c.countHookFailures (if succeeded then failures else failures + 1))
    exact ⟨hclosing, hcluster.trans hsame, hcounted.trans halike⟩

/-- An operation that is about to end does nothing else on the way. -/
theorem nextSection_closing (h : a.closing = true) (now : Moment) (reply : a.Reply)
    (c : Coordinator) :
    (nextSection now a reply c).2.closing = true ∧
      (nextSection now a reply c).1.cluster = c.cluster ∧
      c.Alike none (nextSection now a reply c).1 := by
  cases a with
  | pinging | probing | connecting => cases h
  | ready next =>
    cases next with
    | close renewLevels answer => exact close_closing renewLevels answer c
    | select | rejoin | reopen => cases h
  | announcing hook rest failures next =>
    cases next with
    | close renewLevels answer => exact afterHook_closing now rest failures renewLevels answer reply c
    | select | rejoin | reopen => cases h

/-! ## The end of an attempt -/

theorem conclude_closing (e : FailoverEvent) (a : Attempt) (o : Outcome) (c : Coordinator) :
    (conclude e a o c).2.closing = true := by
  unfold conclude announceLast announce
  dsimp only
  split <;> rfl

theorem failAttempt_closing (now : Moment) (a : Attempt) (f : FailoverFailure) (c : Coordinator) :
    (failAttempt now a f c).2.closing = true := conclude_closing _ a _ _

theorem cancelAttempt_closing (now : Moment) (a : Attempt) (c : Coordinator) :
    (cancelAttempt now a c).2.closing = true := conclude_closing _ a _ _

theorem commitPromotion_closing (now : Moment) (a : Attempt) (candidate : Candidate)
    (c : Coordinator) : (commitPromotion now a candidate c).2.closing = true := by
  unfold commitPromotion
  split
  · exact conclude_closing _ a _ _
  · exact failAttempt_closing now a _ c

theorem tryNext_goes (now : Moment) (a : Attempt) (deadline : Moment)
    (ranked : List (Candidate × Node)) (c : Coordinator) :
    (tryNext now a deadline ranked c).2.phase = .failover ∨
      (tryNext now a deadline ranked c).2.closing = true := by
  cases ranked with
  | nil => exact Or.inr (failAttempt_closing now a _ c)
  | cons x rest => exact Or.inl rfl

theorem selectCandidate_goes (now : Moment) (a : Attempt) (c : Coordinator) :
    (selectCandidate now a c).2.phase = .failover ∨ (selectCandidate now a c).2.closing = true := by
  unfold selectCandidate
  split
  · exact Or.inr (cancelAttempt_closing now a c)
  · exact Or.inr (failAttempt_closing now a _ c)
  · exact tryNext_goes now a _ _ c

/-- A failover goes on until the section that settles it, and nothing but the
end of the operation is left then. -/
theorem nextSection_goes (h : a.phase = .failover) (now : Moment) (reply : a.Reply)
    (c : Coordinator) :
    (nextSection now a reply c).2.phase = .failover ∨
      (nextSection now a reply c).2.closing = true := by
  cases a with
  | pinging | probing => cases h
  | connecting a deadline candidate node rest =>
    simp only [nextSection]
    unfold afterConnect
    split
    · exact Or.inr (commitPromotion_closing now a candidate c)
    · exact tryNext_goes now a deadline rest c
    · exact Or.inr (failAttempt_closing now a _ c)
  | ready next =>
    cases next with
    | select a => exact selectCandidate_goes now a c
    | rejoin | reopen | close => cases h
  | announcing hook rest failures next =>
    cases next with
    | rejoin | reopen | close => cases h
    | select a =>
      simp only [nextSection]
      unfold afterHook
      dsimp only
      split
      · exact Or.inl rfl
      · exact selectCandidate_goes now a _

end Coordinator

end Failover
