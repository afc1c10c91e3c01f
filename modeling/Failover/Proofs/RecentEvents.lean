import Failover.Proofs.AuditTrail

-- The history of a log that is used by itself: events come in, statistics are
-- brought up to date, and somebody reads. What is kept in memory is compared with
-- all the events that there ever were.

namespace Failover

/-! ## The use of a log -/

/-- What may be asked of a log. -/
inductive EventLog.Call where
  | append (e : FailoverEvent)
  | updateStats (f : FailoverStats → FailoverStats)
  | recent (limit : Nat)
  | last
  | size
  | isEmpty
  | stats

inductive EventLog.Reply where
  | done
  | events (es : List FailoverEvent)
  | event (e : Option FailoverEvent)
  | count (n : Nat)
  | flag (b : Bool)
  | stats (s : FailoverStats)

/-- The event that comes in with a call. -/
def EventLog.Call.event? : Call → Option FailoverEvent
  | append e => some e
  | _ => none

namespace EventLog

def serve (log : EventLog) : Call → EventLog × Reply
  | .append e => (log.append e, .done)
  | .updateStats f => (log.updateStats f, .done)
  | .recent limit => (log, .events (log.recent limit))
  | .last => (log, .event log.last?)
  | .size => (log, .count log.size)
  | .isEmpty => (log, .flag log.isEmpty)
  | .stats => (log, .stats log.stats)

/-- The log after these calls. -/
def after (log : EventLog) (calls : List Call) : EventLog :=
  calls.foldl (fun log call => (log.serve call).1) log

/-- The events that came in with these calls. -/
def history (calls : List Call) : List FailoverEvent := calls.filterMap Call.event?

theorem history_cons (call : Call) (rest : List Call) :
    history (call :: rest) = call.event?.toList ++ history rest := by
  unfold history
  cases hcall : call.event? <;> simp [hcall]

/-! ## The last of the last ones -/

theorem lastOf_lastOf {α : Type} (m n : Nat) (xs : List α) :
    lastOf m (lastOf n xs) = lastOf (min m n) xs := by
  unfold lastOf
  rw [List.drop_drop, List.length_drop]
  congr 1
  omega

/-- There are no more last ones than there are at all. -/
theorem lastOf_min_length {α : Type} (n : Nat) (xs : List α) :
    lastOf (min n xs.length) xs = lastOf n xs := by
  unfold lastOf
  congr 1
  omega

theorem getLast?_lastOf {α : Type} {n : Nat} (hn : 0 < n) (xs : List α) :
    (lastOf n xs).getLast? = xs.getLast? := by
  unfold lastOf
  rw [List.getLast?_drop]
  by_cases hempty : xs.length = 0
  · simp [List.length_eq_zero_iff.mp hempty]
  · rw [if_neg (by omega)]

end EventLog

/-! ## What a log keeps -/

/-- A call adds its event to the history, and the log keeps the end of it. -/
theorem Kept.serve {log : EventLog} {history : List FailoverEvent} (h : Kept log history)
    (call : EventLog.Call) : Kept (log.serve call).1 (history ++ call.event?.toList) := by
  cases call with
  | append e => exact h.append e
  | updateStats f => simpa [EventLog.Call.event?, EventLog.serve, EventLog.updateStats, Kept] using h
  | recent | last | size | isEmpty | stats =>
    simpa [EventLog.Call.event?, EventLog.serve] using h

theorem EventLog.capacity_serve (log : EventLog) (call : Call) :
    (log.serve call).1.capacity = log.capacity := by
  cases call <;> rfl

theorem EventLog.capacity_after (log : EventLog) (calls : List Call) :
    (log.after calls).capacity = log.capacity := by
  induction calls generalizing log with
  | nil => rfl
  | cons call rest ih => exact (ih _).trans (log.capacity_serve call)

theorem Kept.after {log : EventLog} {history : List FailoverEvent} (h : Kept log history)
    (calls : List EventLog.Call) : Kept (log.after calls) (history ++ EventLog.history calls) := by
  induction calls generalizing log history with
  | nil => simpa [EventLog.after, EventLog.history] using h
  | cons call rest ih =>
    rw [EventLog.history_cons, ← List.append_assoc]
    exact ih (h.serve call)

/-- The history that a log keeps is the end of the whole history, for every
capacity, with or without a file, and for all calls in any order. It keeps as
many events as it may, and one at least; the recent ones, up to any limit, are
the last ones in the order in which they came in, the last one is the last that
came in, and there is none just when none ever came in. Nothing but an event that
comes in changes the events. -/
theorem the_kept_events_are_the_end_of_the_history (capacity : Nat) (bytes : Option (List UInt8))
    (calls : List EventLog.Call) :
    let log := ({ EventLog.ofCapacity capacity with bytes := bytes } : EventLog).after calls
    let history := EventLog.history calls
    let kept := max capacity 1
    log.size = min history.length kept ∧
    (∀ limit, log.recent limit =
      EventLog.lastOf (min limit (min history.length kept)) history) ∧
    log.last? = history.getLast? ∧
    (log.isEmpty = true ↔ history.length = 0) ∧
    ∀ call, call.event? = none → (log.serve call).1.events = log.events := by
  intro log history kept
  have hcapacity : log.capacity = kept := EventLog.capacity_after _ calls
  have hkept : Kept log history := by
    have hopened : Kept { EventLog.ofCapacity capacity with bytes := bytes } [] :=
      ⟨rfl, List.drop_nil.symm⟩
    exact hopened.after calls
  have hevents : log.events = EventLog.lastOf kept history := by
    rw [← hcapacity]
    exact hkept.2
  have hpos : 0 < kept := by omega
  refine ⟨?_, fun limit => ?_, ?_, ?_, fun call hcall => ?_⟩
  · unfold EventLog.size
    rw [hevents, EventLog.length_lastOf, Nat.min_comm]
  · unfold EventLog.recent
    rw [hevents, EventLog.lastOf_lastOf, ← EventLog.lastOf_min_length (min limit kept)]
    congr 1
    omega
  · unfold EventLog.last?
    rw [hevents, EventLog.getLast?_lastOf hpos]
  · unfold EventLog.isEmpty
    rw [hevents, List.isEmpty_iff_length_eq_zero, EventLog.length_lastOf]
    omega
  · cases call with
    | append e => cases hcall
    | updateStats | recent | last | size | isEmpty | stats => rfl

end Failover
