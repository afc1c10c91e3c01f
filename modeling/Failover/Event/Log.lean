import Failover.Data.Basic
import Failover.Event.Basic
import Failover.Number.Scalar
import Failover.Text

-- The event log: the last events in memory, statistics over all of them, and
-- a file that takes every event as a line.

namespace Failover

/-! ## Statistics -/

structure FailoverStats where
  initiated : Nat
  completed : Nat
  failed : Nat
  recoveries : Nat
  /-- Failovers that were cancelled because the primary came back. -/
  falseAlarms : Nat
  /-- Hooks of observers that failed. -/
  callbackErrors : Nat
  /-- The mean duration of a completed failover, in milliseconds. -/
  averageMs : Float
  deriving Inhabited

/-- The mean of `n` values, from the mean of all but the last and the last
one. -/
def nextMean {α : Type} [Scalar α] (mean : α) (n : Nat) (last : α) : α :=
  if (Scalar.ofInt n : α) ≤ Scalar.one then last else mean + (last - mean) / Scalar.ofInt n

namespace FailoverStats

def zero : FailoverStats :=
  { initiated := 0, completed := 0, failed := 0, recoveries := 0, falseAlarms := 0
    callbackErrors := 0, averageMs := 0.0 }

/-- Takes the duration of the last completed failover into the mean. -/
def recordTime (s : FailoverStats) (ms : Float) : FailoverStats :=
  { s with averageMs := nextMean s.averageMs s.completed ms }

def toData (s : FailoverStats) : Data := .record
  [ ("failovers_initiated", Data.nat s.initiated)
  , ("failovers_completed", Data.nat s.completed)
  , ("failovers_failed", Data.nat s.failed)
  , ("recoveries_completed", Data.nat s.recoveries)
  , ("false_alarms", Data.nat s.falseAlarms)
  , ("callback_errors", Data.nat s.callbackErrors)
  , ("average_failover_time_ms", Data.number s.averageMs) ]

end FailoverStats

/-! ## The log -/

structure EventLog where
  /-- How many events are kept. -/
  capacity : Nat
  capacity_pos : 0 < capacity := by omega
  /-- The kept events, oldest first. -/
  events : List FailoverEvent
  /-- How many events there ever were. -/
  appended : Nat
  stats : FailoverStats
  /-- What the file holds, if the log has one. -/
  bytes : Option (List UInt8)

namespace EventLog

/-- A log without events. It keeps at least one. -/
def ofCapacity (capacity : Nat) : EventLog where
  capacity := max capacity 1
  events := []
  appended := 0
  stats := .zero
  bytes := none

instance : Inhabited EventLog := ⟨ofCapacity 1⟩

/-- A log that goes on with a file, whatever the file holds. -/
def onBytes (capacity : Nat) (bytes : List UInt8) : EventLog :=
  { ofCapacity capacity with bytes := some bytes }

/-- A log that goes on with a file that holds this text. -/
def withFile (capacity : Nat) (text : String) : EventLog := onBytes capacity (Text.bytesOf text)

/-- The text of the file, if there is one and it holds a text. -/
def file (log : EventLog) : Option String := log.bytes.bind Text.ofBytes?

/-- The last `n` members of a list. -/
def lastOf {α : Type} (n : Nat) (xs : List α) : List α := xs.drop (xs.length - n)

/-- The events that stay when one more comes: the oldest gives way when the
log is full. -/
def staying (log : EventLog) : List FailoverEvent :=
  if log.events.length = log.capacity then log.events.tail else log.events

/-- Appends an event to the file and to the kept events. -/
def append (log : EventLog) (e : FailoverEvent) : EventLog :=
  { log with
    events := log.staying ++ [e]
    appended := log.appended + 1
    bytes := log.bytes.map fun held => held ++ Text.bytesOf (e.line ++ "\n") }

/-- Up to `limit` of the last events, oldest first. -/
def recent (log : EventLog) (limit : Nat) : List FailoverEvent := lastOf limit log.events

def last? (log : EventLog) : Option FailoverEvent := log.events.getLast?

def size (log : EventLog) : Nat := log.events.length

def isEmpty (log : EventLog) : Bool := log.events.isEmpty

def updateStats (log : EventLog) (f : FailoverStats → FailoverStats) : EventLog :=
  { log with stats := f log.stats }

/-- The kept ones of the events that came after the first `count`. -/
def since (log : EventLog) (count : Nat) : List FailoverEvent :=
  lastOf (log.appended - count) log.events

/-- The log in one line, for a person. -/
def summary (log : EventLog) : String :=
  "EventLog \x7b capacity: " ++ toString log.capacity ++ ", len: " ++ toString log.size ++ " \x7d"

end EventLog

end Failover
