-- Points in time and spans of time, both counted in nanoseconds, and the
-- Gregorian calendar.

namespace Failover

/-- A span of time in nanoseconds. -/
abbrev Span := Int

namespace Span

def perMilli : Int := 1000000
def perSecond : Int := 1000000000

def ofMillis (ms : Nat) : Span := ms * perMilli

/-- Whole milliseconds; what is over is dropped. -/
def toMillis (s : Span) : Int := s.tdiv perMilli

/-- Whole seconds and the rest, each as a float, added up. -/
def seconds (s : Span) : Float :=
  Float.ofInt (s / perSecond) + Float.ofInt (s % perSecond) / 1000000000.0

def millis (s : Span) : Float := s.seconds * 1000.0

end Span

/-- A point in time: nanoseconds since the first of January 1970, in
universal time without leap seconds. A point inside a leap second counts as
one in the second after it, and is marked. -/
structure Moment where
  nanos : Int
  leap : Bool
  deriving DecidableEq, Repr, Inhabited

namespace Moment

def ofMillis (ms : Int) : Moment := ⟨ms * Span.perMilli, false⟩

/-- The time from `earlier` to `later`. -/
def since (later earlier : Moment) : Span := later.nanos - earlier.nanos

def plus (m : Moment) (s : Span) : Moment := ⟨m.nanos + s, m.leap⟩

end Moment

/-! ## The calendar -/

-- It goes on without limit in both directions. Years begin in March here, so that
-- a leap day is the last day of its year.

structure CivilDate where
  year : Int
  month : Nat
  day : Nat
  deriving DecidableEq, Repr

namespace CivilDate

def isLeapYear (year : Int) : Bool := year % 4 == 0 && (year % 100 != 0 || year % 400 == 0)

def daysInMonth (year : Int) (month : Nat) : Nat :=
  match month with
  | 2 => if isLeapYear year then 29 else 28
  | 4 | 6 | 9 | 11 => 30
  | _ => 31

def isValid (d : CivilDate) : Bool :=
  1 ≤ d.month && d.month ≤ 12 && 1 ≤ d.day && d.day ≤ daysInMonth d.year d.month

/-- The days from the first of January 1970 to this date. -/
def toDays (d : CivilDate) : Int :=
  let year := if d.month ≤ 2 then d.year - 1 else d.year
  let era := year / 400
  let yearOfEra := year % 400
  let month : Int := if d.month > 2 then (d.month : Int) - 3 else (d.month : Int) + 9
  let dayOfYear := (153 * month + 2) / 5 + (d.day : Int) - 1
  let dayOfEra := yearOfEra * 365 + yearOfEra / 4 - yearOfEra / 100 + dayOfYear
  era * 146097 + dayOfEra - 719468

def ofDays (days : Int) : CivilDate :=
  let z := days + 719468
  let era := z / 146097
  let dayOfEra := z % 146097
  let yearOfEra := (dayOfEra - dayOfEra / 1460 + dayOfEra / 36524 - dayOfEra / 146096) / 365
  let dayOfYear := dayOfEra - (365 * yearOfEra + yearOfEra / 4 - yearOfEra / 100)
  let shifted := (5 * dayOfYear + 2) / 153
  let day := dayOfYear - (153 * shifted + 2) / 5 + 1
  let month := if shifted < 10 then shifted + 3 else shifted - 9
  let year := yearOfEra + era * 400
  ⟨if month ≤ 2 then year + 1 else year, month.toNat, day.toNat⟩

end CivilDate

end Failover
