import Failover.Moment.Basic
import Failover.Number.Fixed
import Failover.Text

-- Moments as text, after RFC 3339. The writer has one form for each moment.
-- The reader is lenient: it takes blanks between the parts, numbers without
-- their zeros, and several ways to write an offset.

namespace Failover.Moment

open Failover.Text (dropBlanks isBlank)

/-! ## Writing -/

def secondsPerDay : Int := 86400

/-- Three, six or nine digits, or none: the fewest that are exact. -/
def fractionText (nanos : Nat) : String :=
  if nanos == 0 then ""
  else if nanos % 1000000 == 0 then "." ++ Fixed.padded 3 (nanos / 1000000)
  else if nanos % 1000 == 0 then "." ++ Fixed.padded 6 (nanos / 1000)
  else "." ++ Fixed.padded 9 nanos

/-- Years of four digits stand alone, others have a sign. -/
def yearText (year : Int) : String :=
  if 0 ≤ year && year ≤ 9999 then Fixed.padded 4 year.toNat
  else (if year < 0 then "-" else "+") ++ Fixed.padded 4 year.natAbs

/-- Date, time and fraction, without an offset. -/
def localText (m : Moment) : String :=
  let whole := m.nanos / Span.perSecond
  let second := if m.leap then whole - 1 else whole
  let nanos := (m.nanos % Span.perSecond).toNat
  let date := CivilDate.ofDays (second / secondsPerDay)
  let ofDay := (second % secondsPerDay).toNat
  let shown := ofDay % 60 + (if m.leap then 1 else 0)
  yearText date.year ++ "-" ++ Fixed.padded 2 date.month ++ "-" ++ Fixed.padded 2 date.day ++ "T" ++
    Fixed.padded 2 (ofDay / 3600) ++ ":" ++ Fixed.padded 2 (ofDay / 60 % 60) ++ ":" ++
    Fixed.padded 2 shown ++ fractionText nanos

def toText (m : Moment) : String := localText m ++ "Z"

/-- The same text with the offset of universal time as a number. -/
def toOffsetText (m : Moment) : String := localText m ++ "+00:00"

/-! ## Reading -/

/-- A number of up to `most` digits, at least one. -/
def number? (most : Nat) (cs : List Char) : Option (Nat × List Char) :=
  let taken := (cs.take most).takeWhile Char.isDigit
  if taken.isEmpty then none
  else some (taken.foldl (fun n c => n * 10 + (c.toNat - '0'.toNat)) 0, cs.drop taken.length)

/-- A year is four digits at most, or has a sign and any number of digits. -/
def year? (cs : List Char) : Option (Int × List Char) :=
  match cs with
  | '-' :: rest => (number? rest.length rest).map fun (n, r) => (-(n : Int), r)
  | '+' :: rest => (number? rest.length rest).map fun (n, r) => ((n : Int), r)
  | _ => (number? 4 cs).map fun (n, r) => ((n : Int), r)

def literal? (c : Char) (cs : List Char) : Option (List Char) :=
  match cs with
  | d :: rest => if c == d then some rest else none
  | [] => none

/-- A point and digits, of which nine count. -/
def nanos? (cs : List Char) : Option (Nat × List Char) :=
  match cs with
  | '.' :: rest =>
    let taken := (rest.take 9).takeWhile Char.isDigit
    if taken.isEmpty then none
    else
      let n := taken.foldl (fun n c => n * 10 + (c.toNat - '0'.toNat)) 0
      some (n * tenTo (9 - taken.length), (rest.drop taken.length).dropWhile Char.isDigit)
  | _ => some (0, cs)

def twoDigits? (cs : List Char) : Option (Nat × List Char) :=
  match cs with
  | a :: b :: rest =>
    if a.isDigit && b.isDigit then some ((a.toNat - 48) * 10 + (b.toNat - 48), rest) else none
  | _ => none

/-- The offset in seconds: a letter Z, the letters UTC, or a sign with hours
and minutes. -/
def offset? (cs : List Char) : Option (Int × List Char) :=
  match cs with
  | 'Z' :: rest | 'z' :: rest => some (0, rest)
  | _ =>
    if (cs.take 3).map Char.toUpper == ['U', 'T', 'C'] then some (0, cs.drop 3)
    else do
      let (negative, rest) ←
        match cs with
        | '+' :: rest => some (false, rest)
        | '-' :: rest => some (true, rest)
        | '−' :: rest => some (true, rest)
        | _ => none
      let (hours, rest) ← twoDigits? rest
      let (minutes, rest) ← twoDigits? (rest.dropWhile fun c => c == ':' || isBlank c)
      if minutes ≥ 60 then none
      let size : Int := hours * 3600 + minutes * 60
      if size ≥ secondsPerDay then none
      return (if negative then -size else size, rest)

/-- A date by year, month and day, whether it exists or not. -/
def date? (cs : List Char) : Option (CivilDate × List Char) := do
  let (year, cs) ← year? (dropBlanks cs)
  let cs ← literal? '-' (dropBlanks cs)
  let (month, cs) ← number? 2 (dropBlanks cs)
  let cs ← literal? '-' (dropBlanks cs)
  let (day, cs) ← number? 2 (dropBlanks cs)
  return (⟨year, month, day⟩, cs)

/-- What stands between a date and a time of day. -/
def separator? : List Char → Option (List Char)
  | 'T' :: rest | 't' :: rest | ' ' :: rest => some rest
  | _ => none

/-- A time of day as it is shown. The second may be the sixtieth. -/
structure TimeOfDay where
  hour : Nat
  minute : Nat
  second : Nat
  nanos : Nat

def time? (cs : List Char) : Option (TimeOfDay × List Char) := do
  let (hour, cs) ← number? 2 (dropBlanks cs)
  let cs ← literal? ':' (dropBlanks cs)
  let (minute, cs) ← number? 2 (dropBlanks cs)
  let cs ← literal? ':' (dropBlanks cs)
  let (second, cs) ← number? 2 (dropBlanks cs)
  let (nanos, cs) ← nanos? cs
  return (⟨hour, minute, second, nanos⟩, cs)

/-- The years that a date may have. -/
def isYear (year : Int) : Bool := -262143 ≤ year && year ≤ 262142

/-- The moment of a date and a time of day at an offset in seconds. The date
must exist where the offset holds and in universal time. -/
def ofParts? (date : CivilDate) (time : TimeOfDay) (offset : Int) : Option Moment :=
  if !date.isValid || !isYear date.year then none
  else if time.hour ≥ 24 || time.minute ≥ 60 || time.second > 60 then none
  else
    let leap := time.second == 60
    let shown := date.toDays * secondsPerDay + time.hour * 3600 + time.minute * 60 +
      min time.second 59 - offset
    if !isYear (CivilDate.ofDays (shown / secondsPerDay)).year then none
    else some ⟨(if leap then shown + 1 else shown) * Span.perSecond + time.nanos, leap⟩

/-- The moment that a text names, in any offset. -/
def ofText? (s : String) : Option Moment := do
  let (date, cs) ← date? s.toList
  let cs ← separator? cs
  let (time, cs) ← time? cs
  let (offset, cs) ← offset? (dropBlanks cs)
  if (dropBlanks cs).isEmpty then ofParts? date time offset else none

end Failover.Moment
