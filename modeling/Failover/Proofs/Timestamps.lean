import Failover.Moment.Text
import Failover.Proofs.Calendar
import Failover.Proofs.Decimals

-- A moment reads back from its own text.

namespace Failover.Moment

open Failover.Text (dropBlanks isBlank)

/-! ## Parts -/

theorem isBlank_digit {c : Char} (h : c.isDigit = true) : isBlank c = false := by
  have hrange : 48 ≤ c.toNat ∧ c.toNat ≤ 57 := Char.isDigit_iff_toNat.mp h
  unfold isBlank Text.blankRanges
  simp
  omega

theorem dropBlanks_digits {cs : List Char} {n : Nat} (h : Spells cs n) (rest : List Char) :
    dropBlanks (cs ++ rest) = cs ++ rest := by
  obtain ⟨c, cs, rfl⟩ := List.exists_cons_of_ne_nil h.nonempty
  have hblank := isBlank_digit (h.digits c (List.mem_cons_self ..))
  simp [dropBlanks, hblank]

theorem dropBlanks_of_shown {c : Char} (h : isBlank c = false) (rest : List Char) :
    dropBlanks (c :: rest) = c :: rest := by
  simp [dropBlanks, h]

theorem number?_digits {most n : Nat} {cs rest : List Char} (h : Spells cs n)
    (hmost : cs.length ≤ most) (hrest : NoDigit rest) : number? most (cs ++ rest) = some (n, rest) := by
  unfold number?
  simp only [takeWhile_take_digits h.digits hmost hrest, foldl_digits, h.value, List.isEmpty_iff,
    if_neg h.nonempty, List.drop_left]

theorem number?_padded {width n : Nat} (hwidth : 0 < width) (h : n < 10 ^ width) {rest : List Char}
    (hrest : NoDigit rest) :
    number? width (dropBlanks ((Fixed.padded width n).toList ++ rest)) = some (n, rest) := by
  have hspells := spells_padded width n
  rw [dropBlanks_digits hspells]
  exact number?_digits hspells (Nat.le_of_eq (length_padded hwidth h)) hrest

theorem year?_padded {n : Nat} (h : n < 10 ^ 4) {rest : List Char} (hrest : NoDigit rest) :
    year? (dropBlanks ((Fixed.padded 4 n).toList ++ rest)) = some ((n : Int), rest) := by
  have hspells := spells_padded 4 n
  have hread := number?_padded (by omega) h hrest
  rw [dropBlanks_digits hspells] at hread ⊢
  obtain ⟨c, cs, hcs⟩ := List.exists_cons_of_ne_nil hspells.nonempty
  have hdigit := hspells.digits c (hcs ▸ List.mem_cons_self ..)
  rw [hcs] at hread ⊢
  unfold year?
  split
  · rename_i heq
    cases heq
    cases hdigit
  · rename_i heq
    cases heq
    cases hdigit
  · rw [hread]
    rfl

/-- A year of other than four digits stands with its sign. -/
theorem year?_signed {n : Nat} {rest : List Char} (hrest : NoDigit rest) :
    year? ('-' :: ((Fixed.padded 4 n).toList ++ rest)) = some (-(n : Int), rest) ∧
      year? ('+' :: ((Fixed.padded 4 n).toList ++ rest)) = some ((n : Int), rest) := by
  have hread := number?_digits (spells_padded 4 n) (Nat.le_add_right _ rest.length) hrest
  rw [← List.length_append] at hread
  constructor
  · simp only [year?, hread, Option.map_some]
  · simp only [year?, hread, Option.map_some]

theorem year?_text (year : Int) {rest : List Char} (hrest : NoDigit rest) :
    year? (dropBlanks ((yearText year).toList ++ rest)) = some (year, rest) := by
  unfold yearText
  by_cases hfour : 0 ≤ year ∧ year ≤ 9999
  · rw [if_pos (by simpa using hfour), year?_padded (by omega) hrest]
    congr 2
    omega
  · rw [if_neg (by simpa using hfour)]
    by_cases hnegative : year < 0
    · have hmark : "-".toList = ['-'] := rfl
      rw [if_pos hnegative, String.toList_append, hmark, List.append_assoc, List.singleton_append,
        dropBlanks_of_shown rfl, (year?_signed hrest).1]
      congr 2
      omega
    · have hmark : "+".toList = ['+'] := rfl
      rw [if_neg hnegative, String.toList_append, hmark, List.append_assoc, List.singleton_append,
        dropBlanks_of_shown rfl, (year?_signed hrest).2]
      congr 2
      omega

/-- A fraction of a second reads back from each of its forms. -/
theorem nanos?_point {width n : Nat} (hwidth : 0 < width) (hnine : width ≤ 9) (h : n < 10 ^ width)
    {rest : List Char} (hrest : NoDigit rest) :
    nanos? ('.' :: ((Fixed.padded width n).toList ++ rest)) = some (n * tenTo (9 - width), rest) := by
  have hspells := spells_padded width n
  have hlength := length_padded hwidth h
  simp only [nanos?]
  rw [takeWhile_take_digits hspells.digits (by omega) hrest, foldl_digits, hspells.value, hlength,
    if_neg (by simpa using hspells.nonempty), List.drop_left' hlength, hrest.dropWhile]

/-- The fewest digits that are exact, or none. -/
theorem fractionText_cases {nanos : Nat} (h : nanos < 1000000000) :
    nanos = 0 ∧ fractionText nanos = "" ∨
      ∃ width n, 0 < width ∧ width ≤ 9 ∧ n < 10 ^ width ∧ n * tenTo (9 - width) = nanos ∧
        fractionText nanos = "." ++ Fixed.padded width n := by
  unfold fractionText
  by_cases hzero : nanos = 0
  · exact .inl ⟨hzero, if_pos (beq_iff_eq.mpr hzero)⟩
  · refine .inr ?_
    rw [if_neg (by simpa using hzero)]
    by_cases hmillis : nanos % 1000000 = 0
    · refine ⟨3, nanos / 1000000, by omega, by omega, by omega, ?_, if_pos (beq_iff_eq.mpr hmillis)⟩
      exact Nat.div_mul_cancel (Nat.dvd_of_mod_eq_zero hmillis)
    · rw [if_neg (by simpa using hmillis)]
      by_cases hmicros : nanos % 1000 = 0
      · refine ⟨6, nanos / 1000, by omega, by omega, by omega, ?_, if_pos (beq_iff_eq.mpr hmicros)⟩
        exact Nat.div_mul_cancel (Nat.dvd_of_mod_eq_zero hmicros)
      · exact ⟨9, nanos, by omega, by omega, by omega, Nat.mul_one nanos,
          if_neg (by simpa using hmicros)⟩

theorem nanos?_fraction {nanos : Nat} (h : nanos < 1000000000) :
    NoDigit ((fractionText nanos).toList ++ ['Z']) ∧
      nanos? ((fractionText nanos).toList ++ ['Z']) = some (nanos, ['Z']) := by
  rcases fractionText_cases h with ⟨rfl, htext⟩ | ⟨width, n, hwidth, hnine, hn, hvalue, htext⟩
  · rw [htext]
    exact ⟨noDigit_cons rfl _, rfl⟩
  · have htail : (fractionText nanos).toList ++ ['Z'] =
        '.' :: ((Fixed.padded width n).toList ++ ['Z']) := by
      rw [htext, String.toList_append]
      rfl
    rw [htail, nanos?_point hwidth hnine hn (noDigit_cons rfl _), hvalue]
    exact ⟨noDigit_cons rfl _, rfl⟩

/-! ## The whole text -/

theorem literal?_self {c : Char} (h : isBlank c = false) (rest : List Char) :
    literal? c (dropBlanks (c :: rest)) = some rest := by
  rw [dropBlanks_of_shown h]
  simp [literal?]

theorem date?_text {date : CivilDate} (hmonth : date.month < 10 ^ 2) (hday : date.day < 10 ^ 2)
    {rest : List Char} (hrest : NoDigit rest) :
    date? ((yearText date.year).toList ++ '-' :: ((Fixed.padded 2 date.month).toList ++
      '-' :: ((Fixed.padded 2 date.day).toList ++ rest))) = some (date, rest) := by
  unfold date?
  rw [year?_text _ (noDigit_cons rfl _)]
  simp only [Option.bind_eq_bind, Option.bind_some]
  rw [literal?_self rfl, Option.bind_some, number?_padded (by omega) hmonth (noDigit_cons rfl _)]
  simp only [Option.bind_some]
  rw [literal?_self rfl, Option.bind_some, number?_padded (by omega) hday hrest]
  rfl

theorem time?_text {hour minute second nanos : Nat} (hhour : hour < 10 ^ 2) (hminute : minute < 10 ^ 2)
    (hsecond : second < 10 ^ 2) (hnanos : nanos < 1000000000) :
    time? ((Fixed.padded 2 hour).toList ++ ':' :: ((Fixed.padded 2 minute).toList ++
      ':' :: ((Fixed.padded 2 second).toList ++ ((fractionText nanos).toList ++ ['Z'])))) =
      some (⟨hour, minute, second, nanos⟩, ['Z']) := by
  obtain ⟨hend, hread⟩ := nanos?_fraction hnanos
  unfold time?
  rw [number?_padded (by omega) hhour (noDigit_cons rfl _)]
  simp only [Option.bind_eq_bind, Option.bind_some]
  rw [literal?_self rfl, Option.bind_some, number?_padded (by omega) hminute (noDigit_cons rfl _)]
  simp only [Option.bind_some]
  rw [literal?_self rfl, Option.bind_some, number?_padded (by omega) hsecond hend]
  simp only [Option.bind_some]
  rw [hread]
  rfl

/-- The second that a clock shows. A leap second is the sixtieth of its minute, so the
one before it counts. -/
def clock (m : Moment) : Int :=
  if m.leap then m.nanos / Span.perSecond - 1 else m.nanos / Span.perSecond

/-- The date of a moment in universal time. -/
def date (m : Moment) : CivilDate := CivilDate.ofDays (m.clock / secondsPerDay)

/-- The time of day of a moment in universal time. -/
def timeOfDay (m : Moment) : TimeOfDay :=
  let ofDay := (m.clock % secondsPerDay).toNat
  ⟨ofDay / 3600, ofDay / 60 % 60, ofDay % 60 + (if m.leap then 1 else 0),
    (m.nanos % Span.perSecond).toNat⟩

theorem toList_toText (m : Moment) :
    m.toText.toList =
      (yearText m.date.year).toList ++ '-' :: ((Fixed.padded 2 m.date.month).toList ++
        '-' :: ((Fixed.padded 2 m.date.day).toList ++ 'T' ::
          ((Fixed.padded 2 m.timeOfDay.hour).toList ++ ':' ::
            ((Fixed.padded 2 m.timeOfDay.minute).toList ++ ':' ::
              ((Fixed.padded 2 m.timeOfDay.second).toList ++
                ((fractionText m.timeOfDay.nanos).toList ++ ['Z'])))))) := by
  have hmarks : "-".toList = ['-'] ∧ "T".toList = ['T'] ∧ ":".toList = [':'] ∧ "Z".toList = ['Z'] :=
    ⟨rfl, rfl, rfl, rfl⟩
  have htext : m.toText =
      yearText m.date.year ++ "-" ++ Fixed.padded 2 m.date.month ++ "-" ++
        Fixed.padded 2 m.date.day ++ "T" ++ Fixed.padded 2 m.timeOfDay.hour ++ ":" ++
        Fixed.padded 2 m.timeOfDay.minute ++ ":" ++ Fixed.padded 2 m.timeOfDay.second ++
        fractionText m.timeOfDay.nanos ++ "Z" := rfl
  rw [htext]
  simp only [String.toList_append, hmarks, List.append_assoc, List.cons_append, List.nil_append]

theorem timeOfDay_bounds (m : Moment) :
    m.timeOfDay.hour < 24 ∧ m.timeOfDay.minute < 60 ∧ m.timeOfDay.second ≤ 60 ∧
      m.timeOfDay.nanos < 1000000000 := by
  simp only [timeOfDay, secondsPerDay, Span.perSecond]
  refine ⟨by omega, by omega, ?_, by omega⟩
  split <;> omega

/-- A moment of the years that a date may have. A leap second is the last of its minute. -/
structure Regular (m : Moment) : Prop where
  year : -262143 ≤ m.date.year ∧ m.date.year ≤ 262142
  leap : m.leap = true → m.timeOfDay.second = 60

theorem Regular.leap_iff {m : Moment} (h : m.Regular) : (m.timeOfDay.second == 60) = m.leap := by
  cases hleap : m.leap with
  | true => simp [h.leap hleap]
  | false =>
    have hshort : m.timeOfDay.second < 60 := by
      simp only [timeOfDay, hleap, Bool.false_eq_true, if_false]
      omega
    rw [beq_eq_false_iff_ne]
    omega

/-- The days and the time of day make up the clock. -/
theorem Regular.clock_of_parts {m : Moment} (h : m.Regular) :
    m.date.toDays * secondsPerDay + m.timeOfDay.hour * 3600 + m.timeOfDay.minute * 60 +
      min m.timeOfDay.second 59 = m.clock := by
  have hdays : m.date.toDays = m.clock / secondsPerDay := CivilDate.toDays_ofDays _
  have hleap := h.leap
  rw [hdays]
  simp only [timeOfDay, secondsPerDay] at hleap ⊢
  cases hm : m.leap with
  | true =>
    simp only [hm, if_true, true_implies] at hleap ⊢
    omega
  | false =>
    simp only [Bool.false_eq_true, if_false]
    omega

theorem date_isValid (m : Moment) : m.date.isValid = true := CivilDate.isValid_ofDays _

theorem Regular.ofParts? {m : Moment} (h : m.Regular) :
    ofParts? m.date m.timeOfDay 0 = some m := by
  obtain ⟨hhour, hminute, hsecond, _⟩ := m.timeOfDay_bounds
  have hknown : isYear m.date.year = true := by
    simp only [isYear, Bool.and_eq_true, decide_eq_true_eq]
    exact h.year
  have hsame : CivilDate.ofDays (m.clock / secondsPerDay) = m.date := rfl
  have hnanos : (if m.leap then m.clock + 1 else m.clock) * Span.perSecond + (m.timeOfDay.nanos : Int) =
      m.nanos := by
    simp only [clock, timeOfDay, Span.perSecond]
    split <;> omega
  unfold Moment.ofParts?
  rw [if_neg (by simp [m.date_isValid, hknown]), if_neg (by simp; omega), Int.sub_zero, h.clock_of_parts]
  simp only [hsame, hknown, h.leap_iff, Bool.not_true, Bool.false_eq_true, if_false, hnanos]

/-- A moment reads back from its text. -/
theorem ofText?_toText {m : Moment} (h : m.Regular) : ofText? m.toText = some m := by
  obtain ⟨hhour, hminute, hsecond, hnanos⟩ := m.timeOfDay_bounds
  obtain ⟨hmonth, hday⟩ := CivilDate.le_of_isValid m.date_isValid
  unfold ofText?
  rw [m.toList_toText, date?_text (by omega) (by omega) (noDigit_cons rfl _)]
  simp only [Option.bind_eq_bind, Option.bind_some, separator?]
  rw [time?_text (by omega) (by omega) (by omega) hnanos]
  exact h.ofParts?

end Failover.Moment
