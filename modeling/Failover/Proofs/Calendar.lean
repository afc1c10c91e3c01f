import Mathlib.Tactic.IntervalCases
import Mathlib.Tactic.Ring
import Failover.Moment.Basic

-- The calendar counts days both ways: the date of a day exists, and it stands for
-- that day.

namespace Failover.CivilDate

/-! ## Eras of four hundred years -/

/-- A day of an era by centuries, by cycles of four years and by years. Years have
365 days; the last of a cycle has one more, but not the last of a century, unless
it is the last of the era. -/
structure Counted (day century cycle year rest : Int) : Prop where
  sum : day = 36524 * century + 1461 * cycle + 365 * year + rest
  centuryRange : 0 ≤ century ∧ century ≤ 3
  cycleRange : 0 ≤ cycle ∧ cycle ≤ 24
  yearRange : 0 ≤ year ∧ year ≤ 3
  restRange : 0 ≤ rest ∧ rest ≤ 365
  leap : rest = 365 → year = 3 ∧ (cycle = 24 → century = 3)

theorem counted_of_era {day : Int} (h0 : 0 ≤ day) (h1 : day < 146097) :
    ∃ century cycle year rest, Counted day century cycle year rest := by
  by_cases hlast : day = 146096
  · exact ⟨3, 24, 3, 365, by omega, by omega, by omega, by omega, by omega, by omega⟩
  · obtain ⟨ofCentury, hofCentury⟩ : ∃ x, x = day % 36524 := ⟨_, rfl⟩
    obtain ⟨ofCycle, hofCycle⟩ : ∃ x, x = ofCentury % 1461 := ⟨_, rfl⟩
    -- the last year of a cycle takes the day that is over
    by_cases hover : ofCycle = 1460
    · exact ⟨day / 36524, ofCentury / 1461, 3, 365, by omega, by omega, by omega, by omega,
        by omega, by omega⟩
    · exact ⟨day / 36524, ofCentury / 1461, ofCycle / 365, ofCycle % 365, by omega, by omega,
        by omega, by omega, by omega, by omega⟩

variable {day century cycle year rest : Int}

/-- A cycle is taken for 1460 days. What all cycles leave over makes one more day at
most, and that day comes off the rest of the year. -/
theorem Counted.more (h : Counted day century cycle year rest) :
    ∃ more, day / 1460 = 25 * century + cycle + more ∧ 0 ≤ rest - more ∧ rest - more ≤ 364 := by
  obtain ⟨rfl, hcentury, hcycle, hyear, hrest, hleap⟩ := h
  obtain ⟨more, hmore⟩ : ∃ more, more = (24 * century + cycle + 365 * year + rest) / 1460 :=
    ⟨_, rfl⟩
  refine ⟨more, by omega, ?_⟩
  have hone : more = 0 ∨ more = 1 := by omega
  rcases hone with rfl | rfl
  · omega
  · omega

theorem Counted.centuries (h : Counted day century cycle year rest) :
    day / 36524 - day / 146096 = century := by
  obtain ⟨hsum, hcentury, hcycle, hyear, hrest, hleap⟩ := h
  -- the last day of an era is the one that makes a fifth century
  by_cases hlast : day = 146096
  · omega
  · have hfull : ¬ rest = 365 ∨ ¬ cycle = 24 ∨ ¬ year = 3 := by omega
    have hshort : 1461 * cycle + 365 * year + rest < 36524 := by
      clear hsum hlast
      omega
    omega

/-- The formula for the year of an era counts the years. -/
theorem Counted.years (h : Counted day century cycle year rest) :
    (day - day / 1460 + day / 36524 - day / 146096) / 365 =
      100 * century + 4 * cycle + year := by
  obtain ⟨more, hmore, hbegun⟩ := h.more
  have hsum : day - day / 1460 + day / 36524 - day / 146096 =
      365 * (100 * century + 4 * cycle + year) + (rest - more) := by
    calc day - day / 1460 + day / 36524 - day / 146096
        = day - day / 1460 + (day / 36524 - day / 146096) := by ring
      _ = day - (25 * century + cycle + more) + century := by rw [hmore, h.centuries]
      _ = 365 * (100 * century + 4 * cycle + year) + (rest - more) := by rw [h.sum]; ring
  rw [hsum]
  clear hmore hsum
  omega

/-- The day of the year that the formula leaves. -/
theorem Counted.days (h : Counted day century cycle year rest) {count : Int}
    (hcount : count = 100 * century + 4 * cycle + year) :
    day - (365 * count + count / 4 - count / 100) = rest := by
  obtain ⟨hsum, hcentury, hcycle, hyear, _, _⟩ := h
  have hquarter : count / 4 = 25 * century + cycle := by omega
  have hhundred : count / 100 = century := by omega
  rw [hquarter, hhundred, hcount, hsum]
  ring

/-- The year of an era in which a day lies, and the day of that year. The 366th day
is the leap day of the year that it ends in. -/
theorem year_of_era {day year rest : Int} (h0 : 0 ≤ day) (h1 : day < 146097)
    (hyear : year = (day - day / 1460 + day / 36524 - day / 146096) / 365)
    (hrest : rest = day - (365 * year + year / 4 - year / 100)) :
    (0 ≤ year ∧ year ≤ 399) ∧ (0 ≤ rest ∧ rest ≤ 365) ∧
      (rest = 365 → (year + 1) % 4 = 0 ∧ ((year + 1) % 100 ≠ 0 ∨ (year + 1) % 400 = 0)) := by
  obtain ⟨century, cycle, ofCycle, left, hday⟩ := counted_of_era h0 h1
  rw [hday.years] at hyear
  rw [hday.days hyear] at hrest
  obtain ⟨_, hcentury, hcycle, hofCycle, hleft, hleap⟩ := hday
  refine ⟨by omega, by omega, fun hfull => ?_⟩
  obtain ⟨hlast, hera⟩ := hleap (hrest.symm.trans hfull)
  omega

/-! ## Months -/

/-- A month of a year that begins in March, as the number of a month. -/
theorem month_of_year {rest month : Int} (h0 : 0 ≤ rest) (h1 : rest ≤ 365)
    (hmonth : month = (5 * rest + 2) / 153) :
    (0 ≤ month ∧ month ≤ 11) ∧ (153 * month + 2) / 5 ≤ rest ∧
      5 * rest + 2 < 153 * (month + 1) := by
  omega

theorem isLeapYear_iff {year : Int} :
    isLeapYear year = true ↔ year % 4 = 0 ∧ (year % 100 ≠ 0 ∨ year % 400 = 0) := by
  simp [isLeapYear]

/-- The date of a day of a month of a year that begins in March. -/
def ofMonth (year month rest : Int) : CivilDate :=
  let shown := if month < 10 then month + 3 else month - 9
  ⟨if shown ≤ 2 then year + 1 else year, shown.toNat, (rest - (153 * month + 2) / 5 + 1).toNat⟩

section Months

variable {year month rest : Int} (h0 : 0 ≤ month) (h11 : month ≤ 11)
  (hbegun : (153 * month + 2) / 5 ≤ rest)

include h0 h11 hbegun

/-- Such a day exists, and the 29th of February exists in a leap year. -/
theorem isValid_ofMonth (hover : 5 * rest + 2 < 153 * (month + 1)) (hrest : rest ≤ 365)
    (hleap : rest = 365 → isLeapYear (year + 1) = true) :
    (ofMonth year month rest).isValid = true := by
  by_cases hfebruary : month = 11
  · subst hfebruary
    by_cases hlast : rest = 365
    · simp [ofMonth, isValid, daysInMonth, hlast, hleap hlast]
    · cases hyear : isLeapYear (year + 1) <;> simp [ofMonth, isValid, daysInMonth, hyear] <;> omega
  · interval_cases month <;> simp [ofMonth, isValid, daysInMonth] <;> omega

theorem toDays_ofMonth :
    (ofMonth year month rest).toDays =
      year / 400 * 146097 +
        (year % 400 * 365 + year % 400 / 4 - year % 400 / 100 + rest) - 719468 := by
  have hday : ((rest - (153 * month + 2) / 5 + 1).toNat : Int) = rest - (153 * month + 2) / 5 + 1 := by
    omega
  unfold ofMonth toDays
  by_cases hmonth : month < 10
  · -- March to December
    have hnumber : ((month + 3).toNat : Int) = month + 3 := by omega
    have hshown : ¬ month + 3 ≤ 2 := by omega
    have hlow : ¬ (month + 3).toNat ≤ 2 := by omega
    have hhigh : (month + 3).toNat > 2 := by omega
    simp only [if_pos hmonth, if_neg hshown, if_neg hlow, if_pos hhigh, hnumber, hday]
    ring_nf
  · -- January and February belong to the year before
    have hnumber : ((month - 9).toNat : Int) = month - 9 := by omega
    have hshown : month - 9 ≤ 2 := by omega
    have hlow : (month - 9).toNat ≤ 2 := by omega
    have hhigh : ¬ (month - 9).toNat > 2 := by omega
    simp only [if_neg hmonth, if_pos hshown, if_pos hlow, if_neg hhigh, hnumber, hday]
    ring_nf

end Months

/-! ## Dates -/

theorem le_of_isValid {d : CivilDate} (h : d.isValid = true) : d.month ≤ 12 ∧ d.day ≤ 31 := by
  simp only [isValid, Bool.and_eq_true, decide_eq_true_eq] at h
  have hmost : daysInMonth d.year d.month ≤ 31 := by
    unfold daysInMonth
    split
    · split <;> omega
    all_goals omega
  omega

/-- The date of a day by its era, its year and its month. -/
theorem ofDays_eq (days : Int) :
    ∃ era year month rest : Int, ofDays days = ofMonth (year + era * 400) month rest ∧
      (0 ≤ year ∧ year ≤ 399) ∧ (0 ≤ month ∧ month ≤ 11) ∧ (153 * month + 2) / 5 ≤ rest ∧
      5 * rest + 2 < 153 * (month + 1) ∧ rest ≤ 365 ∧
      (rest = 365 → isLeapYear (year + era * 400 + 1) = true) ∧
      days = era * 146097 + (year * 365 + year / 4 - year / 100 + rest) - 719468 := by
  obtain ⟨day, hday⟩ : ∃ day, day = (days + 719468) % 146097 := ⟨_, rfl⟩
  obtain ⟨year, hyear⟩ : ∃ year, year = (day - day / 1460 + day / 36524 - day / 146096) / 365 :=
    ⟨_, rfl⟩
  obtain ⟨rest, hrest⟩ : ∃ rest, rest = day - (365 * year + year / 4 - year / 100) := ⟨_, rfl⟩
  obtain ⟨hyears, hrests, hleap⟩ := year_of_era (by omega) (by omega) hyear hrest
  obtain ⟨hmonth, hbegun, hover⟩ := month_of_year hrests.1 hrests.2 rfl
  refine ⟨(days + 719468) / 146097, year, (5 * rest + 2) / 153, rest, ?_, hyears, hmonth, hbegun,
    hover, hrests.2, fun hfull => ?_, ?_⟩
  · rw [hrest, hyear, hday]
    rfl
  · have := hleap hfull
    rw [isLeapYear_iff]
    omega
  · clear hyear
    omega

theorem isValid_ofDays (days : Int) : (ofDays days).isValid = true := by
  obtain ⟨era, year, month, rest, hdate, _, hmonth, hbegun, hover, hrest, hleap, _⟩ := ofDays_eq days
  rw [hdate]
  exact isValid_ofMonth hmonth.1 hmonth.2 hbegun hover hrest hleap

theorem toDays_ofDays (days : Int) : (ofDays days).toDays = days := by
  obtain ⟨era, year, month, rest, hdate, hyear, hmonth, hbegun, _, _, _, hdays⟩ := ofDays_eq days
  have hera : (year + era * 400) / 400 = era := by omega
  have hyear : (year + era * 400) % 400 = year := by omega
  rw [hdate, toDays_ofMonth hmonth.1 hmonth.2 hbegun, hera, hyear]
  exact hdays.symm

end Failover.CivilDate
