/-
The calendar and its day numbers. A day number has one date, that date exists and has that number;
the date of the next day follows by the lengths of the months, which fixes all numbers from the first
day of 1970.
-/

import CachingGateway.Time.Calendar
import Mathlib.Tactic.IntervalCases

namespace CachingGateway.Date

theorem isLeapYear_iff (year : Int) :
    isLeapYear year = true ↔ year % 4 = 0 ∧ (year % 100 ≠ 0 ∨ year % 400 = 0) := by
  simp [isLeapYear]

/-- The places of a day in its cycle of four hundred years: centuries, groups of four years, years
and days. A leap day ends the last year of its group; the last groups have none, that of the cycle
excepted. -/
structure Placed (dayOfCycle century group year day : Int) : Prop where
  century_nonneg : 0 ≤ century
  century_le : century ≤ 3
  group_nonneg : 0 ≤ group
  group_le : group ≤ 24
  year_nonneg : 0 ≤ year
  year_le : year ≤ 3
  day_nonneg : 0 ≤ day
  day_le : day ≤ 365
  leap : day = 365 → year = 3 ∧ (group = 24 → century = 3)
  total : dayOfCycle = 36524 * century + 1461 * group + 365 * year + day

theorem exists_placed {dayOfCycle : Int} (first : 0 ≤ dayOfCycle) (last : dayOfCycle < 146097) :
    ∃ century group year day, Placed dayOfCycle century group year day := by
  have centuries : ∃ century : Int, 0 ≤ century ∧ century ≤ 3 ∧ 36524 * century ≤ dayOfCycle ∧
      dayOfCycle ≤ 36524 * century + 36524 ∧
      (century < 3 → dayOfCycle < 36524 * century + 36524) :=
    ⟨min (dayOfCycle / 36524) 3, by omega, by omega, by omega, by omega, by omega⟩
  obtain ⟨century, centuryLow, centuryHigh, fromCentury, toCentury, shortCentury⟩ := centuries
  have groups : ∃ group : Int, 0 ≤ group ∧ group ≤ 24 ∧
      36524 * century + 1461 * group ≤ dayOfCycle ∧
      dayOfCycle < 36524 * century + 1461 * group + 1461 :=
    ⟨(dayOfCycle - 36524 * century) / 1461, by omega, by omega, by omega, by omega⟩
  obtain ⟨group, groupLow, groupHigh, fromGroup, toGroup⟩ := groups
  have years : ∃ year : Int, 0 ≤ year ∧ year ≤ 3 ∧
      36524 * century + 1461 * group + 365 * year ≤ dayOfCycle ∧
      dayOfCycle ≤ 36524 * century + 1461 * group + 365 * year + 365 ∧
      (year < 3 → dayOfCycle < 36524 * century + 1461 * group + 365 * year + 365) :=
    ⟨min ((dayOfCycle - 36524 * century - 1461 * group) / 365) 3,
      by omega, by omega, by omega, by omega, by omega⟩
  obtain ⟨year, yearLow, yearHigh, fromYear, toYear, shortYear⟩ := years
  refine ⟨century, group, year, dayOfCycle - 36524 * century - 1461 * group - 365 * year, ?_⟩
  constructor <;> omega

theorem exists_split (number : Int) :
    ∃ cycle dayOfCycle century group year day,
      number + 719468 = 146097 * cycle + dayOfCycle ∧
        Placed dayOfCycle century group year day := by
  have within : 0 ≤ (number + 719468) % 146097 ∧ (number + 719468) % 146097 < 146097 := by omega
  obtain ⟨century, group, year, day, placed⟩ := exists_placed within.1 within.2
  exact ⟨(number + 719468) / 146097, _, century, group, year, day, by omega, placed⟩

namespace Placed

variable {dayOfCycle century group year day : Int}

/-- Dropping the days that the leap years before a day have added leaves years of one length. -/
theorem yearOfCycle (placed : Placed dayOfCycle century group year day) :
    (dayOfCycle - dayOfCycle / 1460 + dayOfCycle / 36524 - dayOfCycle / 146096) / 365 =
      100 * century + 4 * group + year := by
  obtain ⟨_, _, _, _, _, _, _, _, leap, total⟩ := placed
  have centuries : dayOfCycle / 36524 - dayOfCycle / 146096 = century := by
    by_cases last : dayOfCycle = 146096
    · omega
    · have within : dayOfCycle < 36524 * century + 36524 := by
        by_cases full : day = 365
        · obtain ⟨_, inLast⟩ := leap full
          by_cases lastGroup : group = 24
          · have := inLast lastGroup
            omega
          · omega
        · omega
      omega
  by_cases late : 1460 ≤ 24 * century + group + 365 * year + day
  · have groups : dayOfCycle / 1460 = 25 * century + group + 1 := by omega
    omega
  · have groups : dayOfCycle / 1460 = 25 * century + group := by omega
    omega

theorem dayOfYear {yearOfCycle : Int} (placed : Placed dayOfCycle century group year day)
    (reckoned : yearOfCycle = 100 * century + 4 * group + year) :
    dayOfCycle - (365 * yearOfCycle + yearOfCycle / 4 - yearOfCycle / 100) = day := by
  obtain ⟨_, _, _, _, _, _, _, _, _, total⟩ := placed
  have leaps : yearOfCycle / 4 = 25 * century + group := by omega
  have skipped : yearOfCycle / 100 = century := by omega
  omega

theorem isLeapYear (placed : Placed dayOfCycle century group year day) (full : day = 365)
    (cycle : Int) :
    Date.isLeapYear (100 * century + 4 * group + year + cycle * 400 + 1) = true := by
  obtain ⟨_, _, _, _, _, _, _, _, leap, _⟩ := placed
  obtain ⟨lastYear, inLast⟩ := leap full
  rw [isLeapYear_iff]
  refine ⟨by omega, ?_⟩
  by_cases lastGroup : group = 24
  · have lastCentury := inLast lastGroup
    omega
  · have rest : (100 * century + 4 * group + year + cycle * 400 + 1) % 100 = 4 * group + 4 := by
      omega
    omega

end Placed

theorem ofDayNumber_eq {number cycle dayOfCycle century group year day yearOfCycle month : Int}
    (split : number + 719468 = 146097 * cycle + dayOfCycle)
    (placed : Placed dayOfCycle century group year day)
    (reckoned : yearOfCycle = 100 * century + 4 * group + year)
    (named : month = (5 * day + 2) / 153) :
    ofDayNumber number =
      ⟨yearOfCycle + cycle * 400 + if month < 10 then 0 else 1,
        (if month < 10 then month + 3 else month - 9).toNat,
        (day - (153 * month + 2) / 5 + 1).toNat⟩ := by
  have within : 0 ≤ dayOfCycle ∧ dayOfCycle < 146097 := by
    obtain ⟨_, _, _, _, _, _, _, _, leap, total⟩ := placed
    omega
  have cycles : (number + 719468) / 146097 = cycle := by omega
  have rest : (number + 719468) % 146097 = dayOfCycle := by omega
  have years := placed.yearOfCycle
  have days := placed.dayOfYear reckoned
  have months : 0 ≤ month ∧ month ≤ 11 := by
    have := placed.day_nonneg
    have := placed.day_le
    omega
  simp only [ofDayNumber, cycles, rest, years, ← reckoned, days, ← named]
  by_cases early : month < 10
  · rw [if_pos early, if_pos early, if_neg (by omega), Int.add_zero]
  · rw [if_neg early, if_neg early, if_pos (by omega)]

/-- The months counted from March are as long as the calendar says. The last of them has its leap
day only before the end of a long year. -/
theorem day_le_daysInMonth {day month : Int} (first : 0 ≤ day) (last : day ≤ 365)
    (named : month = (5 * day + 2) / 153) (year : Int)
    (leap : day = 365 → isLeapYear (year + 1) = true) :
    (day - (153 * month + 2) / 5 + 1).toNat ≤
      daysInMonth (year + if month < 10 then 0 else 1)
        (if month < 10 then month + 3 else month - 9).toNat := by
  have low : 0 ≤ month := by omega
  have high : month ≤ 11 := by omega
  by_cases february : month = 11
  · subst february
    by_cases full : day = 365
    · simp [daysInMonth, leap full, full]
    · simp only [daysInMonth]
      norm_num
      split <;> omega
  · interval_cases month <;> simp [daysInMonth] <;> omega

theorem isValid_ofDayNumber {number : Int} (within : yearInRange (ofDayNumber number).year) :
    (ofDayNumber number).isValid = true := by
  obtain ⟨cycle, dayOfCycle, century, group, year, day, split, placed⟩ := exists_split number
  have length := day_le_daysInMonth placed.day_nonneg placed.day_le rfl
    (100 * century + 4 * group + year + cycle * 400) fun full => placed.isLeapYear full cycle
  rw [ofDayNumber_eq split placed rfl rfl] at within ⊢
  simp only [isValid, within, length, Bool.true_and, Bool.and_eq_true, decide_eq_true_eq, and_true]
  have := placed.day_nonneg
  have := placed.day_le
  refine ⟨⟨?_, ?_⟩, ?_⟩
  · split <;> omega
  · split <;> omega
  · omega

theorem dayNumber_ofMarch (year : Int) {month : Nat} (within : month ≤ 11) (day : Nat) :
    dayNumber ⟨year + if month < 10 then 0 else 1, if month < 10 then month + 3 else month - 9,
      day⟩ =
      year / 400 * 146097 + (year % 400 * 365 + year % 400 / 4 - year % 400 / 100 +
        (((153 * month + 2) / 5 + day : Nat) - 1)) - 719468 := by
  by_cases early : month < 10
  · have fromMarch : (month + 3 + 9) % 12 = month := by omega
    simp only [dayNumber, if_pos early, if_neg (show ¬ month + 3 ≤ 2 by omega), fromMarch,
      Int.add_zero]
  · have fromMarch : (month - 9 + 9) % 12 = month := by omega
    simp only [dayNumber, if_neg early, if_pos (show month - 9 ≤ 2 by omega), fromMarch,
      Int.add_sub_cancel]

theorem dayNumber_ofDayNumber (number : Int) : (ofDayNumber number).dayNumber = number := by
  obtain ⟨cycle, dayOfCycle, century, group, year, day, split, placed⟩ := exists_split number
  obtain ⟨yearOfCycle, reckoned⟩ : ∃ years, years = 100 * century + 4 * group + year := ⟨_, rfl⟩
  obtain ⟨month, named⟩ : ∃ month : Nat, (month : Int) = (5 * day + 2) / 153 :=
    ⟨((5 * day + 2) / 153).toNat, by have := placed.day_nonneg; omega⟩
  have last : month ≤ 11 := by
    have := placed.day_le
    omega
  have fromMarch := dayNumber_ofMarch (yearOfCycle + cycle * 400) last
    (day - (153 * month + 2) / 5 + 1).toNat
  have within : 0 ≤ yearOfCycle ∧ yearOfCycle < 400 := by
    obtain ⟨_, _, _, _, _, _, _, _, _, _⟩ := placed
    omega
  have cycles : (yearOfCycle + cycle * 400) / 400 = cycle := by omega
  have years : (yearOfCycle + cycle * 400) % 400 = yearOfCycle := by omega
  rw [cycles, years] at fromMarch
  have rewritten : ofDayNumber number =
      ⟨yearOfCycle + cycle * 400 + if month < 10 then 0 else 1,
        if month < 10 then month + 3 else month - 9,
        (day - (153 * month + 2) / 5 + 1).toNat⟩ := by
    rw [ofDayNumber_eq split placed reckoned named]
    by_cases early : month < 10
    · have : (month : Int) < 10 := by omega
      simp only [if_pos early, if_pos this]
      congr 1
    · have : ¬ (month : Int) < 10 := by omega
      simp only [if_neg early, if_neg this]
      congr 1
      omega
  rw [rewritten, fromMarch]
  have := placed.dayOfYear reckoned
  have := placed.day_nonneg
  omega

theorem bounds_of_isValid {date : Date} (valid : date.isValid = true) :
    1 ≤ date.month ∧ date.month ≤ 12 ∧ 1 ≤ date.day ∧ date.day ≤ 31 := by
  simp only [isValid, Bool.and_eq_true, decide_eq_true_eq] at valid
  obtain ⟨⟨⟨⟨_, firstMonth⟩, lastMonth⟩, firstDay⟩, lastDay⟩ := valid
  have longest : daysInMonth date.year date.month ≤ 31 := by
    unfold daysInMonth
    split
    · split <;> decide
    · split <;> decide
  omega

theorem day_bounds_of_yearInRange {number : Int}
    (within : yearInRange (ofDayNumber number).year = true) :
    -100000000 < number ∧ number < 100000000 := by
  have bounds := bounds_of_isValid (isValid_ofDayNumber within)
  have counted := dayNumber_ofDayNumber number
  simp only [yearInRange, Bool.and_eq_true, decide_eq_true_eq] at within
  simp only [dayNumber] at counted
  split at counted <;> omega

theorem weekday_lt (day : Int) : weekday day < 7 := by
  rw [weekday]
  omega

def next (date : Date) : Date :=
  if date.day < daysInMonth date.year date.month then { date with day := date.day + 1 }
  else if date.month < 12 then ⟨date.year, date.month + 1, 1⟩
  else ⟨date.year + 1, 1, 1⟩

theorem dayNumber_firstDay : dayNumber ⟨1970, 1, 1⟩ = 0 :=
  rfl

theorem dayNumber_of_day (year : Int) (month day : Nat) :
    dayNumber ⟨year, month, day⟩ = dayNumber ⟨year, month, 1⟩ + day - 1 := by
  simp only [dayNumber]
  omega

theorem dayNumber_nextMonth (year : Int) {month : Nat} (first : 1 ≤ month) (last : month < 12) :
    dayNumber ⟨year, month + 1, 1⟩ = dayNumber ⟨year, month, 1⟩ + daysInMonth year month := by
  by_cases february : month = 2
  · subst february
    by_cases leap : isLeapYear year
    · have divided := (isLeapYear_iff year).mp leap
      simp only [dayNumber, daysInMonth, leap]
      norm_num
      omega
    · have undivided := (isLeapYear_iff year).not.mp leap
      simp only [dayNumber, daysInMonth, leap]
      norm_num
      omega
  · interval_cases month <;> simp [dayNumber, daysInMonth] at february ⊢ <;> omega

theorem dayNumber_nextYear (year : Int) :
    dayNumber ⟨year + 1, 1, 1⟩ = dayNumber ⟨year, 12, 1⟩ + daysInMonth year 12 := by
  simp only [dayNumber, daysInMonth]
  norm_num
  omega

/-- Each day has the number after that of the day before it. -/
theorem dayNumber_next {date : Date} (valid : date.isValid = true) :
    date.next.dayNumber = date.dayNumber + 1 := by
  obtain ⟨year, month, day⟩ := date
  simp only [isValid, Bool.and_eq_true, decide_eq_true_eq] at valid
  obtain ⟨⟨⟨⟨_, firstMonth⟩, lastMonth⟩, firstDay⟩, lastDay⟩ := valid
  have counted := dayNumber_of_day year month day
  unfold next
  by_cases within : day < daysInMonth year month
  · have later := dayNumber_of_day year month (day + 1)
    rw [if_pos within, later, counted]
    omega
  · have atEnd : day = daysInMonth year month := by omega
    rw [if_neg within]
    by_cases more : month < 12
    · rw [if_pos more, dayNumber_nextMonth year firstMonth more]
      omega
    · have december : month = 12 := by omega
      subst december
      have new := dayNumber_nextYear year
      rw [if_neg more, new]
      omega

end CachingGateway.Date
