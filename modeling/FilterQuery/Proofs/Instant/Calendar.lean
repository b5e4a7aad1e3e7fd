import FilterQuery.Instant.Calendar
import Mathlib.Algebra.BigOperators.Group.List.Basic
import Mathlib.Algebra.Order.Group.Int
import Mathlib.Logic.Function.Iterate
import Mathlib.Order.Monotone.Basic
import Mathlib.Tactic.IntervalCases

/-!
# Counting days

Which dates there are is said once more without a table of months (`Date.IsGregorian`), and a date
occurs exactly if there is such a date.

Day numbers are computed from a formula for the years and a sum over the months. That they count
days is said without either: `Date.tomorrow` goes from one day to the next, and the day number of a
date is the number of days between it and the first of January 1970 on the way from day to day.

Going on by one day adds one to the day number, and no two dates share a day number. The second
holds because the days before a year and the days before a month only grow.
-/

namespace FilterQuery

open Calendar

/-- There is such a date in the Gregorian calendar. -/
structure Date.IsGregorian (date : Date) : Prop where
  month : 1 ≤ date.month ∧ date.month ≤ 12
  day : 1 ≤ date.day ∧ date.day ≤ 31
  short : date.month ∈ [4, 6, 9, 11] → date.day ≤ 30
  february : date.month = 2 → date.day ≤ 29
  leap : date.month = 2 → date.day = 29 →
    (date.year % 4 = 0 ∧ date.year % 100 ≠ 0) ∨ date.year % 400 = 0

theorem Calendar.isLeap_iff {year : Int} :
    isLeap year = true ↔ (year % 4 = 0 ∧ year % 100 ≠ 0) ∨ year % 400 = 0 := by
  simp [isLeap]

theorem Calendar.le_daysInMonth_iff {year : Int} {month day : Nat} (first : 1 ≤ month)
    (last : month ≤ 12) :
    day ≤ daysInMonth year month ↔ day ≤ 31 ∧ (month ∈ [4, 6, 9, 11] → day ≤ 30) ∧
      (month = 2 → day ≤ 29) ∧ (month = 2 → day = 29 → isLeap year = true) := by
  cases leap : isLeap year <;> interval_cases month <;> simp [daysInMonth, leap] <;> omega

theorem Date.occurs_iff {date : Date} :
    date.occurs = true ↔ (1 ≤ date.month ∧ date.month ≤ 12) ∧
      1 ≤ date.day ∧ date.day ≤ daysInMonth date.year date.month := by
  simp [Date.occurs, and_assoc]

theorem Date.occurs_iff_isGregorian {date : Date} : date.occurs = true ↔ date.IsGregorian := by
  rw [Date.occurs_iff]
  constructor
  · rintro ⟨month, positive, inMonth⟩
    obtain ⟨atMost, short, february, leap⟩ := (le_daysInMonth_iff month.1 month.2).mp inMonth
    exact ⟨month, ⟨positive, atMost⟩, short, february, fun isFebruary leapDay =>
      isLeap_iff.mp (leap isFebruary leapDay)⟩
  · rintro ⟨month, ⟨positive, atMost⟩, short, february, leap⟩
    exact ⟨month, positive, (le_daysInMonth_iff month.1 month.2).mpr
      ⟨atMost, short, february, fun isFebruary leapDay =>
        isLeap_iff.mpr (leap isFebruary leapDay)⟩⟩

instance (date : Date) : Decidable date.IsGregorian :=
  decidable_of_iff _ Date.occurs_iff_isGregorian

/-- The day after a date: the next of the month, or the first of the next month, or the first of
January. -/
def Date.tomorrow (date : Date) : Date :=
  if Date.IsGregorian { date with day := date.day + 1 } then { date with day := date.day + 1 }
  else if date.month < 12 then ⟨date.year, date.month + 1, 1⟩
  else ⟨date.year + 1, 1, 1⟩

/-- From the date `first` it is `days` days to the date `second`. A negative number of days leads
back. -/
def Date.DaysApart (first : Date) (days : Int) (second : Date) : Prop :=
  Date.tomorrow^[days.toNat] first = Date.tomorrow^[(-days).toNat] second

namespace Calendar

section Years

/-- The number of days of a year. -/
def daysInYear (year : Int) : Nat := if isLeap year then 366 else 365

theorem daysBeforeYear_succ (year : Int) :
    daysBeforeYear (year + 1) = daysBeforeYear year + daysInYear year := by
  unfold daysBeforeYear daysInYear
  by_cases leap : isLeap year = true
  · rw [if_pos leap]
    rw [isLeap_iff] at leap
    omega
  · rw [if_neg leap]
    rw [isLeap_iff] at leap
    omega

theorem daysBeforeYear_mono {first second : Int} (notLater : first ≤ second) :
    daysBeforeYear first ≤ daysBeforeYear second := by
  have step : ∀ year, daysBeforeYear year ≤ daysBeforeYear (year + 1) := by
    intro year
    rw [daysBeforeYear_succ]
    omega
  exact monotone_int_of_le_succ step notLater

end Years

section Months

variable {year : Int} {month : Nat}

theorem daysInMonth_pos (first : 1 ≤ month) (last : month ≤ 12) : 0 < daysInMonth year month := by
  cases leap : isLeap year <;> interval_cases month <;> simp [daysInMonth, leap]

theorem daysBeforeMonth_eq_sum (year : Int) (month : Nat) :
    daysBeforeMonth year month =
      ((List.range (month - 1)).map fun earlier => daysInMonth year (earlier + 1)).sum := by
  simp [daysBeforeMonth, List.sum, List.foldr_map]

theorem daysBeforeMonth_succ (year : Int) (first : 1 ≤ month) :
    daysBeforeMonth year (month + 1) = daysBeforeMonth year month + daysInMonth year month := by
  obtain ⟨earlier, rfl⟩ := Nat.exists_eq_add_of_le' first
  rw [daysBeforeMonth_eq_sum, daysBeforeMonth_eq_sum]
  exact List.sum_range_succ _ earlier

theorem daysBeforeMonth_mono (year : Int) {first second : Nat} (notLater : first ≤ second) :
    daysBeforeMonth year first ≤ daysBeforeMonth year second := by
  have step : ∀ month, daysBeforeMonth year month ≤ daysBeforeMonth year (month + 1) := by
    intro month
    rcases Nat.eq_zero_or_pos month with rfl | positive
    · exact Nat.le_refl _
    · rw [daysBeforeMonth_succ year positive]
      exact Nat.le_add_right _ _
  exact monotone_nat_of_le_succ step notLater

/-- The days of the twelve months are the days of the year. -/
theorem daysBeforeMonth_thirteen (year : Int) : daysBeforeMonth year 13 = daysInYear year := by
  rw [daysInYear]
  have february : daysBeforeMonth year 13 = 337 + daysInMonth year 2 := by
    simp [daysBeforeMonth_eq_sum, List.range_succ, daysInMonth]
    omega
  rw [february, daysInMonth]
  split <;> rfl

end Months

section Days

variable {date : Date}

/-- The first of January 1970. -/
def firstDay : Date := ⟨1970, 1, 1⟩

theorem dayNumber_firstDay : dayNumber firstDay = 0 := by decide

theorem occurs_tomorrow (occurs : date.occurs = true) : date.tomorrow.occurs = true := by
  obtain ⟨⟨first, last⟩, positive, inMonth⟩ := Date.occurs_iff.mp occurs
  rw [Date.occurs_iff, Date.tomorrow]
  split
  · next within => exact Date.occurs_iff.mp (Date.occurs_iff_isGregorian.mpr within)
  · split
    · next earlier =>
      exact ⟨⟨Nat.le_add_left 1 _, earlier⟩, Nat.le_refl 1,
        daysInMonth_pos (Nat.le_add_left 1 _) earlier⟩
    · have january : 1 ≤ 12 := by decide
      exact ⟨⟨Nat.le_refl 1, january⟩, Nat.le_refl 1, daysInMonth_pos (Nat.le_refl 1) january⟩

/-- Going on by one day adds one to the day number, also at the end of a month or a year. -/
theorem dayNumber_tomorrow (occurs : date.occurs = true) :
    dayNumber date.tomorrow = dayNumber date + 1 := by
  obtain ⟨⟨first, last⟩, positive, inMonth⟩ := Date.occurs_iff.mp occurs
  have month := daysBeforeMonth_succ date.year first
  rw [Date.tomorrow]
  split
  · simp only [dayNumber]
    omega
  · next monthEnds =>
    have last : date.day = daysInMonth date.year date.month := by
      by_contra more
      have nextDay : 1 ≤ date.day + 1 ∧ date.day + 1 ≤ daysInMonth date.year date.month := by
        omega
      exact monthEnds <| Date.occurs_iff_isGregorian.mp <|
        Date.occurs_iff.mpr ⟨⟨first, last⟩, nextDay⟩
    split
    · simp only [dayNumber, month, last]
      omega
    · have december : date.month = 12 := by omega
      have year := daysBeforeYear_succ date.year
      have none : daysBeforeMonth (date.year + 1) 1 = 0 := rfl
      rw [december, daysBeforeMonth_thirteen] at month
      simp only [dayNumber, none, last, december]
      omega

theorem occurs_iterate_tomorrow (occurs : date.occurs = true) (count : Nat) :
    (Date.tomorrow^[count] date).occurs = true := by
  induction count with
  | zero => exact occurs
  | succ count inductionHypothesis =>
    rw [Function.iterate_succ_apply']
    exact occurs_tomorrow inductionHypothesis

theorem dayNumber_iterate_tomorrow (occurs : date.occurs = true) (count : Nat) :
    dayNumber (Date.tomorrow^[count] date) = dayNumber date + count := by
  induction count with
  | zero => simp
  | succ count inductionHypothesis =>
    rw [Function.iterate_succ_apply', dayNumber_tomorrow (occurs_iterate_tomorrow occurs count),
      inductionHypothesis]
    omega

/-- A later year has only larger day numbers. -/
theorem year_le_of_dayNumber_le {first second : Date} (firstOccurs : first.occurs = true)
    (secondOccurs : second.occurs = true) (notLater : dayNumber first ≤ dayNumber second) :
    first.year ≤ second.year := by
  by_contra later
  obtain ⟨⟨secondFirst, secondLast⟩, -, inMonth⟩ := Date.occurs_iff.mp secondOccurs
  obtain ⟨-, positive, -⟩ := Date.occurs_iff.mp firstOccurs
  have years := daysBeforeYear_mono (show second.year + 1 ≤ first.year by omega)
  rw [daysBeforeYear_succ] at years
  have months := daysBeforeMonth_mono second.year (show second.month + 1 ≤ 13 by omega)
  rw [daysBeforeMonth_succ _ secondFirst, daysBeforeMonth_thirteen] at months
  simp only [dayNumber] at notLater
  omega

/-- Within a year, a later month has only larger day numbers. -/
theorem month_le_of_dayNumber_le {first second : Date} (firstOccurs : first.occurs = true)
    (secondOccurs : second.occurs = true) (sameYear : first.year = second.year)
    (notLater : dayNumber first ≤ dayNumber second) : first.month ≤ second.month := by
  by_contra later
  obtain ⟨⟨secondFirst, -⟩, -, inMonth⟩ := Date.occurs_iff.mp secondOccurs
  obtain ⟨-, positive, -⟩ := Date.occurs_iff.mp firstOccurs
  have months := daysBeforeMonth_mono second.year (show second.month + 1 ≤ first.month by omega)
  rw [daysBeforeMonth_succ _ secondFirst] at months
  simp only [dayNumber, sameYear] at notLater
  omega

/-- No two dates share a day number. -/
theorem eq_of_dayNumber_eq {first second : Date} (firstOccurs : first.occurs = true)
    (secondOccurs : second.occurs = true) (same : dayNumber first = dayNumber second) :
    first = second := by
  have sameYear : first.year = second.year :=
    Int.le_antisymm (year_le_of_dayNumber_le firstOccurs secondOccurs same.le)
      (year_le_of_dayNumber_le secondOccurs firstOccurs same.ge)
  have sameMonth : first.month = second.month :=
    Nat.le_antisymm (month_le_of_dayNumber_le firstOccurs secondOccurs sameYear same.le)
      (month_le_of_dayNumber_le secondOccurs firstOccurs sameYear.symm same.ge)
  have sameDay : first.day = second.day := by
    simp only [dayNumber, sameYear, sameMonth] at same
    omega
  obtain ⟨year, month, day⟩ := first
  obtain rfl : year = second.year := sameYear
  obtain rfl : month = second.month := sameMonth
  obtain rfl : day = second.day := sameDay
  rfl

/-- The day number of a date is the number of days from the first of January 1970 to it. -/
theorem daysApart_iff (occurs : date.occurs = true) {days : Int} :
    firstDay.DaysApart days date ↔ days = dayNumber date := by
  have firstOccurs : firstDay.occurs = true := by decide
  have ahead := dayNumber_iterate_tomorrow firstOccurs days.toNat
  have back := dayNumber_iterate_tomorrow occurs (-days).toNat
  rw [dayNumber_firstDay] at ahead
  constructor
  · intro meet
    rw [Date.DaysApart] at meet
    rw [meet] at ahead
    omega
  · rintro rfl
    refine eq_of_dayNumber_eq (occurs_iterate_tomorrow firstOccurs _)
      (occurs_iterate_tomorrow occurs _) ?_
    omega

end Days

end Calendar

end FilterQuery
