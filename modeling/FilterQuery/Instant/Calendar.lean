/-!
# The calendar

Dates of the proleptic Gregorian calendar and their day numbers, counted from the first of January
1970.
-/

namespace FilterQuery

/-- A calendar date. -/
structure Date where
  year : Int
  month : Nat
  day : Nat
deriving DecidableEq, Repr

namespace Calendar

/-- Whether a year has a leap day. -/
def isLeap (year : Int) : Bool := (year % 4 == 0 && year % 100 != 0) || year % 400 == 0

/-- The number of days of a month, none for a month that does not exist. -/
def daysInMonth (year : Int) (month : Nat) : Nat :=
  match month with
  | 1 | 3 | 5 | 7 | 8 | 10 | 12 => 31
  | 4 | 6 | 9 | 11 => 30
  | 2 => if isLeap year then 29 else 28
  | _ => 0

/-- The days from the start of the year zero to the start of a year. -/
def daysBeforeYear (year : Int) : Int :=
  365 * year + (year + 3) / 4 - (year + 99) / 100 + (year + 399) / 400

/-- The days of a year before the start of a month. -/
def daysBeforeMonth (year : Int) (month : Nat) : Nat :=
  (List.range (month - 1)).foldr (fun earlier days => daysInMonth year (earlier + 1) + days) 0

/-- The days from the start of the year zero to the first of January 1970. -/
def epoch : Int := 719528

/-- The day number of a date. -/
def dayNumber (date : Date) : Int :=
  daysBeforeYear date.year + daysBeforeMonth date.year date.month + date.day - 1 - epoch

/-- The year of a day counted from the start of the year zero. -/
def yearOfDay (day : Int) : Int :=
  let cycle := day / 146097
  let inCycle := day % 146097
  let estimate := inCycle / 365
  400 * cycle + (if inCycle < daysBeforeYear estimate then estimate - 1 else estimate)

/-- The month in which the given day of a year falls, the first day being zero. -/
def monthOfDay (year : Int) (day : Nat) : Nat :=
  ((List.range 12).filter fun month => daysBeforeMonth year (month + 1) ≤ day).length

/-- The date with a day number. -/
def ofDayNumber (number : Int) : Date :=
  let day := number + epoch
  let year := yearOfDay day
  let dayOfYear := (day - daysBeforeYear year).toNat
  let month := monthOfDay year dayOfYear
  ⟨year, month, dayOfYear - daysBeforeMonth year month + 1⟩

end Calendar

/-- Whether a date occurs in the calendar. -/
def Date.occurs (date : Date) : Bool :=
  1 ≤ date.month && date.month ≤ 12 && 1 ≤ date.day &&
    date.day ≤ Calendar.daysInMonth date.year date.month

end FilterQuery
