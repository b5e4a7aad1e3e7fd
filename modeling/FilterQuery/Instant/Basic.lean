import FilterQuery.Instant.Calendar

/-!
# Instants

A point in time, in seconds and nanoseconds of universal time since the start of 1970, and its
written form with date, time of day and fraction.
-/

namespace FilterQuery

/-- A point in time. -/
structure Instant where
  seconds : Int
  nanoseconds : Nat
deriving DecidableEq, Repr

/-- A number in decimal with at least `width` digits. -/
def padNumber (width : Nat) (n : Nat) : String :=
  let digits := (toString n).toList
  String.ofList (List.replicate (width - digits.length) '0' ++ digits)

namespace Instant

/-- The date of an instant in universal time. -/
def date (instant : Instant) : Date := Calendar.ofDayNumber (instant.seconds / 86400)

/-- The whole milliseconds since the start of 1970, in sixty-four bits. -/
def milliseconds (instant : Instant) : Int :=
  Int.bmod (instant.seconds * 1000 + (instant.nanoseconds / 1000000 : Nat)) (Nat.pow 2 64)

/-- The written fraction of a second: `digits` places, without the zeros at the end. -/
def fractionText (digits : Nat) (n : Nat) : String :=
  let kept := ((padNumber digits n).toList.reverse.dropWhile (· == '0')).reverse
  if kept.isEmpty then "" else String.ofList ('.' :: kept)

/-- The written form of an instant, with a fraction of at most `digits` places. -/
def textWith (digits : Nat) (instant : Instant) : String :=
  let date := instant.date
  let second := (instant.seconds % 86400).toNat
  let year := (if date.year < 0 then "-" else "") ++ padNumber 4 date.year.natAbs
  year ++ "-" ++ padNumber 2 date.month ++ "-" ++ padNumber 2 date.day ++ "T" ++
    padNumber 2 (second / 3600) ++ ":" ++ padNumber 2 (second / 60 % 60) ++ ":" ++
    padNumber 2 (second % 60) ++
    fractionText digits (instant.nanoseconds / Nat.pow 10 (9 - digits)) ++ "Z"

/-- The written form of an instant in full. -/
def text (instant : Instant) : String := instant.textWith 9

end Instant

end FilterQuery
