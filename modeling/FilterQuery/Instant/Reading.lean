import FilterQuery.Instant.Basic
import FilterQuery.Number.Reading
import FilterQuery.Text.LetterCase
import FilterQuery.Text.Quoted

/-!
# Reading instants

A layout lists the parts of which a text consists. An instant is written as a date, or as a date and
a time of day with or without seconds, a fraction and an offset from universal time. Letters may be
in either case. Without an offset the time is universal time. Hours may have a single digit, a comma
may stand for the point of the fraction, and digits of the fraction after the ninth are cut off.

The layouts are tried one after another. If a text has none of them, it is judged by the last, which
is a date alone.
-/

namespace FilterQuery

/-- A part of a layout. -/
inductive LayoutPart where
  | mark (c : Char)
  | year
  | month
  | day
  | hour
  | minute
  | second
  /-- A fraction of a second, which may be missing. -/
  | fraction
  /-- An offset from universal time, or the letter of universal time itself. -/
  | zone
deriving DecidableEq, Repr

/-- A part of a layout as it is written: the part of a fixed instant. -/
def LayoutPart.text : LayoutPart → String
  | .mark c => c.toString
  | .year => "2006"
  | .month => "01"
  | .day => "02"
  | .hour => "15"
  | .minute => "04"
  | .second => "05"
  | .fraction => ".999999999"
  | .zone => "Z07:00"

/-- The parts of which a text consists. -/
abbrev Layout := List LayoutPart

namespace Layout

/-- A layout as it is written. -/
def text (layout : Layout) : String := String.join (layout.map LayoutPart.text)

/-- A date. -/
def date : Layout := [.year, .mark '-', .month, .mark '-', .day]

/-- Hours and minutes behind a date. -/
def minutes : Layout := [.mark 'T', .hour, .mark ':', .minute]

/-- Seconds behind minutes. -/
def seconds : Layout := [.mark ':', .second, .fraction]

/-- The layout that is tried first. -/
def first : Layout := date ++ minutes ++ seconds ++ [.zone]

/-- The other layouts, in the order in which they are tried. -/
def others : List Layout :=
  [date ++ minutes ++ [.zone], date ++ minutes ++ seconds, date ++ minutes, date]

end Layout

/-- Why a text does not have a layout: a part cannot be read from the rest of it, a number does not
exist as what it stands for, or more follows. -/
inductive DatetimeFault where
  | unreadable (rest part : String)
  | outOfRange (part : String)
  | extra (rest : String)
deriving DecidableEq, Repr

/-- A text that is no instant, in upper case, with the layout that was tried last and the reason. -/
structure DatetimeError where
  text : String
  layout : Layout
  fault : DatetimeFault
deriving DecidableEq, Repr

/-- The wording of a datetime error. -/
def DatetimeError.message (error : DatetimeError) : String :=
  "parsing time " ++ Text.quoteAscii error.text ++
  match error.fault with
  | .unreadable rest part =>
    " as " ++ Text.quoteAscii error.layout.text ++ ": cannot parse " ++ Text.quoteAscii rest ++
      " as " ++ Text.quoteAscii part
  | .outOfRange part => ": " ++ part ++ " out of range"
  | .extra rest => ": extra text: " ++ Text.quoteAscii rest

namespace Instant

open Number (digitValue)

/-- A number of exactly two digits at the head of a text. -/
def twoDigits? : List Char → Option (Nat × List Char)
  | a :: b :: rest =>
    if a.isDigit && b.isDigit then some (10 * digitValue a + digitValue b, rest) else none
  | _ => none

/-- A number of one or two digits at the head of a text. -/
def oneOrTwoDigits? : List Char → Option (Nat × List Char)
  | a :: rest =>
    if a.isDigit then
      match twoDigits? (a :: rest) with
      | some found => some found
      | none => some (digitValue a, rest)
    else none
  | [] => none

/-- A number of exactly four digits at the head of a text. -/
def fourDigits? (text : List Char) : Option (Nat × List Char) :=
  match twoDigits? text with
  | none => none
  | some (upper, rest) =>
    match twoDigits? rest with
    | none => none
    | some (lower, rest) => some (100 * upper + lower, rest)

/-- The text after a given character. -/
def after? (c : Char) : List Char → Option (List Char)
  | head :: rest => if head = c then some rest else none
  | [] => none

/-- A fraction of a second at the head of a text, in nanoseconds; no fraction is none of them. -/
def takeFraction : List Char → Nat × List Char
  | mark :: c :: rest =>
    if (mark = '.' ∨ mark = ',') ∧ c.isDigit then
      let digits := (c :: rest).takeWhile Char.isDigit
      let kept := digits.take 9
      let value := kept.foldl (fun value c => value * 10 + digitValue c) 0
      (value * Nat.pow 10 (9 - kept.length), (c :: rest).dropWhile Char.isDigit)
    else (0, mark :: c :: rest)
  | text => (0, text)

/-- What the parts of a text say that were read so far. -/
structure Moment where
  date : Date := ⟨0, 1, 1⟩
  hours : Nat := 0
  minutes : Nat := 0
  seconds : Nat := 0
  nanoseconds : Nat := 0
  /-- The offset from universal time, in seconds. -/
  offset : Int := 0
deriving DecidableEq, Repr

/-- The instant of a moment. -/
def Moment.instant (moment : Moment) : Instant :=
  ⟨86400 * Calendar.dayNumber moment.date +
      (moment.hours * 3600 + moment.minutes * 60 + moment.seconds : Nat) - moment.offset,
    moment.nanoseconds⟩

/-- The instant of a moment, if nothing follows in the text and there is such a day. -/
def Moment.finish (moment : Moment) (rest : List Char) : Except DatetimeFault Instant :=
  if !rest.isEmpty then .error (.extra (String.ofList rest))
  else if !moment.date.occurs then .error (.outOfRange "day")
  else .ok moment.instant

/-- An offset from universal time, in seconds, at the head of a text. -/
def takeZone (unreadable : DatetimeFault) : List Char → Except DatetimeFault (Int × List Char)
  | [] => .error unreadable
  | sign :: rest => do
    if sign = 'Z' then return (0, rest)
    let some (hours, rest) := twoDigits? rest | throw unreadable
    let some rest := after? ':' rest | throw unreadable
    let some (minutes, rest) := twoDigits? rest | throw unreadable
    let offset : Int := hours * 3600 + minutes * 60
    -- Which of several faults is found does not matter: a layout with an offset is not the last.
    if 60 < minutes then throw (.outOfRange "time zone offset minute")
    else if 24 < hours then throw (.outOfRange "time zone offset hour")
    else if sign = '+' then return (offset, rest)
    else if sign = '-' then return (-offset, rest)
    else throw unreadable

/-- Reads one part of a layout at the head of a text, and returns the text after it. -/
def readPart (moment : Moment) (text : List Char) (part : LayoutPart) :
    Except DatetimeFault (Moment × List Char) := do
  let unreadable := DatetimeFault.unreadable (String.ofList text) part.text
  match part with
  | .mark c =>
    let some rest := after? c text | throw unreadable
    return (moment, rest)
  | .year =>
    let some (year, rest) := fourDigits? text | throw unreadable
    return ({ moment with date := { moment.date with year } }, rest)
  | .month =>
    let some (month, rest) := twoDigits? text | throw unreadable
    if month < 1 ∨ 12 < month then throw (.outOfRange "month")
    return ({ moment with date := { moment.date with month } }, rest)
  | .day =>
    -- How many days there are is known only when the whole text has been read.
    let some (day, rest) := twoDigits? text | throw unreadable
    return ({ moment with date := { moment.date with day } }, rest)
  | .hour =>
    let some (hours, rest) := oneOrTwoDigits? text | throw unreadable
    if 24 ≤ hours then throw (.outOfRange "hour")
    return ({ moment with hours }, rest)
  | .minute =>
    let some (minutes, rest) := twoDigits? text | throw unreadable
    if 60 ≤ minutes then throw (.outOfRange "minute")
    return ({ moment with minutes }, rest)
  | .second =>
    let some (seconds, rest) := twoDigits? text | throw unreadable
    if 60 ≤ seconds then throw (.outOfRange "second")
    return ({ moment with seconds }, rest)
  | .fraction =>
    let (nanoseconds, rest) := takeFraction text
    return ({ moment with nanoseconds }, rest)
  | .zone =>
    let (offset, rest) ← takeZone unreadable text
    return ({ moment with offset }, rest)

/-- Reads the parts of a layout one after another, and returns the text after them. -/
def readParts (layout : Layout) (moment : Moment) (text : List Char) :
    Except DatetimeFault (Moment × List Char) :=
  layout.foldlM (fun found part => readPart found.1 found.2 part) (moment, text)

/-- The instant that a text with a given layout spells. -/
def readAs (layout : Layout) (text : List Char) : Except DatetimeFault Instant := do
  let (moment, rest) ← readParts layout {} text
  moment.finish rest

/-- The instant that a text spells with the first layout that it has. A text that has none of the
layouts is judged by the last. -/
def readFirst (text : String) (layout : Layout) : List Layout → Except DatetimeError Instant
  | [] =>
    match readAs layout text.toList with
    | .ok instant => .ok instant
    | .error fault => .error ⟨text, layout, fault⟩
  | next :: others =>
    match readAs layout text.toList with
    | .ok instant => .ok instant
    | .error _ => readFirst text next others

/-- The instant that a text spells. -/
def read (text : String) : Except DatetimeError Instant :=
  readFirst (Text.upper text) Layout.first Layout.others

end Instant

end FilterQuery
