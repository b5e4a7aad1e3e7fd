import FilterQuery.Proofs.Instant.Calendar
import FilterQuery.Proofs.Instant.Layouts
import FilterQuery.Proofs.Number.Numerals

/-!
# How instants are spelled

A `Spelling` is a date, or a date and a time of day, part by part as it is written: the digits of
every number, the letters in either case, the mark of a fraction, and the offset if there is one.
It need not make sense as a date.

The texts that are read as instants are the texts of spellings (`exists_spelling_of_read`), and a
spelling is read as the instant that its parts denote, provided that there is such a date and such a
time of day (`read_text_eq_ok_iff`).
-/

namespace FilterQuery

open Number Text

/-- A row of `count` digits. -/
abbrev SizedRow (count : Nat) := {row : DigitRow // row.characters.length = count}

/-- A row of two digits. -/
def SizedRow.pair (a b : Char) (areDigits : [a, b].all Char.isDigit = true) : SizedRow 2 :=
  ⟨⟨[a, b], List.cons_ne_nil a [b], List.all_eq_true.mp areDigits⟩, rfl⟩

namespace Instant

/-- The fraction of a second: its digits behind a point or a comma. -/
structure SpelledFraction where
  comma : Bool
  digits : DigitRow

/-- The seconds of a time of day, with or without a fraction. -/
structure SpelledSeconds where
  whole : SizedRow 2
  fraction : Option SpelledFraction

/-- What follows a time of day: nothing, the letter of universal time, or an offset from it. -/
inductive SpelledZone where
  | absent
  | universal (lower : Bool)
  | offset (negative : Bool) (hours minutes : SizedRow 2)

/-- A time of day. The hour may have a single digit. -/
structure SpelledClock where
  lower : Bool
  hours : DigitRow
  hours_length : hours.characters.length ≤ 2
  minutes : SizedRow 2
  seconds : Option SpelledSeconds
  zone : SpelledZone

/-- A date with or without a time of day. -/
structure Spelling where
  year : SizedRow 4
  month : SizedRow 2
  day : SizedRow 2
  clock : Option SpelledClock

section Texts

/-- The characters of an optional part, none if it is absent. -/
def optionalCharacters {α : Type} (characters : α → List Char) (part : Option α) : List Char :=
  (part.map characters).getD []

@[simp] theorem optionalCharacters_none {α : Type} (characters : α → List Char) :
    optionalCharacters characters none = [] := rfl

@[simp] theorem optionalCharacters_some {α : Type} (characters : α → List Char) (part : α) :
    optionalCharacters characters (some part) = characters part := rfl

def SpelledFraction.characters (fraction : SpelledFraction) : List Char :=
  (if fraction.comma then ',' else '.') :: fraction.digits.characters

def SpelledSeconds.characters (seconds : SpelledSeconds) : List Char :=
  ':' :: (seconds.whole.1.characters ++
    optionalCharacters SpelledFraction.characters seconds.fraction)

def SpelledZone.characters : SpelledZone → List Char
  | .absent => []
  | .universal lower => [if lower then 'z' else 'Z']
  | .offset negative hours minutes =>
    (if negative then '-' else '+') :: (hours.1.characters ++ ':' :: minutes.1.characters)

def SpelledClock.characters (clock : SpelledClock) : List Char :=
  (if clock.lower then 't' else 'T') :: (clock.hours.characters ++
    ':' :: (clock.minutes.1.characters ++
      (optionalCharacters SpelledSeconds.characters clock.seconds ++ clock.zone.characters)))

def Spelling.characters (spelling : Spelling) : List Char :=
  spelling.year.1.characters ++ '-' :: (spelling.month.1.characters ++
    '-' :: (spelling.day.1.characters ++
      optionalCharacters SpelledClock.characters spelling.clock))

/-- The text of a spelling. -/
def Spelling.text (spelling : Spelling) : String := String.ofList spelling.characters

end Texts

section Meanings

/-- The first nine digits of a fraction, filled up with zeros. -/
def SpelledFraction.nanoseconds (fraction : SpelledFraction) : Nat :=
  decimalValue ((fraction.digits.characters ++ List.replicate 9 '0').take 9)

/-- The seconds by which a zone is ahead of universal time. -/
def SpelledZone.seconds : SpelledZone → Int
  | .absent | .universal _ => 0
  | .offset negative hours minutes =>
    (if negative then -1 else 1) * (hours.1.value * 3600 + minutes.1.value * 60)

/-- An offset is at most a given number of hours and a given number of minutes. -/
def SpelledZone.AtMost (hours minutes : Nat) : SpelledZone → Prop
  | .absent | .universal _ => True
  | .offset _ ownHours ownMinutes => ownHours.1.value ≤ hours ∧ ownMinutes.1.value ≤ minutes

namespace SpelledClock

variable (clock : SpelledClock)

/-- The whole seconds within the minute. -/
def second : Nat := (clock.seconds.map fun seconds => seconds.whole.1.value).getD 0

/-- The nanoseconds within the second. -/
def nanoseconds : Nat :=
  ((clock.seconds.bind SpelledSeconds.fraction).map SpelledFraction.nanoseconds).getD 0

/-- There is such a time of day. -/
def IsTime : Prop := clock.hours.value ≤ 23 ∧ clock.minutes.1.value ≤ 59 ∧ clock.second ≤ 59

/-- The seconds since midnight. -/
def timeOfDay : Nat := clock.hours.value * 3600 + clock.minutes.1.value * 60 + clock.second

end SpelledClock

namespace Spelling

variable (spelling : Spelling)

def date : Date := ⟨spelling.year.1.value, spelling.month.1.value, spelling.day.1.value⟩

/-- There is such a date and such a time of day. -/
def IsReal : Prop := spelling.date.IsGregorian ∧ ∀ clock ∈ spelling.clock, clock.IsTime

/-- The offset, if there is one, is at most a given number of hours and minutes. -/
def OffsetAtMost (hours minutes : Nat) : Prop :=
  ∀ clock ∈ spelling.clock, clock.zone.AtMost hours minutes

/-- The seconds since midnight, none if no time of day is spelled. -/
def timeOfDay : Nat := (spelling.clock.map SpelledClock.timeOfDay).getD 0

def nanoseconds : Nat := (spelling.clock.map SpelledClock.nanoseconds).getD 0

/-- The offset from universal time in seconds, none if no offset is spelled. -/
def offset : Int := (spelling.clock.map fun clock => clock.zone.seconds).getD 0

/-- The instant that a spelling denotes. -/
def instant : Instant :=
  ⟨86400 * Calendar.dayNumber spelling.date + spelling.timeOfDay - spelling.offset,
    spelling.nanoseconds⟩

end Spelling

end Meanings

section LetterCase

/-- The characters of dates and times that have no letter case. -/
def caseless : List Char := "0123456789+-:.,".toList

theorem mem_caseless_of_isDigit {c : Char} (isDigit : c.isDigit = true) : c ∈ caseless := by
  have digits : ∀ c ∈ asciiDigits, c ∈ caseless := List.all_iff_forall_prop.mp (by decide)
  exact digits c (mem_asciiDigits isDigit)

/-- Apart from small letters, two characters have a capital letter of the ASCII alphabet, and these
are `I` and `S`. -/
theorem upperChar_cases (c : Char) :
    upperChar c = c ∨ (upperChar c).toNat + 32 = c.toNat ∧ 97 ≤ c.toNat ∧ c.toNat ≤ 122 ∨
      (upperChar c).toNat ∈ [0, 73, 83] ∨ 128 ≤ (upperChar c).toNat := by
  have images : ∀ rule ∈ upperShifts, (rule.first = 97 ∧ rule.last = 122 ∧ rule.shift = -32) ∨
      (rule.first = rule.last ∧ rule.first + rule.shift ∈ [(73 : Int), 83]) ∨
      128 ≤ rule.first + rule.shift := List.all_iff_forall_prop.mp (by decide +kernel)
  unfold upperChar shiftCase
  split
  · next rule found =>
    have image := images rule (List.mem_of_find?_eq_some found)
    have covers := List.find?_some found
    simp only [CaseShift.covers, Bool.and_eq_true, decide_eq_true_eq] at covers
    obtain ⟨⟨fromFirst, toLast⟩, -⟩ := covers
    simp only [List.mem_cons, List.not_mem_nil, or_false] at image ⊢
    rw [toNat_ofNat]
    split
    · omega
    · exact .inr (.inr (.inl (.inl rfl)))
  · exact .inl rfl

theorem upperChar_of_mem_caseless {c : Char} (listed : c ∈ caseless) : upperChar c = c := by
  have fixed : ∀ c ∈ caseless, upperChar c = c := List.all_iff_forall_prop.mp (by decide +kernel)
  exact fixed c listed

/-- A character whose capital form has no letter case is that form. -/
theorem upperChar_eq_of_mem_caseless {c : Char} (listed : upperChar c ∈ caseless) :
    upperChar c = c := by
  have codes : ∀ c ∈ caseless, c.toNat ∉ [0, 73, 83] ∧ c.toNat < 65 :=
    List.all_iff_forall_prop.mp (by decide)
  obtain ⟨noOther, small⟩ := codes _ listed
  rcases upperChar_cases c with same | ⟨shifted, first, -⟩ | other | large
  · exact same
  · omega
  · exact absurd other noOther
  · omega

/-- Only a letter and its small form have that letter as capital form. -/
theorem eq_or_eq_of_upperChar {c : Char} {lower upper : Char} (isUpper : upperChar c = upper)
    (shifted : upper.toNat + 32 = lower.toNat) (letter : upper.toNat ∉ [0, 73, 83])
    (small : upper.toNat < 128) : c = upper ∨ c = lower := by
  rcases upperChar_cases c with same | ⟨moved, -, -⟩ | other | large
  · exact .inl (same.symm.trans isUpper)
  · rw [isUpper, shifted] at moved
    exact .inr (Char.toNat_inj.mp moved.symm)
  · rw [isUpper] at other
    exact absurd other letter
  · rw [isUpper] at large
    omega

theorem map_upperChar_of_caseless {characters : List Char}
    (each : ∀ c ∈ characters, c ∈ caseless) : characters.map upperChar = characters := by
  have fixed : ∀ c ∈ characters, upperChar c = id c := fun c listed =>
    upperChar_of_mem_caseless (each c listed)
  rw [List.map_congr_left fixed, List.map_id]

theorem mem_caseless_of_row {row : DigitRow} {c : Char} (listed : c ∈ row.characters) :
    c ∈ caseless :=
  mem_caseless_of_isDigit (row.areDigits c listed)

theorem map_upperChar_row (row : DigitRow) : row.characters.map upperChar = row.characters :=
  map_upperChar_of_caseless fun _ listed => mem_caseless_of_row listed

theorem SpelledFraction.mem_caseless {fraction : SpelledFraction} {c : Char}
    (listed : c ∈ fraction.characters) : c ∈ caseless := by
  have marks : ',' ∈ caseless ∧ '.' ∈ caseless := by decide
  rcases List.mem_cons.mp listed with rfl | isDigit
  · split
    · exact marks.1
    · exact marks.2
  · exact mem_caseless_of_row isDigit

theorem SpelledSeconds.mem_caseless {seconds : SpelledSeconds} {c : Char}
    (listed : c ∈ seconds.characters) : c ∈ caseless := by
  rcases List.mem_cons.mp listed with rfl | inside
  · decide
  · rcases List.mem_append.mp inside with whole | inFraction
    · exact mem_caseless_of_row whole
    · cases written : seconds.fraction with
      | none =>
        rw [written] at inFraction
        cases inFraction
      | some fraction =>
        rw [written] at inFraction
        exact SpelledFraction.mem_caseless inFraction

end LetterCase

section Reading

theorem twoDigits?_pair {a b : Char} (first : a.isDigit = true) (second : b.isDigit = true)
    (rest : List Char) :
    twoDigits? (a :: b :: rest) = some (10 * digitValue a + digitValue b, rest) := by
  simp [twoDigits?, first, second]

theorem twoDigits?_row (row : SizedRow 2) (rest : List Char) :
    twoDigits? (row.1.characters ++ rest) = some (row.1.value, rest) := by
  obtain ⟨⟨characters, nonempty, areDigits⟩, length⟩ := row
  obtain ⟨a, b, rfl⟩ := List.length_eq_two.mp length
  have taken := twoDigits?_pair (areDigits a (by simp)) (areDigits b (by simp)) rest
  simp [taken, DigitRow.value, decimalValue_cons, Nat.mul_comm]

theorem fourDigits?_row (row : SizedRow 4) (rest : List Char) :
    fourDigits? (row.1.characters ++ rest) = some (row.1.value, rest) := by
  obtain ⟨⟨characters, nonempty, areDigits⟩, length⟩ := row
  match characters, nonempty, areDigits, length with
  | [a, b, c, d], _, areDigits, _ =>
    have upper := twoDigits?_pair (areDigits a (by simp)) (areDigits b (by simp))
    have lower := twoDigits?_pair (areDigits c (by simp)) (areDigits d (by simp))
    simp only [fourDigits?, List.cons_append, List.nil_append, upper, lower, DigitRow.value,
      decimalValue_cons, decimalValue_nil, List.length_cons, List.length_nil]
    congr 2
    omega

/-- The hours end at the colon, be it after one digit or two. -/
theorem oneOrTwoDigits?_row {row : DigitRow} (short : row.characters.length ≤ 2)
    (rest : List Char) :
    oneOrTwoDigits? (row.characters ++ ':' :: rest) = some (row.value, ':' :: rest) := by
  obtain ⟨characters, nonempty, areDigits⟩ := row
  match characters, nonempty, areDigits, short with
  | [a], _, areDigits, _ =>
    have colon : (':').isDigit = false := rfl
    simp [oneOrTwoDigits?, twoDigits?, areDigits a, colon, DigitRow.value, decimalValue_cons]
  | [a, b], _, areDigits, _ =>
    have taken := twoDigits?_pair (areDigits a (by simp)) (areDigits b (by simp)) (':' :: rest)
    simp [oneOrTwoDigits?, areDigits a, taken, DigitRow.value, decimalValue_cons, Nat.mul_comm]

theorem readDate_rows (year : SizedRow 4) (month day : SizedRow 2) (rest : List Char) :
    readDate (year.1.characters ++
        '-' :: (month.1.characters ++ '-' :: (day.1.characters ++ rest))) =
      if month.1.value < 1 ∨ 12 < month.1.value then .error (.outOfRange "month")
      else .ok (⟨year.1.value, month.1.value, day.1.value⟩, rest) := by
  simp only [readDate, fourDigits?_row, bind, Except.bind, after?, if_true, twoDigits?_row]
  split
  · rfl
  · rfl

/-- What may follow a time of day: nothing, the letter of universal time, or a sign. -/
def EndsClock (rest : List Char) : Prop := ∀ c ∈ rest.head?, c ∈ ['Z', '+', '-']

theorem EndsClock.startsWithDigit {rest : List Char} (ends : EndsClock rest) :
    startsWithDigit rest = false := by
  cases rest with
  | nil => rfl
  | cons c rest =>
    have noDigits : ∀ c ∈ ['Z', '+', '-'], c.isDigit = false :=
      List.all_iff_forall_prop.mp (by decide)
    exact noDigits c (ends c rfl)

/-- Digits of a fraction after the ninth are cut off, and missing ones are zeros. -/
theorem decimalValue_nine (digits : List Char) :
    decimalValue ((digits ++ List.replicate 9 '0').take 9) =
      decimalValue (digits.take 9) * 10 ^ (9 - (digits.take 9).length) := by
  rw [List.take_append, List.take_replicate, decimalValue_append, decimalValue_zeros,
    List.length_replicate, List.length_take, Nat.add_zero]
  congr 2
  omega

theorem takeFraction_fraction (fraction : Option SpelledFraction) {rest : List Char}
    (ends : EndsClock rest) :
    takeFraction (optionalCharacters SpelledFraction.characters fraction ++ rest) =
      ((fraction.map SpelledFraction.nanoseconds).getD 0, rest) := by
  cases fraction with
  | none =>
    have marks : ∀ c ∈ ['Z', '+', '-'], c ≠ '.' ∧ c ≠ ',' :=
      List.all_iff_forall_prop.mp (by decide)
    match rest, ends with
    | [], _ => rfl
    | [c], _ => rfl
    | mark :: c :: rest, ends =>
      obtain ⟨noPoint, noComma⟩ := marks mark (ends mark rfl)
      simp [takeFraction, noPoint, noComma]
  | some fraction =>
    obtain ⟨comma, characters, nonempty, areDigits⟩ := fraction
    obtain ⟨nothing, unchanged⟩ := takeWhile_digits ends.startsWithDigit
    obtain ⟨c, others, rfl⟩ := List.exists_cons_of_ne_nil nonempty
    have taken : (c :: others ++ rest).takeWhile Char.isDigit = c :: others := by
      rw [List.takeWhile_append_of_pos areDigits, nothing, List.append_nil]
    have left : (c :: others ++ rest).dropWhile Char.isDigit = rest := by
      rw [List.dropWhile_append_of_pos areDigits, unchanged]
    have isMark : (if comma then ',' else '.') = '.' ∨ (if comma then ',' else '.') = ',' := by
      cases comma <;> simp
    have nine := decimalValue_nine (c :: others)
    rw [List.cons_append] at taken left nine
    simp only [optionalCharacters_some, SpelledFraction.characters, Option.map_some,
      Option.getD_some, List.cons_append, takeFraction, isMark, areDigits c List.mem_cons_self,
      and_self, if_true, taken, left, foldl_digitValue, SpelledFraction.nanoseconds, nine,
      Nat.zero_mul, Nat.zero_add]
    rfl

theorem takeSeconds?_seconds (seconds : Option SpelledSeconds) {rest : List Char}
    (ends : EndsClock rest) :
    takeSeconds? (optionalCharacters SpelledSeconds.characters seconds ++ rest) =
      if (seconds.map fun seconds => seconds.whole.1.value).getD 0 ≤ 59 then
        some (((seconds.map fun seconds => seconds.whole.1.value).getD 0,
          ((seconds.bind SpelledSeconds.fraction).map SpelledFraction.nanoseconds).getD 0), rest)
      else none := by
  cases seconds with
  | none =>
    have noColon : after? ':' rest = none := by
      cases rest with
      | nil => rfl
      | cons c rest =>
        have marks : ∀ c ∈ ['Z', '+', '-'], c ≠ ':' := List.all_iff_forall_prop.mp (by decide)
        simp [after?, marks c (ends c rfl)]
    simp [takeSeconds?, noColon]
  | some seconds =>
    have fraction := takeFraction_fraction seconds.fraction ends
    have below : seconds.whole.1.value < 60 ↔ seconds.whole.1.value ≤ 59 := Nat.lt_succ_iff
    simp only [optionalCharacters_some, SpelledSeconds.characters, Option.map_some,
      Option.getD_some, Option.bind_some, List.cons_append, List.append_assoc, takeSeconds?, after?,
      if_true, twoDigits?_row, bind, fraction, below]

/-- A zone with its letter as a capital. -/
def SpelledZone.capital : SpelledZone → SpelledZone
  | .universal _ => .universal false
  | zone => zone

theorem SpelledZone.endsClock_capital (zone : SpelledZone) : EndsClock zone.capital.characters := by
  intro c first
  cases zone with
  | absent => cases first
  | universal lower =>
    cases first
    simp
  | offset negative hours minutes =>
    cases first
    cases negative <;> simp

theorem SpelledZone.map_upperChar (zone : SpelledZone) :
    zone.characters.map upperChar = zone.capital.characters := by
  cases zone with
  | absent => rfl
  | universal lower => cases lower <;> rfl
  | offset negative hours minutes =>
    have sign : upperChar (if negative then '-' else '+') = if negative then '-' else '+' := by
      cases negative <;> rfl
    have colon : upperChar ':' = ':' := rfl
    simp only [SpelledZone.characters, SpelledZone.capital, List.map_cons, List.map_append,
      map_upperChar_row, sign, colon]

theorem SpelledZone.readOffset?_eq_some_iff (zone : SpelledZone) {found : Int} :
    readOffset? zone.capital.characters = some found ↔
      zone.AtMost 24 60 ∧ found = zone.seconds := by
  cases zone with
  | absent => simp [capital, characters, readOffset?, AtMost, seconds, eq_comm]
  | universal lower => simp [capital, characters, readOffset?, AtMost, seconds, eq_comm]
  | offset negative hours minutes =>
    have minutesTaken := twoDigits?_row minutes []
    rw [List.append_nil] at minutesTaken
    have read : readOffset? (SpelledZone.offset negative hours minutes).capital.characters =
        if hours.1.value ≤ 24 ∧ minutes.1.value ≤ 60 then
          some (SpelledZone.offset negative hours minutes).seconds
        else none := by
      cases negative <;>
        simp [capital, characters, readOffset?, twoDigits?_row, after?, minutesTaken, seconds]
    rw [read]
    split
    · next small => simp [AtMost, small, eq_comm]
    · next large => simp [AtMost, large]

theorem SpelledClock.map_upperChar (clock : SpelledClock) :
    clock.characters.map upperChar =
      'T' :: (clock.hours.characters ++ ':' :: (clock.minutes.1.characters ++
        (optionalCharacters SpelledSeconds.characters clock.seconds ++
          clock.zone.capital.characters))) := by
  have letter : upperChar (if clock.lower then 't' else 'T') = 'T' := by
    split <;> rfl
  have colon : upperChar ':' = ':' := rfl
  have seconds : (optionalCharacters SpelledSeconds.characters clock.seconds).map upperChar =
      optionalCharacters SpelledSeconds.characters clock.seconds := by
    cases clock.seconds with
    | none => rfl
    | some seconds => exact map_upperChar_of_caseless fun _ => SpelledSeconds.mem_caseless
  simp only [SpelledClock.characters, List.map_cons, List.map_append, map_upperChar_row, letter,
    colon, seconds, SpelledZone.map_upperChar]

/-- A clock is read if there is such a time of day and its offset is not too large. -/
theorem SpelledClock.readClock?_eq_some_iff (clock : SpelledClock) {found : Clock} :
    readClock? (clock.characters.map upperChar) = some found ↔
      clock.IsTime ∧ clock.zone.AtMost 24 60 ∧
        found = ⟨clock.timeOfDay, clock.nanoseconds, clock.zone.seconds⟩ := by
  have seconds : takeSeconds? (optionalCharacters SpelledSeconds.characters clock.seconds ++
      clock.zone.capital.characters) = if clock.second ≤ 59
        then some ((clock.second, clock.nanoseconds), clock.zone.capital.characters) else none :=
    takeSeconds?_seconds clock.seconds clock.zone.endsClock_capital
  rw [SpelledClock.map_upperChar, readClock?]
  simp only [after?, if_true, oneOrTwoDigits?_row clock.hours_length, twoDigits?_row, bind,
    Option.bind_some, seconds]
  by_cases isTime : clock.IsTime
  · obtain ⟨hours, minutes, second⟩ := isTime
    rw [if_pos ⟨Nat.lt_succ_of_le hours, Nat.lt_succ_of_le minutes⟩, if_pos second,
      Option.bind_some, Option.bind_eq_some_iff]
    simp only [SpelledZone.readOffset?_eq_some_iff, Option.some.injEq]
    constructor
    · rintro ⟨offset, ⟨allowed, rfl⟩, rfl⟩
      exact ⟨⟨hours, minutes, second⟩, allowed, rfl⟩
    · rintro ⟨-, allowed, rfl⟩
      exact ⟨_, ⟨allowed, rfl⟩, rfl⟩
  · refine iff_of_false (fun read => isTime ?_) fun denoted => isTime denoted.1
    split at read
    · next early =>
      split at read
      · next second => exact ⟨Nat.le_of_lt_succ early.1, Nat.le_of_lt_succ early.2, second⟩
      · cases read
    · cases read

/-- A text in capital letters is read if it starts with a date that occurs, and nothing or a time of
day follows. -/
theorem readUpper_eq_ok_iff {text : List Char} {instant : Instant} :
    readUpper text = .ok instant ↔
      ∃ date rest, readDate text = .ok (date, rest) ∧ date.occurs = true ∧
        (rest = [] ∧ instant = ofDateAndClock date ⟨0, 0, 0⟩ ∨
          ∃ clock, readClock? rest = some clock ∧ instant = ofDateAndClock date clock) := by
  unfold readUpper
  cases readDate text with
  | error fault =>
    refine iff_of_false (fun same => by cases same) ?_
    rintro ⟨date, rest, same, -⟩
    cases same
  | ok found =>
    obtain ⟨date, rest⟩ := found
    simp only [bind, Except.bind, pure, Except.pure, throw, throwThe, MonadExceptOf.throw]
    constructor
    · intro read
      refine ⟨date, rest, rfl, ?_⟩
      split at read
      · next nothing =>
        split at read
        · next occurs => exact ⟨occurs, .inl ⟨List.isEmpty_iff.mp nothing, by cases read; rfl⟩⟩
        · cases read
      · split at read
        · next clock found =>
          split at read
          · next occurs => exact ⟨occurs, .inr ⟨clock, found, by cases read; rfl⟩⟩
          · cases read
        · cases read
    · rintro ⟨_, _, same, occurs, ending⟩
      cases same
      rcases ending with ⟨rfl, rfl⟩ | ⟨clock, found, rfl⟩
      · simp [occurs]
      · have more : rest.isEmpty = false := by
          cases rest with
          | nil => cases found
          | cons c rest => rfl
        simp [more, found, occurs]

/-- Letter case does not matter. -/
theorem read_eq_ok_iff {text : String} {instant : Instant} :
    read text = .ok instant ↔ readUpper (text.toList.map upperChar) = .ok instant := by
  rw [read_eq_readUpper, Text.upper, String.toList_ofList]
  cases readUpper (text.toList.map upperChar) <;> simp [Except.mapError]

namespace Spelling

variable (spelling : Spelling)

theorem readDate_eq_ok_iff {date : Date} {rest : List Char} :
    readDate (spelling.characters.map upperChar) = .ok (date, rest) ↔
      (1 ≤ spelling.date.month ∧ spelling.date.month ≤ 12) ∧ date = spelling.date ∧
        rest = (optionalCharacters SpelledClock.characters spelling.clock).map upperChar := by
  have hyphen : upperChar '-' = '-' := rfl
  simp only [Spelling.characters, List.map_cons, List.map_append, map_upperChar_row, hyphen,
    readDate_rows]
  split
  · next outside =>
    refine iff_of_false (fun same => by cases same) fun denoted => ?_
    have inside := denoted.1
    simp only [Spelling.date] at inside
    omega
  · next inside =>
    have month : 1 ≤ spelling.date.month ∧ spelling.date.month ≤ 12 := by
      simp only [Spelling.date]
      omega
    simp only [Except.ok.injEq, Prod.mk.injEq, month, and_self, true_and]
    exact and_congr eq_comm eq_comm

/-- What follows the date is read as the time of day that it denotes. -/
theorem readClock?_optional_iff {instant : Instant} :
    ((optionalCharacters SpelledClock.characters spelling.clock).map upperChar = [] ∧
        instant = ofDateAndClock spelling.date ⟨0, 0, 0⟩ ∨
      ∃ clock, readClock? ((optionalCharacters SpelledClock.characters spelling.clock).map
        upperChar) = some clock ∧ instant = ofDateAndClock spelling.date clock) ↔
    (∀ clock ∈ spelling.clock, clock.IsTime) ∧ spelling.OffsetAtMost 24 60 ∧
      instant = spelling.instant := by
  unfold OffsetAtMost Spelling.instant Spelling.timeOfDay Spelling.nanoseconds Spelling.offset
  cases spelling.clock with
  | none =>
    have noClock : readClock? [] = none := rfl
    simp [noClock, ofDateAndClock]
  | some clock =>
    have more : clock.characters ≠ [] := List.cons_ne_nil _ _
    simp only [optionalCharacters_some, List.map_eq_nil_iff, more, false_and, false_or,
      clock.readClock?_eq_some_iff, Option.mem_some_iff, forall_eq', Option.map_some,
      Option.getD_some]
    constructor
    · rintro ⟨_, ⟨isTime, allowed, rfl⟩, rfl⟩
      exact ⟨isTime, allowed, rfl⟩
    · rintro ⟨isTime, allowed, rfl⟩
      exact ⟨_, ⟨isTime, allowed, rfl⟩, rfl⟩

/-- A spelling is read as the instant that it denotes, if there is such a date and such a time of
day and its offset is not too large. -/
theorem read_text_eq_ok_iff {instant : Instant} :
    read spelling.text = .ok instant ↔
      spelling.IsReal ∧ spelling.OffsetAtMost 24 60 ∧ instant = spelling.instant := by
  rw [read_eq_ok_iff, Spelling.text, String.toList_ofList, readUpper_eq_ok_iff]
  simp only [spelling.readDate_eq_ok_iff]
  constructor
  · rintro ⟨_, _, ⟨-, rfl, rfl⟩, occurs, ending⟩
    obtain ⟨isTime, denoted⟩ := spelling.readClock?_optional_iff.mp ending
    exact ⟨⟨Date.occurs_iff_isGregorian.mp occurs, isTime⟩, denoted⟩
  · rintro ⟨⟨isGregorian, isTime⟩, denoted⟩
    exact ⟨_, _, ⟨isGregorian.month, rfl, rfl⟩, Date.occurs_iff_isGregorian.mpr isGregorian,
      spelling.readClock?_optional_iff.mpr ⟨isTime, denoted⟩⟩

end Spelling

end Reading

end Instant

end FilterQuery
