import FilterQuery.Proofs.Instant.Spelling
import FilterQuery.Value.Resolve

/-!
# Which texts are instants

Every text that is read as an instant is the text of a spelling, whatever its letter case. So is
every text that the lexical class of dates describes.

Hence the value of a date literal, and what an offset behind a time of day does to the instant, can
be said of spellings.
-/

namespace FilterQuery

open Number Text Pattern LexicalClass

namespace Instant

section Inversion

/-- A text starts with `front`, and `rest` is what follows, in capital letters. -/
def Leaves (text front rest : List Char) : Prop :=
  ∃ behind, text = front ++ behind ∧ rest = behind.map upperChar

theorem isDigit_of_upperChar {c : Char} (isDigit : (upperChar c).isDigit = true) :
    upperChar c = c :=
  upperChar_eq_of_mem_caseless (mem_caseless_of_isDigit isDigit)

variable {text rest : List Char} {value : Nat}

theorem exists_of_after? {c : Char} (taken : after? c (text.map upperChar) = some rest) :
    ∃ d, upperChar d = c ∧ Leaves text [d] rest := by
  cases text with
  | nil => cases taken
  | cons d behind =>
    obtain ⟨same, rfl⟩ : upperChar d = c ∧ behind.map upperChar = rest := by
      simpa [after?] using taken
    exact ⟨d, same, behind, rfl, rfl⟩

theorem leaves_of_after? {c : Char} (listed : c ∈ caseless)
    (taken : after? c (text.map upperChar) = some rest) : Leaves text [c] rest := by
  obtain ⟨d, rfl, leaves⟩ := exists_of_after? taken
  rwa [upperChar_eq_of_mem_caseless listed]

theorem leaves_of_twoDigits? (taken : twoDigits? (text.map upperChar) = some (value, rest)) :
    ∃ row : SizedRow 2, Leaves text row.1.characters rest := by
  match text with
  | [] => cases taken
  | [c] => cases taken
  | a :: b :: behind =>
    obtain ⟨⟨first, second⟩, -, rfl⟩ :
        ((upperChar a).isDigit = true ∧ (upperChar b).isDigit = true) ∧
          10 * digitValue (upperChar a) + digitValue (upperChar b) = value ∧
            behind.map upperChar = rest := by
      simpa [twoDigits?] using taken
    have firstSame := isDigit_of_upperChar first
    have secondSame := isDigit_of_upperChar second
    rw [firstSame] at first
    rw [secondSame] at second
    exact ⟨.pair a b (by simp [first, second]), behind, rfl, rfl⟩

theorem leaves_of_fourDigits? (taken : fourDigits? (text.map upperChar) = some (value, rest)) :
    ∃ row : SizedRow 4, Leaves text row.1.characters rest := by
  unfold fourDigits? at taken
  split at taken
  · cases taken
  · next upper middle upperTaken =>
    split at taken
    · cases taken
    · next lower last lowerTaken =>
      obtain ⟨upperRow, behind, rfl, rfl⟩ := leaves_of_twoDigits? upperTaken
      obtain ⟨lowerRow, behind, rfl, rfl⟩ := leaves_of_twoDigits? lowerTaken
      cases taken
      refine ⟨⟨⟨upperRow.1.characters ++ lowerRow.1.characters, ?_, ?_⟩, ?_⟩, behind, ?_, rfl⟩
      · exact List.append_ne_nil_of_left_ne_nil upperRow.1.nonempty _
      · exact List.forall_mem_append.mpr ⟨upperRow.1.areDigits, lowerRow.1.areDigits⟩
      · rw [List.length_append, upperRow.2, lowerRow.2]
      · rw [List.append_assoc]

theorem leaves_of_oneOrTwoDigits?
    (taken : oneOrTwoDigits? (text.map upperChar) = some (value, rest)) :
    ∃ row : DigitRow, row.characters.length ≤ 2 ∧ Leaves text row.characters rest := by
  cases text with
  | nil => cases taken
  | cons c behind =>
    simp only [List.map_cons, oneOrTwoDigits?] at taken
    split at taken
    · next isDigit =>
      split at taken
      · next found both =>
        cases taken
        rw [← List.map_cons] at both
        obtain ⟨row, leaves⟩ := leaves_of_twoDigits? both
        exact ⟨row.1, row.2.le, leaves⟩
      · cases taken
        rw [isDigit_of_upperChar isDigit] at isDigit
        exact ⟨⟨[c], by simp, by simp [isDigit]⟩, by simp, behind, rfl, rfl⟩
    · cases taken

/-- A part of a date that is read is there. -/
theorem exists_some_of_bind {α β : Type} {found : Option α} {fault : DatetimeFault}
    {next : α → Except DatetimeFault β} {result : β}
    (read : ((match found with
      | some value => Except.ok value
      | none => Except.error fault) >>= next) = .ok result) :
    ∃ value, found = some value ∧ next value = .ok result := by
  cases found with
  | none => cases read
  | some value => exact ⟨value, rfl, read⟩

theorem leaves_of_readDate {date : Date} (read : readDate (text.map upperChar) = .ok (date, rest)) :
    ∃ (year : SizedRow 4) (month day : SizedRow 2), Leaves text
      (year.1.characters ++ '-' :: (month.1.characters ++ '-' :: day.1.characters)) rest := by
  have listed : '-' ∈ caseless := by decide
  obtain ⟨⟨_, _⟩, yearTaken, read⟩ := exists_some_of_bind read
  obtain ⟨year, behindYear, rfl, rfl⟩ := leaves_of_fourDigits? yearTaken
  obtain ⟨_, hyphenTaken, read⟩ := exists_some_of_bind read
  obtain ⟨behindYear, rfl, rfl⟩ := leaves_of_after? listed hyphenTaken
  obtain ⟨⟨_, _⟩, monthTaken, read⟩ := exists_some_of_bind read
  obtain ⟨month, behindMonth, rfl, rfl⟩ := leaves_of_twoDigits? monthTaken
  dsimp only at read
  split at read
  · cases read
  · obtain ⟨_, hyphenTaken, read⟩ := exists_some_of_bind read
    obtain ⟨behindMonth, rfl, rfl⟩ := leaves_of_after? listed hyphenTaken
    obtain ⟨⟨_, _⟩, dayTaken, read⟩ := exists_some_of_bind read
    obtain ⟨day, behind, rfl, rfl⟩ := leaves_of_twoDigits? dayTaken
    cases read
    exact ⟨year, month, day, behind, by simp, rfl⟩

theorem leaves_of_takeFraction (text : List Char) :
    ∃ fraction, Leaves text (optionalCharacters SpelledFraction.characters fraction)
      (takeFraction (text.map upperChar)).2 := by
  match text with
  | [] => exact ⟨none, [], rfl, rfl⟩
  | [c] => exact ⟨none, [c], rfl, rfl⟩
  | mark :: c :: behind =>
    simp only [List.map_cons, takeFraction]
    split
    · next present =>
      obtain ⟨isMark, isDigit⟩ := present
      have digits : ∀ d ∈ (c :: behind).takeWhile (Char.isDigit ∘ upperChar), d.isDigit = true := by
        intro d listed
        have upperDigit := List.all_eq_true.mp List.all_takeWhile d listed
        rw [← isDigit_of_upperChar upperDigit]
        exact upperDigit
      have nonempty : (c :: behind).takeWhile (Char.isDigit ∘ upperChar) ≠ [] := by
        simp [isDigit]
      have listed : upperChar mark ∈ caseless := by
        rcases isMark with isPoint | isComma
        · exact isPoint ▸ by decide
        · exact isComma ▸ by decide
      rw [upperChar_eq_of_mem_caseless listed] at isMark
      have written : (if mark == ',' then ',' else '.') = mark := by
        rcases isMark with rfl | rfl <;> rfl
      refine ⟨some ⟨mark == ',', _, nonempty, digits⟩,
        (c :: behind).dropWhile (Char.isDigit ∘ upperChar), ?_, ?_⟩
      · rw [optionalCharacters_some, SpelledFraction.characters, written, List.cons_append,
          List.takeWhile_append_dropWhile]
      · rw [← List.map_cons, List.dropWhile_map]
    · exact ⟨none, mark :: c :: behind, rfl, rfl⟩

theorem leaves_of_takeSeconds? {found : Nat × Nat}
    (taken : takeSeconds? (text.map upperChar) = some (found, rest)) :
    ∃ seconds, Leaves text (optionalCharacters SpelledSeconds.characters seconds) rest := by
  unfold takeSeconds? at taken
  split at taken
  · next missing =>
    cases taken
    exact ⟨none, text, rfl, rfl⟩
  · next behindColon present =>
    obtain ⟨behind, rfl, rfl⟩ := leaves_of_after? (by decide) present
    obtain ⟨⟨second, behindSeconds⟩, wholeTaken, last⟩ := Option.bind_eq_some_iff.mp taken
    obtain ⟨whole, behind, rfl, rfl⟩ := leaves_of_twoDigits? wholeTaken
    obtain ⟨fraction, remainder, parts, left⟩ := leaves_of_takeFraction behind
    dsimp only at last
    split at last
    · obtain ⟨-, rfl⟩ : _ ∧ _ = rest := by simpa using last
      exact ⟨some ⟨whole, fraction⟩, remainder, by simp [SpelledSeconds.characters, parts], left⟩
    · cases last

theorem exists_zone_of_readOffset? {offset : Int}
    (read : readOffset? (text.map upperChar) = some offset) :
    ∃ zone : SpelledZone, text = zone.characters := by
  cases text with
  | nil => exact ⟨.absent, rfl⟩
  | cons sign behind =>
    rw [List.map_cons] at read
    unfold readOffset? at read
    split at read
    · next same => cases same
    · next same =>
      obtain ⟨isLetter, nothing⟩ := List.cons.inj same
      obtain rfl := List.map_eq_nil_iff.mp nothing
      have small : sign = 'Z' ∨ sign = 'z' :=
        eq_or_eq_of_upperChar isLetter rfl (by decide) (by decide)
      rcases small with rfl | rfl
      · exact ⟨.universal false, rfl⟩
      · exact ⟨.universal true, rfl⟩
    · next first rest _ _ same =>
      obtain ⟨rfl, rfl⟩ := List.cons.inj same
      obtain ⟨⟨_, _⟩, hoursTaken, read⟩ := Option.bind_eq_some_iff.mp read
      obtain ⟨hours, _, rfl, rfl⟩ := leaves_of_twoDigits? hoursTaken
      obtain ⟨_, colonTaken, read⟩ := Option.bind_eq_some_iff.mp read
      obtain ⟨_, rfl, rfl⟩ := leaves_of_after? (by decide) colonTaken
      obtain ⟨⟨_, _⟩, minutesTaken, last⟩ := Option.bind_eq_some_iff.mp read
      obtain ⟨minutes, behind, rfl, rfl⟩ := leaves_of_twoDigits? minutesTaken
      obtain ⟨nothing, isSign⟩ : behind = [] ∧ upperChar sign ∈ ['-', '+'] := by
        dsimp only at last
        split at last
        · next whole =>
          refine ⟨by simpa using whole.1, ?_⟩
          split at last
          · next plus => simp [plus]
          · split at last
            · next minus => simp [minus]
            · cases last
        · cases last
      have signs : ∀ c ∈ ['-', '+'], c ∈ caseless ∧ (if c == '-' then '-' else '+') = c :=
        List.all_iff_forall_prop.mp (by decide)
      obtain ⟨listed, written⟩ := signs _ isSign
      rw [upperChar_eq_of_mem_caseless listed] at written
      refine ⟨.offset (sign == '-') hours minutes, ?_⟩
      rw [SpelledZone.characters, written, nothing]
      simp

theorem exists_clock_of_readClock? {clock : Clock}
    (read : readClock? (text.map upperChar) = some clock) :
    ∃ spelled : SpelledClock, text = spelled.characters := by
  have colon : ':' ∈ caseless := by decide
  obtain ⟨_, letterTaken, read⟩ := Option.bind_eq_some_iff.mp read
  obtain ⟨letter, isLetter, _, rfl, rfl⟩ := exists_of_after? letterTaken
  obtain ⟨⟨_, _⟩, hoursTaken, read⟩ := Option.bind_eq_some_iff.mp read
  obtain ⟨hours, short, _, rfl, rfl⟩ := leaves_of_oneOrTwoDigits? hoursTaken
  obtain ⟨_, colonTaken, read⟩ := Option.bind_eq_some_iff.mp read
  obtain ⟨_, rfl, rfl⟩ := leaves_of_after? colon colonTaken
  obtain ⟨⟨_, _⟩, minutesTaken, read⟩ := Option.bind_eq_some_iff.mp read
  obtain ⟨minutes, _, rfl, rfl⟩ := leaves_of_twoDigits? minutesTaken
  dsimp only at read
  split at read
  · obtain ⟨⟨⟨_, _⟩, _⟩, secondsTaken, read⟩ := Option.bind_eq_some_iff.mp read
    obtain ⟨seconds, _, rfl, rfl⟩ := leaves_of_takeSeconds? secondsTaken
    obtain ⟨_, offsetRead, -⟩ := Option.bind_eq_some_iff.mp read
    obtain ⟨zone, rfl⟩ := exists_zone_of_readOffset? offsetRead
    have small : letter = 'T' ∨ letter = 't' :=
      eq_or_eq_of_upperChar isLetter rfl (by decide) (by decide)
    rcases small with rfl | rfl
    · exact ⟨⟨false, hours, short, minutes, seconds, zone⟩, by simp [SpelledClock.characters]⟩
    · exact ⟨⟨true, hours, short, minutes, seconds, zone⟩, by simp [SpelledClock.characters]⟩
  · cases read

/-- Every text that is read as an instant is the text of a spelling. -/
theorem exists_spelling_of_read {text : String} {instant : Instant}
    (accepted : read text = .ok instant) : ∃ spelling : Spelling, spelling.text = text := by
  obtain ⟨date, _, dateRead, -, ending⟩ := readUpper_eq_ok_iff.mp (read_eq_ok_iff.mp accepted)
  obtain ⟨year, month, day, behind, whole, rfl⟩ := leaves_of_readDate dateRead
  obtain ⟨clock, rfl⟩ : ∃ clock, behind = optionalCharacters SpelledClock.characters clock := by
    rcases ending with ⟨nothing, -⟩ | ⟨found, clockRead, -⟩
    · exact ⟨none, List.map_eq_nil_iff.mp nothing⟩
    · obtain ⟨clock, rfl⟩ := exists_clock_of_readClock? clockRead
      exact ⟨some clock, rfl⟩
  refine ⟨⟨year, month, day, clock⟩, ?_⟩
  rw [Spelling.text, ← String.toList_inj, String.toList_ofList, whole]
  simp [Spelling.characters]

end Inversion

section Lexical

theorem exists_row_of_matches {count : Nat} {text : List Char}
    (described : (digits (count + 1)).Matches text) :
    ∃ row : SizedRow (count + 1), row.1.characters = text := by
  obtain ⟨length, each⟩ := matches_digits_iff.mp described
  have nonempty : text ≠ [] := List.ne_nil_of_length_eq_add_one length
  exact ⟨⟨⟨text, nonempty, each⟩, length⟩, rfl⟩

theorem exists_zone_of_matches {text : List Char}
    (described : (optionally <| choice (oneOf "Zz")
      (all [oneOf "+-", digits 2, is ':', digits 2])).Matches text) :
    ∃ zone : SpelledZone, zone.characters = text := by
  rcases matches_choice_iff.mp described with present | absent
  · rcases matches_choice_iff.mp present with universal | offset
    · obtain ⟨c, rfl, permitted⟩ := matches_char_iff.mp universal
      have letters : c = 'Z' ∨ c = 'z' := by simpa using permitted
      rcases letters with rfl | rfl
      · exact ⟨.universal false, rfl⟩
      · exact ⟨.universal true, rfl⟩
    · obtain ⟨_, _, rfl, sign, afterSign⟩ := matches_seq_iff.mp offset
      obtain ⟨_, _, rfl, hoursDigits, afterHours⟩ := matches_seq_iff.mp afterSign
      obtain ⟨_, _, rfl, colon, afterColon⟩ := matches_seq_iff.mp afterHours
      obtain ⟨_, _, rfl, minutesDigits, nothing⟩ := matches_seq_iff.mp afterColon
      obtain ⟨c, rfl, permitted⟩ := matches_char_iff.mp sign
      obtain ⟨hours, rfl⟩ := exists_row_of_matches hoursDigits
      obtain rfl := matches_is_iff.mp colon
      obtain ⟨minutes, rfl⟩ := exists_row_of_matches minutesDigits
      obtain rfl := matches_empty_iff.mp nothing
      have signs : c = '+' ∨ c = '-' := by simpa using permitted
      rcases signs with rfl | rfl
      · exact ⟨.offset false hours minutes, by simp [SpelledZone.characters]⟩
      · exact ⟨.offset true hours minutes, by simp [SpelledZone.characters]⟩
  · obtain rfl := matches_empty_iff.mp absent
    exact ⟨.absent, rfl⟩

theorem exists_seconds_of_matches {text : List Char}
    (described : (optionally <| all [is ':', digits 2,
      optionally (all [is '.', number])]).Matches text) :
    ∃ seconds, optionalCharacters SpelledSeconds.characters seconds = text := by
  rcases matches_choice_iff.mp described with present | absent
  · obtain ⟨_, _, rfl, colon, afterColon⟩ := matches_seq_iff.mp present
    obtain ⟨_, _, rfl, wholeDigits, afterWhole⟩ := matches_seq_iff.mp afterColon
    obtain ⟨_, _, rfl, fraction, nothing⟩ := matches_seq_iff.mp afterWhole
    obtain rfl := matches_is_iff.mp colon
    obtain ⟨whole, rfl⟩ := exists_row_of_matches wholeDigits
    obtain rfl := matches_empty_iff.mp nothing
    rcases matches_choice_iff.mp fraction with pointed | plain
    · obtain ⟨_, _, rfl, point, afterPoint⟩ := matches_seq_iff.mp pointed
      obtain ⟨digits, _, rfl, areDigits, nothing⟩ := matches_seq_iff.mp afterPoint
      obtain rfl := matches_is_iff.mp point
      obtain rfl := matches_empty_iff.mp nothing
      obtain ⟨nonempty, each⟩ := matches_number_iff.mp areDigits
      exact ⟨some ⟨whole, some ⟨false, digits, nonempty, each⟩⟩, by
        simp [SpelledSeconds.characters, SpelledFraction.characters]⟩
    · obtain rfl := matches_empty_iff.mp plain
      exact ⟨some ⟨whole, none⟩, by simp [SpelledSeconds.characters]⟩
  · obtain rfl := matches_empty_iff.mp absent
    exact ⟨none, rfl⟩

theorem exists_clock_of_matches {text : List Char}
    (described : (all [oneOf "Tt", digits 2, is ':', digits 2,
      optionally <| all [is ':', digits 2, optionally (all [is '.', number])],
      optionally <| choice (oneOf "Zz")
        (all [oneOf "+-", digits 2, is ':', digits 2])]).Matches text) :
    ∃ clock : SpelledClock, clock.characters = text := by
  obtain ⟨_, _, rfl, letter, afterLetter⟩ := matches_seq_iff.mp described
  obtain ⟨_, _, rfl, hoursDigits, afterHours⟩ := matches_seq_iff.mp afterLetter
  obtain ⟨_, _, rfl, colon, afterColon⟩ := matches_seq_iff.mp afterHours
  obtain ⟨_, _, rfl, minutesDigits, afterMinutes⟩ := matches_seq_iff.mp afterColon
  obtain ⟨_, _, rfl, areSeconds, afterSeconds⟩ := matches_seq_iff.mp afterMinutes
  obtain ⟨_, _, rfl, isZone, nothing⟩ := matches_seq_iff.mp afterSeconds
  obtain ⟨c, rfl, permitted⟩ := matches_char_iff.mp letter
  obtain ⟨hours, rfl⟩ := exists_row_of_matches hoursDigits
  obtain rfl := matches_is_iff.mp colon
  obtain ⟨minutes, rfl⟩ := exists_row_of_matches minutesDigits
  obtain ⟨seconds, rfl⟩ := exists_seconds_of_matches areSeconds
  obtain ⟨zone, rfl⟩ := exists_zone_of_matches isZone
  obtain rfl := matches_empty_iff.mp nothing
  have letters : c = 'T' ∨ c = 't' := by simpa using permitted
  rcases letters with rfl | rfl
  · exact ⟨⟨false, hours.1, hours.2.le, minutes, seconds, zone⟩, by simp [SpelledClock.characters]⟩
  · exact ⟨⟨true, hours.1, hours.2.le, minutes, seconds, zone⟩, by simp [SpelledClock.characters]⟩

/-- Every text that the class of dates describes is the text of a spelling. -/
theorem exists_spelling_of_matches {text : String}
    (described : datetimePattern.Matches text.toList) :
    ∃ spelling : Spelling, spelling.text = text := by
  obtain ⟨_, _, whole, yearDigits, afterYear⟩ := matches_seq_iff.mp described
  obtain ⟨_, _, rfl, firstHyphen, beforeMonth⟩ := matches_seq_iff.mp afterYear
  obtain ⟨_, _, rfl, monthDigits, afterMonth⟩ := matches_seq_iff.mp beforeMonth
  obtain ⟨_, _, rfl, secondHyphen, beforeDay⟩ := matches_seq_iff.mp afterMonth
  obtain ⟨_, _, rfl, dayDigits, afterDay⟩ := matches_seq_iff.mp beforeDay
  obtain ⟨_, _, rfl, timed, nothing⟩ := matches_seq_iff.mp afterDay
  obtain rfl := matches_is_iff.mp firstHyphen
  obtain rfl := matches_is_iff.mp secondHyphen
  obtain rfl := matches_empty_iff.mp nothing
  obtain ⟨year, rfl⟩ := exists_row_of_matches yearDigits
  obtain ⟨month, rfl⟩ := exists_row_of_matches monthDigits
  obtain ⟨day, rfl⟩ := exists_row_of_matches dayDigits
  obtain ⟨clock, rfl⟩ : ∃ clock, optionalCharacters SpelledClock.characters clock = _ := by
    rcases matches_choice_iff.mp timed with present | absent
    · obtain ⟨clock, same⟩ := exists_clock_of_matches present
      exact ⟨some clock, same⟩
    · exact ⟨none, (matches_empty_iff.mp absent).symm⟩
  refine ⟨⟨year, month, day, clock⟩, ?_⟩
  rw [Spelling.text, ← String.toList_inj, String.toList_ofList, whole]
  simp [Spelling.characters]

end Lexical

section Resolving

variable {text : String} {position : Nat}

theorem resolve_datetime {instant : Instant} (accepted : read text = .ok instant) :
    Literal.resolve ⟨.datetime, text, position⟩ = .ok ⟨text, .instant instant⟩ := by
  unfold Literal.resolve LiteralKind.content
  rw [accepted]

theorem resolve_no_datetime {error : DatetimeError} (refused : read text = .error error) :
    Literal.resolve ⟨.datetime, text, position⟩ = .error ⟨text, .datetime, .datetime error⟩ := by
  unfold Literal.resolve LiteralKind.content
  rw [refused]

theorem SpelledZone.AtMost.mono {zone : SpelledZone} {hours minutes moreHours moreMinutes : Nat}
    (atMost : zone.AtMost hours minutes) (hoursLe : hours ≤ moreHours)
    (minutesLe : minutes ≤ moreMinutes) : zone.AtMost moreHours moreMinutes := by
  cases zone with
  | absent | universal => trivial
  | offset negative ownHours ownMinutes =>
    exact ⟨atMost.1.trans hoursLe, atMost.2.trans minutesLe⟩

/-- A text of the class of dates is the text of a spelling. It has a value exactly if there are such
a date and such a time of day, and the value is the instant so many days from the first of January
1970, at that time of day, less the offset. -/
theorem datetimes_denote_instants {text : String} (described : datetimePattern.Matches text.toList)
    (position : Nat) :
    (∃ spelling : Spelling, spelling.text = text) ∧
    ∀ spelling : Spelling, spelling.text = text → spelling.OffsetAtMost 23 59 →
      ((∃ value, Literal.resolve ⟨.datetime, text, position⟩ = .ok value) ↔ spelling.IsReal) ∧
      (spelling.IsReal → ∃ days, Calendar.firstDay.DaysApart days spelling.date ∧
        Literal.resolve ⟨.datetime, text, position⟩ = .ok ⟨text, .instant
          ⟨86400 * days + spelling.timeOfDay - spelling.offset, spelling.nanoseconds⟩⟩) := by
  refine ⟨exists_spelling_of_matches described, ?_⟩
  rintro spelling rfl small
  have allowed : spelling.OffsetAtMost 24 60 := fun clock written =>
    (small clock written).mono (by decide) (by decide)
  have resolved (isReal : spelling.IsReal) :
      Literal.resolve ⟨.datetime, spelling.text, position⟩ =
        .ok ⟨spelling.text, .instant spelling.instant⟩ :=
    resolve_datetime (spelling.read_text_eq_ok_iff.mpr ⟨isReal, allowed, rfl⟩)
  refine ⟨⟨?_, fun isReal => ⟨_, resolved isReal⟩⟩, fun isReal => ?_⟩
  · rintro ⟨value, found⟩
    cases outcome : read spelling.text with
    | ok instant => exact (spelling.read_text_eq_ok_iff.mp outcome).1
    | error error =>
      rw [resolve_no_datetime outcome] at found
      cases found
  · exact ⟨_, (Calendar.daysApart_iff (Date.occurs_iff_isGregorian.mpr isReal.1)).mpr rfl,
      resolved isReal⟩

/-- A leap day that ends in March of universal time, with more digits than a fraction keeps, and a
leap day of a year that has none. -/
theorem datetimes_denote_instants_leap :
    Literal.resolve ⟨.datetime, "2024-02-29t23:30:59.12345678912-05:30", 7⟩ =
        .ok ⟨"2024-02-29t23:30:59.12345678912-05:30", .instant ⟨1709269259, 123456789⟩⟩ ∧
      ¬ ∃ value, Literal.resolve ⟨.datetime, "1900-02-29", 0⟩ = .ok value := by
  let leap : Spelling :=
    { year := ⟨⟨"2024".toList, by decide, List.all_eq_true.mp rfl⟩, rfl⟩
      month := .pair '0' '2' rfl
      day := .pair '2' '9' rfl
      clock := some
        { lower := true
          hours := (SizedRow.pair '2' '3' rfl).1
          hours_length := by decide
          minutes := .pair '3' '0' rfl
          seconds := some ⟨.pair '5' '9' rfl,
            some ⟨false, "12345678912".toList, by decide, List.all_eq_true.mp rfl⟩⟩
          zone := .offset true (.pair '0' '5' rfl) (.pair '3' '0' rfl) } }
  let common : Spelling :=
    { year := ⟨⟨"1900".toList, by decide, List.all_eq_true.mp rfl⟩, rfl⟩
      month := .pair '0' '2' rfl
      day := .pair '2' '9' rfl
      clock := none }
  constructor
  · have split : datetimePattern.split? "2024-02-29t23:30:59.12345678912-05:30".toList =
        some ("2024-02-29t23:30:59.12345678912-05:30".toList, []) := rfl
    have described := matches_of_split? split
    have isReal : leap.IsReal := by
      refine ⟨by decide, ?_⟩
      rintro _ ⟨⟩
      exact ⟨by decide, by decide, by decide⟩
    have small : leap.OffsetAtMost 23 59 := by
      rintro _ ⟨⟩
      exact ⟨by decide, by decide⟩
    obtain ⟨days, apart, resolved⟩ :=
      ((datetimes_denote_instants described 7).2 leap rfl small).2 isReal
    obtain rfl := (Calendar.daysApart_iff (Date.occurs_iff_isGregorian.mpr isReal.1)).mp apart
    have seconds : 86400 * Calendar.dayNumber leap.date + leap.timeOfDay - leap.offset =
        1709269259 := by
      decide
    have nanoseconds : leap.nanoseconds = 123456789 := by decide
    rw [seconds, nanoseconds] at resolved
    exact resolved
  · have split : datetimePattern.split? "1900-02-29".toList = some ("1900-02-29".toList, []) := rfl
    have described := matches_of_split? split
    rw [((datetimes_denote_instants described 0).2 common rfl (by rintro _ ⟨⟩)).1]
    rintro ⟨isGregorian, -⟩
    revert isGregorian
    decide

end Resolving

section Offsets

/-- A text from the letter of its time of day on, nothing if it has no such letter. -/
def clockPart (text : String) : List Char :=
  text.toList.dropWhile fun c => c != 'T' && c != 't'

/-- A text has a time of day. -/
def HasClock (text : String) : Prop := clockPart text ≠ []

/-- The time of day of a text has an offset: the letter of universal time, or a sign. -/
def HasOffset (text : String) : Prop := ∃ c ∈ clockPart text, c ∈ ['Z', 'z', '+', '-']

theorem clockPart_text (spelling : Spelling) :
    clockPart spelling.text = optionalCharacters SpelledClock.characters spelling.clock := by
  have parts : spelling.text.toList = (spelling.year.1.characters ++
      '-' :: (spelling.month.1.characters ++ '-' :: spelling.day.1.characters)) ++
        optionalCharacters SpelledClock.characters spelling.clock := by
    simp [Spelling.text, Spelling.characters]
  have dated : ∀ c ∈ spelling.year.1.characters ++
      '-' :: (spelling.month.1.characters ++ '-' :: spelling.day.1.characters), c ∈ caseless := by
    simp only [List.mem_append, List.mem_cons]
    rintro c (inYear | rfl | inMonth | rfl | inDay)
    · exact mem_caseless_of_row inYear
    · decide
    · exact mem_caseless_of_row inMonth
    · decide
    · exact mem_caseless_of_row inDay
  have noLetter : ∀ c ∈ caseless, (c != 'T' && c != 't') = true :=
    List.all_iff_forall_prop.mp (by decide)
  rw [clockPart, parts, List.dropWhile_append_of_pos fun c listed => noLetter c (dated c listed)]
  cases spelling.clock with
  | none => rfl
  | some clock => cases lower : clock.lower <;> simp [SpelledClock.characters, lower]

/-- A time of day that has no offset may get one, which moves the instant by as much. -/
theorem read_append_zone {spelling : Spelling} {clock : SpelledClock}
    (timed : spelling.clock = some clock) (noOffset : clock.zone = .absent) {instant : Instant}
    (accepted : read spelling.text = .ok instant) (zone : SpelledZone)
    (allowed : zone.AtMost 23 59) :
    read (spelling.text ++ String.ofList zone.characters) =
      .ok { instant with seconds := instant.seconds - zone.seconds } := by
  obtain ⟨⟨occurs, areTimes⟩, -, rfl⟩ := spelling.read_text_eq_ok_iff.mp accepted
  have isTime : clock.IsTime := areTimes clock timed
  let moved : Spelling := { spelling with clock := some { clock with zone } }
  have text : spelling.text ++ String.ofList zone.characters = moved.text := by
    rw [← String.toList_inj]
    simp [Spelling.text, Spelling.characters, moved, timed, SpelledClock.characters, noOffset,
      SpelledZone.characters]
  rw [text, moved.read_text_eq_ok_iff]
  refine ⟨⟨occurs, ?_⟩, ?_, ?_⟩
  · rintro _ ⟨⟩
    exact isTime
  · rintro _ ⟨⟩
    exact allowed.mono (by decide) (by decide)
  · simp [Spelling.instant, Spelling.date, Spelling.timeOfDay, Spelling.offset,
      Spelling.nanoseconds, moved, timed, noOffset, SpelledZone.seconds, SpelledClock.timeOfDay,
      SpelledClock.second, SpelledClock.nanoseconds]

/-- The text of an offset. -/
def offsetText (sign : String) (hours minutes : SizedRow 2) : String :=
  sign ++ String.ofList hours.1.characters ++ ":" ++ String.ofList minutes.1.characters

theorem offsetText_eq (negative : Bool) (hours minutes : SizedRow 2) :
    offsetText (if negative then "-" else "+") hours minutes =
      String.ofList (SpelledZone.offset negative hours minutes).characters := by
  rw [← String.toList_inj]
  cases negative <;> simp [offsetText, SpelledZone.characters]

/-- A time of day whose text has neither the letter of universal time nor a sign has no zone. -/
theorem SpelledClock.zone_eq_absent {clock : SpelledClock}
    (noOffset : ¬ ∃ c ∈ clock.characters, c ∈ ['Z', 'z', '+', '-']) : clock.zone = .absent := by
  have inside : ∀ c ∈ clock.zone.characters, c ∈ clock.characters := by
    intro c listed
    simp [SpelledClock.characters, listed]
  cases written : clock.zone with
  | absent => rfl
  | universal lower =>
    rw [written] at inside
    exact absurd ⟨_, inside _ List.mem_cons_self, by cases lower <;> decide⟩ noOffset
  | offset negative hours minutes =>
    rw [written] at inside
    exact absurd ⟨_, inside _ List.mem_cons_self, by cases negative <;> decide⟩ noOffset

/-- A time of day without an offset is universal time. With an offset, it is as much earlier as the
offset is ahead of universal time. -/
theorem missing_offset_is_universal {text : String} {instant : Instant}
    (accepted : read text = .ok instant) (timed : HasClock text) (noOffset : ¬ HasOffset text) :
    read (text ++ "Z") = .ok instant ∧ read (text ++ "z") = .ok instant ∧
    ∀ hours minutes : SizedRow 2, hours.1.value ≤ 23 → minutes.1.value ≤ 59 →
      read (text ++ offsetText "+" hours minutes) = .ok { instant with
        seconds := instant.seconds - (3600 * hours.1.value + 60 * minutes.1.value) } ∧
      read (text ++ offsetText "-" hours minutes) = .ok { instant with
        seconds := instant.seconds + (3600 * hours.1.value + 60 * minutes.1.value) } := by
  obtain ⟨spelling, rfl⟩ := exists_spelling_of_read accepted
  rw [HasClock, clockPart_text] at timed
  rw [HasOffset, clockPart_text] at noOffset
  cases written : spelling.clock with
  | none => exact absurd (by rw [written]; rfl) timed
  | some clock =>
    rw [written, optionalCharacters_some] at noOffset
    have moves := read_append_zone written (clock.zone_eq_absent noOffset) accepted
    refine ⟨?_, ?_, fun hours minutes hoursLe minutesLe => ⟨?_, ?_⟩⟩
    · simpa [SpelledZone.characters, SpelledZone.seconds] using moves (.universal false) trivial
    · simpa [SpelledZone.characters, SpelledZone.seconds] using moves (.universal true) trivial
    · have ahead := moves (.offset false hours minutes) ⟨hoursLe, minutesLe⟩
      have distance : (SpelledZone.offset false hours minutes).seconds =
          3600 * hours.1.value + 60 * minutes.1.value := by
        simp only [SpelledZone.seconds, Bool.false_eq_true, if_false]
        omega
      rw [← offsetText_eq, distance] at ahead
      exact ahead
    · have behind := moves (.offset true hours minutes) ⟨hoursLe, minutesLe⟩
      have distance : (SpelledZone.offset true hours minutes).seconds =
          -(3600 * hours.1.value + 60 * minutes.1.value : Int) := by
        simp only [SpelledZone.seconds, if_true]
        omega
      rw [← offsetText_eq, distance, Int.sub_neg] at behind
      exact behind

/-- An hour of one digit and a fraction behind a comma, in the west and in the east. -/
theorem missing_offset_is_universal_comma :
    read "2020-03-01t5:07:08,25" = .ok ⟨1583039228, 250000000⟩ ∧
      read "2020-03-01t5:07:08,25z" = .ok ⟨1583039228, 250000000⟩ ∧
      read "2020-03-01t5:07:08,25+09:30" = .ok ⟨1583005028, 250000000⟩ ∧
      read "2020-03-01t5:07:08,25-09:30" = .ok ⟨1583073428, 250000000⟩ := by
  have accepted : read "2020-03-01t5:07:08,25" = .ok ⟨1583039228, 250000000⟩ := by rfl
  have timed : HasClock "2020-03-01t5:07:08,25" := List.cons_ne_nil 't' "5:07:08,25".toList
  have noSign : ∀ c ∈ "t5:07:08,25".toList, c ∉ ['Z', 'z', '+', '-'] :=
    List.all_iff_forall_prop.mp (by decide)
  have noOffset : ¬ HasOffset "2020-03-01t5:07:08,25" := fun ⟨c, listed, sign⟩ =>
    noSign c listed sign
  obtain ⟨-, small, offsets⟩ := missing_offset_is_universal accepted timed noOffset
  obtain ⟨east, west⟩ :=
    offsets (.pair '0' '9' rfl) (.pair '3' '0' rfl) (by decide) (by decide)
  exact ⟨accepted, small, east, west⟩

end Offsets

end Instant

end FilterQuery
