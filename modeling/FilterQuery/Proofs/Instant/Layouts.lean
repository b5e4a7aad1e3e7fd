import FilterQuery.Instant.Reading

/-!
# One grammar for all layouts

The layouts overlap: each starts with a date, and all but one go on with hours and minutes. A text
is read as an instant if it is a date that occurs, and nothing or a time of day follows. `readUpper`
reads it that way, from the left to the right and only once. It finds what the first layout of the
text finds, and the same fault in a text that has none (`read_eq_readUpper`).
-/

namespace FilterQuery.Instant

/-- The layouts as they are written. -/
example : (Layout.first :: Layout.others).map Layout.text =
    ["2006-01-02T15:04:05.999999999Z07:00", "2006-01-02T15:04Z07:00",
      "2006-01-02T15:04:05.999999999", "2006-01-02T15:04", "2006-01-02"] := by decide

section Grammar

/-- Reads a date, whose day need not exist, and returns the text after it. -/
def readDate (text : List Char) : Except DatetimeFault (Date × List Char) := do
  let part {α : Type} (name : String) (rest : List Char) (found : Option α) :
      Except DatetimeFault α :=
    match found with
    | some value => .ok value
    | none => .error (.unreadable (String.ofList rest) name)
  let (year, rest) ← part "2006" text (fourDigits? text)
  let rest ← part "-" rest (after? '-' rest)
  let (month, rest) ← part "01" rest (twoDigits? rest)
  if month < 1 ∨ 12 < month then throw (.outOfRange "month")
  let rest ← part "-" rest (after? '-' rest)
  let (day, rest) ← part "02" rest (twoDigits? rest)
  pure (⟨year, month, day⟩, rest)

/-- The offset from universal time, in seconds, that a whole text spells. -/
def readOffset? : List Char → Option Int
  | [] => some 0
  | ['Z'] => some 0
  | sign :: rest => do
    let (hours, rest) ← twoDigits? rest
    let rest ← after? ':' rest
    let (minutes, rest) ← twoDigits? rest
    if rest.isEmpty ∧ hours ≤ 24 ∧ minutes ≤ 60 then
      let offset : Int := hours * 3600 + minutes * 60
      if sign = '+' then some offset else if sign = '-' then some (-offset) else none
    else none

/-- A time of day: seconds since midnight, nanoseconds, and the offset from universal time. -/
structure Clock where
  seconds : Nat
  nanoseconds : Nat
  offset : Int
deriving DecidableEq, Repr

/-- Reads seconds and their fraction after a colon; without a colon there are none. -/
def takeSeconds? (text : List Char) : Option ((Nat × Nat) × List Char) :=
  match after? ':' text with
  | none => some ((0, 0), text)
  | some rest => do
    let (seconds, rest) ← twoDigits? rest
    if seconds < 60 then
      let (fraction, rest) := takeFraction rest
      some ((seconds, fraction), rest)
    else none

/-- The time of day that a whole text spells. -/
def readClock? (text : List Char) : Option Clock := do
  let rest ← after? 'T' text
  let (hours, rest) ← oneOrTwoDigits? rest
  let rest ← after? ':' rest
  let (minutes, rest) ← twoDigits? rest
  if hours < 24 ∧ minutes < 60 then
    let ((seconds, nanoseconds), rest) ← takeSeconds? rest
    let offset ← readOffset? rest
    some ⟨hours * 3600 + minutes * 60 + seconds, nanoseconds, offset⟩
  else none

/-- The instant of a date and a time of day. -/
def ofDateAndClock (date : Date) (clock : Clock) : Instant :=
  ⟨86400 * Calendar.dayNumber date + clock.seconds - clock.offset, clock.nanoseconds⟩

/-- The instant that upper-case text spells. -/
def readUpper (text : List Char) : Except DatetimeFault Instant := do
  let (date, rest) ← readDate text
  if rest.isEmpty then
    if date.occurs then pure (ofDateAndClock date ⟨0, 0, 0⟩) else throw (.outOfRange "day")
  else
    match readClock? rest with
    | some clock =>
      if date.occurs then pure (ofDateAndClock date clock)
      else throw (.extra (String.ofList rest))
    | none => throw (.extra (String.ofList rest))

/-- The hours and minutes that stand behind a date. -/
def takeMinutes? (text : List Char) : Option ((Nat × Nat) × List Char) := do
  let rest ← after? 'T' text
  let (hours, rest) ← oneOrTwoDigits? rest
  let rest ← after? ':' rest
  let (minutes, rest) ← twoDigits? rest
  if hours < 24 ∧ minutes < 60 then some ((hours, minutes), rest) else none

/-- What becomes of a text behind the parts of a layout. -/
def settle? (found : Moment × List Char) : Option Instant :=
  if found.2 = [] ∧ found.1.date.occurs then some found.1.instant else none

end Grammar

/-! Parts of layouts are read as the grammar reads them. Of the parts behind a date only the success
matters, as no layout that has them is the last. -/

section Parts

theorem eq_cons_of_after? {c : Char} {text rest : List Char} (found : after? c text = some rest) :
    text = c :: rest := by
  cases text with
  | nil => cases found
  | cons head tail =>
    obtain ⟨rfl, rfl⟩ : head = c ∧ tail = rest := by simpa [after?] using found
    rfl

theorem toOption_readParts_append (first second : Layout) (moment : Moment) (text : List Char) :
    (readParts (first ++ second) moment text).toOption =
      (readParts first moment text).toOption.bind fun found =>
        (readParts second found.1 found.2).toOption := by
  have both : readParts (first ++ second) moment text =
      (readParts first moment text).bind fun found => readParts second found.1 found.2 :=
    List.foldlM_append
  rw [both]
  cases readParts first moment text <;> rfl

theorem readParts_date (text : List Char) :
    readParts Layout.date {} text =
      (readDate text).map fun found => ({ date := found.1 }, found.2) := by
  simp only [readParts, Layout.date, List.foldlM_cons, List.foldlM_nil, readPart, readDate,
    LayoutPart.text, bind, Except.bind, pure, Except.pure]
  rcases fourDigits? text with _ | ⟨year, rest⟩
  · rfl
  dsimp only
  rcases after? '-' rest with _ | rest
  · rfl
  dsimp only
  rcases twoDigits? rest with _ | ⟨month, rest⟩
  · rfl
  dsimp only
  by_cases outside : month < 1 ∨ 12 < month
  · simp only [if_pos outside]
    rfl
  simp only [if_neg outside]
  rcases after? '-' rest with _ | rest
  · rfl
  dsimp only
  rcases twoDigits? rest with _ | ⟨day, rest⟩ <;> rfl

theorem readParts_minutes (moment : Moment) (text : List Char) :
    (readParts Layout.minutes moment text).toOption =
      (takeMinutes? text).map fun found =>
        ({ moment with hours := found.1.1, minutes := found.1.2 }, found.2) := by
  simp only [readParts, Layout.minutes, List.foldlM_cons, List.foldlM_nil, readPart, takeMinutes?,
    bind, Except.bind, pure, Except.pure]
  rcases after? 'T' text with _ | rest
  · rfl
  dsimp only [Option.bind]
  rcases oneOrTwoDigits? rest with _ | ⟨hours, rest⟩
  · rfl
  dsimp only
  -- The hours are judged before the minutes are read, here, but together with them in the grammar.
  by_cases early : hours < 24
  · simp only [if_neg (Nat.not_le.mpr early), early, true_and]
    rcases after? ':' rest with _ | rest
    · rfl
    dsimp only
    rcases twoDigits? rest with _ | ⟨minutes, rest⟩
    · rfl
    dsimp only
    by_cases inHour : minutes < 60
    · simp only [if_neg (Nat.not_le.mpr inHour), if_pos inHour]
      rfl
    · simp only [if_pos (Nat.not_lt.mp inHour), if_neg inHour]
      rfl
  · simp only [if_pos (Nat.not_lt.mp early), early, false_and, if_false]
    rcases after? ':' rest with _ | rest
    · rfl
    dsimp only
    rcases twoDigits? rest with _ | ⟨minutes, rest⟩ <;> rfl

theorem readParts_seconds (moment : Moment) {text rest : List Char}
    (isColon : after? ':' text = some rest) :
    (readParts Layout.seconds moment text).toOption =
      (takeSeconds? text).map fun found =>
        ({ moment with seconds := found.1.1, nanoseconds := found.1.2 }, found.2) := by
  simp only [readParts, Layout.seconds, List.foldlM_cons, List.foldlM_nil, readPart, takeSeconds?,
    isColon, bind, Except.bind, pure, Except.pure]
  rcases twoDigits? rest with _ | ⟨seconds, rest⟩
  · rfl
  dsimp only [Option.bind]
  by_cases inMinute : seconds < 60
  · simp only [if_neg (Nat.not_le.mpr inMinute), if_pos inMinute]
    rfl
  · simp only [if_pos (Nat.not_lt.mp inMinute), if_neg inMinute]
    rfl

theorem readParts_seconds_of_none (moment : Moment) {text : List Char}
    (noColon : after? ':' text = none) :
    (readParts Layout.seconds moment text).toOption = none := by
  simp only [readParts, Layout.seconds, List.foldlM_cons, readPart, noColon]
  rfl

theorem readOffset?_of_no_sign {c : Char} {rest : List Char} (isNoSign : c ≠ '+' ∧ c ≠ '-')
    (more : c = 'Z' → rest ≠ []) : readOffset? (c :: rest) = none := by
  rw [readOffset?]
  · simp [isNoSign]
  · exact more

/-- A whole text spells an offset if it is empty, or if it is one to its end. -/
theorem readOffset?_eq (fault : DatetimeFault) (text : List Char) :
    readOffset? text =
      if text = [] then some 0
      else (takeZone fault text).toOption.bind fun found =>
        if found.2 = [] then some found.1 else none := by
  rcases text with _ | ⟨sign, rest⟩
  · rfl
  rw [if_neg (List.cons_ne_nil _ _), takeZone]
  by_cases isUniversal : sign = 'Z'
  · subst isUniversal
    rcases rest with _ | ⟨c, rest⟩
    · rfl
    · rw [readOffset?_of_no_sign (by decide) fun _ => List.cons_ne_nil _ _]
      rfl
  · simp only [isUniversal, if_false, readOffset?, false_imp_iff]
    rcases twoDigits? rest with _ | ⟨hours, rest⟩
    · rfl
    dsimp only [bind, Option.bind, Except.bind]
    rcases after? ':' rest with _ | rest
    · rfl
    dsimp only
    rcases twoDigits? rest with _ | ⟨minutes, rest⟩
    · rfl
    dsimp only
    by_cases inHour : 60 < minutes
    · rw [if_pos inHour, if_neg fun fits => Nat.not_le.mpr inHour fits.2.2]
      rfl
    by_cases inDay : 24 < hours
    · rw [if_neg inHour, if_pos inDay, if_neg fun fits => Nat.not_le.mpr inDay fits.2.1]
      rfl
    simp only [inHour, inDay, Nat.not_lt.mp inHour, Nat.not_lt.mp inDay, if_false, and_true,
      List.isEmpty_iff]
    by_cases east : sign = '+'
    · simp only [if_pos east]
      rfl
    by_cases west : sign = '-'
    · simp only [if_neg east, if_pos west]
      rfl
    · simp only [if_neg east, if_neg west, ite_self]
      rfl

end Parts

section Trial

theorem instant_eq (moment : Moment) :
    moment.instant = ofDateAndClock moment.date
      ⟨moment.hours * 3600 + moment.minutes * 60 + moment.seconds, moment.nanoseconds,
        moment.offset⟩ := rfl

theorem toOption_finish (moment : Moment) (rest : List Char) :
    (moment.finish rest).toOption = settle? (moment, rest) := by
  unfold Moment.finish settle?
  cases rest <;> cases moment.date.occurs <;> rfl

theorem toOption_readAs (layout : Layout) (text : List Char) :
    (readAs layout text).toOption = (readParts layout {} text).toOption.bind settle? := by
  unfold readAs
  rcases readParts layout {} text with fault | ⟨moment, rest⟩
  · rfl
  · exact toOption_finish moment rest

theorem toOption_readAs_date (text : List Char) :
    (readAs Layout.date text).toOption =
      (readDate text).toOption.bind fun found => settle? ({ date := found.1 }, found.2) := by
  rw [toOption_readAs, readParts_date]
  cases readDate text <;> rfl

theorem toOption_readAs_timed (more : Layout) (text : List Char) :
    (readAs (Layout.date ++ Layout.minutes ++ more) text).toOption =
      (readDate text).toOption.bind fun found => (takeMinutes? found.2).bind fun time =>
        (readParts more { date := found.1, hours := time.1.1, minutes := time.1.2 }
          time.2).toOption.bind settle? := by
  rw [toOption_readAs, List.append_assoc, toOption_readParts_append, readParts_date]
  rcases readDate text with fault | ⟨date, rest⟩
  · rfl
  change (readParts (Layout.minutes ++ more) { date } rest).toOption.bind settle? = _
  rw [toOption_readParts_append, readParts_minutes, Option.bind_assoc, Option.bind_map]
  rfl

/-- A time of day is read in three runs. -/
theorem readClock?_eq (text : List Char) :
    readClock? text = (takeMinutes? text).bind fun found =>
      (takeSeconds? found.2).bind fun later =>
        (readOffset? later.2).map fun offset =>
          ⟨found.1.1 * 3600 + found.1.2 * 60 + later.1.1, later.1.2, offset⟩ := by
  unfold readClock? takeMinutes?
  rcases after? 'T' text with _ | rest
  · rfl
  dsimp only [bind, Option.bind]
  rcases oneOrTwoDigits? rest with _ | ⟨hours, rest⟩
  · rfl
  dsimp only
  rcases after? ':' rest with _ | rest
  · rfl
  dsimp only
  rcases twoDigits? rest with _ | ⟨minutes, rest⟩
  · rfl
  dsimp only
  by_cases early : hours < 24 ∧ minutes < 60
  · rw [if_pos early, if_pos early]
    dsimp only
    rcases takeSeconds? rest with _ | ⟨later, rest⟩
    · rfl
    dsimp only
    rcases readOffset? rest with _ | offset <;> rfl
  · rw [if_neg early, if_neg early]

theorem toOption_readUpper (text : List Char) :
    (readUpper text).toOption = (readDate text).toOption.bind fun found =>
      (settle? ({ date := found.1 }, found.2)).or
        (if found.1.occurs then (readClock? found.2).map (ofDateAndClock found.1) else none) := by
  unfold readUpper
  rcases readDate text with fault | ⟨date, rest⟩
  · rfl
  dsimp only [bind, Except.bind, Except.toOption, Option.bind, settle?]
  cases rest with
  | nil =>
    cases date.occurs with
    | false => rfl
    | true =>
      change some (ofDateAndClock date ⟨0, 0, 0⟩) = some (Moment.instant { date })
      simp [instant_eq]
  | cons c rest => cases readClock? (c :: rest) <;> cases date.occurs <;> rfl

theorem settle?_of_ne_nil (moment : Moment) {text : List Char} (more : text ≠ []) :
    settle? (moment, text) = none :=
  if_neg fun settled => more settled.1

/-- Behind a moment without an offset there may be one. -/
theorem or_zone (moment : Moment) (isUniversal : moment.offset = 0) (text : List Char) :
    ((readParts [.zone] moment text).toOption.bind settle?).or (settle? (moment, text)) =
      if moment.date.occurs then
        (readOffset? text).map fun offset => Moment.instant { moment with offset }
      else none := by
  simp only [readParts, List.foldlM_cons, List.foldlM_nil, readPart]
  generalize DatetimeFault.unreadable (String.ofList text) LayoutPart.zone.text = fault
  rw [readOffset?_eq fault]
  by_cases nothing : text = []
  · subst nothing
    have same : { moment with offset := 0 } = moment := by rw [← isUniversal]
    rw [if_pos rfl, Option.map_some, same]
    simp only [settle?, true_and]
    rfl
  · rw [if_neg nothing, settle?_of_ne_nil moment nothing, Option.or_none]
    rcases takeZone fault text with fault | ⟨offset, rest⟩
    · cases moment.date.occurs <;> rfl
    · change settle? ({ moment with offset }, rest) =
        if _ then Option.map _ (if _ then _ else _) else _
      cases rest <;> cases occurs : moment.date.occurs <;> simp [settle?, occurs]

/-- The layouts with a time of day, behind the minutes. Only those with seconds have a colon there,
so the order in which they are tried does not matter. -/
theorem or_seconds (date : Date) (hours minutes : Nat) (text : List Char) :
    let moment : Moment := { date, hours, minutes }
    ((readParts (Layout.seconds ++ [.zone]) moment text).toOption.bind settle?).or
      (((readParts [.zone] moment text).toOption.bind settle?).or
        (((readParts Layout.seconds moment text).toOption.bind settle?).or
          (settle? (moment, text)))) =
      if date.occurs then
        (takeSeconds? text).bind fun later =>
          (readOffset? later.2).map fun offset =>
            ofDateAndClock date ⟨hours * 3600 + minutes * 60 + later.1.1, later.1.2, offset⟩
      else none := by
  intro moment
  have withZone := or_zone moment rfl text
  rw [toOption_readParts_append]
  cases isColon : after? ':' text with
  | none =>
    have absent : takeSeconds? text = some ((0, 0), text) := by rw [takeSeconds?, isColon]
    rw [readParts_seconds_of_none moment isColon, absent]
    exact withZone
  | some rest =>
    obtain rfl := eq_cons_of_after? isColon
    have noZone : readOffset? (':' :: rest) = none :=
      readOffset?_of_no_sign (by decide) (fun same => absurd same (by decide))
    rw [noZone, Option.map_none, ite_self, Option.or_eq_none_iff] at withZone
    rw [withZone.1, withZone.2, Option.none_or, Option.or_none, readParts_seconds moment isColon]
    cases takeSeconds? (':' :: rest) with
    | none => exact (ite_self _).symm
    | some later =>
      exact or_zone { moment with seconds := later.1.1, nanoseconds := later.1.2 } rfl later.2

theorem ne_nil_of_takeMinutes? {text : List Char} {found : (Nat × Nat) × List Char}
    (taken : takeMinutes? text = some found) : text ≠ [] := by
  rintro rfl
  cases taken

theorem toOption_readFirst_cons (text : String) (layout next : Layout) (others : List Layout) :
    (readFirst text layout (next :: others)).toOption =
      (readAs layout text.toList).toOption.or (readFirst text next others).toOption := by
  rw [readFirst]
  cases readAs layout text.toList <;> rfl

theorem toOption_readFirst_nil (text : String) (layout : Layout) :
    (readFirst text layout []).toOption = (readAs layout text.toList).toOption := by
  rw [readFirst]
  cases readAs layout text.toList <;> rfl

/-- The layouts together read what the one grammar reads. -/
theorem toOption_readFirst (text : String) :
    (readFirst text Layout.first Layout.others).toOption = (readUpper text.toList).toOption := by
  have first : Layout.first = Layout.date ++ Layout.minutes ++ (Layout.seconds ++ [.zone]) :=
    List.append_assoc _ _ _
  have noMore : Layout.date ++ Layout.minutes = Layout.date ++ Layout.minutes ++ [] :=
    (List.append_nil _).symm
  simp only [Layout.others, toOption_readFirst_cons, toOption_readFirst_nil, first,
    toOption_readUpper, toOption_readAs_date, toOption_readAs_timed]
  rw [noMore, toOption_readAs_timed]
  rcases readDate text.toList with fault | ⟨date, rest⟩
  · rfl
  have found : (Except.ok (date, rest) : Except DatetimeFault _).toOption = some (date, rest) := rfl
  simp only [found, Option.bind_some, readClock?_eq]
  cases taken : takeMinutes? rest with
  | none => simp
  | some time =>
    -- The last layout does not fit: a time of day stands behind the date.
    have isNoDate := settle?_of_ne_nil { date } (ne_nil_of_takeMinutes? taken)
    rw [isNoDate, Option.or_none, Option.none_or]
    refine (or_seconds date time.1.1 time.1.2 time.2).trans ?_
    simp only [Option.bind_some, Option.map_bind, Option.map_map, Function.comp_def]

/-- A text without any of the layouts is judged by the last. -/
theorem readFirst_eq_error (text : String) (layout : Layout) (others : List Layout)
    {error : DatetimeError} (failed : readFirst text layout others = .error error) :
    error.text = text ∧ error.layout = others.getLastD layout ∧
      readAs error.layout text.toList = .error error.fault := by
  induction others generalizing layout with
  | nil =>
    rw [readFirst] at failed
    cases read : readAs layout text.toList with
    | ok instant =>
      rw [read] at failed
      cases failed
    | error fault =>
      rw [read] at failed
      cases failed
      exact ⟨rfl, rfl, read⟩
  | cons next others inductionHypothesis =>
    rw [readFirst] at failed
    cases read : readAs layout text.toList with
    | ok instant =>
      rw [read] at failed
      cases failed
    | error fault =>
      rw [read] at failed
      rw [List.getLastD_cons]
      exact inductionHypothesis next failed

/-- What the one grammar finds wrong with a text is what is wrong with it as a date. -/
theorem readAs_date_of_error {text : List Char} {fault : DatetimeFault}
    (failed : readUpper text = .error fault) : readAs Layout.date text = .error fault := by
  unfold readUpper at failed
  unfold readAs
  rw [readParts_date]
  generalize readDate text = found at failed ⊢
  rcases found with unreadable | ⟨date, rest⟩
  · exact failed
  change Moment.finish { date } rest = .error fault
  dsimp only [bind, Except.bind] at failed
  unfold Moment.finish
  cases rest with
  | nil =>
    cases occurs : date.occurs with
    | true =>
      rw [occurs] at failed
      cases failed
    | false =>
      rw [occurs] at failed
      exact failed
  | cons c rest =>
    cases clock : readClock? (c :: rest) with
    | none =>
      rw [clock] at failed
      exact failed
    | some time =>
      cases occurs : date.occurs with
      | true =>
        rw [clock, occurs] at failed
        cases failed
      | false =>
        rw [clock, occurs] at failed
        exact failed

/-- The first layout that a text has, and the fault of a text without any, are found by the one
grammar. -/
theorem read_eq_readUpper (text : String) :
    read text = (readUpper (Text.upper text).toList).mapError
      fun fault => ⟨Text.upper text, Layout.date, fault⟩ := by
  have same := toOption_readFirst (Text.upper text)
  unfold read
  cases found : readFirst (Text.upper text) Layout.first Layout.others with
  | ok instant =>
    rw [found] at same
    cases upper : readUpper (Text.upper text).toList with
    | ok other =>
      rw [upper] at same
      cases same
      rfl
    | error fault =>
      rw [upper] at same
      cases same
  | error error =>
    rw [found] at same
    cases upper : readUpper (Text.upper text).toList with
    | ok other =>
      rw [upper] at same
      cases same
    | error fault =>
      obtain ⟨sameText, sameLayout, failed⟩ := readFirst_eq_error _ _ _ found
      have isLast : error.layout = Layout.date := sameLayout
      rw [isLast, readAs_date_of_error upper] at failed
      cases error
      cases failed
      cases isLast
      cases sameText
      rfl

end Trial

end FilterQuery.Instant
