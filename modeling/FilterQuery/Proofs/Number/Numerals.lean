import FilterQuery.Number.Reading
import FilterQuery.Proofs.Token.Matching
import Mathlib.Data.Nat.Digits.Defs

/-!
# What numerals denote

Digits denote a number by their places (`decimalValue`). The reader takes them from the left and
gives up as soon as the number is too large; since further digits only make it larger, it gives up
exactly if the whole number is too large.

Numbers with a fraction or an exponent are read in a larger syntax, with other bases and with
underscores. What the lexical classes describe stays clear of the rest of that syntax, so the reader
never finds such a text malformed.
-/

namespace FilterQuery

open Pattern LexicalClass

/-- A code point that is none stands for the null character. -/
theorem Text.toNat_ofNat (code : Nat) :
    (Char.ofNat code).toNat = if code.isValidChar then code else 0 := by
  unfold Char.ofNat
  by_cases isValid : code.isValidChar
  · rw [dif_pos isValid, if_pos isValid]
    rfl
  · rw [dif_neg isValid, if_neg isValid]
    rfl

namespace Number

section Digits

/-- The number that decimal digits denote, the last of them counting ones. -/
def decimalValue (digits : List Char) : Nat := Nat.ofDigits 10 (digits.reverse.map digitValue)

@[simp] theorem decimalValue_nil : decimalValue [] = 0 := rfl

theorem decimalValue_append (first second : List Char) :
    decimalValue (first ++ second) =
      decimalValue first * 10 ^ second.length + decimalValue second := by
  simp only [decimalValue, List.reverse_append, List.map_append, Nat.ofDigits_append,
    List.length_map, List.length_reverse]
  rw [Nat.add_comm, Nat.mul_comm]

theorem decimalValue_cons (c : Char) (rest : List Char) :
    decimalValue (c :: rest) = digitValue c * 10 ^ rest.length + decimalValue rest := by
  have single : decimalValue [c] = digitValue c := by simp [decimalValue]
  rw [← List.singleton_append, decimalValue_append, single]

theorem decimalValue_zeros (count : Nat) : decimalValue (List.replicate count '0') = 0 := by
  have zero : digitValue '0' = 0 := rfl
  induction count with
  | zero => rfl
  | succ count inductionHypothesis =>
    rw [List.replicate_succ, decimalValue_cons, inductionHypothesis, zero, Nat.zero_mul]

/-- One more digit is taken from the left. -/
theorem decimalValue_push (value : Nat) (c : Char) (rest : List Char) :
    value * 10 ^ (c :: rest).length + decimalValue (c :: rest) =
      (value * 10 + digitValue c) * 10 ^ rest.length + decimalValue rest := by
  rw [decimalValue_cons, List.length_cons, Nat.pow_succ, Nat.add_mul, Nat.mul_assoc,
    Nat.mul_comm 10, Nat.add_assoc]

theorem foldl_digitValue (digits : List Char) (value : Nat) :
    digits.foldl (fun value c => value * 10 + digitValue c) value =
      value * 10 ^ digits.length + decimalValue digits := by
  induction digits generalizing value with
  | nil => simp
  | cons c rest inductionHypothesis =>
    rw [List.foldl_cons, inductionHypothesis, decimalValue_push]

/-- Digits are read as the number that they denote, unless that is too large. -/
theorem readDigits_eq {bits : Nat} {digits : List Char}
    (areDigits : ∀ c ∈ digits, c.isDigit = true) {value : Nat} (small : value < 2 ^ bits) :
    readDigits bits value digits =
      if value * 10 ^ digits.length + decimalValue digits < 2 ^ bits
      then .ok (value * 10 ^ digits.length + decimalValue digits) else .error .outOfRange := by
  induction digits generalizing value with
  | nil =>
    have unchanged : value * 10 ^ ([] : List Char).length + decimalValue [] = value := by simp
    rw [unchanged, if_pos small, readDigits]
  | cons c rest inductionHypothesis =>
    obtain ⟨isDigit, others⟩ := List.forall_mem_cons.mp areDigits
    rw [readDigits, if_pos isDigit, decimalValue_push]
    by_cases fits : value * 10 + digitValue c < 2 ^ bits
    · exact (if_pos fits).trans (inductionHypothesis others fits)
    · -- The digits behind do not make the number smaller.
      have larger : value * 10 + digitValue c ≤
          (value * 10 + digitValue c) * 10 ^ rest.length :=
        Nat.le_mul_of_pos_right _ (Nat.pow_pos (by decide))
      have outside :
          ¬ (value * 10 + digitValue c) * 10 ^ rest.length + decimalValue rest < 2 ^ bits := by
        omega
      exact (if_neg fits).trans (if_neg outside).symm

/-- The number that digits are read as is no smaller than the digits before them. -/
theorem le_of_readDigits {bits value n : Nat} {digits : List Char}
    (read : readDigits bits value digits = .ok n) : value ≤ n := by
  induction digits generalizing value with
  | nil =>
    cases read
    exact Nat.le_refl _
  | cons c rest inductionHypothesis =>
    rw [readDigits] at read
    split at read
    · dsimp only at read
      split at read
      · have later := inductionHypothesis read
        omega
      · cases read
    · cases read

/-- More bits change nothing unless the number is too large for the fewer. -/
theorem readDigits_widen {bits more value : Nat} {digits : List Char} (wider : bits ≤ more)
    (inRange : readDigits bits value digits ≠ .error .outOfRange) :
    readDigits more value digits = readDigits bits value digits := by
  have larger : Nat.pow 2 bits ≤ Nat.pow 2 more := Nat.pow_le_pow_right (by decide) wider
  induction digits generalizing value with
  | nil => rfl
  | cons c rest inductionHypothesis =>
    rw [readDigits, readDigits]
    rw [readDigits] at inRange
    split
    · next isDigit =>
      rw [if_pos isDigit] at inRange
      dsimp only at inRange ⊢
      by_cases fits : value * 10 + digitValue c < Nat.pow 2 bits
      · rw [if_pos fits] at inRange ⊢
        rw [if_pos (Nat.lt_of_lt_of_le fits larger)]
        exact inductionHypothesis inRange
      · rw [if_neg fits] at inRange
        exact absurd rfl inRange
    · rfl

/-- A number that is too large for some bits is not read as a small one with more. -/
theorem le_of_readDigits_outOfRange {bits more value n : Nat} {digits : List Char}
    (tooLarge : readDigits bits value digits = .error .outOfRange)
    (read : readDigits more value digits = .ok n) : 2 ^ bits ≤ n := by
  induction digits generalizing value with
  | nil => cases tooLarge
  | cons c rest inductionHypothesis =>
    rw [readDigits] at tooLarge read
    split at tooLarge
    · next isDigit =>
      rw [if_pos isDigit] at read
      dsimp only at tooLarge read
      split at read
      · split at tooLarge
        · exact inductionHypothesis tooLarge read
        · next large => exact Nat.le_trans (Nat.le_of_not_lt large) (le_of_readDigits read)
      · cases read
    · cases tooLarge

theorem fitInteger_eq (bits : Nat) (n : Int) :
    fitInteger bits n =
      if -2 ^ (bits - 1) ≤ n ∧ n < 2 ^ (bits - 1) then .ok n else .error .outOfRange := rfl

/-- What digits spell beyond the range of some bits is too large, whatever its sign. -/
theorem fitInteger_of_le {bits value : Nat} (isPositive : 0 < bits) (large : 2 ^ bits ≤ value)
    (negative : Bool) :
    fitInteger bits (if negative then -value else value) = .error .outOfRange := by
  have double : 2 ^ bits = 2 ^ (bits - 1) * 2 := by
    rw [← Nat.pow_succ, Nat.succ_eq_add_one, Nat.sub_add_cancel isPositive]
  have isSome : 0 < 2 ^ (bits - 1) := Nat.pow_pos (by decide)
  have cast : ((2 ^ (bits - 1) : Nat) : Int) = 2 ^ (bits - 1) := by norm_cast
  rw [fitInteger_eq, if_neg]
  rw [← cast]
  split <;> omega

theorem eq_of_fitInteger {bits : Nat} {n m : Int} (fits : fitInteger bits n = .ok m) : m = n := by
  rw [fitInteger_eq] at fits
  split at fits
  · cases fits
    rfl
  · cases fits

theorem fitInteger_error_of_wider {bits more : Nat} {n : Int} {fault : NumberFault}
    (wider : bits ≤ more) (failed : fitInteger more n = .error fault) :
    fitInteger bits n = .error .outOfRange := by
  have larger : (2 : Int) ^ (bits - 1) ≤ 2 ^ (more - 1) :=
    pow_le_pow_right₀ (by decide) (Nat.sub_le_sub_right wider 1)
  rw [fitInteger_eq] at failed ⊢
  split at failed
  · cases failed
  · rw [if_neg]
    omega

/-- An integer that is read with many bits is also read with fewer, if it is in their range. -/
theorem readInteger_of_wider {bits more : Nat} {text : String} {n : Int} (isPositive : 0 < bits)
    (wider : bits ≤ more) (read : readInteger more text = .ok n) :
    readInteger bits text = fitInteger bits n := by
  unfold readInteger at read ⊢
  generalize takeSign text.toList = taken at read ⊢
  obtain ⟨negative, digits⟩ := taken
  dsimp only at read ⊢
  split at read
  · cases read
  rw [if_neg ‹_›]
  cases wide : readDigits more 0 digits with
  | error fault =>
    rw [wide] at read
    cases read
  | ok value =>
    rw [wide] at read
    have same : n = if negative then -(value : Int) else value := eq_of_fitInteger read
    by_cases inRange : readDigits bits 0 digits = .error .outOfRange
    · have large := le_of_readDigits_outOfRange inRange wide
      rw [inRange, same, fitInteger_of_le isPositive large]
      rfl
    · rw [← readDigits_widen wider inRange, wide, same]
      rfl

/-- A text that spells no integer of many bits spells none of fewer. -/
theorem readInteger_error_of_wider {bits more : Nat} {text : String} {fault : NumberFault}
    (wider : bits ≤ more) (failed : readInteger more text = .error fault) :
    readInteger bits text = .error fault ∨ readInteger bits text = .error .outOfRange := by
  unfold readInteger at failed ⊢
  generalize takeSign text.toList = taken at failed ⊢
  obtain ⟨negative, digits⟩ := taken
  dsimp only at failed ⊢
  split at failed
  · rw [if_pos ‹_›]
    exact .inl failed
  rw [if_neg ‹_›]
  by_cases inRange : readDigits bits 0 digits = .error .outOfRange
  · rw [inRange]
    exact .inr rfl
  rw [← readDigits_widen wider inRange]
  cases wide : readDigits more 0 digits with
  | error fault =>
    rw [wide] at failed
    exact .inl failed
  | ok value =>
    rw [wide] at failed
    exact .inr (fitInteger_error_of_wider wider failed)

/-- A digit is no sign. -/
theorem takeSign_of_isDigit {c : Char} (isDigit : c.isDigit = true) (rest : List Char) :
    takeSign (c :: rest) = (false, c :: rest) := by
  have unsigned : ∀ c ∈ asciiDigits, c ≠ '-' ∧ c ≠ '+' := List.all_iff_forall_prop.mp (by decide)
  obtain ⟨noMinus, noPlus⟩ := unsigned c (mem_asciiDigits isDigit)
  simp [takeSign, noMinus, noPlus]

end Digits

end Number

/-- One or more decimal digits. -/
structure DigitRow where
  characters : List Char
  nonempty : characters ≠ []
  areDigits : ∀ c ∈ characters, c.isDigit = true

/-- The number that a row of digits denotes. -/
def DigitRow.value (row : DigitRow) : Nat := Number.decimalValue row.characters

/-- An integer as it is written: digits, leading zeros among them, and perhaps a minus sign. -/
structure Numeral where
  negative : Bool
  digits : DigitRow

namespace Numeral

/-- The text of a numeral. -/
def text (numeral : Numeral) : String :=
  String.ofList ((if numeral.negative then ['-'] else []) ++ numeral.digits.characters)

/-- The integer that a numeral denotes. -/
def value (numeral : Numeral) : Int :=
  if numeral.negative then -(numeral.digits.value : Int) else numeral.digits.value

/-- The numerals are the texts of the lexical class of integers. -/
theorem exists_text_iff {text : String} :
    (∃ numeral : Numeral, numeral.text = text) ↔ integerPattern.Matches text.toList := by
  constructor
  · rintro ⟨⟨negative, digits⟩, rfl⟩
    rw [Numeral.text, String.toList_ofList]
    refine .seq ?_ (matches_number_iff.mpr ⟨digits.nonempty, digits.areDigits⟩)
    cases negative
    · exact .right .empty
    · exact .left (matches_is_iff.mpr rfl)
  · intro described
    obtain ⟨sign, digits, whole, isSign, areDigits⟩ := matches_seq_iff.mp described
    obtain ⟨nonempty, each⟩ := matches_number_iff.mp areDigits
    rcases matches_choice_iff.mp isSign with minus | nothing
    · obtain rfl := matches_is_iff.mp minus
      exact ⟨⟨true, digits, nonempty, each⟩, by simp [Numeral.text, ← String.toList_inj, whole]⟩
    · obtain rfl := matches_empty_iff.mp nothing
      exact ⟨⟨false, digits, nonempty, each⟩, by simp [Numeral.text, ← String.toList_inj, whole]⟩

theorem takeSign_text (numeral : Numeral) :
    Number.takeSign numeral.text.toList = (numeral.negative, numeral.digits.characters) := by
  obtain ⟨negative, characters, nonempty, areDigits⟩ := numeral
  rw [Numeral.text, String.toList_ofList]
  cases negative with
  | true => rfl
  | false =>
    obtain ⟨c, rest, rfl⟩ := List.exists_cons_of_ne_nil nonempty
    exact Number.takeSign_of_isDigit (areDigits c List.mem_cons_self) rest

/-- A numeral is read as the integer that it denotes, unless that is out of range. -/
theorem readInteger_text (numeral : Numeral) :
    Number.readInteger 64 numeral.text =
      if -2 ^ 63 ≤ numeral.value ∧ numeral.value < 2 ^ 63
      then .ok numeral.value else .error .outOfRange := by
  have read := Number.readDigits_eq numeral.digits.areDigits (Nat.two_pow_pos 64)
  rw [Nat.zero_mul, Nat.zero_add, ← DigitRow.value] at read
  have nonempty : numeral.digits.characters.isEmpty = false := by
    simpa using numeral.digits.nonempty
  simp only [Number.readInteger, takeSign_text, nonempty, read, Bool.false_eq_true, if_false]
  by_cases fits : numeral.digits.value < 2 ^ 64
  · rw [if_pos fits]
    rfl
  · -- No sign brings the number back into range.
    have outside : ¬ (-2 ^ 63 ≤ numeral.value ∧ numeral.value < 2 ^ 63) := by
      unfold Numeral.value
      split <;> omega
    rw [if_neg fits, if_neg outside]
    rfl

end Numeral

section Reals

/-- Digits with an optional fraction and an optional exponent. -/
def magnitudePattern : Pattern := all [number, fractionPattern, optionally exponentPattern]

/-- A number with a fraction or an exponent is an optional sign and a magnitude. -/
theorem magnitude_of_float {text : List Char} (described : floatPattern.Matches text) :
    ∃ sign magnitude, text = sign ++ magnitude ∧ (optionally (is '-')).Matches sign ∧
      magnitudePattern.Matches magnitude := by
  obtain ⟨sign, magnitude, rfl, isSign, unsigned⟩ := matches_seq_iff.mp described
  refine ⟨sign, magnitude, rfl, isSign, ?_⟩
  rcases matches_choice_iff.mp unsigned with pointed | scaled
  · obtain ⟨whole, _, rfl, areDigits, behind⟩ := matches_seq_iff.mp pointed
    obtain ⟨point, _, rfl, isPoint, further⟩ := matches_seq_iff.mp behind
    obtain ⟨digits, exponent, rfl, areFraction, isExponent⟩ := matches_seq_iff.mp further
    have fraction : fractionPattern.Matches (point ++ (digits ++ [])) :=
      .left (.seq isPoint (.seq areFraction .empty))
    rw [List.append_nil] at fraction
    rw [← List.append_assoc point]
    exact .seq areDigits (.seq fraction isExponent)
  · obtain ⟨whole, exponent, rfl, areDigits, isExponent⟩ := matches_seq_iff.mp scaled
    have last : (all [optionally exponentPattern]).Matches (exponent ++ []) :=
      .seq (.left isExponent) .empty
    rw [List.append_nil] at last
    exact .seq areDigits (.seq (.right .empty) last)

/-- A number of seconds is an optional sign, a magnitude and a letter. -/
theorem magnitude_of_duration {text : List Char} (described : durationPattern.Matches text) :
    ∃ sign magnitude, text = sign ++ magnitude ++ ['s'] ∧ (optionally (is '-')).Matches sign ∧
      magnitudePattern.Matches magnitude := by
  obtain ⟨sign, _, rfl, isSign, unsigned⟩ := matches_seq_iff.mp described
  obtain ⟨whole, _, rfl, areDigits, behind⟩ := matches_seq_iff.mp unsigned
  obtain ⟨fraction, _, rfl, isFraction, unit⟩ := matches_seq_iff.mp behind
  obtain ⟨_, _, rfl, isUnit, nothing⟩ := matches_seq_iff.mp unit
  obtain rfl := matches_is_iff.mp isUnit
  obtain rfl := matches_empty_iff.mp nothing
  have magnitude : magnitudePattern.Matches (whole ++ (fraction ++ ([] ++ []))) :=
    .seq areDigits (.seq isFraction (.seq (.right .empty) .empty))
  exact ⟨sign, _, by simp, isSign, magnitude⟩

namespace Number

/-- Digits are all counted, and they leave open whether there has been a point. -/
theorem takeDigits_append {digits : List Char} (areDigits : ∀ c ∈ digits, c.isDigit = true)
    (seen : Digits) (rest : List Char) :
    ∃ more : Digits, takeDigits false seen (digits ++ rest) = takeDigits false more rest ∧
      more.count = seen.count + digits.length ∧
      more.afterPoint.isSome = seen.afterPoint.isSome := by
  have plain : ∀ c ∈ asciiDigits, c ≠ '_' ∧ c ≠ '.' := List.all_iff_forall_prop.mp (by decide)
  induction digits generalizing seen with
  | nil => exact ⟨seen, rfl, rfl, rfl⟩
  | cons c digits inductionHypothesis =>
    obtain ⟨isDigit, others⟩ := List.forall_mem_cons.mp areDigits
    obtain ⟨noUnderscore, noPoint⟩ := plain c (mem_asciiDigits isDigit)
    obtain ⟨more, taken, count, point⟩ :=
      inductionHypothesis others (seen.push 10 (digitValue c))
    refine ⟨more, ?_, ?_, ?_⟩
    · simpa [takeDigits, noUnderscore, noPoint, baseDigit?, isDigit] using taken
    · have pushed : (seen.push 10 (digitValue c)).count = seen.count + 1 := rfl
      rw [count, pushed, List.length_cons]
      omega
    · simp [point, Digits.push]

/-- The digits of a magnitude are taken up to its exponent. -/
theorem takeDigits_magnitude {whole fraction exponent : List Char}
    (areDigits : number.Matches whole) (isFraction : fractionPattern.Matches fraction)
    (isExponent : (optionally exponentPattern).Matches exponent) :
    ∃ digits : Digits, takeDigits false {} (whole ++ (fraction ++ exponent)) = (digits, exponent) ∧
      digits.count ≠ 0 := by
  have letters : ∀ c ∈ "eE".toList, c ≠ '_' ∧ c ≠ '.' ∧ baseDigit? false c = none :=
    List.all_iff_forall_prop.mp (by decide)
  -- The mark of the exponent ends the digits.
  have stops : ∀ seen, takeDigits false seen exponent = (seen, exponent) := by
    intro seen
    rcases matches_choice_iff.mp isExponent with present | absent
    · obtain ⟨_, rest, rfl, mark, -⟩ := matches_seq_iff.mp present
      obtain ⟨c, rfl, permitted⟩ := matches_char_iff.mp mark
      obtain ⟨noUnderscore, noPoint, noDigit⟩ := letters c (List.contains_iff_mem.mp permitted)
      simp [takeDigits, noUnderscore, noPoint, noDigit]
    · obtain rfl := matches_empty_iff.mp absent
      rfl
  obtain ⟨nonempty, each⟩ := matches_number_iff.mp areDigits
  have positive := List.length_pos_iff.mpr nonempty
  obtain ⟨seen, taken, count, noPoint⟩ := takeDigits_append each {} (fraction ++ exponent)
  rw [taken]
  rcases matches_choice_iff.mp isFraction with present | absent
  · obtain ⟨_, _, rfl, point, further⟩ := matches_seq_iff.mp present
    obtain ⟨digits, _, rfl, areDigits, nothing⟩ := matches_seq_iff.mp further
    obtain rfl := matches_is_iff.mp point
    obtain rfl := matches_empty_iff.mp nothing
    obtain ⟨more, takenMore, countMore, -⟩ := takeDigits_append
      (matches_number_iff.mp areDigits).2 { seen with afterPoint := some 0 } exponent
    refine ⟨more, ?_, by rw [countMore]; simp only; omega⟩
    rw [← stops, ← takenMore]
    simp [takeDigits, noPoint]
  · obtain rfl := matches_empty_iff.mp absent
    exact ⟨seen, stops seen, by omega⟩

/-- An exponent has a value. -/
theorem exists_readExponent? {sign digits : List Char}
    (isSign : (optionally (oneOf "+-")).Matches sign) (areDigits : number.Matches digits) :
    ∃ exponent, readExponent? (sign ++ digits) = some exponent := by
  obtain ⟨nonempty, each⟩ := matches_number_iff.mp areDigits
  obtain ⟨c, rest, rfl⟩ := List.exists_cons_of_ne_nil nonempty
  have isDigit : c.isDigit = true := each c List.mem_cons_self
  have taken : ∃ negative, takeSign (sign ++ c :: rest) = (negative, c :: rest) := by
    rcases matches_choice_iff.mp isSign with present | absent
    · obtain ⟨mark, rfl, permitted⟩ := matches_char_iff.mp present
      have marks : mark = '+' ∨ mark = '-' := by simpa using permitted
      rcases marks with rfl | rfl
      · exact ⟨false, rfl⟩
      · exact ⟨true, rfl⟩
    · obtain rfl := matches_empty_iff.mp absent
      exact ⟨false, takeSign_of_isDigit isDigit rest⟩
  obtain ⟨negative, taken⟩ := taken
  have whole : ((c :: rest).all fun c => c.isDigit || c == '_') = true :=
    List.all_eq_true.mpr fun d listed => by simp [each d listed]
  simp [readExponent?, taken, isDigit, whole]

/-- A magnitude has a value. -/
theorem exists_readScaled? {magnitude : List Char}
    (described : magnitudePattern.Matches magnitude) (negative : Bool) :
    ∃ x, readScaled? negative false magnitude = some x := by
  obtain ⟨whole, _, rfl, areDigits, behind⟩ := matches_seq_iff.mp described
  obtain ⟨fraction, _, rfl, isFraction, last⟩ := matches_seq_iff.mp behind
  obtain ⟨exponent, _, rfl, isExponent, nothing⟩ := matches_seq_iff.mp last
  obtain rfl := matches_empty_iff.mp nothing
  obtain ⟨digits, taken, counted⟩ := takeDigits_magnitude areDigits isFraction isExponent
  rw [List.append_nil, readScaled?, taken]
  rcases matches_choice_iff.mp isExponent with present | absent
  · obtain ⟨_, _, rfl, mark, further⟩ := matches_seq_iff.mp present
    obtain ⟨sign, _, rfl, isSign, digitsLast⟩ := matches_seq_iff.mp further
    obtain ⟨digits, _, rfl, areDigits, nothing⟩ := matches_seq_iff.mp digitsLast
    obtain ⟨c, rfl, permitted⟩ := matches_char_iff.mp mark
    obtain rfl := matches_empty_iff.mp nothing
    obtain ⟨value, read⟩ := exists_readExponent? isSign areDigits
    have marks : c = 'e' ∨ c = 'E' := by simpa using permitted
    have lower : lowerAscii c = 'e' := by
      rcases marks with rfl | rfl <;> rfl
    simp [counted, lower, read]
  · obtain rfl := matches_empty_iff.mp absent
    simp [counted]

theorem eq_or_eq_of_lowerAscii {c : Char} (lower : lowerAscii c = 'x') : c = 'x' ∨ c = 'X' := by
  unfold lowerAscii at lower
  split at lower
  · have code := congrArg Char.toNat lower
    rw [Text.toNat_ofNat] at code
    split at code
    · exact .inr (Char.toNat_inj.mp (by simpa using code))
    · cases code
  · exact .inl lower

/-- A magnitude is read in base ten: it has no underscore and no mark of another base. -/
theorem readMagnitude?_eq {magnitude : List Char} (described : magnitudePattern.Matches magnitude)
    (negative : Bool) :
    readMagnitude? negative magnitude = readScaled? negative false magnitude := by
  have noUnderscore : '_' ∉ magnitude := not_mem_of_rejects (by decide) described
  have noMark : ∀ c ∈ magnitude, lowerAscii c ≠ 'x' := by
    intro c listed lower
    rcases eq_or_eq_of_lowerAscii lower with rfl | rfl
    · exact not_mem_of_rejects (by decide) described listed
    · exact not_mem_of_rejects (by decide) described listed
  have clean : (magnitude.contains '_' && !underscoresFit magnitude) = false := by
    simp [noUnderscore]
  unfold readMagnitude?
  rw [clean]
  simp only [Bool.false_eq_true, if_false]
  split
  · next mark c rest => exact if_neg (noMark mark (by simp))
  · rfl

/-- A number that the lexical classes describe is never malformed: it is read or out of range. -/
theorem readFloat_cases {sign magnitude : List Char}
    (isSign : (optionally (is '-')).Matches sign) (described : magnitudePattern.Matches magnitude) :
    (∃ x, readFloat (String.ofList (sign ++ magnitude)) = .ok x) ∨
      readFloat (String.ofList (sign ++ magnitude)) = .error .outOfRange := by
  have taken : ∃ negative, takeSign (sign ++ magnitude) = (negative, magnitude) := by
    rcases matches_choice_iff.mp isSign with present | absent
    · obtain rfl := matches_is_iff.mp present
      exact ⟨true, rfl⟩
    · obtain rfl := matches_empty_iff.mp absent
      obtain ⟨whole, behind, rfl, areDigits, -⟩ := matches_seq_iff.mp described
      obtain ⟨nonempty, each⟩ := matches_number_iff.mp areDigits
      obtain ⟨c, rest, rfl⟩ := List.exists_cons_of_ne_nil nonempty
      exact ⟨false, takeSign_of_isDigit (each c List.mem_cons_self) (rest ++ behind)⟩
  obtain ⟨negative, taken⟩ := taken
  obtain ⟨x, read⟩ := exists_readScaled? described negative
  rw [readFloat, String.toList_ofList]
  split
  · exact .inl ⟨_, rfl⟩
  · simp only [taken, readMagnitude?_eq described, read]
    split
    · exact .inr rfl
    · exact .inl ⟨_, rfl⟩

end Number

end Reals

end FilterQuery
