import FilterQuery.Proofs.Number.Numerals
import FilterQuery.Proofs.Number.Single

/-!
# Numbers too large for double precision

A whole number rounds to infinity exactly from the point that is as near to the largest number of
the format as to the next power of two: `round?_one_eq_none_iff`. For double precision that is
`2 ^ 1024 - 2 ^ 970`.

Digits with an exponent behind them denote a whole number. The reader does not compute it where the
digits and the exponent tell that it is too large, and stops counting where the exponent is large
itself; nevertheless it finds such a number out of range exactly if it rounds to infinity.
-/

namespace FilterQuery

open Pattern LexicalClass

section Rounding

/-- A quotient below an even bound rounds to the bound from half a unit below it. -/
theorem roundQuotient_eq_bound_iff {numerator half bound : Nat} (positive : 0 < half)
    (even : bound % 2 = 0) (below : numerator / (2 * half) < bound) :
    roundQuotient numerator (2 * half) = bound ↔ (2 * bound - 1) * half ≤ numerator := by
  have split := Nat.div_add_mod numerator (2 * half)
  have small := Nat.mod_lt numerator (show 0 < 2 * half by omega)
  simp only [roundQuotient]
  generalize numerator / (2 * half) = quotient at *
  generalize numerator % (2 * half) = remainder at *
  by_cases next : quotient + 1 = bound
  · -- The last quotient below the bound is odd, so a tie goes up.
    have limit : (2 * bound - 1) * half = 2 * half * quotient + half := by
      rw [show 2 * bound - 1 = 2 * quotient + 1 by omega]
      ring
    rw [limit]
    split <;> omega
  · have limit : 2 * half * (quotient + 1) + half ≤ (2 * bound - 1) * half := by
      calc 2 * half * (quotient + 1) + half = (2 * (quotient + 1) + 1) * half := by ring
        _ ≤ (2 * bound - 1) * half := Nat.mul_le_mul_right half (by omega)
    have further : 2 * half * (quotient + 1) = 2 * half * quotient + 2 * half := by ring
    split <;> omega

namespace BinaryFormat

/-- Half the unit of the largest numbers of a format. -/
def halfUnit (format : BinaryFormat) : Nat := 2 ^ (format.greatest - 1).toNat

/-- The least whole number that rounds beyond a format: half a unit above its largest number. -/
def overflow (format : BinaryFormat) : Nat :=
  (2 * 2 ^ format.precision - 1) * format.halfUnit

variable {format : BinaryFormat} {numerator denominator n unit : Nat}

/-- A quotient exceeds a format by its last exponent, or by a carry at the greatest exponent. -/
theorem round?_eq_none_iff :
    format.round? numerator denominator = none ↔
      format.greatest < format.lastExponent numerator denominator ∨
        format.lastExponent numerator denominator = format.greatest ∧
          format.lastMantissa numerator denominator = 2 ^ format.precision := by
  by_cases carried : format.lastMantissa numerator denominator = 2 ^ format.precision
  · simp only [round?_of_carry carried, carried, and_true, ite_eq_right_iff, reduceCtorEq,
      imp_false]
    omega
  · simp only [round?_of_no_carry carried, carried, and_false, or_false, ite_eq_right_iff,
      reduceCtorEq, imp_false, not_le]

/-- The last exponent of a whole number leaves as many bits as the format has. -/
theorem lastExponent_one (nonzero : n ≠ 0) (normal : format.least ≤ 1 - format.precision) :
    format.lastExponent n 1 = n.log2 + 1 - format.precision := by
  have exact : format.lastExponent (n * (powerOfTwo 0).1) (powerOfTwo 0).2 =
      n.log2 + 0 + 1 - format.precision := lastExponent_exact nonzero (by omega)
  simpa [powerOfTwo] using exact

theorem lastMantissa_one (isLast : format.lastExponent n 1 = unit) :
    format.lastMantissa n 1 = roundQuotient n (2 ^ unit) := by
  rw [lastMantissa, isLast]
  simp [scaled, powerOfTwo]

/-- Whole numbers exceed a format from a point on. -/
theorem round?_one_eq_none_iff (nonzero : n ≠ 0) (bits : 0 < format.precision)
    (normal : format.least ≤ 1 - format.precision) (whole : 0 < format.greatest) :
    format.round? n 1 = none ↔ format.overflow ≤ n := by
  obtain ⟨unit, greatest⟩ : ∃ unit : Nat, format.greatest = unit + 1 :=
    ⟨(format.greatest - 1).toNat, by omega⟩
  have isHalf : format.halfUnit = 2 ^ unit := by
    rw [halfUnit, greatest]
    simp
  have isLast := lastExponent_one nonzero normal
  have low : 2 ^ n.log2 ≤ n := Nat.log2_self_le nonzero
  have high : n < 2 ^ (n.log2 + 1) := Nat.lt_log2_self
  have two : 2 ≤ 2 ^ format.precision := Nat.le_self_pow bits.ne' 2
  have positive : 0 < 2 ^ unit := Nat.two_pow_pos unit
  have product : 2 ^ (format.precision + unit) = 2 ^ format.precision * 2 ^ unit := Nat.pow_add ..
  rw [round?_eq_none_iff, isLast, greatest, overflow, isHalf]
  rcases Nat.lt_trichotomy n.log2 (format.precision + unit) with less | same | more
  · -- The number is smaller than the least of those with the greatest exponent.
    have bounded : n < 2 ^ (format.precision + unit) :=
      high.trans_le (Nat.pow_le_pow_right (by norm_num) less)
    have limit : 2 ^ format.precision * 2 ^ unit ≤ (2 * 2 ^ format.precision - 1) * 2 ^ unit :=
      Nat.mul_le_mul_right _ (by omega)
    omega
  · -- The exponent is the greatest, so the carry decides.
    have unitLast : format.lastExponent n 1 = (unit + 1 : Nat) := by
      rw [isLast]
      omega
    rw [lastMantissa_one unitLast, Nat.pow_succ, Nat.mul_comm _ 2]
    have below : n / (2 * 2 ^ unit) < 2 ^ format.precision := by
      rw [same, Nat.pow_succ, product] at high
      rw [Nat.div_lt_iff_lt_mul (by omega)]
      linarith
    have even : 2 ^ format.precision % 2 = 0 := Nat.mod_eq_zero_of_dvd (dvd_pow_self 2 bits.ne')
    rw [roundQuotient_eq_bound_iff positive even below]
    omega
  · have bounded : 2 ^ (format.precision + unit + 1) ≤ n :=
      (Nat.pow_le_pow_right (by norm_num) more).trans low
    have limit : (2 * 2 ^ format.precision - 1) * 2 ^ unit ≤ 2 * 2 ^ format.precision * 2 ^ unit :=
      Nat.mul_le_mul_right _ (by omega)
    rw [Nat.pow_succ, product] at bounded
    have doubled : 2 * 2 ^ format.precision * 2 ^ unit = 2 ^ format.precision * 2 ^ unit * 2 := by
      ring
    omega

theorem double_overflow : double.overflow = 2 ^ 1024 - 2 ^ 970 := by
  have power : 2 ^ 1024 = 2 * 2 ^ 53 * 2 ^ 970 := by rw [← Nat.pow_succ', ← Nat.pow_add]
  have unit : (double.greatest - 1).toNat = 970 := rfl
  have digits : double.precision = 53 := rfl
  rw [overflow, halfUnit, unit, digits, power, Nat.sub_mul, Nat.one_mul]

theorem overflow_pos (format : BinaryFormat) : 0 < format.overflow := by
  have positive : 0 < 2 ^ format.precision := Nat.two_pow_pos _
  exact Nat.mul_pos (by omega) (Nat.two_pow_pos _)

/-- Three bits are less than a decimal digit. -/
theorem overflow_le_pow {count : Nat}
    (room : format.precision + 1 + (format.greatest - 1).toNat ≤ 3 * count) :
    format.overflow ≤ 10 ^ count := by
  calc format.overflow ≤ 2 * 2 ^ format.precision * 2 ^ (format.greatest - 1).toNat :=
        Nat.mul_le_mul_right _ (Nat.sub_le ..)
    _ = 2 ^ (format.precision + 1 + (format.greatest - 1).toNat) := by
        rw [Nat.pow_add, Nat.pow_succ']
    _ ≤ 2 ^ (3 * count) := Nat.pow_le_pow_right (by norm_num) room
    _ = (2 ^ 3) ^ count := Nat.pow_mul ..
    _ ≤ 10 ^ count := Nat.pow_le_pow_left (by norm_num) count

end BinaryFormat

namespace Binary64

theorem magnitude_ofFields_zero (negative : Bool) {fraction : Nat} (fits : fraction < 2 ^ 52) :
    (ofFields negative 0 fraction).magnitude = .finite fraction (-1074) := by
  rw [magnitude, exponentField_ofFields (by norm_num) fits,
    fractionField_ofFields (by norm_num) fits]
  rfl

/-- A whole number is infinite exactly from the point where it rounds to infinity. -/
theorem ofQuotient_one_infinite_iff (negative : Bool) (n : Nat) :
    (ofQuotient negative n 1).magnitude = .infinite ↔ BinaryFormat.double.overflow ≤ n := by
  unfold ofQuotient
  split
  · next zero =>
    rw [magnitude_ofFields_zero negative (by norm_num), zero]
    simp [BinaryFormat.double.overflow_pos.ne']
  · next nonzero =>
    have exceeds : BinaryFormat.double.round? n 1 = none ↔ BinaryFormat.double.overflow ≤ n :=
      BinaryFormat.round?_one_eq_none_iff nonzero (by decide) (by decide) (by decide)
    cases rounded : BinaryFormat.double.round? n 1 with
    | none => simp [magnitude_infinity, exceeds.mp rounded]
    | some found =>
      obtain ⟨mantissa, exponent⟩ := found
      have small : ¬ BinaryFormat.double.overflow ≤ n := by
        rw [← exceeds, rounded]
        exact Option.some_ne_none _
      obtain ⟨fits, least, greatest⟩ := BinaryFormat.round?_eq_some (by norm_num) rounded
      refine iff_of_false ?_ small
      by_cases subnormal : mantissa < 2 ^ 52
      · have isOfFields : ofMantissa negative mantissa exponent = ofFields negative 0 mantissa :=
          if_pos subnormal
        simp only [isOfFields, magnitude_ofFields_zero negative subnormal]
        exact Magnitude.noConfusion
      · simp only [magnitude_ofMantissa (Nat.not_lt.mp subnormal) fits least greatest]
        exact Magnitude.noConfusion

end Binary64

end Rounding

namespace Number

/-- As many digits as are written, less one, tell how large a number is at least. -/
theorem pow_length_toString_le {value : Nat} (nonzero : value ≠ 0) :
    10 ^ ((toString value).length - 1) ≤ value := by
  have written : (toString value).length = (Nat.toDigits 10 value).length := by
    rw [Nat.toString_eq_repr, Nat.repr, String.length_ofList]
  rw [written]
  by_contra less
  have positive : 0 < (Nat.toDigits 10 value).length - 1 := by
    by_contra zero
    rw [Nat.eq_zero_of_not_pos zero] at less
    omega
  have short := (Nat.length_toDigits_le_iff (by norm_num) positive).mpr (Nat.not_le.mp less)
  omega

/-- A number and a power of ten are found too large by their digits or by their product. -/
theorem scaleByTen_infinite_iff (negative : Bool) (value exponent : Nat) :
    (scaleByTen negative value exponent).magnitude = .infinite ↔
      BinaryFormat.double.overflow ≤ value * 10 ^ exponent := by
  unfold scaleByTen
  by_cases zero : value = 0
  · simp only [zero, true_or, if_true, Nat.zero_mul]
    rw [Binary64.magnitude_ofFields_zero negative (by norm_num)]
    simp [BinaryFormat.double.overflow_pos.ne']
  · have notSmall : ¬ (value = 0 ∨ ((toString value).length : Int) + exponent < -400) := by omega
    simp only [if_neg notSmall]
    split
    · next long =>
      have enough : BinaryFormat.double.overflow ≤ value * 10 ^ exponent := by
        calc BinaryFormat.double.overflow
            ≤ 10 ^ ((toString value).length - 1 + exponent) := by
              apply BinaryFormat.overflow_le_pow
              simp only [BinaryFormat.double]
              omega
          _ = 10 ^ ((toString value).length - 1) * 10 ^ exponent := Nat.pow_add ..
          _ ≤ value * 10 ^ exponent := Nat.mul_le_mul_right _ (pow_length_toString_le zero)
      exact iff_of_true (Binary64.magnitude_infinity negative) enough
    · have down : (-(exponent : Int)).toNat = 0 := by omega
      rw [down]
      exact Binary64.ofQuotient_one_infinite_iff negative (value * 10 ^ exponent)

/-- Digits are all taken, and counted by their places. -/
theorem takeDigits_digits {digits : List Char} (areDigits : ∀ c ∈ digits, c.isDigit = true)
    (value count : Nat) (rest : List Char) :
    takeDigits false ⟨value, count, none⟩ (digits ++ rest) =
      takeDigits false
        ⟨value * 10 ^ digits.length + decimalValue digits, count + digits.length, none⟩ rest := by
  have plain : ∀ c ∈ asciiDigits, c ≠ '_' ∧ c ≠ '.' := List.all_iff_forall_prop.mp (by decide)
  induction digits generalizing value count with
  | nil => simp
  | cons c digits inductionHypothesis =>
    obtain ⟨isDigit, others⟩ := List.forall_mem_cons.mp areDigits
    obtain ⟨noUnderscore, noPoint⟩ := plain c (mem_asciiDigits isDigit)
    have pushed : takeDigits false ⟨value, count, none⟩ (c :: (digits ++ rest)) =
        takeDigits false ⟨value * 10 + digitValue c, count + 1, none⟩ (digits ++ rest) := by
      simp [takeDigits, noUnderscore, noPoint, baseDigit?, isDigit, Digits.push]
    rw [List.cons_append, pushed, inductionHypothesis others, decimalValue_push, List.length_cons]
    congr 2
    omega

/-- The digits of an exponent are counted by their places, up to the point where it is so large
that they no longer matter. -/
theorem foldl_exponent_cases (digits : List Char) (value : Nat) :
    let counted := digits.foldl
      (fun value c => if value < 10000 then value * 10 + digitValue c else value) value
    counted = value * 10 ^ digits.length + decimalValue digits ∨
      10000 ≤ counted ∧ counted ≤ value * 10 ^ digits.length + decimalValue digits := by
  induction digits generalizing value with
  | nil => simp
  | cons c digits inductionHypothesis =>
    simp only [List.foldl_cons]
    split
    · rw [decimalValue_push]
      exact inductionHypothesis (value * 10 + digitValue c)
    · next large =>
      have places : value * 10 ^ digits.length ≤ value * 10 ^ (c :: digits).length :=
        Nat.mul_le_mul_left _ (Nat.pow_le_pow_right (by norm_num) (by simp))
      have rest : decimalValue digits ≤ decimalValue (c :: digits) := by
        rw [decimalValue_cons]
        omega
      have atLeast : value ≤ value * 10 ^ digits.length :=
        Nat.le_mul_of_pos_right _ (Nat.pow_pos (by norm_num))
      have later := inductionHypothesis value
      simp only at later
      omega

theorem exponentValue_cases {digits : List Char} (areDigits : ∀ c ∈ digits, c.isDigit = true) :
    exponentValue digits = decimalValue digits ∨
      10000 ≤ exponentValue digits ∧ exponentValue digits ≤ decimalValue digits := by
  have plain : ∀ c ∈ asciiDigits, (c != '_') = true := List.all_iff_forall_prop.mp (by decide)
  have kept : digits.filter (· != '_') = digits :=
    List.filter_eq_self.mpr fun c listed => plain c (mem_asciiDigits (areDigits c listed))
  have cases := foldl_exponent_cases digits 0
  simp only [Nat.zero_mul, Nat.zero_add] at cases
  rwa [exponentValue, kept]

theorem readExponent?_digits {digits : List Char} (nonempty : digits ≠ [])
    (areDigits : ∀ c ∈ digits, c.isDigit = true) :
    readExponent? digits = some (exponentValue digits : Int) := by
  obtain ⟨c, rest, rfl⟩ := List.exists_cons_of_ne_nil nonempty
  have isDigit : c.isDigit = true := areDigits c List.mem_cons_self
  have whole : ((c :: rest).all fun c => c.isDigit || c == '_') = true :=
    List.all_eq_true.mpr fun d listed => by simp [areDigits d listed]
  simp [readExponent?, takeSign_of_isDigit isDigit rest, isDigit, whole]

/-- No word for infinity or for the undefined number starts with a digit. -/
theorem readWord?_of_isDigit {c : Char} (isDigit : c.isDigit = true) (rest : List Char) :
    readWord? (c :: rest) = none := by
  have noLetter : ∀ c ∈ asciiDigits, lowerAscii c ≠ 'i' ∧ lowerAscii c ≠ 'n' :=
    List.all_iff_forall_prop.mp (by decide)
  obtain ⟨noI, noN⟩ := noLetter c (mem_asciiDigits isDigit)
  have differs {word : String} (first : word.toList.head? ≠ some (lowerAscii c)) :
      String.ofList ((c :: rest).map lowerAscii) ≠ word := by
    rintro rfl
    simp at first
  have noInfinity : ¬ (String.ofList ((c :: rest).map lowerAscii) = "inf" ∨
      String.ofList ((c :: rest).map lowerAscii) = "infinity") :=
    not_or.mpr ⟨differs (by simpa using noI.symm), differs (by simpa using noI.symm)⟩
  simp only [readWord?, takeSign_of_isDigit isDigit rest]
  rw [if_neg noInfinity, if_neg (differs (by simpa using noN.symm))]

end Number

/-- A whole number as it is written with an exponent: digits, the letter `e` and more digits. -/
structure ExponentNumeral where
  digits : DigitRow
  exponent : DigitRow

namespace ExponentNumeral

/-- The characters of a numeral. -/
def characters (numeral : ExponentNumeral) : List Char :=
  numeral.digits.characters ++ 'e' :: numeral.exponent.characters

/-- The number that a numeral denotes. -/
def value (numeral : ExponentNumeral) : Nat := numeral.digits.value * 10 ^ numeral.exponent.value

variable (numeral : ExponentNumeral)

theorem exponentPattern_matches :
    exponentPattern.Matches ('e' :: numeral.exponent.characters) := by
  have digits := matches_number_iff.mpr ⟨numeral.exponent.nonempty, numeral.exponent.areDigits⟩
  have parts : exponentPattern.Matches (['e'] ++ ([] ++ (numeral.exponent.characters ++ []))) :=
    .seq (.char rfl) (.seq (.right .empty) (.seq digits .empty))
  simpa using parts

theorem magnitudePattern_matches : magnitudePattern.Matches numeral.characters := by
  have digits := matches_number_iff.mpr ⟨numeral.digits.nonempty, numeral.digits.areDigits⟩
  have parts : magnitudePattern.Matches
      (numeral.digits.characters ++ ([] ++ ('e' :: numeral.exponent.characters ++ []))) :=
    .seq digits (.seq (.right .empty) (.seq (.left numeral.exponentPattern_matches) .empty))
  simpa [characters] using parts

theorem floatPattern_matches : floatPattern.Matches numeral.characters := by
  have digits := matches_number_iff.mpr ⟨numeral.digits.nonempty, numeral.digits.areDigits⟩
  have unsigned : (seq number exponentPattern).Matches numeral.characters :=
    .seq digits numeral.exponentPattern_matches
  exact matches_seq_iff.mpr ⟨[], numeral.characters, rfl, .right .empty, .right unsigned⟩

/-- Digits with an exponent are read as their number times a power of ten, which may be smaller than
the one they denote if the exponent is large. -/
theorem readScaled?_characters (negative : Bool) :
    Number.readScaled? negative false numeral.characters =
      some (Number.scaleByTen negative numeral.digits.value
        (Number.exponentValue numeral.exponent.characters)) := by
  have positive := List.length_pos_iff.mpr numeral.digits.nonempty
  have taken := Number.takeDigits_digits numeral.digits.areDigits 0 0
    ('e' :: numeral.exponent.characters)
  have stops (seen : Number.Digits) : Number.takeDigits false seen
      ('e' :: numeral.exponent.characters) = (seen, 'e' :: numeral.exponent.characters) := rfl
  rw [stops] at taken
  have exponent :=
    Number.readExponent?_digits numeral.exponent.nonempty numeral.exponent.areDigits
  have mark : Number.lowerAscii 'e' = 'e' := rfl
  unfold Number.readScaled? characters
  rw [taken]
  simp [positive.ne', mark, exponent, DigitRow.value]

/-- A large exponent that is not counted to its end makes a number too large all the same. -/
theorem overflow_le_iff :
    BinaryFormat.double.overflow ≤
        numeral.digits.value * 10 ^ Number.exponentValue numeral.exponent.characters ↔
      BinaryFormat.double.overflow ≤ numeral.value := by
  rcases Number.exponentValue_cases numeral.exponent.areDigits with counted | ⟨large, atMost⟩
  · rw [counted]
    rfl
  · have positive := BinaryFormat.double.overflow_pos
    constructor
    · intro exceeds
      exact exceeds.trans (Nat.mul_le_mul_left _ (Nat.pow_le_pow_right (by norm_num) atMost))
    · intro exceeds
      have nonzero : 0 < numeral.digits.value := by
        by_contra zero
        rw [value, Nat.eq_zero_of_not_pos zero] at exceeds
        omega
      have room : BinaryFormat.double.overflow ≤
          10 ^ Number.exponentValue numeral.exponent.characters := by
        apply BinaryFormat.overflow_le_pow
        simp only [BinaryFormat.double]
        omega
      exact room.trans (Nat.le_mul_of_pos_left _ nonzero)

/-- Digits with an exponent are out of range exactly if their number rounds to infinity, and have a
value otherwise. -/
theorem readFloat_eq_outOfRange_iff :
    Number.readFloat (String.ofList numeral.characters) = .error .outOfRange ↔
      BinaryFormat.double.overflow ≤ numeral.value := by
  obtain ⟨c, rest, digits⟩ := List.exists_cons_of_ne_nil numeral.digits.nonempty
  have isDigit : c.isDigit = true := numeral.digits.areDigits c (by simp [digits])
  have start : numeral.characters = c :: (rest ++ 'e' :: numeral.exponent.characters) := by
    simp [characters, digits]
  have unsigned : Number.takeSign numeral.characters = (false, numeral.characters) := by
    rw [start]
    exact Number.takeSign_of_isDigit isDigit _
  have noWord : Number.readWord? numeral.characters = none := by
    rw [start]
    exact Number.readWord?_of_isDigit isDigit _
  rw [← numeral.overflow_le_iff, ← Number.scaleByTen_infinite_iff false]
  simp only [Number.readFloat, String.toList_ofList, noWord, unsigned,
    Number.readMagnitude?_eq numeral.magnitudePattern_matches, numeral.readScaled?_characters]
  split
  · next infinite => simp [infinite]
  · next finite => simp [finite]

theorem exists_readFloat (fits : numeral.value < BinaryFormat.double.overflow) :
    ∃ x, Number.readFloat (String.ofList numeral.characters) = .ok x := by
  rcases Number.readFloat_cases (.right .empty) numeral.magnitudePattern_matches with
    read | outOfRange
  · exact read
  · have exceeds := numeral.readFloat_eq_outOfRange_iff.mp outOfRange
    omega

end ExponentNumeral

end FilterQuery
