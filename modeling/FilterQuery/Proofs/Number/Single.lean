import FilterQuery.Number.Binary64
import Mathlib.Algebra.Order.Field.Power
import Mathlib.Data.Rat.Cast.Order
import Mathlib.Tactic.NormNum
import Mathlib.Tactic.Positivity
import Mathlib.Tactic.Ring

/-!
# Single precision

Rounding to single precision gives a number of single precision, which double precision keeps as it
is. Both are about `BinaryFormat.round?`: whatever it returns is a number of the format, and a
number of the format is returned unchanged, with the first bit of its mantissa set.

Quotients are compared as rational numbers. The format scales them by powers of two and divides
natural numbers, which `scaled_ratio` and `div_lt_iff_ratio_lt` translate.
-/

namespace FilterQuery

section Powers

theorem powerOfTwo_div (exponent : Int) :
    ((powerOfTwo exponent).1 : ℚ) / (powerOfTwo exponent).2 = 2 ^ exponent := by
  simp only [powerOfTwo, Nat.pow_eq, Nat.cast_pow, Nat.cast_ofNat]
  rw [← zpow_natCast, ← zpow_natCast, ← zpow_sub₀ (by norm_num)]
  congr 1
  omega

theorem powerOfTwo_pos (exponent : Int) :
    0 < (powerOfTwo exponent).1 ∧ 0 < (powerOfTwo exponent).2 :=
  ⟨Nat.two_pow_pos _, Nat.two_pow_pos _⟩

theorem log2_mul_two_pow {mantissa : Nat} (nonzero : mantissa ≠ 0) (count : Nat) :
    (mantissa * 2 ^ count).log2 = mantissa.log2 + count := by
  induction count with
  | zero => simp
  | succ count inductionHypothesis =>
    have others : mantissa * 2 ^ count ≠ 0 := Nat.mul_ne_zero nonzero (Nat.two_pow_pos _).ne'
    rw [Nat.pow_succ, ← Nat.mul_assoc, Nat.mul_comm, Nat.log2_two_mul others,
      inductionHypothesis, Nat.add_assoc]

theorem log2_powerOfTwo {mantissa : Nat} (nonzero : mantissa ≠ 0) (exponent : Int) :
    ((mantissa * (powerOfTwo exponent).1).log2 : Int) - (powerOfTwo exponent).2.log2 =
      mantissa.log2 + exponent := by
  have above : (mantissa * (powerOfTwo exponent).1).log2 = mantissa.log2 + exponent.toNat :=
    log2_mul_two_pow nonzero _
  have below : (powerOfTwo exponent).2.log2 = (-exponent).toNat := Nat.log2_two_pow
  rw [above, below]
  omega

/-- A mantissa that is moved until its first bit has a given place. -/
theorem shifted_bounds {mantissa : Nat} (nonzero : mantissa ≠ 0) {place : Nat}
    (room : mantissa.log2 ≤ place) :
    2 ^ place ≤ mantissa * 2 ^ (place - mantissa.log2) ∧
      mantissa * 2 ^ (place - mantissa.log2) < 2 ^ (place + 1) := by
  have split : place = mantissa.log2 + (place - mantissa.log2) := by omega
  constructor
  · calc 2 ^ place = 2 ^ mantissa.log2 * 2 ^ (place - mantissa.log2) := by
          rw [← Nat.pow_add, ← split]
      _ ≤ mantissa * 2 ^ (place - mantissa.log2) := by
          gcongr
          exact Nat.log2_self_le nonzero
  · calc mantissa * 2 ^ (place - mantissa.log2)
        < 2 ^ (mantissa.log2 + 1) * 2 ^ (place - mantissa.log2) := by
          gcongr
          exact Nat.lt_log2_self
      _ = 2 ^ (place + 1) := by
          rw [← Nat.pow_add]
          congr 1
          omega

end Powers

section Quotients

variable {numerator denominator : Nat}

theorem div_lt_iff_ratio_lt {bound : Nat} (positive : 0 < denominator) :
    numerator / denominator < bound ↔ (numerator : ℚ) / denominator < bound := by
  rw [Nat.div_lt_iff_lt_mul positive, div_lt_iff₀ (by exact_mod_cast positive)]
  exact_mod_cast Iff.rfl

/-- A quotient lies below the power of two behind those of its parts. -/
theorem ratio_lt_two_zpow (nonzero : denominator ≠ 0) :
    (numerator : ℚ) / denominator < 2 ^ ((numerator.log2 : Int) - denominator.log2 + 1) := by
  have above : (numerator : ℚ) < 2 ^ ((numerator.log2 : Int) + 1) := by
    exact_mod_cast Nat.lt_log2_self (n := numerator)
  have below : (2 : ℚ) ^ (denominator.log2 : Int) ≤ denominator := by
    exact_mod_cast Nat.log2_self_le nonzero
  calc (numerator : ℚ) / denominator
      ≤ numerator / 2 ^ (denominator.log2 : Int) := by gcongr
    _ < 2 ^ ((numerator.log2 : Int) + 1) / 2 ^ (denominator.log2 : Int) := by gcongr
    _ = 2 ^ ((numerator.log2 : Int) - denominator.log2 + 1) := by
      rw [← zpow_sub₀ (by norm_num)]
      congr 1
      ring

theorem roundQuotient_le {bound : Nat} (below : numerator / denominator < bound) :
    roundQuotient numerator denominator ≤ bound := by
  simp only [roundQuotient]
  split <;> omega

theorem roundQuotient_mul {quotient : Nat} (positive : 0 < denominator) :
    roundQuotient (quotient * denominator) denominator = quotient := by
  simp only [roundQuotient, Nat.mul_div_cancel _ positive, Nat.mul_mod_left]
  split <;> omega

end Quotients

namespace BinaryFormat

variable {numerator denominator : Nat}

theorem scaled_ratio (numerator denominator : Nat) (exponent : Int) :
    ((scaled numerator denominator exponent).1 : ℚ) / (scaled numerator denominator exponent).2 =
      numerator / denominator / 2 ^ exponent := by
  rw [← powerOfTwo_div]
  simp only [scaled, Nat.cast_mul]
  rw [div_div_div_eq, mul_comm (denominator : ℚ)]

theorem scaled_pos (numerator : Nat) (positive : 0 < denominator) (exponent : Int) :
    0 < (scaled numerator denominator exponent).2 :=
  Nat.mul_pos positive (powerOfTwo_pos exponent).1

/-- The exponent from which the last one is found: it is this one or the next. -/
def estimate (format : BinaryFormat) (numerator denominator : Nat) : Int :=
  (numerator.log2 : Int) - denominator.log2 - format.precision

theorem lastExponent_eq (format : BinaryFormat) (numerator denominator : Nat) :
    format.lastExponent numerator denominator =
      max (if (scaled numerator denominator (format.estimate numerator denominator)).1 /
          (scaled numerator denominator (format.estimate numerator denominator)).2 <
          2 ^ format.precision
        then format.estimate numerator denominator
        else format.estimate numerator denominator + 1) format.least := rfl

/-- In units of the last exponent, a quotient has no more digits than the format. -/
theorem ratio_lastExponent_lt (format : BinaryFormat) (numerator : Nat)
    (positive : 0 < denominator) :
    (numerator : ℚ) / denominator / 2 ^ format.lastExponent numerator denominator <
      2 ^ format.precision := by
  -- The least exponent can only make the quotient smaller.
  have enlarge (exponent : Int)
      (below : (numerator : ℚ) / denominator / 2 ^ exponent < 2 ^ format.precision) :
      (numerator : ℚ) / denominator / 2 ^ max exponent format.least < 2 ^ format.precision := by
    refine lt_of_le_of_lt ?_ below
    gcongr
    · norm_num
    · exact le_max_left _ _
  rw [lastExponent_eq]
  apply enlarge
  split
  · next small =>
    rw [div_lt_iff_ratio_lt (scaled_pos _ positive _), scaled_ratio] at small
    exact_mod_cast small
  · have exponents : (format.precision : Int) + (format.estimate numerator denominator + 1) =
        numerator.log2 - denominator.log2 + 1 := by
      rw [estimate]
      omega
    rw [div_lt_iff₀ (by positivity), ← zpow_natCast, ← zpow_add₀ (by norm_num), exponents]
    exact ratio_lt_two_zpow positive.ne'

/-- The quotient in units of the last exponent, rounded. -/
def lastMantissa (format : BinaryFormat) (numerator denominator : Nat) : Nat :=
  roundQuotient
    (scaled numerator denominator (format.lastExponent numerator denominator)).1
    (scaled numerator denominator (format.lastExponent numerator denominator)).2

theorem round?_of_carry {format : BinaryFormat}
    (carried : format.lastMantissa numerator denominator = 2 ^ format.precision) :
    format.round? numerator denominator =
      if format.lastExponent numerator denominator + 1 ≤ format.greatest then
        some (2 ^ format.precision / 2, format.lastExponent numerator denominator + 1)
      else none := by
  rw [lastMantissa] at carried
  simp only [round?, Nat.pow_eq, if_pos carried]
  rw [carried]

theorem round?_of_no_carry {format : BinaryFormat}
    (kept : format.lastMantissa numerator denominator ≠ 2 ^ format.precision) :
    format.round? numerator denominator =
      if format.lastExponent numerator denominator ≤ format.greatest then
        some (format.lastMantissa numerator denominator,
          format.lastExponent numerator denominator)
      else none := by
  rw [lastMantissa] at kept ⊢
  simp only [round?, Nat.pow_eq, if_neg kept]

theorem lastMantissa_le (format : BinaryFormat) (numerator : Nat) (positive : 0 < denominator) :
    format.lastMantissa numerator denominator ≤ 2 ^ format.precision := by
  apply roundQuotient_le
  rw [div_lt_iff_ratio_lt (scaled_pos _ positive _), scaled_ratio]
  exact_mod_cast format.ratio_lastExponent_lt numerator positive

/-- A rounded quotient is a number of the format. -/
theorem round?_eq_some {format : BinaryFormat} (positive : 0 < denominator)
    {mantissa : Nat} {exponent : Int}
    (rounded : format.round? numerator denominator = some (mantissa, exponent)) :
    mantissa < 2 ^ format.precision ∧ format.least ≤ exponent ∧ exponent ≤ format.greatest := by
  have atMost := format.lastMantissa_le numerator positive
  have least : format.least ≤ format.lastExponent numerator denominator := le_max_right _ _
  by_cases carried : format.lastMantissa numerator denominator = 2 ^ format.precision
  · rw [round?_of_carry carried] at rounded
    split_ifs at rounded with within
    cases rounded
    exact ⟨Nat.div_lt_self (Nat.two_pow_pos _) (by norm_num), by omega, within⟩
  · rw [round?_of_no_carry carried] at rounded
    split_ifs at rounded with within
    cases rounded
    exact ⟨by omega, least, within⟩

/-- A quotient that is a whole number in units of the last exponent is not changed. -/
theorem lastMantissa_exact {format : BinaryFormat} (positive : 0 < denominator) {mantissa : Nat}
    (whole : (numerator : ℚ) / denominator / 2 ^ format.lastExponent numerator denominator =
      mantissa) : format.lastMantissa numerator denominator = mantissa := by
  have nonzero := (scaled_pos numerator positive (format.lastExponent numerator denominator)).ne'
  rw [← scaled_ratio, div_eq_iff (by exact_mod_cast nonzero)] at whole
  have multiple : (scaled numerator denominator (format.lastExponent numerator denominator)).1 =
      mantissa * (scaled numerator denominator
        (format.lastExponent numerator denominator)).2 := by exact_mod_cast whole
  rw [lastMantissa, multiple]
  exact roundQuotient_mul (scaled_pos _ positive _)

section Exact

variable {format : BinaryFormat} {mantissa : Nat} {exponent : Int}

theorem powerOfTwo_ratio (mantissa : Nat) (exponent : Int) :
    ((mantissa * (powerOfTwo exponent).1 : Nat) : ℚ) / (powerOfTwo exponent).2 =
      mantissa * 2 ^ exponent := by
  rw [Nat.cast_mul, mul_div_assoc, powerOfTwo_div]

/-- The last exponent of a number of the format leaves the first bit of its mantissa in place. -/
theorem lastExponent_exact (nonzero : mantissa ≠ 0)
    (normal : format.least ≤ mantissa.log2 + exponent + 1 - format.precision) :
    format.lastExponent (mantissa * (powerOfTwo exponent).1) (powerOfTwo exponent).2 =
      mantissa.log2 + exponent + 1 - format.precision := by
  have isEstimate : format.estimate (mantissa * (powerOfTwo exponent).1) (powerOfTwo exponent).2 =
      mantissa.log2 + exponent - format.precision := by
    rw [estimate, log2_powerOfTwo nonzero]
  have first : (2 : ℚ) ^ (mantissa.log2 : Int) ≤ mantissa := by
    exact_mod_cast Nat.log2_self_le nonzero
  rw [lastExponent_eq, isEstimate, if_neg]
  · omega
  · rw [div_lt_iff_ratio_lt (scaled_pos _ (powerOfTwo_pos exponent).2 _), scaled_ratio,
      powerOfTwo_ratio, not_lt, le_div_iff₀ (by positivity)]
    calc ((2 ^ format.precision : Nat) : ℚ) * 2 ^ (mantissa.log2 + exponent - format.precision)
        = 2 ^ (mantissa.log2 : Int) * 2 ^ exponent := by
          rw [Nat.cast_pow, Nat.cast_ofNat, ← zpow_natCast, ← zpow_add₀ (by norm_num),
            ← zpow_add₀ (by norm_num)]
          congr 1
          omega
      _ ≤ mantissa * 2 ^ exponent := by gcongr

/-- A number of the format is rounded to itself. -/
theorem round?_exact (nonzero : mantissa ≠ 0) (fits : mantissa < 2 ^ format.precision)
    (normal : format.least ≤ mantissa.log2 + exponent + 1 - format.precision)
    (bounded : mantissa.log2 + exponent + 1 - format.precision ≤ format.greatest) :
    format.round? (mantissa * (powerOfTwo exponent).1) (powerOfTwo exponent).2 =
      some (mantissa * 2 ^ (format.precision - 1 - mantissa.log2),
        mantissa.log2 + exponent + 1 - format.precision) := by
  have digits : mantissa.log2 < format.precision := (Nat.log2_lt nonzero).mpr fits
  have isLast := lastExponent_exact nonzero normal
  have isMantissa : format.lastMantissa (mantissa * (powerOfTwo exponent).1)
      (powerOfTwo exponent).2 = mantissa * 2 ^ (format.precision - 1 - mantissa.log2) := by
    have units : (2 : ℚ) ^ exponent / 2 ^ (mantissa.log2 + exponent + 1 - format.precision) =
        2 ^ (format.precision - 1 - mantissa.log2) := by
      rw [← zpow_sub₀ (by norm_num), ← zpow_natCast]
      congr 1
      omega
    apply lastMantissa_exact (powerOfTwo_pos exponent).2
    rw [isLast, powerOfTwo_ratio, mul_div_assoc, units]
    push_cast
    rfl
  have small : mantissa * 2 ^ (format.precision - 1 - mantissa.log2) < 2 ^ format.precision := by
    have bounds := shifted_bounds nonzero (Nat.le_sub_one_of_lt digits)
    rw [Nat.sub_add_cancel (by omega)] at bounds
    exact bounds.2
  rw [round?_of_no_carry (isMantissa ▸ small.ne), isMantissa, isLast, if_pos bounded]

end Exact

/-- A number of a format: a mantissa that fits, in units of a power of two that fits. -/
def Holds (format : BinaryFormat) (value : ℚ) : Prop :=
  ∃ (mantissa : Nat) (exponent : Int), mantissa < 2 ^ format.precision ∧
    format.least ≤ exponent ∧ exponent ≤ format.greatest ∧ value = mantissa * 2 ^ exponent

end BinaryFormat

namespace Binary64

section Fields

variable {negative : Bool} {exponent fraction : Nat}

theorem toNat_ofFields (exponentFits : exponent < 2048) (fractionFits : fraction < 2 ^ 52) :
    (ofFields negative exponent fraction).bits.toNat =
      (if negative then 2 ^ 63 else 0) + exponent * 2 ^ 52 + fraction := by
  simp only [ofFields, Nat.pow_eq, UInt64.toNat_ofNat']
  apply Nat.mod_eq_of_lt
  split <;> omega

theorem exponentField_ofFields (exponentFits : exponent < 2048) (fractionFits : fraction < 2 ^ 52) :
    (ofFields negative exponent fraction).exponentField = exponent := by
  simp only [exponentField, toNat_ofFields exponentFits fractionFits, Nat.pow_eq]
  split <;> omega

theorem fractionField_ofFields (exponentFits : exponent < 2048) (fractionFits : fraction < 2 ^ 52) :
    (ofFields negative exponent fraction).fractionField = fraction := by
  simp only [fractionField, toNat_ofFields exponentFits fractionFits, Nat.pow_eq]
  split <;> omega

end Fields

theorem magnitude_infinity (negative : Bool) : (infinity negative).magnitude = .infinite := by
  cases negative <;> rfl

/-- The fields of a number whose mantissa has its first bit set are read as that mantissa. -/
theorem magnitude_ofMantissa {negative : Bool} {mantissa : Nat} {exponent : Int}
    (first : 2 ^ 52 ≤ mantissa) (fits : mantissa < 2 ^ 53) (least : -1074 ≤ exponent)
    (greatest : exponent ≤ 971) :
    (ofMantissa negative mantissa exponent).magnitude = .finite mantissa exponent := by
  have exponentFits : (exponent + 1075).toNat < 2048 := by omega
  have fractionFits : mantissa - 2 ^ 52 < 2 ^ 52 := by omega
  have isOfFields : ofMantissa negative mantissa exponent =
      ofFields negative (exponent + 1075).toNat (mantissa - 2 ^ 52) :=
    if_neg (Nat.not_lt.mpr first)
  rw [isOfFields, magnitude, exponentField_ofFields exponentFits fractionFits,
    fractionField_ofFields exponentFits fractionFits, if_neg (by omega), if_neg (by omega),
    Magnitude.finite.injEq, Nat.pow_eq]
  omega

/-- A number of single precision is kept by double precision. -/
theorem magnitude_ofQuotient {negative : Bool} {mantissa : Nat} {exponent : Int}
    (nonzero : mantissa ≠ 0) (fits : mantissa < 2 ^ 24) (least : -149 ≤ exponent)
    (greatest : exponent ≤ 104) :
    (ofQuotient negative (mantissa * (powerOfTwo exponent).1) (powerOfTwo exponent).2).magnitude =
      .finite (mantissa * 2 ^ (52 - mantissa.log2)) (mantissa.log2 + exponent + 1 - 53) := by
  have digits : mantissa.log2 < 24 := (Nat.log2_lt nonzero).mpr fits
  have rounded : BinaryFormat.double.round? (mantissa * (powerOfTwo exponent).1)
      (powerOfTwo exponent).2 = some (mantissa * 2 ^ (52 - mantissa.log2),
        mantissa.log2 + exponent + 1 - 53) := by
    apply BinaryFormat.round?_exact nonzero
    · exact fits.trans (by norm_num [BinaryFormat.double])
    · simp only [BinaryFormat.double]
      omega
    · simp only [BinaryFormat.double]
      omega
  have product : mantissa * (powerOfTwo exponent).1 ≠ 0 :=
    Nat.mul_ne_zero nonzero (powerOfTwo_pos exponent).1.ne'
  have bounds := shifted_bounds nonzero (show mantissa.log2 ≤ 52 by omega)
  rw [ofQuotient, if_neg product, rounded]
  exact magnitude_ofMantissa bounds.1 bounds.2 (by omega) (by omega)

/-- A number of single precision, kept in double precision. Of an undefined number only the upper
bits may be set. -/
def IsSingle (x : Binary64) : Prop :=
  match x.magnitude with
  | .notANumber => 2 ^ 29 ∣ x.fractionField
  | .infinite => True
  | .finite mantissa exponent => BinaryFormat.single.Holds (mantissa * 2 ^ exponent)

theorem isSingle_of_infinite {x : Binary64} (isInfinite : x.magnitude = .infinite) :
    x.IsSingle := by
  rw [IsSingle, isInfinite]
  trivial

theorem isSingle_of_zero {x : Binary64} {exponent : Int}
    (isZero : x.magnitude = .finite 0 exponent) : x.IsSingle := by
  rw [IsSingle, isZero]
  exact ⟨0, 0, by decide, by decide, by decide, by simp⟩

theorem isSingle_of_upper {negative : Bool} {upper : Nat} (nonzero : upper ≠ 0)
    (fits : upper < 2 ^ 23) : (ofFields negative 2047 (upper * 2 ^ 29)).IsSingle := by
  have exponentFits : 2047 < 2048 := by decide
  have fractionFits : upper * 2 ^ 29 < 2 ^ 52 := by omega
  have isUndefined : (ofFields negative 2047 (upper * 2 ^ 29)).magnitude = .notANumber := by
    rw [magnitude, exponentField_ofFields exponentFits fractionFits, if_pos rfl,
      fractionField_ofFields exponentFits fractionFits, if_neg (by omega)]
  rw [IsSingle, isUndefined]
  dsimp only
  rw [fractionField_ofFields exponentFits fractionFits]
  exact Nat.dvd_mul_left _ _

theorem isSingle_ofQuotient {negative : Bool} {mantissa : Nat} {exponent : Int}
    (fits : mantissa < 2 ^ 24) (least : -149 ≤ exponent) (greatest : exponent ≤ 104) :
    (ofQuotient negative (mantissa * (powerOfTwo exponent).1)
      (powerOfTwo exponent).2).IsSingle := by
  by_cases isZero : mantissa = 0
  · rw [isZero, Nat.zero_mul, ofQuotient, if_pos rfl]
    apply isSingle_of_zero
    cases negative <;> rfl
  · have digits : mantissa.log2 < 24 := (Nat.log2_lt isZero).mpr fits
    rw [IsSingle, magnitude_ofQuotient isZero fits least greatest]
    refine ⟨mantissa, exponent, fits, least, greatest, ?_⟩
    rw [Nat.cast_mul, mul_assoc, Nat.cast_pow, Nat.cast_ofNat, ← zpow_natCast,
      ← zpow_add₀ (by norm_num)]
    congr 2
    omega

/-- Rounding to single precision gives a number of single precision. -/
theorem isSingle_toSingle (x : Binary64) : x.toSingle.IsSingle := by
  cases isMagnitude : x.magnitude with
  | infinite =>
    rw [toSingle, isMagnitude]
    exact isSingle_of_infinite isMagnitude
  | notANumber =>
    have bounded : x.fractionField < 2 ^ 52 := Nat.mod_lt _ (Nat.two_pow_pos _)
    rw [toSingle, isMagnitude]
    dsimp only [Nat.pow_eq]
    apply isSingle_of_upper
    · split <;> omega
    · split <;> omega
  | finite mantissa exponent =>
    cases mantissa with
    | zero =>
      rw [toSingle, isMagnitude]
      exact isSingle_of_zero isMagnitude
    | succ mantissa =>
      simp only [toSingle, isMagnitude]
      split
      · next single place rounded =>
        obtain ⟨fits, least, greatest⟩ :=
          BinaryFormat.round?_eq_some (powerOfTwo_pos exponent).2 rounded
        exact isSingle_ofQuotient fits least greatest
      · exact isSingle_of_infinite (magnitude_infinity _)

end Binary64

end FilterQuery
